import PatchLint.Json.Decoding
import PatchLint.Layout.Basic

/-!
# Settings

The common settings, and what one workspace folder may override.  Every field of
the settings has a default, so that any subset of them can be given.  A folder
leaves a field unset to inherit it; when to run and which layout to read are not
for a folder to say.
-/

namespace PatchLint

/-- When single files are checked. -/
inductive RunMode where
  /-- Only on command. -/
  | manual
  /-- Also when a source is saved. -/
  | onSave
deriving DecidableEq, Repr, Inhabited

namespace RunMode

/-- The other mode. -/
def toggled : RunMode → RunMode
  | .manual => .onSave
  | .onSave => .manual

/-- The name used in settings. -/
def name : RunMode → String
  | .manual => "manual"
  | .onSave => "onSave"

/-- The modes, in the order settings list them. -/
def all : List RunMode := [.manual, .onSave]

/-- The name used in reports. -/
def reportName : RunMode → String
  | .manual => "Manual"
  | .onSave => "OnSave"

end RunMode

/-- The common settings. -/
structure Settings where
  /-- The path of the checker. -/
  executable : String := "./scripts/checkpatch.pl"
  /-- Arguments in front of all others. -/
  args : List String := []
  /-- Patterns of files that are never checked. -/
  exclude : List String := []
  /-- Whether the checker runs in the folder that owns the file. -/
  useFolderAsCwd : Bool := false
  /-- The severity that findings are shown with. -/
  level : Level := .information
  /-- When single files are checked. -/
  runMode : RunMode := .manual
  /-- The output layout of the installed checker. -/
  layout : Layout := .auto
deriving DecidableEq, Repr, Inhabited

/-- What a workspace folder overrides. -/
structure FolderOverride where
  /-- The path of the checker. -/
  executable : Option String := none
  /-- Arguments in front of all others. -/
  args : Option (List String) := none
  /-- Patterns of files that are never checked. -/
  exclude : Option (List String) := none
  /-- Whether the checker runs in the folder that owns the file. -/
  useFolderAsCwd : Option Bool := none
  /-- The severity that findings are shown with. -/
  level : Option Level := none
deriving DecidableEq, Repr, Inhabited

/-! ## Keys -/

namespace Settings.Key

/-- The key of the checker's path. -/
def executable : String := "checkpatchPath"

/-- The key of the arguments. -/
def args : String := "checkpatchArgs"

/-- The key of the exclude patterns. -/
def exclude : String := "exclude"

/-- The key of the choice of working directory. -/
def useFolderAsCwd : String := "useFolderAsCwd"

/-- The key of the severity. -/
def level : String := "diagnosticLevel"

/-- The key of the run mode. -/
def runMode : String := "run"

/-- The key of the output layout. -/
def layout : String := "outputFormat"

/-- The key that editors may put the settings under. -/
def enclosing : String := "checkpatch"

end Settings.Key

/-! ## Decoding -/

open Json

/-- A severity by name.  An unknown name means information, with a warning. -/
def decodeLevel (v : Json) : Decoding Level := do
  let s ← decodeString v
  match Level.ofName? s with
  | some l => pure l
  | none => do
      Decoding.note (.warn ("Unknown diagnosticLevel \"" ++ s ++ "\", using Information"))
      pure .information

def decodeRunMode : Json → Decoding RunMode := decodeChoice RunMode.all RunMode.name

def decodeLayout : Json → Decoding Layout := decodeChoice Layout.all Layout.name

namespace Settings

/-- The fields of the settings, in the order they have in an array. -/
def fields : List (FieldRule Settings) :=
  [⟨Key.executable, .anywhere, fun v s => return { s with executable := ← decodeString v }⟩,
    ⟨Key.args, .anywhere, fun v s => return { s with args := ← decodeStrings v }⟩,
    ⟨Key.exclude, .anywhere, fun v s => return { s with exclude := ← decodeStrings v }⟩,
    ⟨Key.useFolderAsCwd, .anywhere, fun v s =>
      return { s with useFolderAsCwd := ← decodeBool v }⟩,
    ⟨Key.level, .anywhere, fun v s => return { s with level := ← decodeLevel v }⟩,
    ⟨Key.runMode, .anywhere, fun v s => return { s with runMode := ← decodeRunMode v }⟩,
    ⟨Key.layout, .anywhere, fun v s => return { s with layout := ← decodeLayout v }⟩]

/-- The settings that a value describes.  Fields that are not given keep their
defaults. -/
def decode : Json → Decoding Settings := decodeRecord "Settings" fields {}

/-- The settings that a host sends: by themselves or under their key, and the
defaults for `null`. -/
def ofHost (v : Json) : Decoding Settings :=
  let inner := (v.get? Key.enclosing).getD v
  if inner.isNull then pure {} else decode inner

end Settings

namespace FolderOverride

/-- The fields of an override, in the order they have in an array. -/
def fields : List (FieldRule FolderOverride) :=
  [⟨Settings.Key.executable, .inObject, fun v o =>
      return { o with executable := ← decodeOptional decodeString v }⟩,
    ⟨Settings.Key.args, .inObject, fun v o =>
      return { o with args := ← decodeOptional decodeStrings v }⟩,
    ⟨Settings.Key.exclude, .inObject, fun v o =>
      return { o with exclude := ← decodeOptional decodeStrings v }⟩,
    ⟨Settings.Key.useFolderAsCwd, .inObject, fun v o =>
      return { o with useFolderAsCwd := ← decodeOptional decodeBool v }⟩,
    ⟨Settings.Key.level, .inObject, fun v o =>
      return { o with level := ← decodeOptional decodeLevel v }⟩]

/-- The override that a value describes.  An array must have every field. -/
def decode : Json → Decoding FolderOverride := decodeRecord "FolderOverride" fields {}

end FolderOverride

end PatchLint
