import PatchLint.Log
import PatchLint.Path.Basic
import PatchLint.Settings.Basic

/-!
# Effective configurations

What one check runs with: the checker, its arguments, the exclude patterns, the
severity, and the directory it runs in.  Each value comes either from a
workspace folder or from the common settings, and reports say which.
-/

namespace PatchLint

/-- A workspace folder as the host announces it. -/
structure WorkspaceFolder where
  root : Path
  /-- What it overrides, if it has a configuration of its own. -/
  override? : Option FolderOverride := none
deriving DecidableEq, Repr, Inhabited

/-- The configuration of the checker for one scope. -/
structure CheckerConfig where
  /-- The checker. -/
  executable : Path
  /-- Arguments in front of all others. -/
  args : List String
  /-- Patterns of files that are never checked. -/
  exclude : List String
  /-- Whether the checker runs in the folder that owns the file. -/
  useFolderAsCwd : Bool
  /-- The severity that findings are shown with. -/
  level : Level
deriving DecidableEq, Repr, Inhabited

/-- The layer a value comes from. -/
inductive Origin where
  | folder
  | common
deriving DecidableEq, Repr, Inhabited

namespace Origin

/-- The layer of a value that a folder may set. -/
def of {α : Type} (value : Option α) : Origin := if value.isSome then .folder else .common

/-- The remark in reports. -/
def note : Origin → String
  | .folder => ""
  | .common => " (from common config)"

/-- The name of the layer. -/
def name : Origin → String
  | .folder => "folder"
  | .common => "common"

end Origin

/-- The layer of each value of an effective configuration. -/
structure Origins where
  executable : Origin
  args : Origin
  exclude : Origin
  useFolderAsCwd : Origin
  level : Origin
deriving DecidableEq, Repr, Inhabited

/-- The configuration that one check runs with. -/
structure Resolved where
  /-- The workspace folder that the target belongs to. -/
  folder : Option Path
  /-- The configuration of the checker. -/
  config : CheckerConfig
  /-- The directory to run in, none if there is no workspace. -/
  cwd : Option Path
  /-- Whether the directory is the first folder for want of a better one. -/
  rootFallback : Bool
  /-- Where each value comes from. -/
  origins : Origins
deriving DecidableEq, Repr, Inhabited

namespace Log

open Text

/-- A list of strings, each between quotes. -/
def listed (ss : List String) : String := bracketed (ss.map quoted)

/-- A truth value. -/
def truth (b : Bool) : String := if b then "true" else "false"

/-- An optional path between quotes. -/
def optionalPath (p : Option Path) : String := optional (p.map Path.quoted)

/-- Lines of a report, each on a line of its own with a dash in front. -/
def itemized (subject : String) (items : List String) : String :=
  subject ++ ":" ++ String.join (items.map fun i => "\n  - " ++ i)

end Log

/-- What the log says about an effective configuration. -/
def Resolved.report (r : Resolved) (subject : String) : LogLine :=
  .info <| Log.itemized subject
    ["workspace folder: " ++ Log.optionalPath r.folder,
      "checkpatchPath:   " ++ r.config.executable.quoted ++ r.origins.executable.note,
      "checkpatchArgs:   " ++ Log.listed r.config.args ++ r.origins.args.note,
      "exclude:          " ++ Log.listed r.config.exclude ++ r.origins.exclude.note,
      "useFolderAsCwd:   " ++ Log.truth r.config.useFolderAsCwd ++ r.origins.useFolderAsCwd.note,
      "diagnosticLevel:  " ++ r.config.level.name ++ r.origins.level.note,
      "cwd:              " ++ Log.optionalPath r.cwd ++
        if r.rootFallback then " (root folder used as cwd)" else ""]

end PatchLint
