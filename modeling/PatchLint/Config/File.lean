import PatchLint.Config.Effective
import PatchLint.Config.Fault

/-!
# Configuration files

Settings may be kept in a file, and a workspace folder may hold a file with what
it overrides.  Both are commented JSON that conforms to the schema.  A folder's
file goes by one of two names, of which the first that is there counts.

Loading warns about values that have no effect; the warnings up to a failure
are kept.
-/

namespace PatchLint

/-- The loading of a configuration: the result or a fault, and the warnings on
the way. -/
abbrev Loading := ExceptT ConfigFault (StateM Log)

namespace Loading

/-- The result of a loading and its warnings. -/
def result {α : Type} (l : Loading α) : Except ConfigFault α × Log := l.run.run []

/-- A warning. -/
def note (line : LogLine) : Loading Unit := modify (· ++ [line])

/-- The settings that a host sent. -/
def hostSettings (v : Json) : Loading Settings :=
  (Settings.ofHost v).adapt fun m => .invalid (.misfit m)

end Loading

namespace ConfigFile

variable {σ : Type}

/-- The value of the text of a configuration file. -/
def valueOf (bytes : List UInt8) : Except FileFault Json :=
  match Text.Utf8.text? bytes with
  | none => .error .notText
  | some text => match configValue text.toList with
    | .ok v => .ok v
    | .error reason => .error (.invalid reason)

/-- The value of a configuration file. -/
def value (host : Host σ) (state : σ) (path : Path) : Except FileFault Json :=
  match host.read path state with
  | .ok bytes => valueOf bytes
  | .error fault => .error (.unread fault)

/-- What a configuration file decodes to.  Something may be said about its value
before it is decoded. -/
def load {α : Type} (host : Host σ) (state : σ) (path : Path) (remarks : Json → Log)
    (decode : Json → Json.Decoding α) : Loading α := do
  match value host state path with
  | .error fault => throw (.file path fault)
  | .ok v =>
      (remarks v).forM Loading.note
      (decode v).adapt fun m => .file path (.misfit m)

/-- The settings in a file. -/
def settings (host : Host σ) (state : σ) (path : Path) : Loading Settings :=
  load host state path (fun _ => []) Settings.decode

/-- The keys that are not for a folder to set. -/
def commonKeys : List String := [Settings.Key.runMode, Settings.Key.layout]

/-- A warning for every key that is not for a folder to set. -/
def ignoredKeys (path : Path) (v : Json) : Log :=
  (commonKeys.filter fun key => (v.get? key).isSome).map fun key =>
    .warn ("\"" ++ key ++ "\" is ignored in folder configuration " ++ path.text)

/-- The override in a file. -/
def override (host : Host σ) (state : σ) (path : Path) : Loading FolderOverride :=
  load host state path (ignoredKeys path) FolderOverride.decode

/-- The names that a folder's file may have, the one to prefer first. -/
def names : List String := [".cplint.jsonc", ".cplint.json"]

/-- The configuration file of a folder. -/
def find? (host : Host σ) (state : σ) (folder : Path) : Option Path :=
  (names.map fun name => folder.join (.ofString name)).find? fun path => host.isFile path state

/-- What a folder's file overrides, if the folder has one. -/
def overrideOf (host : Host σ) (state : σ) (folder : Path) : Loading (Option FolderOverride) :=
  match find? host state folder with
  | some path => some <$> override host state path
  | none => pure none

/-- The workspace folder at a root, with what its file overrides. -/
def folder (host : Host σ) (state : σ) (root : Path) : Loading WorkspaceFolder := do
  return ⟨root, ← overrideOf host state root⟩

/-- The workspace folders at roots, up to the first whose file has a fault. -/
def folders (host : Host σ) (state : σ) (roots : List Path) : Loading (List WorkspaceFolder) :=
  roots.mapM (folder host state)

end ConfigFile

end PatchLint
