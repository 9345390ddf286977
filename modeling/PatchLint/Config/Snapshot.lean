import PatchLint.Config.Effective

/-!
# Configuration snapshots

A snapshot holds every layer of the configuration as of the last reload: the
common configuration and, for each workspace folder, what it overrides.
Relative paths of checkers are settled when the snapshot is built, the common
one from the first folder and a folder's own from that folder.

Resolving is a pure function of the snapshot.  Each field is the folder's value
if it has one and the common value if not, and the checker runs in the folder
when the folder names a checker of its own or the settings ask for it, and else
in the first folder.
-/

namespace PatchLint

/-- All layers of the configuration. -/
structure Snapshot where
  /-- The common configuration. -/
  common : CheckerConfig
  /-- The roots of the workspace folders with what they override, in the host's
  order. -/
  folders : List (Path × FolderOverride)
  /-- When single files are checked. -/
  runMode : RunMode
  /-- The output layout. -/
  layout : Layout
deriving DecidableEq, Repr, Inhabited

/-- A set of targets with one configuration. -/
inductive Scope where
  /-- All that belongs to no workspace folder. -/
  | common
  /-- What belongs to a workspace folder. -/
  | folder (root : Path)
deriving DecidableEq, Repr

/-- A scope in words. -/
def Scope.description : Scope → String
  | .common => "common config"
  | .folder root => "folder config @ " ++ root.quoted

namespace Snapshot

/-! ## Building -/

/-- The common checker: a relative path starts from the first folder, if there
is one. -/
def commonExecutable (settings : Settings) (folders : List WorkspaceFolder) : Path :=
  let path := Path.ofString settings.executable
  match folders with
  | [] => path
  | first :: _ => if path.isRelative then first.root.join path else path

/-- A folder's layer: a relative path of its checker starts from the folder. -/
def layer (folder : WorkspaceFolder) : FolderOverride :=
  let own := folder.override?.getD {}
  match own.executable with
  | none => own
  | some text =>
      let path := Path.ofString text
      if path.isRelative then { own with executable := some (folder.root.join path).text }
      else own

def build (settings : Settings) (folders : List WorkspaceFolder) : Snapshot where
  common :=
    { executable := commonExecutable settings folders
      args := settings.args
      exclude := settings.exclude
      useFolderAsCwd := settings.useFolderAsCwd
      level := settings.level }
  folders := folders.map fun f => (f.root, layer f)
  runMode := settings.runMode
  layout := settings.layout

/-- The remark on a path that was made absolute. -/
def commonNote (settings : Settings) (folders : List WorkspaceFolder) : String :=
  if (Path.ofString settings.executable).isRelative ∧ folders ≠ [] then
    " (converted to absolute using root folder path)"
  else ""

/-- The remark on a folder's path that was made absolute. -/
def layerNote (folder : WorkspaceFolder) : String :=
  match (folder.override?.getD {}).executable with
  | none => ""
  | some text => if (Path.ofString text).isRelative then " (converted to absolute)" else ""

/-- What the log says about the common layer. -/
def commonReport (settings : Settings) (folders : List WorkspaceFolder) : LogLine :=
  .info <| Log.itemized "Load common config"
    ["checkpatchPath:  " ++ (commonExecutable settings folders).quoted ++
        commonNote settings folders,
      "checkpatchArgs:  " ++ Log.listed settings.args,
      "exclude:         " ++ Log.listed settings.exclude,
      "useFolderAsCwd:  " ++ Log.truth settings.useFolderAsCwd,
      "diagnosticLevel: " ++ settings.level.name,
      "run:             " ++ settings.runMode.reportName,
      "outputFormat:    " ++ settings.layout.reportName]

/-- What the log says about a folder's layer. -/
def layerReport (folder : WorkspaceFolder) : LogLine :=
  let own := layer folder
  .info <| Log.itemized (("Load " ++ (Scope.folder folder.root).description))
    ["checkpatchPath:  " ++ Text.optional (own.executable.map Text.quoted) ++ layerNote folder,
      "checkpatchArgs:  " ++ Text.optional (own.args.map Log.listed),
      "exclude:         " ++ Text.optional (own.exclude.map Log.listed),
      "useFolderAsCwd:  " ++ Text.optional (own.useFolderAsCwd.map Log.truth),
      "diagnosticLevel: " ++ Text.optional (own.level.map Level.name)]

/-- What the log says when a snapshot is built. -/
def buildLog (settings : Settings) (folders : List WorkspaceFolder) : Log :=
  commonReport settings folders :: folders.map layerReport

/-- The snapshot with another run mode. -/
def withRunMode (s : Snapshot) (mode : RunMode) : Snapshot := { s with runMode := mode }

/-! ## Folders -/

/-- The roots of the workspace folders. -/
def roots (s : Snapshot) : List Path := s.folders.map Prod.fst

/-- The first workspace folder. -/
def rootFolder (s : Snapshot) : Option Path := s.roots.head?

/-- The deeper of two folders, the second of two that are equally deep. -/
def deeper : Option Path → Path → Option Path
  | none, p => some p
  | some q, p => if p.depth < q.depth then some q else some p

/-- The deepest workspace folder that holds a file, the last of several that are
equally deep. -/
def folderForFile (s : Snapshot) (file : Path) : Option Path :=
  (s.roots.filter fun root => file.isWithin root).foldl deeper none

/-- The workspace folder that is a given repository. -/
def folderForRepository (s : Snapshot) (repository : Path) : Option Path :=
  s.roots.find? fun root => root.Same repository

/-- What a workspace folder overrides: the first entry with its root counts. -/
def overrideFor? (s : Snapshot) (folder : Path) : Option FolderOverride :=
  (s.folders.find? fun f => f.1.Same folder).map Prod.snd

/-! ## Resolving -/

/-- The configuration of the checker under an override. -/
def effective (s : Snapshot) (own : FolderOverride) : CheckerConfig where
  executable := (own.executable.map Path.ofString).getD s.common.executable
  args := own.args.getD s.common.args
  exclude := own.exclude.getD s.common.exclude
  useFolderAsCwd := own.useFolderAsCwd.getD s.common.useFolderAsCwd
  level := own.level.getD s.common.level

/-- Where each value comes from under an override. -/
def originsOf (own : FolderOverride) : Origins where
  executable := .of own.executable
  args := .of own.args
  exclude := .of own.exclude
  useFolderAsCwd := .of own.useFolderAsCwd
  level := .of own.level

/-- The configuration of a target that belongs to a known folder, or to none. -/
def resolveKnown (s : Snapshot) (folder : Option Path) (own : FolderOverride) : Resolved :=
  let config := s.effective own
  let inFolder := own.executable.isSome || config.useFolderAsCwd
  let place := if inFolder then folder else none
  { folder
    config
    cwd := place <|> s.rootFolder
    rootFallback := place.isNone && s.rootFolder.isSome
    origins := originsOf own }

/-- The configuration of a scope: that of a folder the snapshot knows, and else
the common one. -/
def resolve (s : Snapshot) (folder : Option Path) : Resolved :=
  match folder with
  | none => s.resolveKnown none {}
  | some f => match s.overrideFor? f with
    | some own => s.resolveKnown (some f) own
    | none => s.resolveKnown none {}

/-- The configuration for checking a file. -/
def resolveFile (s : Snapshot) (file : Path) : Resolved := s.resolve (s.folderForFile file)

/-- The configuration for checking a commit of a repository. -/
def resolveRepository (s : Snapshot) (repository : Path) : Resolved :=
  s.resolve (s.folderForRepository repository)

/-- The configuration of a scope. -/
def resolveScope (s : Snapshot) : Scope → Resolved
  | .common => s.resolve none
  | .folder root => s.resolve (some root)

/-- The scopes to validate: the common one, then every folder. -/
def scopes (s : Snapshot) : List Scope := .common :: s.roots.map .folder

end Snapshot

end PatchLint
