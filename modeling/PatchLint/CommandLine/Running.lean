import PatchLint.CommandLine.Listing
import PatchLint.Config.File
import PatchLint.Session.Check
import PatchLint.Session.Reload

/-!
# Running the command line

What each command does on a host.  A run ends with a status and what was
printed: status 0 if all is well, 1 if a check has found something, and 2 if
something went wrong.  A check prints its listing at its end, so nothing is
printed when it fails; the probe prints a line for every scope as it passes.

A relative path on the command line starts from the folder the command is run
in, which is also the only workspace folder if none is named.
-/

namespace PatchLint.CommandLine

variable {σ : Type}

/-- Why a command fails. -/
inductive RunFault where
  | config (fault : ConfigFault)
  | check (fault : CheckFault)
  | versions (fault : VersionFault)
  /-- No workspace folder is in a repository. -/
  | noRepository

def RunFault.message : RunFault → String
  | .config fault => fault.message
  | .check fault => fault.message
  | .versions fault => fault.message
  | .noRepository => "No git repository found; pass --repo"

/-- The end of a run. -/
structure Finished where
  /-- The exit status. -/
  status : Nat
  /-- What was printed. -/
  out : String
deriving DecidableEq, Repr

/-- The end of a run that has failed after printing something. -/
def failed (out : String := "") : Finished := ⟨2, out⟩

/-- Where a command is run. -/
structure Place (σ : Type) where
  host : Host σ
  folder : Path

/-- A path on the command line. -/
def Place.absolute (place : Place σ) (s : String) : Path :=
  let p := Path.ofString s
  if p.isAbsolute then p else place.folder.join p

/-! ## Configuration -/

/-- A loading done now. -/
def loaded {α : Type} (l : Loading α) : Work σ (Except ConfigFault α) := do
  let (result, warnings) := l.result
  Work.say warnings
  return result

def settingsOf (place : Place σ) (r : Request) : Work σ (Except ConfigFault Settings) :=
  match r.config with
  | none => pure (.ok {})
  | some file => do
      let path := Path.ofString file
      Work.say [.info ("Loading settings from " ++ path.text)]
      loaded (ConfigFile.settings place.host (← Work.hostState) path)

/-- The roots of the workspace folders of a request. -/
def rootsOf (place : Place σ) (r : Request) : List Path :=
  if r.folders = [] then [place.folder] else r.folders.map place.absolute

def foldersOf (place : Place σ) (r : Request) :
    Work σ (Except ConfigFault (List WorkspaceFolder)) := do
  loaded (ConfigFile.folders place.host (← Work.hostState) (rootsOf place r))

/-- The settings and the workspace folders of a request. -/
def inputsOf (place : Place σ) (r : Request) :
    Work σ (Except ConfigFault (Settings × List WorkspaceFolder)) := do
  match ← settingsOf place r with
  | .error fault => return .error fault
  | .ok settings => return (← foldersOf place r).map fun folders => (settings, folders)

/-- A session with the configuration of a request, which has been validated. -/
def configured (place : Place σ) (r : Request) : Work σ (Except RunFault Session) := do
  match ← inputsOf place r with
  | .error fault => return .error (.config fault)
  | .ok (settings, folders) => do
      Work.say Session.newLog
      let (result, session) ← Session.new.reload place.host settings folders
      return match result with
        | .ok _ => .ok session
        | .error fault => .error (.config fault)

/-! ## Checking -/

/-- The end of a check. -/
def listed (session : Session) (format : Format) (verdict : String) : Finished :=
  ⟨if session.store.isEmpty then 0 else 1,
    Listing.shown session.store format ++ verdict⟩

/-- What the log says about a file that was checked. -/
def fileLog (path : Path) : Outcome → Log
  | .completed findings _ =>
      [.info (path.text ++ ": " ++ Text.numeral findings ++ " problem(s)")]
  | .excluded => [.info (path.text ++ ": excluded")]
  | .superseded => [.warn (path.text ++ ": check was superseded")]

/-- Checks files one after the other, up to the first that cannot be checked. -/
def checkFiles (place : Place σ) (session : Session) :
    List Path → Work σ (Except RunFault Session)
  | [] => pure (.ok session)
  | path :: rest => do
      let (result, session) ← session.check place.host (.file path)
      match result with
      | .error fault => return .error (.check fault)
      | .ok outcome => do
          Work.say (fileLog path outcome)
          checkFiles place session rest

/-- Checks files. -/
def runFiles (place : Place σ) (r : Request) (paths : List String) (format : Format) :
    Work σ (Except RunFault Finished) := do
  match ← configured place r with
  | .error fault => return .error fault
  | .ok session =>
      return (← checkFiles place session (paths.map place.absolute)).map fun s =>
        listed s format ""

/-! ## Repositories -/

/-- The repository of a request: the one that is named, or else the first that
any workspace folder is in. -/
def repositoryOf (place : Place σ) (r : Request) (named : Option String) :
    Work σ (Except RunFault Path) :=
  match named with
  | some root => pure (.ok (place.absolute root))
  | none => do
      match ← foldersOf place r with
      | .error fault => return .error (.config fault)
      | .ok folders =>
          let git := VersionControl.git place.host
          match ← git.repositories (folders.map WorkspaceFolder.root) with
          | .error fault => return .error (.versions fault)
          | .ok [] => return .error .noRepository
          | .ok (root :: _) => return .ok root

/-- What a check of a commit says at the end of its listing. -/
def verdict (format : Format) (outcome : Outcome) : String :=
  match format with
  | .json => ""
  | .text =>
      Listing.line (if outcome.findings = 0 then commitIsClean else commitHasProblems)

/-- Checks a commit. -/
def runCommit (place : Place σ) (r : Request) (hash : String) (named : Option String)
    (format : Format) : Work σ (Except RunFault Finished) := do
  match ← configured place r with
  | .error fault => return .error fault
  | .ok session => match ← repositoryOf place r named with
    | .error fault => return .error fault
    | .ok repository => do
        let (result, session) ← session.check place.host (.commit repository hash)
        return match result with
          | .error fault => .error (.check fault)
          | .ok outcome => .ok (listed session format (verdict format outcome))

/-- Lists commits. -/
def runCommits (place : Place σ) (r : Request) (named : Option String) (max : Nat) :
    Work σ (Except RunFault Finished) := do
  match ← repositoryOf place r named with
  | .error fault => return .error fault
  | .ok repository =>
      return match ← (VersionControl.git place.host).log repository max with
        | .error fault => .error (.versions fault)
        | .ok commits => .ok ⟨0, String.join (commits.map fun c => Listing.line c.label)⟩

/-! ## The probe -/

/-- The line about a scope that passed. -/
def passedLine (p : Passed) : String :=
  Listing.line ("ok " ++ p.scope.description ++ ": " ++ p.resolved.config.executable.text ++
    " (" ++ Text.numeral p.summary.lines ++ " lines checked)")

/-- Validates scopes in order, up to the first that fails, and prints a line for
every scope as it passes. -/
def probeScopes (host : Host σ) (snapshot : Snapshot) :
    List Scope → Work σ (Except ConfigFault Unit × String)
  | [] => pure (.ok (), "")
  | scope :: rest => do
      let r := snapshot.resolveScope scope
      Work.say [r.report ("Load " ++ scope.description)]
      match Exclusion.ofPatterns r.config.exclude with
      | .error fault => return (.error (.pattern fault), "")
      | .ok _ => match ← probeScope host scope r with
        | .error fault => return (.error fault, "")
        | .ok summary => do
            let (result, out) ← probeScopes host snapshot rest
            return (result, passedLine ⟨scope, r, summary⟩ ++ out)

/-- Validates the configuration, and prints what there is to say about its scopes
up to a fault. -/
def runProbe (place : Place σ) (r : Request) : Work σ (Except ConfigFault Unit × String) := do
  match ← inputsOf place r with
  | .error fault => return (.error fault, "")
  | .ok (settings, folders) => do
      Work.say (Snapshot.buildLog settings folders)
      let snapshot := Snapshot.build settings folders
      probeScopes place.host snapshot snapshot.scopes

/-- The end of a probe.  What was printed before a fault stays printed. -/
def endProbe : Except ConfigFault Unit × String → Work σ Finished
  | (.ok _, out) => pure ⟨0, out⟩
  | (.error fault, out) => do
      Work.say [.error fault.message]
      return failed out

/-! ## Requests -/

/-- Does a job.  Serving an editor that has nothing to say does nothing. -/
def perform (place : Place σ) (r : Request) : Work σ (Except RunFault Finished) :=
  match r.job with
  | .files paths format => runFiles place r paths format
  | .commit hash named format => runCommit place r hash named format
  | .commits named max => runCommits place r named max
  | .probe => do return .ok (← endProbe (← runProbe place r))
  | .serve => pure (.ok ⟨0, ""⟩)

/-- What is printed when the version is asked for. -/
def versionLine : String := Listing.line "cplint 0.1.0"

/-- What the end of the reading of arguments means for the run. -/
def Ending.finished : Ending → Finished
  | .version => ⟨0, versionLine⟩
  | .help => ⟨0, ""⟩
  | .usage _ => failed

/-- Runs the command line. -/
def run (place : Place σ) (args : List String) : Work σ Finished := do
  match Request.ofArguments args with
  | .error ending => return ending.finished
  | .ok request => match ← perform place request with
    | .ok finished => return finished
    | .error fault => do
        Work.say [.error fault.message]
        return failed

end PatchLint.CommandLine
