import PatchLint.Server.Basic
import PatchLint.Server.Params

/-!
# Checks on behalf of an editor

Reloading and checking as an editor sees them: whatever changes is published,
and a failure is shown to the user instead of failing the request.  A check
first tries a configuration again that has failed before.

The user chooses the repository if there are several, and the commit.  The
titles to choose from are in the order in which the version control system lists
what they stand for, and the first with the chosen title counts.
-/

namespace PatchLint.Server

open Dialogue

variable {σ : Type}

/-! ## Configuration -/

/-- What the log says about workspace folders with a file of their own. -/
def foundLog (folders : List WorkspaceFolder) : Log :=
  (folders.filter fun f => f.override?.isSome).map fun f =>
    .info ("Found folder config in " ++ f.root.text)

/-- The settings and the workspace folders as they are now. -/
def loadInputs (host : Host σ) (state : σ) (settings : Json) (roots : List Path) :
    Loading (Settings × List WorkspaceFolder) := do
  return (← Loading.hostSettings settings, ← ConfigFile.folders host state roots)

/-- Reads the configuration and takes it over.  If it cannot be read there is no
configuration to try again. -/
def reloadConfig (env : Surroundings σ) : Dialogue σ (Except ConfigFault Unit) := do
  let s ← server
  let (inputs, warnings) := (loadInputs env.host (← get).scene.host s.settings s.folders).result
  say warnings
  match inputs with
  | .error fault => do
      say [.error ("Failed to load config: " ++ fault.message)]
      update fun s => { s with session := s.session.invalidate }
      return .error fault
  | .ok (settings, folders) => do
      say (foundLog folders)
      onSession fun session => session.reload env.host settings folders

/-- The text about a failure for the user. -/
def failureLine (message : String) : LogLine := .error ("checkpatch: " ++ message)

/-- Reads the configuration and tells the user how that went. -/
def reload (env : Surroundings σ) : Dialogue σ Unit := do
  let result ← reloadConfig env
  publish
  match result with
  | .ok _ => send (.log (.info "checkpatch is configured"))
  | .error fault => send (.show (failureLine fault.message))

/-- What the user is told when there is no usable configuration. -/
def notConfigured : String :=
  "checkpatch is not configured. Check checkpatchPath and checkpatchArgs in the settings."

/-- Tries the configuration again if it has to be, and tells whether there is
one. -/
def ensure (env : Surroundings σ) : Dialogue σ Bool := do
  let result ← onSession fun session => session.ensure env.host
  publish
  match result with
  | .ok _ => return true
  | .error _ => do
      send (.show (.error notConfigured))
      return false

/-! ## Files -/

/-- What is sent after a check of a file. -/
def fileNotice (path : Path) : Except CheckFault Outcome → List Sent
  | .ok (.completed findings _) =>
      [.log (.info (path.text ++ ": " ++ Text.numeral findings ++ " problem(s)"))]
  | .ok _ => []
  | .error fault => [.show (failureLine fault.message)]

/-- Checks a target and publishes what has changed. -/
def checkTarget (env : Surroundings σ) (t : Target) : Dialogue σ (Except CheckFault Outcome) := do
  let result ← onSession fun session => session.check env.host t
  publish
  return result

/-- Checks the file behind a URI.  A URI without a path is passed over. -/
def checkFile (env : Surroundings σ) (uri : Uri) : Dialogue σ (Option Outcome) := do
  match uri.toPath? with
  | none => return none
  | some path =>
      if ← ensure env then
        let result ← checkTarget env (.file path)
        (fileNotice path result).forM send
        return result.toOption
      else return none

/-! ## Commits -/

/-- A commit to check, as far as the editor has named it. -/
structure CommitRequest where
  /-- The root of the repository. -/
  repository : Option Path := none
  /-- The commit. -/
  hash : Option String := none
deriving DecidableEq, Repr

/-- Lets the user choose out of several titles. -/
def choose (question : String) (titles : List String) : Dialogue σ (Option Nat) := do
  let answer ← ask fun id => .ask id question titles
  match answer.decode decodeChosen with
  | .ok (some title) => return titles.findIdx? fun t => t = title
  | .ok none => return none
  | .error text => do
      say [.error ("Selection request failed: " ++ text)]
      return none

/-- The only value of a list, or the one that the user chooses. -/
def pick {α : Type} (question : String) (title : α → String) (xs : List α) :
    Dialogue σ (Option α) := do
  return (← choose question (xs.map title)).bind fun i => xs[i]?

/-- The repository to check: the only one there is, or the user's choice. -/
def pickRepository (env : Surroundings σ) : Dialogue σ (Option Path) := do
  match ← work (env.versions.repositories (← server).folders) with
  | .error fault => do
      send (.show (failureLine fault.message))
      return none
  | .ok [] => do
      send (.show (.warn "No git repository found"))
      return none
  | .ok [root] => return some root
  | .ok roots => pick "Select a repository" Path.text roots

/-- The commit to check, by the user's choice. -/
def pickCommit (env : Surroundings σ) (repository : Path) : Dialogue σ (Option Commit) := do
  match ← work (env.versions.log repository VersionControl.maxCommits) with
  | .error fault => do
      send (.show (failureLine fault.message))
      return none
  | .ok [] => do
      send (.show (.warn "Repository has no commits"))
      return none
  | .ok commits => pick "Select a commit to check" Commit.label commits

/-- What the editor has named, or else what the user picks. -/
def namedOr {α : Type} (named : Option α) (pick : Dialogue σ (Option α)) : Dialogue σ (Option α) :=
  match named with
  | some a => pure (some a)
  | none => pick

/-- The repository and the commit to check. -/
def pickTarget (env : Surroundings σ) (r : CommitRequest) :
    Dialogue σ (Option (Path × String)) := do
  match ← namedOr r.repository (pickRepository env) with
  | none => return none
  | some repository => do
      let hash ← namedOr r.hash (do return (← pickCommit env repository).map Commit.hash)
      return hash.map fun h => (repository, h)

/-- What is sent after a check of a commit. -/
def commitNotice : Except CheckFault Outcome → List Sent
  | .ok (.completed 0 _) => [.show (.info commitIsClean)]
  | .ok (.completed _ _) => [.show (.error commitHasProblems)]
  | .ok _ => []
  | .error fault => [.show (failureLine fault.message)]

/-- Checks a commit, with the help of the user if the editor has not named it. -/
def checkCommit (env : Surroundings σ) (r : CommitRequest) : Dialogue σ (Option Outcome) := do
  if ← ensure env then
    match ← pickTarget env r with
    | none => return none
    | some (repository, hash) => do
        say [.info ("Checking commit " ++ hash ++ " of " ++ repository.text)]
        let result ← checkTarget env (.commit repository hash)
        (commitNotice result).forM send
        return result.toOption
  else return none

end PatchLint.Server
