import PatchLint.Host
import PatchLint.Repository.Commit

/-!
# Version control

What the program asks of a version control system: which repositories hold some
folders, and what the latest commits of a repository are.  `VersionControl.git`
asks the `git` command of a host; `VersionControl.listing` always gives the same
answers.
-/

namespace PatchLint

/-- Why a version control system gives no answer. -/
inductive VersionFault where
  /-- The command did not start. -/
  | notStarted (fault : HostFault)
  /-- The command failed; what it complained about. -/
  | failed (command complaint : String)
deriving DecidableEq, Repr

/-- The text of a fault of the version control system. -/
def VersionFault.message : VersionFault → String
  | .notStarted fault => "Failed to run git: " ++ fault.message
  | .failed command complaint => "git " ++ command ++ " failed: " ++ complaint

/-- A version control system on a host with states of a type. -/
structure VersionControl (σ : Type) where
  /-- The roots of the repositories that hold any of some folders, each once. -/
  repositories : List Path → Work σ (Except VersionFault (List Path))
  /-- The latest commits of a repository, the newest first, and no more than a
  number of them. -/
  log : Path → Nat → Work σ (Except VersionFault (List Commit))

/-- The number of commits to list when nothing else is asked for. -/
def VersionControl.maxCommits : Nat := 8

/-- A version control system that always gives the same answers. -/
def VersionControl.listing {σ : Type} (repositories : Except VersionFault (List Path))
    (commits : Except VersionFault (List Commit)) : VersionControl σ where
  repositories _ := pure repositories
  log _ max := pure (commits.map fun cs => cs.take max)

namespace Git

variable {σ : Type}

/-- Variables that keep the settings of user and system away. -/
def environment : List (String × String) :=
  [("GIT_ADVICE", "0"), ("GIT_CONFIG_GLOBAL", "/dev/null"), ("GIT_CONFIG_NOSYSTEM", "1")]

/-- What to start for a command in a folder. -/
def launch (folder : Path) (args : List String) : Launch where
  program := .ofString "git"
  args
  cwd := some folder
  environment

/-- What a command printed, if it succeeded. -/
def printed (args : List String) : Except HostFault Output → Except VersionFault String
  | .error fault => .error (.notStarted fault)
  | .ok output =>
      if output.succeeded then .ok output.outText
      else .error (.failed (" ".intercalate args) output.errText)

/-- Runs a command in a folder. -/
def run (host : Host σ) (folder : Path) (args : List String) :
    Work σ (Except VersionFault String) := do
  return printed args (← Work.start host (launch folder args))

/-- Paths with one more, unless the same path is there. -/
def addPath (paths : List Path) (p : Path) : List Path :=
  if paths.any fun q => q.Same p then paths else paths ++ [p]

/-- The arguments that ask for the root of a folder's repository. -/
def rootArgs : List String := ["rev-parse", "--show-toplevel"]

/-- The repositories of folders, after those found so far.  A folder in no
repository is passed over, and a command that does not start ends the search. -/
def repositoriesFrom (host : Host σ) (found : List Path) :
    List Path → Work σ (Except VersionFault (List Path))
  | [] => pure (.ok found)
  | folder :: rest => do
      match ← run host folder rootArgs with
      | .ok text => repositoriesFrom host (addPath found (.ofString (Text.trimmed text))) rest
      | .error (.failed _ _) => repositoriesFrom host found rest
      | .error fault => return .error fault

/-- The arguments that ask for the latest commits. -/
def logArgs (max : Nat) : List String := ["log", "-n", Text.numeral max, "--format=%H%x1f%s"]

/-- The latest commits of a repository. -/
def log (host : Host σ) (repository : Path) (max : Nat) :
    Work σ (Except VersionFault (List Commit)) := do
  return (← run host repository (logArgs max)).map Commit.ofListing

end Git

/-- The `git` command of a host. -/
def VersionControl.git {σ : Type} (host : Host σ) : VersionControl σ where
  repositories := Git.repositoriesFrom host []
  log := Git.log host

end PatchLint
