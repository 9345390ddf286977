import PatchLint.Config.Effective
import PatchLint.Host

/-!
# Targets of checks

A check runs against one file or against the changes of one commit.  The target
decides the end of the checker's argument list, and where the file names in its
output start from.
-/

namespace PatchLint

/-- What a check runs against. -/
inductive Target where
  /-- A single file. -/
  | file (path : Path)
  /-- The changes of a commit of a repository. -/
  | commit (repository : Path) (hash : String)
deriving DecidableEq, Repr

namespace Target

/-- The arguments that name the target.  A file is written with forward slashes
only. -/
def modeArgs : Target → List String
  | .file path => ["-f", Path.slashed path.text]
  | .commit _ hash => ["-g", hash]

/-- The folder that file names in the output are relative to. -/
def base : Target → Option Path
  | .file _ => none
  | .commit repository _ => some repository

/-- The path that a file name in the output stands for. -/
def keyOf (t : Target) (file : String) : Path :=
  match t.base with
  | some folder => folder.join (.ofString file)
  | none => .ofString file

/-- The subject of the report on a check. -/
def subject : Target → String
  | .file path => "Check " ++ path.quoted
  | .commit repository hash => "Check commit " ++ hash ++ " of " ++ repository.quoted

end Target

/-- The flags of every check: findings with the names of files and rules. -/
def reportArgs : List String := ["--show-types", "--showfile"]

/-- All arguments for a check. -/
def checkArgs (args : List String) (t : Target) : List String := args ++ reportArgs ++ t.modeArgs

/-- What to start for a check. -/
def Resolved.launch (r : Resolved) (t : Target) : Launch where
  program := r.config.executable
  args := checkArgs r.config.args t
  cwd := r.cwd

end PatchLint
