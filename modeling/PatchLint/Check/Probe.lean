import PatchLint.Config.Fault
import PatchLint.Config.Snapshot
import PatchLint.Summary

/-!
# The probe

Before a configuration is trusted, the checker is run once on a single blank
line.  A program is a usable checker when what it prints holds a summary; its
exit status does not count.

The gate goes through the scopes of a snapshot in order.  Of each scope the
exclude patterns are read first and the checker is probed next, and the first
scope that fails ends it.  `gate` also hands the summary of every scope that
passed to its caller, in order, so that a caller may report them.
-/

namespace PatchLint

variable {σ : Type}

/-- The flags of a probe: no source tree, and the text from standard input. -/
def probeArgs : List String := ["--no-tree", "-"]

/-- What to start for a probe. -/
def probeLaunch (executable : Path) (args : List String) (cwd : Option Path) : Launch where
  program := executable
  args := args ++ probeArgs
  cwd
  input := "\n"

/-- What a probe shows when the checker left something. -/
def probed (executable : Path) : Except HostFault Output → Except ConfigFault Summary
  | .error fault => .error (.probeNotStarted executable fault)
  | .ok output => match Summary.find? output.outText with
    | some summary => .ok summary
    | none => .error (.noSummary executable output.errText)

/-- Runs a checker once on a blank line. -/
def probe (host : Host σ) (executable : Path) (args : List String) (cwd : Option Path) :
    Work σ (Except ConfigFault Summary) := do
  return probed executable (← Work.start host (probeLaunch executable args cwd))

/-- Probes the checker of a scope. -/
def probeScope (host : Host σ) (scope : Scope) (r : Resolved) :
    Work σ (Except ConfigFault Summary) := do
  Work.say [.info ("Test " ++ scope.description)]
  let result ← probe host r.config.executable r.config.args r.cwd
  if let .error fault := result then
    Work.say [.error ("Test " ++ scope.description ++ ": probably bad or unusable config. " ++
      fault.message)]
  return result

/-- Validates a scope: its exclude patterns first, its checker next. -/
def validate (host : Host σ) (scope : Scope) (r : Resolved) :
    Work σ (Except ConfigFault Summary) := do
  Work.say [r.report ("Load " ++ scope.description)]
  match Exclusion.ofPatterns r.config.exclude with
  | .error fault => return .error (.pattern fault)
  | .ok _ => probeScope host scope r

/-- A scope that passed. -/
structure Passed where
  scope : Scope
  /-- Its configuration. -/
  resolved : Resolved
  /-- What its checker printed. -/
  summary : Summary
deriving DecidableEq, Repr

/-- Validates scopes in order, up to the first that fails. -/
def gate (host : Host σ) (snapshot : Snapshot) :
    List Scope → Work σ (List Passed × Option (Scope × ConfigFault))
  | [] => pure ([], none)
  | scope :: rest => do
      let r := snapshot.resolveScope scope
      match ← validate host scope r with
      | .error fault => return ([], some (scope, fault))
      | .ok summary => do
          let (passed, failed) ← gate host snapshot rest
          return (⟨scope, r, summary⟩ :: passed, failed)

end PatchLint
