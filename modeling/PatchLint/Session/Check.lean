import PatchLint.Report
import PatchLint.Session.Basic

/-!
# Checking

A check goes through five steps.  It is *prepared*: its configuration is settled
and an excluded file is left alone.  The diagnostics of a file are *dropped*.
Its checker is *started*.  It is *entered* into the registry, where it takes its
slot from the check that held it; a check that was prepared in an earlier
generation gets no slot.  When its checker has ended it *lands*: its findings
are written if it still holds its slot.

`start` does the first four steps and `finish` the last; whatever happens in
between happens to the session that `finish` is given.  A check is *lost* when
what its checker wrote cannot be read: it gives up its slot and writes nothing.
-/

namespace PatchLint

/-- What is said after a commit was checked and something was found. -/
def commitHasProblems : String := "Commit has style problems"

/-- What is said after a commit was checked and nothing was found. -/
def commitIsClean : String := "Commit has no obvious style problems and is ready for submission"

/-- The text about output of a checker that cannot be read. -/
def unreadable (fault : HostFault) : String :=
  "I/O error while reading checker output: " ++ fault.message

/-- A check whose configuration is settled. -/
structure Prepared where
  /-- What it runs against. -/
  target : Target
  /-- The generation it was prepared in. -/
  generation : Nat
  /-- The configuration. -/
  resolved : Resolved
  /-- The layout of the output. -/
  layout : Layout
deriving DecidableEq, Repr

/-- A check whose checker was started. -/
structure Running extends Prepared where
  /-- Its number. -/
  id : Nat
  /-- What its checker will have written when it ends. -/
  output : Output
deriving DecidableEq, Repr

/-- A check that was asked for: it has ended already, or it runs. -/
inductive Started where
  | ended (result : Except CheckFault Outcome)
  | running (check : Running)

/-- The findings of a check, grouped by file. -/
def Running.report (check : Running) : Report :=
  .ofOutput check.layout check.resolved.config.level check.output.outText

namespace Store

/-- Groups of records written one after the other, each under the path that its
file name stands for. -/
def writeGroups (t : Target) (groups : List FileGroup) (s : Store) : Store :=
  groups.foldl (fun s g => s.set (t.keyOf g.file) g.records) s

/-- The store without what a check of a target replaces: the file, or for a
commit everything. -/
def makeRoom (t : Target) (s : Store) : Store :=
  match t with
  | .file path => s.delete path
  | .commit _ _ => s.clear

end Store

namespace Session

variable {σ : Type}

/-! ## Starting -/

/-- The configuration of a target. -/
def resolve (s : Session) : Target → Resolved
  | .file path => s.snapshot.resolveFile path
  | .commit repository _ => s.snapshot.resolveRepository repository

/-- A check with its configuration settled. -/
def plan (s : Session) (t : Target) : Prepared where
  target := t
  generation := s.generation
  resolved := s.resolve t
  layout := s.layout?.getD s.snapshot.layout

/-- Whether a target is excluded.  A commit never is. -/
def isExcluded (s : Session) (t : Target) : Except PatternFault Bool :=
  match t with
  | .file path => (Exclusion.ofPatterns (s.resolve t).config.exclude).map fun e => e.excludes path
  | .commit _ _ => .ok false

/-- A check that is ready to be started, or the end it has come to. -/
def prepare (s : Session) (t : Target) : Except (Except CheckFault Outcome) Prepared :=
  if s.configured then
    match s.isExcluded t with
    | .error fault => .error (.error (.config (.pattern fault)))
    | .ok true => .error (.ok .excluded)
    | .ok false => .ok (s.plan t)
  else .error (.error .notConfigured)

/-- What the log says about a check that is prepared. -/
def prepareLog (s : Session) (t : Target) : Log :=
  if s.configured then [(s.resolve t).report t.subject] else []

/-- The session without the diagnostics that the start of a check drops. -/
def drop (s : Session) : Target → Session
  | .file path => s.clearFile path
  | .commit _ _ => s

/-- The check with its number, and the session with the check entered.  The check
that held its slot is told to stop; a check of an earlier generation is told to
stop at once. -/
def enter (s : Session) (p : Prepared) (output : Output) : Running × Session :=
  let check : Running := { p with id := s.nextId, output }
  let s := { s with nextId := s.nextId + 1 }
  if p.generation ≠ s.generation then (check, { s with stopped := check.id :: s.stopped })
  else
    (check,
      { s with
        registry := s.registry.enter p.target.slot check.id
        stopped := (s.registry.holder? p.target.slot).toList ++ s.stopped })

/-- Starts the checker of a check and enters the check. -/
def spawn (host : Host σ) (s : Session) (p : Prepared) : Work σ (Started × Session) := do
  match ← Work.start host (p.resolved.launch p.target) with
  | .ok output =>
      let (check, s) := s.enter p output
      return (.running check, s)
  | .error fault => do
      let fault := CheckFault.notStarted p.resolved.config.executable fault
      Work.say [.error fault.message]
      return (.ended (.error fault), s)

/-- Starts a check. -/
def start (host : Host σ) (s : Session) (t : Target) : Work σ (Started × Session) := do
  Work.say (s.prepareLog t)
  match s.prepare t with
  | .error result => return (.ended result, s)
  | .ok p => spawn host (s.drop t) p

/-! ## Finishing -/

/-- Whether a check still holds its slot. -/
def holds (s : Session) (check : Running) : Bool :=
  s.registry.holder? check.target.slot = some check.id

/-- The session with the findings of a check written. -/
def land (s : Session) (check : Running) : Session :=
  { s with
    registry := s.registry.leave check.target.slot
    store := (s.store.makeRoom check.target).writeGroups check.target check.report.groups }

/-- The outcome of a check that has landed. -/
def landed (check : Running) : Outcome :=
  .completed check.report.total (check.report.groups.map fun g => check.target.keyOf g.file)

/-- What the checker complained about, for the log. -/
def complaintLog (check : Running) : Log :=
  if check.output.err = [] then []
  else [.warn (check.resolved.config.executable.quoted ++ " stderr: " ++ check.output.errText)]

/-- What the log says about a check that has landed. -/
def landedLog (check : Running) : Log :=
  let counted := Text.numeral check.report.total ++ " finding(s)"
  match check.target with
  | .file path => [.info (path.quoted ++ ": " ++ counted)]
  | .commit _ _ =>
      if check.report.total = 0 then [.info commitIsClean]
      else [.warn (commitHasProblems ++ " (" ++ counted ++ ")")]

/-- The end of a check whose checker has ended. -/
def finish (s : Session) (check : Running) : Outcome × Session × Log :=
  if check.id ∈ s.stopped then (.superseded, s, [])
  else if s.holds check then
    (landed check, s.land check, complaintLog check ++ landedLog check)
  else (.superseded, s, complaintLog check)

/-- The session with the slot of a check free, if the check still holds it. -/
def release (s : Session) (check : Running) : Session :=
  if s.holds check then { s with registry := s.registry.leave check.target.slot } else s

/-- The end of a check whose checker's output cannot be read. -/
def lose (s : Session) (check : Running) (fault : HostFault) :
    Except HostFault Outcome × Session × Log :=
  if check.id ∈ s.stopped then (.ok .superseded, s, [])
  else (.error fault, s.release check, [.error (unreadable fault)])

/-- A check from its start to its end, with nothing in between. -/
def check (host : Host σ) (s : Session) (t : Target) :
    Work σ (Except CheckFault Outcome × Session) := do
  let (started, s) ← s.start host t
  match started with
  | .ended result => return (result, s)
  | .running check => do
      let (outcome, s, log) := s.finish check
      Work.say log
      return (.ok outcome, s)

end Session

end PatchLint
