import PatchLint.Session.Check
import PatchLint.Session.Reload

/-!
# Courses of operations

A course is a session together with its host, its log and the checks whose
checkers have not ended yet.  Operations come in any order: any number of checks
may be started before the first is finished, and reloads and disposals may come
in between.  What is outside may change too.

A state is reached from a new session by a list of operations (`Course.run`).
-/

namespace PatchLint

/-- Something that happens to a session. -/
inductive Operation (σ : Type) where
  /-- The host hands over settings and workspace folders. -/
  | reload (settings : Settings) (folders : List WorkspaceFolder)
  /-- The last reload is tried again if it has to be. -/
  | ensure
  /-- The configuration is given up. -/
  | invalidate
  /-- The run mode is toggled. -/
  | toggle
  /-- A check is started. -/
  | start (target : Target)
  /-- The checker of a running check has ended. -/
  | finish (id : Nat)
  /-- The output of a running check's checker cannot be read. -/
  | lose (id : Nat) (fault : HostFault)
  /-- The diagnostics of a file are dropped. -/
  | clearFile (path : Path)
  /-- All diagnostics are dropped. -/
  | clearAll
  /-- The changes are taken. -/
  | take
  /-- The session ends. -/
  | dispose
  /-- Something outside has changed. -/
  | outside (change : σ → σ)

/-- What an operation answers. -/
inductive Reply where
  /-- Nothing. -/
  | done
  | reloaded (result : Except ConfigFault Unit)
  | ensured (result : Except CheckFault Unit)
  | toggled (mode : RunMode)
  | started (result : Started)
  | finished (outcome : Outcome)
  | lost (result : Except HostFault Outcome)
  | changes (batch : List Change)

/-- A session, its host and the checks that are running. -/
structure Course (σ : Type) where
  session : Session
  /-- The host and the log. -/
  scene : Scene σ
  /-- The checks that were started and have not ended. -/
  running : List Running := []

namespace Course

variable {σ : Type}

/-- A new session on a host in some state. -/
def new (state : σ) (layout? : Option Layout := none) : Course σ where
  session := .new layout?
  scene := ⟨state, Session.newLog⟩

/-- The course with another session. -/
def withSession (c : Course σ) (s : Session) : Course σ := { c with session := s }

/-- The course with lines added to the log. -/
def say (c : Course σ) (lines : Log) : Course σ :=
  { c with scene := { c.scene with log := c.scene.log ++ lines } }

/-- Does work on the session and its host. -/
def work {α : Type} (c : Course σ) (w : Session → Work σ (α × Session)) : α × Course σ :=
  let ((result, session), scene) := (w c.session).run c.scene
  (result, { c with session, scene })

/-- Lets a check run that was started, unless it has ended at once. -/
def enlist : Started × Course σ → Started × Course σ
  | (.ended result, c) => (.ended result, c)
  | (.running check, c) => (.running check, { c with running := check :: c.running })

/-- Starts a check, which runs from then on unless it has ended at once. -/
def start (host : Host σ) (c : Course σ) (t : Target) : Started × Course σ :=
  enlist (c.work fun s => s.start host t)

/-- Starts the checker of a check that was prepared. -/
def spawn (host : Host σ) (c : Course σ) (p : Prepared) : Started × Course σ :=
  enlist (c.work fun s => s.spawn host p)

/-- The course in which a check runs no longer. -/
def without (c : Course σ) (check : Running) : Course σ :=
  { c with running := c.running.filter fun r => r.id ≠ check.id }

def finish (c : Course σ) (check : Running) : Outcome × Course σ :=
  let (outcome, session, log) := c.session.finish check
  (outcome, ((c.withSession session).say log).without check)

/-- Gives up a running check. -/
def lose (c : Course σ) (check : Running) (fault : HostFault) :
    Except HostFault Outcome × Course σ :=
  let (result, session, log) := c.session.lose check fault
  (result, ((c.withSession session).say log).without check)

/-- The running check with a number. -/
def running? (c : Course σ) (id : Nat) : Option Running := c.running.find? fun r => r.id = id

/-- What an operation does, and what it answers.  Ending a check that does not
run does nothing. -/
def step (host : Host σ) (c : Course σ) : Operation σ → Reply × Course σ
  | .reload settings folders =>
      let (result, c) := c.work fun s => s.reload host settings folders
      (.reloaded result, c)
  | .ensure =>
      let (result, c) := c.work fun s => s.ensure host
      (.ensured result, c)
  | .invalidate => (.done, c.withSession c.session.invalidate)
  | .toggle =>
      let s := c.session.toggle
      (.toggled s.runMode, (c.withSession s).say s.toggleLog)
  | .start t =>
      let (started, c) := c.start host t
      (.started started, c)
  | .finish id => match c.running? id with
      | some check =>
          let (outcome, c) := c.finish check
          (.finished outcome, c)
      | none => (.done, c)
  | .lose id fault => match c.running? id with
      | some check =>
          let (result, c) := c.lose check fault
          (.lost result, c)
      | none => (.done, c)
  | .clearFile p => (.done, c.withSession (c.session.clearFile p))
  | .clearAll => (.done, c.withSession c.session.clearAll)
  | .take => (.changes c.session.store.changes, c.withSession c.session.taken)
  | .dispose => (.done, c.withSession c.session.dispose)
  | .outside change => (.done, { c with scene := { c.scene with host := change c.scene.host } })

def run (host : Host σ) (c : Course σ) (os : List (Operation σ)) : Course σ :=
  os.foldl (fun c o => (c.step host o).2) c

/-- The operations of a list, each with the course that it finds. -/
def history (host : Host σ) (c : Course σ) : List (Operation σ) → List (Course σ × Operation σ)
  | [] => []
  | o :: os => (c, o) :: (c.step host o).2.history host os

/-! ## What operations do to running checks -/

/-- The operation takes over settings and workspace folders: it is a reload, or
it tries the last one again. -/
def Adopts (c : Course σ) (settings : Settings) (folders : List WorkspaceFolder) :
    Operation σ → Prop
  | .reload st fs => st = settings ∧ fs = folders
  | .ensure => c.session.configured = false ∧ c.session.inputs = some (settings, folders)
  | _ => False

/-- The operation opens a new generation: it takes over settings, or it ends the
session. -/
def Renews (c : Course σ) : Operation σ → Prop
  | .reload _ _ => True
  | .ensure => c.session.configured = false ∧ c.session.inputs.isSome
  | .dispose => True
  | _ => False

/-- The operation starts a checker for a slot. -/
def Enters (host : Host σ) (c : Course σ) (slot : Slot) : Operation σ → Prop
  | .start t => t.slot = slot ∧ ∃ check, (c.step host (.start t)).1 = .started (.running check)
  | _ => False

/-- The operation takes a slot from the check that holds it. -/
def Displaces (host : Host σ) (c : Course σ) (slot : Slot) (o : Operation σ) : Prop :=
  c.Renews o ∨ c.Enters host slot o

/-- The operation is the end of a running check. -/
def Ends (id : Nat) : Operation σ → Prop
  | .finish i => i = id
  | .lose i _ => i = id
  | _ => False

/-! ## Laws -/

/-- Operations one after the other. -/
theorem run_append (host : Host σ) (c : Course σ) (os more : List (Operation σ)) :
    c.run host (os ++ more) = (c.run host os).run host more := by
  simp [run]

/-- An operation after others. -/
theorem run_concat (host : Host σ) (c : Course σ) (os : List (Operation σ)) (o : Operation σ) :
    c.run host (os ++ [o]) = ((c.run host os).step host o).2 := by
  simp [run]

/-- Settings are taken over in a new generation. -/
theorem Adopts.renews {c : Course σ} {settings : Settings} {folders : List WorkspaceFolder}
    {o : Operation σ} (h : c.Adopts settings folders o) : c.Renews o := by
  cases o with
  | reload st fs => trivial
  | ensure => exact ⟨h.1, by simp [h.2]⟩
  | _ => exact h.elim

/-- The history of operations one after the other. -/
theorem history_append (host : Host σ) (c : Course σ) (os more : List (Operation σ)) :
    c.history host (os ++ more) = c.history host os ++ (c.run host os).history host more := by
  induction os generalizing c with
  | nil => rfl
  | cons o os ih => simp [history, run, ih]

end Course

end PatchLint
