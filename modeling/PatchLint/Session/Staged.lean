import PatchLint.Session.Course

/-!
# Courses in stages

In a course a check is started in one piece, and so is a reload.  When a session
is shared, both come in two stages with others in between: a check is prepared,
and its checker is started later; a reload takes settings and folders over, and
its scopes are validated later.  A staged course allows every operation of a
course and these stages besides, in any order.
-/

namespace PatchLint

/-- Something that happens to a session that is shared. -/
inductive Stage (σ : Type) where
  /-- An operation, all of it. -/
  | whole (o : Operation σ)
  /-- A check is prepared. -/
  | prepare (target : Target)
  /-- The checker of a check that was prepared is started. -/
  | spawn (p : Prepared)
  /-- Settings and folders are taken over by a reload. -/
  | adopt (settings : Settings) (folders : List WorkspaceFolder)
  /-- The scopes of a reload's snapshot are validated. -/
  | settle (snapshot : Snapshot)

/-- A course with the checks that are prepared and wait for their checkers. -/
structure Staged (σ : Type) where
  course : Course σ
  /-- The checks that were prepared. -/
  waiting : List Prepared := []

namespace Staged

variable {σ : Type}

/-- A new session on a host in some state. -/
def new (state : σ) (layout? : Option Layout := none) : Staged σ := ⟨.new state layout?, []⟩

/-- What a stage does, and what it answers.  A check that does not wait is not
spawned. -/
def step (host : Host σ) (s : Staged σ) : Stage σ → Reply × Staged σ
  | .whole o =>
      let (reply, course) := s.course.step host o
      (reply, { s with course })
  | .prepare t =>
      let noted := s.course.say (s.course.session.prepareLog t)
      match s.course.session.prepare t with
      | .error result => (.started (.ended result), { s with course := noted })
      | .ok p => (.done, ⟨noted.withSession (noted.session.drop t), p :: s.waiting⟩)
  | .spawn p =>
      if p ∈ s.waiting then
        let (started, course) := s.course.spawn host p
        (.started started, ⟨course, s.waiting.erase p⟩)
      else (.done, s)
  | .adopt settings folders =>
      let noted := s.course.say (Snapshot.buildLog settings folders)
      (.done, { s with course := noted.withSession (noted.session.adopt settings folders) })
  | .settle snapshot =>
      let (result, course) := s.course.work (Session.settle host snapshot)
      (.reloaded result, { s with course })

def run (host : Host σ) (s : Staged σ) (os : List (Stage σ)) : Staged σ :=
  os.foldl (fun s o => (s.step host o).2) s

/-- The stages of a list, each with what it finds. -/
def history (host : Host σ) (s : Staged σ) : List (Stage σ) → List (Staged σ × Stage σ)
  | [] => []
  | o :: os => (s, o) :: (s.step host o).2.history host os

/-- The stage opens a new generation. -/
def Renews (s : Staged σ) : Stage σ → Prop
  | .whole o => s.course.Renews o
  | .adopt _ _ => True
  | _ => False

/-- The stage prepares a check, by itself or as part of its start. -/
def Prepares (s : Staged σ) (p : Prepared) : Stage σ → Prop
  | .whole (.start t) => s.course.session.prepare t = .ok p
  | .prepare t => s.course.session.prepare t = .ok p
  | _ => False

/-! ## Laws -/

/-- A stage after others. -/
theorem run_concat (host : Host σ) (s : Staged σ) (os : List (Stage σ)) (o : Stage σ) :
    s.run host (os ++ [o]) = ((s.run host os).step host o).2 := by
  simp [run]

/-- Stages after others. -/
theorem run_append (host : Host σ) (s : Staged σ) (os more : List (Stage σ)) :
    s.run host (os ++ more) = (s.run host os).run host more :=
  List.foldl_append

/-- The history with a stage after others. -/
theorem history_concat (host : Host σ) (s : Staged σ) (os : List (Stage σ)) (o : Stage σ) :
    s.history host (os ++ [o]) = s.history host os ++ [(s.run host os, o)] := by
  induction os generalizing s with
  | nil => rfl
  | cons first rest ih => simp [history, run, ih]

end Staged

end PatchLint
