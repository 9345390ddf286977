import Mathlib.Data.List.Induction
import PatchLint.Proofs.Session.Accounts
import PatchLint.Session.Staged

/-!
# What stages do

The two stages of a start, one right after the other, are a start
(`Staged.prepare_spawn`), and so it is with a reload (`Staged.adopt_settle`).
Taken apart, a check may be spawned in a later generation than it was prepared
in; the books of the session agree with its running checks all the same
(`Staged.accounts_of_new`).

As for operations, every stage has one of the effects that `Staged.Effect` lists
(`Staged.effect_step`).
-/

namespace PatchLint

variable {σ : Type}

namespace Staged

/-! ## Stages one after the other -/

theorem prepare_spawn (host : Host σ) (s : Staged σ) {t : Target} {p : Prepared}
    (h : s.course.session.prepare t = .ok p) :
    ((s.step host (.prepare t)).2.step host (.spawn p)) = s.step host (.whole (.start t)) := by
  have start : s.step host (.whole (.start t)) =
      (.started (s.course.start host t).1, { s with course := (s.course.start host t).2 }) := rfl
  rw [start, Course.start_prepared host h]
  simp only [step, h, List.mem_cons_self, if_true, List.erase_cons_head]
  rfl

theorem adopt_settle (host : Host σ) (s : Staged σ) (settings : Settings)
    (folders : List WorkspaceFolder) :
    ((s.step host (.adopt settings folders)).2.step host
      (.settle (Snapshot.build settings folders))) =
        s.step host (.whole (.reload settings folders)) := rfl

/-! ## Effects -/

/-- What a stage may answer and leave behind, by the ways in which it may end. -/
inductive Effect (s : Staged σ) :
    Stage σ → Reply → Session → List Running → List Prepared → Prop where
  | whole {o reply session running} : s.course.Effect o reply session running →
      Effect s (.whole o) reply session running s.waiting
  | idle {o reply} : ¬ s.Renews o → (∀ p, ¬ s.Prepares p o) →
      Effect s o reply s.course.session s.course.running s.waiting
  | prepared {t p} : s.course.session.prepare t = .ok p →
      Effect s (.prepare t) .done (s.course.session.drop t) s.course.running (p :: s.waiting)
  | spawned {p} (output : Output) : p ∈ s.waiting →
      Effect s (.spawn p) (.started (.running (s.course.session.enter p output).1))
        (s.course.session.enter p output).2
        ((s.course.session.enter p output).1 :: s.course.running) (s.waiting.erase p)
  | notSpawned {p result} : p ∈ s.waiting →
      Effect s (.spawn p) (.started (.ended result)) s.course.session s.course.running
        (s.waiting.erase p)
  | adopted {settings folders} : Effect s (.adopt settings folders) .done
      (s.course.session.adopt settings folders) s.course.running s.waiting
  | settled {snapshot reply} (ok : Bool) : Effect s (.settle snapshot) reply
      { s.course.session with configured := ok } s.course.running s.waiting

theorem effect_prepare (host : Host σ) (s : Staged σ) (t : Target) :
    Effect s (.prepare t) (s.step host (.prepare t)).1
      (s.step host (.prepare t)).2.course.session (s.step host (.prepare t)).2.course.running
      (s.step host (.prepare t)).2.waiting := by
  cases prepared : s.course.session.prepare t with
  | error result =>
    simp only [step, prepared]
    refine .idle not_false ?_
    intro p h
    cases prepared.symm.trans h
  | ok p =>
    simp only [step, prepared]
    exact .prepared prepared

theorem effect_spawn (host : Host σ) (s : Staged σ) (p : Prepared) :
    Effect s (.spawn p) (s.step host (.spawn p)).1
      (s.step host (.spawn p)).2.course.session (s.step host (.spawn p)).2.course.running
      (s.step host (.spawn p)).2.waiting := by
  by_cases waits : p ∈ s.waiting
  · simp only [step, waits, if_true]
    rcases Course.spawn_cases host s.course p with
      ⟨output, state, -, spawned⟩ | ⟨fault, state, log, -, spawned⟩
    · rw [spawned]
      exact .spawned output waits
    · rw [spawned]
      exact .notSpawned waits
  · simp only [step, waits, if_false]
    exact .idle not_false fun _ => not_false

/-- Every stage has one of the effects. -/
theorem effect_step (host : Host σ) (s : Staged σ) (o : Stage σ) :
    Effect s o (s.step host o).1 (s.step host o).2.course.session
      (s.step host o).2.course.running (s.step host o).2.waiting := by
  cases o with
  | whole o => exact .whole (s.course.effect_step host o)
  | prepare t => exact effect_prepare host s t
  | spawn p => exact effect_spawn host s p
  | adopt settings folders => exact .adopted
  | settle snapshot =>
    show Effect s _ _
      ((Session.settle host snapshot s.course.session).run s.course.scene).1.2 _ _
    rw [Session.settle_session]
    exact .settled _

/-! ## Keeping the books -/

/-- The books agree with the running checks, and no check that waits is of a
generation yet to come. -/
structure Accounts (s : Staged σ) : Prop where
  running : s.course.session.Accounts s.course.running
  waiting : ∀ p ∈ s.waiting, p.generation ≤ s.course.session.generation

/-- No operation goes back to an earlier generation. -/
theorem generation_le {c : Course σ} {o : Operation σ} {reply : Reply} {session : Session}
    {running : List Running} (effect : c.Effect o reply session running) :
    c.session.generation ≤ session.generation := by
  by_cases renews : c.Renews o
  · cases effect with
    | idle within _ _ => exact absurd renews within
    | adopted => exact Nat.le_succ _
    | disposed => exact Nat.le_succ _
    | _ => exact absurd renews not_false
  · exact Nat.le_of_eq (effect.within renews).1.symm

theorem Effect.accounts {s : Staged σ} {o : Stage σ} {reply : Reply} {session : Session}
    {running : List Running} {waiting : List Prepared}
    (effect : Effect s o reply session running waiting) (h : s.Accounts) :
    session.Accounts running ∧ ∀ p ∈ waiting, p.generation ≤ session.generation := by
  have erased : ∀ p, ∀ q ∈ s.waiting.erase p, q.generation ≤ s.course.session.generation := by
    intro p q hq
    exact h.waiting q (List.mem_of_mem_erase hq)
  cases effect with
  | whole effect =>
    refine ⟨effect.accounts h.running, ?_⟩
    intro p hp
    exact Nat.le_trans (h.waiting p hp) (generation_le effect)
  | idle => exact ⟨h.running, h.waiting⟩
  | prepared prepared =>
    refine ⟨h.running.drop _, ?_⟩
    intro q hq
    rw [Session.generation_drop]
    obtain ⟨-, rfl⟩ := Session.prepare_eq_ok prepared
    rcases List.mem_cons.1 hq with rfl | hq
    · exact Nat.le_refl _
    · exact h.waiting q hq
  | spawned output waits =>
    refine ⟨h.running.enter _ output (h.waiting _ waits), ?_⟩
    intro q hq
    rw [Session.generation_enter]
    exact erased _ q hq
  | notSpawned => exact ⟨h.running, erased _⟩
  | adopted =>
    refine ⟨h.running.stopAll.congr rfl rfl rfl rfl, ?_⟩
    intro q hq
    exact Nat.le_trans (h.waiting q hq) (Nat.le_succ _)
  | settled => exact ⟨h.running.congr rfl rfl rfl rfl, h.waiting⟩

/-- The books of a shared session agree with its running checks, whatever has
happened to it. -/
theorem accounts_of_new (host : Host σ) (state : σ) (layout? : Option Layout)
    (os : List (Stage σ)) : ((new state layout?).run host os).Accounts := by
  induction os using List.reverseRecOn with
  | nil => exact ⟨.new layout?, by simp [run, new]⟩
  | append_singleton os o ih =>
    rw [run_concat]
    obtain ⟨running, waiting⟩ := (effect_step host _ o).accounts ih
    exact ⟨running, waiting⟩

end Staged

end PatchLint
