import PatchLint.Proofs.Session.Effects
import PatchLint.Proofs.Store.Replay

/-!
# What sessions note

A session changes its store by dropping and landing checks and by clearing it,
so it notes every change and keeps no entry without records.  A check from its start
to its end does so (`Session.notes_check`, `Session.filled_check`); a reload leaves the
store cleared, and nothing else (`Session.store_reload`).
-/

namespace PatchLint

namespace Session

variable {σ : Type}

theorem notes_drop (s : Session) (t : Target) : s.store.Notes (s.drop t).store := by
  cases t with
  | file path => exact Store.notes_delete s.store path
  | commit repository hash => exact .refl s.store

theorem notes_land (s : Session) (check : Running) : s.store.Notes (s.land check).store :=
  (Store.notes_makeRoom s.store check.target).trans
    (Store.notes_writeGroups _ check.target check.report.groups)

theorem notes_finish (s : Session) (check : Running) :
    s.store.Notes (s.finish check).2.1.store := by
  unfold finish
  split
  · exact .refl s.store
  · split
    · exact notes_land s check
    · exact .refl s.store

theorem notes_start (host : Host σ) (s : Session) (t : Target) (scene : Scene σ) :
    s.store.Notes ((s.start host t).run scene).1.2.store := by
  cases prepared : s.prepare t with
  | error result =>
    rw [start_refused host prepared]
    exact .refl s.store
  | ok p =>
    rw [start_prepared host prepared, spawn_run]
    refine (notes_drop s t).trans ?_
    split
    · rw [store_enter]
      exact .refl _
    · exact .refl _

/-- Whatever becomes of a check, what it does to the store is noted. -/
theorem notes_check (host : Host σ) (s : Session) (t : Target) (scene : Scene σ) :
    s.store.Notes ((s.check host t).run scene).1.2.store := by
  have start := notes_start host s t scene
  simp only [check, Work.run_bind]
  generalize (s.start host t).run scene = r at start ⊢
  obtain ⟨⟨started, s'⟩, scene'⟩ := r
  cases started with
  | ended result => exact start
  | running check => exact start.trans (notes_finish s' check)

/-- A reload clears the store. -/
theorem store_reload (host : Host σ) (s : Session) (settings : Settings)
    (folders : List WorkspaceFolder) (scene : Scene σ) :
    ((s.reload host settings folders).run scene).1.2.store = s.store.clear := by
  rw [reload_run]
  rfl

/-- Trying a reload again clears the store or leaves it alone. -/
theorem store_ensure (host : Host σ) (s : Session) (scene : Scene σ) :
    ((s.ensure host).run scene).1.2.store = s.store ∨
      ((s.ensure host).run scene).1.2.store = s.store.clear := by
  cases configured : s.configured with
  | true =>
    rw [ensure_configured host configured]
    exact .inl rfl
  | false =>
    cases inputs : s.inputs with
    | none =>
      rw [ensure_without_inputs host configured inputs]
      exact .inl rfl
    | some given =>
      obtain ⟨settings, folders⟩ := given
      rw [(ensure_again host configured inputs scene).1]
      exact .inr (store_reload ..)

end Session

end PatchLint
