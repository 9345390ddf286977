import PatchLint.Log

/-!
# Computations that fail or warn

Decoding and loading fail or succeed, and note warnings on the way.  What was noted
before makes no difference to them, so that one succeeds is said for any log that it is
given (`Gives`).
-/

namespace PatchLint

variable {ε ε' α β ρ : Type}

/-- A computation succeeds with a value, whatever was said before. -/
def Gives (d : ExceptT ε (StateM Log) α) (a : α) : Prop :=
  ∀ log, ∃ log', d.run.run log = (.ok a, log')

theorem Gives.result {d : ExceptT ε (StateM Log) α} {a : α} (h : Gives d a) :
    (d.run.run []).1 = .ok a := by
  obtain ⟨log, run⟩ := h []
  rw [run]

theorem gives_pure (a : α) : Gives (pure a : ExceptT ε (StateM Log) α) a := fun log => ⟨log, rfl⟩

theorem Gives.bind {d : ExceptT ε (StateM Log) α} {a : α} (h : Gives d a)
    {f : α → ExceptT ε (StateM Log) β} {b : β} (k : Gives (f a) b) : Gives (d >>= f) b := by
  intro log
  obtain ⟨log', first⟩ := h log
  obtain ⟨log'', second⟩ := k log'
  refine ⟨log'', ?_⟩
  simp only [ExceptT.run_bind, StateT.run_bind, first]
  exact second

/-- What succeeds has gone through two parts that succeed. -/
theorem run_bind_eq_ok {d : ExceptT ε (StateM Log) α} {f : α → ExceptT ε (StateM Log) β} {b : β}
    {log log' : Log} (h : (d >>= f).run.run log = (.ok b, log')) :
    ∃ a middle, d.run.run log = (.ok a, middle) ∧ (f a).run.run middle = (.ok b, log') := by
  simp only [ExceptT.run_bind, StateT.run_bind] at h
  cases first : d.run.run log with
  | mk result middle =>
  rw [first] at h
  cases result with
  | ok a => exact ⟨a, middle, rfl, h⟩
  | error e => cases h

theorem Gives.map {d : ExceptT ε (StateM Log) α} {a : α} (h : Gives d a) (f : α → β) :
    Gives (f <$> d) (f a) := by
  rw [map_eq_pure_bind]
  exact h.bind (gives_pure _)

theorem run_adapt_of_ok {d : ExceptT ε (StateM Log) α} {a : α} {log log' : Log}
    (run : d.run.run log = (.ok a, log')) (f : ε → ε') :
    (d.adapt f).run.run log = (.ok a, log') := by
  show (Except.mapError f <$> d.run).run log = _
  rw [StateT.run_map, run]
  rfl

theorem Gives.adapt {d : ExceptT ε (StateM Log) α} {a : α} (h : Gives d a) (f : ε → ε') :
    Gives (d.adapt f) a := by
  intro log
  obtain ⟨log', run⟩ := h log
  exact ⟨log', run_adapt_of_ok run f⟩

theorem gives_forM {step : α → ExceptT ε (StateM Log) Unit} (each : ∀ a, Gives (step a) ())
    (as : List α) : Gives (as.forM step) () := by
  induction as with
  | nil => exact gives_pure ()
  | cons a as ih => exact (each a).bind ih

theorem gives_foldlM {put : ρ → α → ρ} {step : ρ → α → ExceptT ε (StateM Log) ρ}
    (each : ∀ r a, Gives (step r a) (put r a)) (as : List α) (r : ρ) :
    Gives (as.foldlM step r) (as.foldl put r) := by
  induction as generalizing r with
  | nil => exact gives_pure r
  | cons a as ih =>
    rw [List.foldlM_cons]
    exact (each r a).bind (ih (put r a))

end PatchLint
