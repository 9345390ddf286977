import PatchLint.Check.Target

/-!
# The registry of running checks

Checks run side by side, but only one for a file and only one for all commits.
What they compete for is a *slot*.  The registry says which check holds each
slot, by the check's number; a check that enters a slot takes it from the check
that held it.

Main statements: who holds a slot after a check has entered (`holder?_enter`) or
left (`holder?_leave`) one.
-/

namespace PatchLint

/-- What checks compete for. -/
inductive Slot where
  | file (components : List Component)
  /-- The commits, all of them together. -/
  | commit
deriving DecidableEq, Repr

/-- The slot of a check. -/
def Target.slot : Target → Slot
  | .file path => .file path.components
  | .commit _ _ => .commit

/-- The slots that are held, each with the number of the check that holds it. -/
structure Registry where
  /-- The slots with their holders. -/
  entries : List (Slot × Nat)
  /-- No slot is held twice. -/
  single : entries.Pairwise fun a b => a.1 ≠ b.1
deriving DecidableEq, Repr

namespace Registry

/-- The registry in which no slot is held. -/
def empty : Registry := ⟨[], .nil⟩

instance : Inhabited Registry := ⟨empty⟩

/-- The check that holds a slot. -/
def holder? (r : Registry) (slot : Slot) : Option Nat :=
  (r.entries.find? fun e => e.1 = slot).map Prod.snd

/-- The registry without a slot. -/
def leave (r : Registry) (slot : Slot) : Registry where
  entries := r.entries.filter fun e => e.1 ≠ slot
  single := r.single.filter _

/-- The registry with a slot held by a check, whoever held it before. -/
def enter (r : Registry) (slot : Slot) (id : Nat) : Registry where
  entries := (slot, id) :: (r.leave slot).entries
  single := by
    refine List.pairwise_cons.2 ⟨?_, (r.leave slot).single⟩
    intro e he
    have : e.1 ≠ slot := by simpa using (List.mem_filter.1 he).2
    exact this.symm

/-- The numbers of the checks that hold a slot. -/
def ids (r : Registry) : List Nat := r.entries.map Prod.snd

/-- The number of slots that are held. -/
def size (r : Registry) : Nat := r.entries.length

/-! ## Laws -/

/-- Whoever has an entry for a slot holds it. -/
theorem holder?_eq_some_iff {r : Registry} {slot : Slot} {id : Nat} :
    r.holder? slot = some id ↔ (slot, id) ∈ r.entries := by
  constructor
  · intro h
    obtain ⟨e, found, rfl⟩ := Option.map_eq_some_iff.1 h
    have same : e.1 = slot := by simpa using List.find?_some found
    rw [← same]
    exact List.mem_of_find?_eq_some found
  · intro h
    obtain ⟨entries, single⟩ := r
    simp only [holder?] at h ⊢
    induction entries with
    | nil => cases h
    | cons e rest ih =>
        obtain ⟨differ, others⟩ := List.pairwise_cons.1 single
        rcases List.mem_cons.1 h with rfl | h
        · simp
        · have : e.1 ≠ slot := differ _ h
          simpa [this] using ih others h

/-- The entries after a slot was left. -/
theorem mem_entries_leave {r : Registry} {slot : Slot} {e : Slot × Nat} :
    e ∈ (r.leave slot).entries ↔ e ∈ r.entries ∧ e.1 ≠ slot := by
  simp [leave]

/-- The entries after a check has entered a slot. -/
theorem mem_entries_enter {r : Registry} {slot : Slot} {id : Nat} {e : Slot × Nat} :
    e ∈ (r.enter slot id).entries ↔ e = (slot, id) ∨ e ∈ r.entries ∧ e.1 ≠ slot := by
  simp [enter, leave]

/-- Nobody holds a slot that was left, and the others are held as they were. -/
theorem holder?_leave (r : Registry) (slot other : Slot) :
    (r.leave slot).holder? other = if slot = other then none else r.holder? other := by
  by_cases h : slot = other
  · subst h
    simp [holder?, leave]
  · have same : (fun e : Slot × Nat => decide (¬ e.1 = slot ∧ e.1 = other)) =
        fun e => decide (e.1 = other) := by
      funext e
      exact decide_eq_decide.2 ⟨And.right, fun k => ⟨fun l => h (l.symm.trans k), k⟩⟩
    simpa [holder?, leave, h] using congrArg (fun f => (r.entries.find? f).map Prod.snd) same

/-- A slot is held by the check that entered it, and the others are held as they
were. -/
theorem holder?_enter (r : Registry) (slot other : Slot) (id : Nat) :
    (r.enter slot id).holder? other = if slot = other then some id else r.holder? other := by
  by_cases h : slot = other
  · simp [holder?, enter, h]
  · have := holder?_leave r slot other
    simp only [h, if_false] at this
    simpa [holder?, enter, h] using this

end Registry

end PatchLint
