import Mathlib.Data.List.Induction
import PatchLint.Session.Check

/-!
# Changes of a store

A store into which groups were written holds nothing but those groups and what it
held before (`Store.find?_writeGroups`).

What was written, and what was erased, is noted: a file that a store does not
count as touched is as it was before (`Store.Notes`).  All that changes a store
keeps to this, so it is a matter of each operation alone.
-/

namespace PatchLint

namespace PathMap

variable {α : Type}

/-- A path without a value is no key under any spelling. -/
theorem find?_eq_none_iff {m : PathMap α} {p : Path} :
    m.find? p = none ↔ ∀ k ∈ m.keys, ¬ k.Same p := by
  simp [find?, keys]

theorem find?_ne_none_iff {m : PathMap α} {p : Path} :
    m.find? p ≠ none ↔ ∃ k ∈ m.keys, k.Same p := by
  simp [find?, keys]

theorem binding?_of_mem {m : PathMap α} {e : Path × α} (h : e ∈ m.entries) :
    m.binding? e.1 = some e := by
  obtain ⟨entries, ascending⟩ := m
  induction entries with
  | nil => cases h
  | cons first rest ih =>
    obtain ⟨before, others⟩ := List.pairwise_cons.1 ascending
    rcases List.mem_cons.1 h with rfl | later
    · simp [binding?]
    · have differ := Path.not_same_of_lt (before e later)
      simpa [binding?, differ] using ih others later

theorem find?_of_mem {m : PathMap α} {e : Path × α} (h : e ∈ m.entries) :
    m.find? e.1 = some e.2 := by
  rw [find?_eq_binding?, binding?_of_mem h]
  rfl

theorem find?_insert_eq_none_iff {m : PathMap α} {p q : Path} {v : α} :
    (m.insert p v).find? q = none ↔ ¬ p.Same q ∧ m.find? q = none := by
  rw [find?_insert]
  split
  · next same => simp [same]
  · next differ => simp [differ]

theorem find?_foldl_insert_eq_none_iff {m : PathMap Unit} {ps : List Path} {q : Path} :
    (ps.foldl (fun t p => t.insert p ()) m).find? q = none ↔
      m.find? q = none ∧ ∀ p ∈ ps, ¬ p.Same q := by
  induction ps generalizing m with
  | nil => simp
  | cons p ps ih =>
    rw [List.foldl_cons, ih, find?_insert_eq_none_iff, List.forall_mem_cons]
    exact ⟨fun h => ⟨h.1.2, h.1.1, h.2⟩, fun h => ⟨⟨h.2.1, h.1⟩, h.2.2⟩⟩

end PathMap

namespace Store

/-! ## What is held -/

theorem find?_of_delete {s : Store} {p q : Path} {rs : List Record}
    (h : (s.delete p).find? q = some rs) : s.find? q = some rs := by
  rw [find?_delete] at h
  split at h
  · cases h
  · exact h

theorem find?_of_makeRoom {s : Store} {t : Target} {q : Path} {rs : List Record}
    (h : (s.makeRoom t).find? q = some rs) : s.find? q = some rs := by
  cases t with
  | file path => exact find?_of_delete h
  | commit repository hash => cases h

/-- What a file holds after groups were written is one of them, or it held it
before. -/
theorem find?_writeGroups {s : Store} {t : Target} {groups : List FileGroup} {p : Path}
    {rs : List Record} (h : (s.writeGroups t groups).find? p = some rs) :
    (∃ g ∈ groups, (t.keyOf g.file).Same p ∧ g.records = rs) ∨ s.find? p = some rs := by
  induction groups generalizing s with
  | nil => exact .inr h
  | cons first rest ih =>
    rcases ih h with ⟨g, hg, written⟩ | before
    · exact .inl ⟨g, List.mem_cons_of_mem _ hg, written⟩
    · rw [find?_set] at before
      split at before
      · next same =>
        split at before
        · cases before
        · exact .inl ⟨first, List.mem_cons_self, same, Option.some.inj before⟩
      · exact .inr before

/-- What a file holds after groups were written is the last of those that are its
own, and what it held before if none is. -/
theorem find?_writeGroups_eq (s : Store) (t : Target) {groups : List FileGroup} (p : Path)
    (written : ∀ g ∈ groups, g.records ≠ []) :
    (s.writeGroups t groups).find? p =
      ((groups.reverse.find? fun g => (t.keyOf g.file).Same p).map FileGroup.records).or
        (s.find? p) := by
  induction groups using List.reverseRecOn with
  | nil => rfl
  | append_singleton groups g ih =>
    have last : g.records ≠ [] := written g (List.mem_append_right _ List.mem_cons_self)
    have earlier := ih fun g' hg' => written g' (List.mem_append_left _ hg')
    have next : s.writeGroups t (groups ++ [g]) =
        (s.writeGroups t groups).set (t.keyOf g.file) g.records := by
      simp [writeGroups, List.foldl_append]
    rw [next, find?_set, earlier, List.reverse_append]
    by_cases same : (t.keyOf g.file).Same p
    · simp [same, last]
    · simp [same]

/-! ## What is noted -/

/-- A file that the later store does not count as touched was not touched before,
and is as it was. -/
def Notes (before after : Store) : Prop :=
  ∀ p, after.touched.find? p = none →
    before.touched.find? p = none ∧ after.find? p = before.find? p

theorem Notes.refl (s : Store) : s.Notes s := fun _ h => ⟨h, rfl⟩

theorem Notes.trans {s t u : Store} (h : s.Notes t) (k : t.Notes u) : s.Notes u := by
  intro p untouched
  obtain ⟨untouched, later⟩ := k p untouched
  obtain ⟨untouched, earlier⟩ := h p untouched
  exact ⟨untouched, later.trans earlier⟩

theorem get_congr (s : Store) {p q : Path} (same : p.Same q) : s.get p = s.get q := by
  simp only [get, find?, PathMap.find?_congr s.entries same]

theorem exists_change_iff {s : Store} {p : Path} :
    (∃ c ∈ s.changes, c.path.Same p) ↔ s.touched.find? p ≠ none := by
  simp [changes, PathMap.find?_ne_none_iff]

/-- A file that was touched is among the changes, with what it holds. -/
theorem exists_change {s : Store} {p : Path} (touched : s.touched.find? p ≠ none) :
    ∃ c ∈ s.changes, c.path.Same p ∧ c.records = s.get p := by
  obtain ⟨c, mem, same⟩ := exists_change_iff.2 touched
  obtain ⟨k, -, rfl⟩ := List.mem_map.1 mem
  exact ⟨_, mem, same, s.get_congr same⟩

theorem notes_delete (s : Store) (p : Path) : s.Notes (s.delete p) := by
  intro q untouched
  have found := find?_delete s p q
  unfold delete at untouched found ⊢
  split at untouched
  · next present =>
    obtain ⟨differ, untouched⟩ := PathMap.find?_insert_eq_none_iff.1 untouched
    simp only [present, if_true, differ, if_false] at found ⊢
    exact ⟨untouched, found⟩
  · next absent =>
    simp only [absent, Bool.false_eq_true, if_false]
    exact ⟨untouched, trivial⟩

theorem notes_set (s : Store) (p : Path) (records : List Record) :
    s.Notes (s.set p records) := by
  by_cases none : records = []
  · simp only [set, none, if_true]
    exact notes_delete s p
  · intro q untouched
    have found := find?_set s p q records
    simp only [set, none, if_false] at untouched found ⊢
    obtain ⟨differ, untouched⟩ := PathMap.find?_insert_eq_none_iff.1 untouched
    simp only [differ, if_false] at found
    exact ⟨untouched, found⟩

theorem notes_clear (s : Store) : s.Notes s.clear := by
  intro q untouched
  obtain ⟨untouched, absent⟩ := PathMap.find?_foldl_insert_eq_none_iff.1 untouched
  exact ⟨untouched, (PathMap.find?_eq_none_iff.2 absent).symm⟩

theorem notes_makeRoom (s : Store) (t : Target) : s.Notes (s.makeRoom t) := by
  cases t with
  | file path => exact notes_delete s path
  | commit repository hash => exact notes_clear s

theorem notes_writeGroups (s : Store) (t : Target) (groups : List FileGroup) :
    s.Notes (s.writeGroups t groups) := by
  induction groups generalizing s with
  | nil => exact .refl s
  | cons g gs ih => exact (notes_set s (t.keyOf g.file) g.records).trans (ih _)

end Store

end PatchLint
