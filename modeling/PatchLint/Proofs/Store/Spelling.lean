import Mathlib.Data.List.Sort
import PatchLint.Proofs.Store

/-!
# Spellings of keys

A file may be spelled in several ways, and a store keeps the spelling that the file was
written under first.  So what a store holds is more than what each file holds: it is
the entry of each file, with the key as it is spelled (`PathMap.ext_binding?`).

Groups written to a store overwrite the records of their files and keep the spellings
that are there.  That is why writing them once more changes nothing, even if some of
the groups are written over one another (`Store.overwrite_overwrite`).
-/

namespace PatchLint

namespace PathMap

variable {α : Type}

theorem binding?_congr (m : PathMap α) {p q : Path} (h : p.Same q) :
    m.binding? p = m.binding? q := by
  have : (fun e : Path × α => decide (e.1.Same p)) = fun e => decide (e.1.Same q) := by
    funext e
    exact decide_eq_decide.2 ⟨fun k => k.trans h, fun k => k.trans h.symm⟩
  simp only [binding?, this]

theorem mem_entries_iff {m : PathMap α} {e : Path × α} : e ∈ m.entries ↔ m.binding? e.1 = some e :=
  ⟨binding?_of_mem, List.mem_of_find?_eq_some⟩

/-- Maps with the same entries, spelled the same, are one map. -/
theorem ext_binding? {m n : PathMap α} (h : ∀ p, m.binding? p = n.binding? p) : m = n := by
  have irreflexive : Std.Irrefl fun a b : Path × α => a.1.compare b.1 = .lt :=
    ⟨fun _ lt => Path.not_same_of_lt lt .rfl⟩
  have antisymmetric : Std.Antisymm fun a b : Path × α => a.1.compare b.1 = .lt :=
    ⟨fun _ _ lt gt => absurd .rfl (Path.not_same_of_lt (Path.compare_lt_trans lt gt))⟩
  have same : m.entries = n.entries := by
    refine List.Pairwise.eq_of_mem_iff m.ascending n.ascending fun e => ?_
    rw [mem_entries_iff, mem_entries_iff, h]
  obtain ⟨entries, ascending⟩ := m
  cases same
  rfl

end PathMap

namespace Target

/-- A check of the target replaces what the path holds, whether it finds something there
or not. -/
def Replaces : Target → Path → Prop
  | .file path, q => path.Same q
  | .commit _ _, _ => True

instance (t : Target) (q : Path) : Decidable (t.Replaces q) :=
  match t with
  | .file path => inferInstanceAs (Decidable (path.Same q))
  | .commit _ _ => inferInstanceAs (Decidable True)

end Target

namespace Store

/-! ## Entries -/

/-- A deleted file has no entry, and the other entries are as they were. -/
theorem binding?_delete (s : Store) (p q : Path) :
    (s.delete p).entries.binding? q = if p.Same q then none else s.entries.binding? q := by
  unfold delete
  split
  · exact PathMap.binding?_erase ..
  · next absent =>
    split
    · next same =>
      have none : s.entries.find? q = none := by
        rw [← PathMap.find?_congr s.entries same]
        simpa [PathMap.contains] using absent
      exact Option.map_eq_none_iff.1 none
    · rfl

theorem binding?_set (s : Store) (p q : Path) {records : List Record} (written : records ≠ []) :
    (s.set p records).entries.binding? q =
      if p.Same q then some (((s.entries.binding? q).map Prod.fst).getD p, records)
      else s.entries.binding? q := by
  simp only [set, if_neg written, PathMap.binding?_insert]
  split
  · next same => rw [PathMap.binding?_congr s.entries same]
  · rfl

/-! ## Making room -/

/-- A file that was deleted is not touched again. -/
@[simp] theorem delete_delete (s : Store) (p : Path) : (s.delete p).delete p = s.delete p := by
  have absent : (s.delete p).find? p = none := by
    rw [find?_delete, if_pos .rfl]
  rw [delete, if_neg]
  rw [PathMap.contains, ← find?, absent]
  exact Bool.false_ne_true

theorem binding?_makeRoom (s : Store) (t : Target) (q : Path) :
    (s.makeRoom t).entries.binding? q = if t.Replaces q then none else s.entries.binding? q := by
  cases t with
  | file path => exact s.binding?_delete path q
  | commit repository hash => rfl

/-! ## Overwriting -/

/-- The entry of a path after groups were written, given the one before. -/
def overwrite (t : Target) (q : Path) (groups : List FileGroup)
    (e : Option (Path × List Record)) : Option (Path × List Record) :=
  groups.foldl
    (fun e g => if (t.keyOf g.file).Same q
      then some ((e.map Prod.fst).getD (t.keyOf g.file), g.records) else e)
    e

theorem binding?_writeGroups (s : Store) (t : Target) (q : Path) {groups : List FileGroup}
    (written : ∀ g ∈ groups, g.records ≠ []) :
    (s.writeGroups t groups).entries.binding? q = overwrite t q groups (s.entries.binding? q) := by
  induction groups generalizing s with
  | nil => rfl
  | cons g groups ih =>
    obtain ⟨first, others⟩ := List.forall_mem_cons.1 written
    show ((s.set (t.keyOf g.file) g.records).writeGroups t groups).entries.binding? q = _
    rw [ih _ others, binding?_set s _ q first]
    rfl

/-- A spelling that is there is kept. -/
theorem overwrite_some (t : Target) (q : Path) (groups : List FileGroup) (key : Path)
    (records : List Record) :
    ∃ records', overwrite t q groups (some (key, records)) = some (key, records') := by
  induction groups generalizing records with
  | nil => exact ⟨records, rfl⟩
  | cons g groups ih =>
    by_cases own : (t.keyOf g.file).Same q
    · simpa [overwrite, own] using ih g.records
    · simpa [overwrite, own] using ih records

/-- Writing the same groups once more changes nothing. -/
theorem overwrite_overwrite (t : Target) (q : Path) (groups : List FileGroup)
    (e : Option (Path × List Record)) :
    overwrite t q groups (overwrite t q groups e) = overwrite t q groups e := by
  have concat : ∀ groups g e, overwrite t q (groups ++ [g]) e =
      if (t.keyOf g.file).Same q
      then some (((overwrite t q groups e).map Prod.fst).getD (t.keyOf g.file), g.records)
      else overwrite t q groups e := by
    intro groups g e
    simp [overwrite, List.foldl_append]
  -- The last group of the path decides on its records, so they are looked at from the end.
  induction groups using List.reverseRecOn with
  | nil => rfl
  | append_singleton groups g ih =>
    rw [concat groups g e]
    by_cases own : (t.keyOf g.file).Same q
    · rw [if_pos own, concat, if_pos own]
      obtain ⟨records, kept⟩ := overwrite_some t q groups
        (((overwrite t q groups e).map Prod.fst).getD (t.keyOf g.file)) g.records
      rw [kept]
      rfl
    · rw [if_neg own, concat, if_neg own, ih]

/-- A check that lands once more replaces what it has written, spelled as it is. -/
theorem entries_rewrite (s : Store) (t : Target) {groups : List FileGroup}
    (written : ∀ g ∈ groups, g.records ≠ []) :
    (((s.makeRoom t).writeGroups t groups).makeRoom t |>.writeGroups t groups).entries =
      ((s.makeRoom t).writeGroups t groups).entries := by
  refine PathMap.ext_binding? fun q => ?_
  rw [binding?_writeGroups _ t q written, binding?_makeRoom, binding?_writeGroups _ t q written,
    binding?_makeRoom]
  split
  · rfl
  · exact overwrite_overwrite ..

end Store

end PatchLint
