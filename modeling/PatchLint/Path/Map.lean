import PatchLint.Path.Basic

/-!
# Maps keyed by paths

A finite map whose keys are paths, kept in path order.  Keys that name the same
file are one key: a key keeps the spelling it was first inserted with, and only
after it was erased can another spelling take its place.

The order of the entries is part of the type.  Main statements: looking up
after an insertion (`binding?_insert`, `find?_insert`) and after an erasure
(`binding?_erase`, `find?_erase`).
-/

namespace PatchLint

namespace Path

/-- The order of paths is transitive. -/
theorem compare_lt_trans {p q r : Path} (h : p.compare q = .lt) (k : q.compare r = .lt) :
    p.compare r = .lt := by
  unfold Path.compare at *
  exact Std.TransCmp.lt_trans h k

/-- A path that comes first is another path. -/
theorem not_same_of_lt {p q : Path} (h : p.compare q = .lt) : ¬ p.Same q := by
  intro same
  rw [compare_eq_iff_same.2 same] at h
  cases h

end Path

/-- Entries in increasing path order. -/
def Path.Ascending {α : Type} (entries : List (Path × α)) : Prop :=
  entries.Pairwise fun a b => a.1.compare b.1 = .lt

/-- A finite map from paths to values. -/
structure PathMap (α : Type) where
  /-- The keys with their values, in path order. -/
  entries : List (Path × α)
  /-- Each key comes before the next. -/
  ascending : Path.Ascending entries

namespace PathMap

variable {α : Type}

/-- The map without entries. -/
def empty : PathMap α := ⟨[], List.Pairwise.nil⟩

instance : EmptyCollection (PathMap α) := ⟨empty⟩

instance : Inhabited (PathMap α) := ⟨empty⟩

/-- The keys, in path order. -/
def keys (m : PathMap α) : List Path := m.entries.map Prod.fst

/-- The number of keys. -/
def size (m : PathMap α) : Nat := m.entries.length

/-- A map without entries. -/
def isEmpty (m : PathMap α) : Bool := m.entries.isEmpty

/-- The entry at a path, with its key as it is spelled. -/
def binding? (m : PathMap α) (p : Path) : Option (Path × α) := m.entries.find? fun e => e.1.Same p

/-- The value at a path. -/
def find? (m : PathMap α) (p : Path) : Option α :=
  (m.entries.find? fun e => e.1.Same p).map Prod.snd

/-- Entries with one key written.  An equal key keeps its spelling. -/
def insertInto (p : Path) (v : α) : List (Path × α) → List (Path × α)
  | [] => [(p, v)]
  | (q, w) :: rest => match p.compare q with
    | .lt => (p, v) :: (q, w) :: rest
    | .eq => (q, v) :: rest
    | .gt => (q, w) :: insertInto p v rest

/-- Writing a key adds no key but that one. -/
private theorem mem_insertInto {p : Path} {v : α} {entries : List (Path × α)} {e : Path × α}
    (h : e ∈ insertInto p v entries) : e.1 = p ∨ ∃ w, (e.1, w) ∈ entries := by
  induction entries with
  | nil => simp_all [insertInto]
  | cons hd rest ih =>
      obtain ⟨q, w⟩ := hd
      simp only [insertInto] at h
      split at h
      · rcases List.mem_cons.1 h with rfl | h
        · exact .inl rfl
        · exact .inr ⟨e.2, h⟩
      · rcases List.mem_cons.1 h with rfl | h
        · exact .inr ⟨w, by simp⟩
        · exact .inr ⟨e.2, List.mem_cons_of_mem _ h⟩
      · rcases List.mem_cons.1 h with rfl | h
        · exact .inr ⟨w, by simp⟩
        · rcases ih h with h | ⟨x, h⟩
          · exact .inl h
          · exact .inr ⟨x, List.mem_cons_of_mem _ h⟩

/-- Writing a key keeps the order. -/
private theorem ascending_insertInto {p : Path} {v : α} {entries : List (Path × α)}
    (h : Path.Ascending entries) : Path.Ascending (insertInto p v entries) := by
  induction entries with
  | nil => exact List.pairwise_singleton _ _
  | cons hd rest ih =>
      obtain ⟨q, w⟩ := hd
      obtain ⟨first, others⟩ := List.pairwise_cons.1 h
      simp only [insertInto]
      split
      · next lt =>
        refine List.pairwise_cons.2 ⟨?_, h⟩
        intro e he
        rcases List.mem_cons.1 he with rfl | he
        · exact lt
        · exact Path.compare_lt_trans lt (first e he)
      · exact List.pairwise_cons.2 ⟨first, others⟩
      · next gt =>
        refine List.pairwise_cons.2 ⟨?_, ih others⟩
        intro e he
        rcases mem_insertInto he with same | ⟨x, he⟩
        · simp only [same]
          rw [← Path.compare_swap, gt]
          rfl
        · exact first (e.1, x) he

/-- The map with one key written. -/
def insert (m : PathMap α) (p : Path) (v : α) : PathMap α :=
  ⟨insertInto p v m.entries, ascending_insertInto m.ascending⟩

/-- The map without one key. -/
def erase (m : PathMap α) (p : Path) : PathMap α :=
  ⟨m.entries.filter fun e => ¬ e.1.Same p, m.ascending.filter _⟩

/-- Whether a path is a key. -/
def contains (m : PathMap α) (p : Path) : Bool := (m.find? p).isSome

/-! ## Laws -/

@[simp] theorem find?_empty (p : Path) : (empty : PathMap α).find? p = none := rfl

/-- Two spellings find the same value. -/
theorem find?_congr (m : PathMap α) {p q : Path} (h : p.Same q) : m.find? p = m.find? q := by
  have : (fun e : Path × α => decide (e.1.Same p)) = fun e => decide (e.1.Same q) := by
    funext e
    exact decide_eq_decide.2 ⟨fun k => k.trans h, fun k => k.trans h.symm⟩
  simp only [find?, this]

/-- The value at a path is that of its entry. -/
theorem find?_eq_binding? (m : PathMap α) (p : Path) :
    m.find? p = (m.binding? p).map Prod.snd := rfl

/-- A key that was written has what was written and the spelling it had before, if it was
a key then.  The other entries are as they were. -/
theorem binding?_insert (m : PathMap α) (p q : Path) (v : α) :
    (m.insert p v).binding? q =
      if p.Same q then some (((m.binding? p).map Prod.fst).getD p, v) else m.binding? q := by
  obtain ⟨entries, asc⟩ := m
  simp only [binding?, insert]
  induction entries with
  | nil => by_cases h : p.Same q <;> simp [insertInto, h]
  | cons hd rest ih =>
      obtain ⟨r, w⟩ := hd
      obtain ⟨before, others⟩ := List.pairwise_cons.1 asc
      simp only [insertInto]
      split
      · next lt =>
        -- A key that comes first comes before the rest as well.
        have absent : ((r, w) :: rest).find? (fun e => e.1.Same p) = none := by
          refine List.find?_eq_none.2 fun e he same => ?_
          refine Path.not_same_of_lt ?_ (of_decide_eq_true same).symm
          rcases List.mem_cons.1 he with rfl | he
          · exact lt
          · exact Path.compare_lt_trans lt (before e he)
        rw [absent, List.find?_cons]
        by_cases h : p.Same q <;> simp [h]
      · next eq =>
        have same := Path.compare_eq_iff_same.1 eq
        by_cases h : p.Same q
        · simp [h, same.symm, same.symm.trans h]
        · have : ¬ r.Same q := fun k => h (same.trans k)
          simp [h, this]
      · next gt =>
        have differ : ¬ p.Same r := fun k => by
          rw [Path.compare_eq_iff_same.2 k] at gt
          cases gt
        have other : ¬ r.Same p := fun k => differ k.symm
        by_cases h : r.Same q
        · have : ¬ p.Same q := fun k => differ (k.trans h.symm)
          simp [h, this]
        · simpa [h, other] using ih others

/-- A key that was written holds what was written, and the others are as they
were. -/
theorem find?_insert (m : PathMap α) (p q : Path) (v : α) :
    (m.insert p v).find? q = if p.Same q then some v else m.find? q := by
  rw [find?_eq_binding?, binding?_insert]
  split <;> rfl

/-- An erased key has no entry, and the other entries are as they were. -/
theorem binding?_erase (m : PathMap α) (p q : Path) :
    (m.erase p).binding? q = if p.Same q then none else m.binding? q := by
  obtain ⟨entries, asc⟩ := m
  simp only [binding?, erase]
  clear asc
  induction entries with
  | nil => simp
  | cons hd rest ih =>
      obtain ⟨r, w⟩ := hd
      by_cases hr : r.Same p
      · by_cases h : p.Same q
        · simpa [hr, h] using ih
        · have : ¬ r.Same q := fun k => h (hr.symm.trans k)
          simpa [hr, h, this] using ih
      · by_cases hq : r.Same q
        · have : ¬ p.Same q := fun k => hr (hq.trans k.symm)
          simp [hr, hq, this]
        · simpa [hr, hq] using ih

/-- An erased key holds nothing, and the others are as they were. -/
theorem find?_erase (m : PathMap α) (p q : Path) :
    (m.erase p).find? q = if p.Same q then none else m.find? q := by
  rw [find?_eq_binding?, binding?_erase]
  split <;> rfl

end PathMap

end PatchLint
