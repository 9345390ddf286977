import PatchLint.Finding
import PatchLint.Path.Map

/-!
# The store of diagnostics

The diagnostics shown for each file.  A write replaces the whole entry of a
file, and an entry is never empty: writing no records erases it.  The store
remembers which files were touched since the changes were last taken, so that
a host can publish exactly those; `Store.replay` is what such a host has.

Main statements: what a file holds after each operation (`find?_set`,
`find?_delete`, `find?_clear`).
-/

namespace PatchLint

/-- The current diagnostics, and the files touched since they were last taken. -/
structure Store where
  /-- The records of each file that has any. -/
  entries : PathMap (List Record)
  /-- The files touched. -/
  touched : PathMap Unit
deriving Inhabited

/-- The present records of a touched file, none if it has no entry. -/
structure Change where
  /-- The file, spelled as it was touched first. -/
  path : Path
  records : List Record
deriving DecidableEq, Repr

namespace Store

/-- The store without entries and without changes. -/
def empty : Store := ⟨∅, ∅⟩

/-- The records of a file that has an entry. -/
def find? (s : Store) (p : Path) : Option (List Record) := s.entries.find? p

/-- The records of a file, none if it has no entry. -/
def get (s : Store) (p : Path) : List Record := (s.find? p).getD []

/-- The entry of a file removed.  A file without an entry is not touched. -/
def delete (s : Store) (p : Path) : Store :=
  if s.entries.contains p then ⟨s.entries.erase p, s.touched.insert p ()⟩ else s

/-- The entry of a file replaced.  No records remove it. -/
def set (s : Store) (p : Path) (records : List Record) : Store :=
  if records = [] then s.delete p
  else ⟨s.entries.insert p records, s.touched.insert p ()⟩

/-- Every entry removed. -/
def clear (s : Store) : Store :=
  ⟨∅, s.entries.keys.foldl (fun t p => t.insert p ()) s.touched⟩

/-- The files with an entry, in path order. -/
def keys (s : Store) : List Path := s.entries.keys

/-- The number of files with an entry. -/
def size (s : Store) : Nat := s.entries.size

/-- The number of records. -/
def total (s : Store) : Nat := (s.entries.entries.flatMap Prod.snd).length

/-- A store without entries. -/
def isEmpty (s : Store) : Bool := s.entries.isEmpty

/-- The present state of every touched file, in path order. -/
def changes (s : Store) : List Change := s.touched.keys.map fun p => ⟨p, s.get p⟩

/-- The store with no file counted as touched. -/
def taken (s : Store) : Store := { s with touched := ∅ }

/-- What a host has after one more batch of changes: a file with records is
written and a file without is removed. -/
def replay (shown : PathMap (List Record)) (batch : List Change) : PathMap (List Record) :=
  batch.foldl
    (fun m c => if c.records = [] then m.erase c.path else m.insert c.path c.records) shown

/-! ## Laws -/

@[simp] theorem find?_empty (p : Path) : empty.find? p = none := rfl

/-- A deleted file has no entry, and the others are as they were. -/
theorem find?_delete (s : Store) (p q : Path) :
    (s.delete p).find? q = if p.Same q then none else s.find? q := by
  simp only [delete, find?]
  split
  · exact PathMap.find?_erase ..
  · next absent =>
    by_cases h : p.Same q
    · have : s.entries.find? p = none := by simpa [PathMap.contains] using absent
      simp [h, ← PathMap.find?_congr s.entries h, this]
    · simp [h]

/-- A file that was set holds its records unless there are none, and the others
are as they were. -/
theorem find?_set (s : Store) (p q : Path) (records : List Record) :
    (s.set p records).find? q =
      if p.Same q then (if records = [] then none else some records) else s.find? q := by
  simp only [set]
  split
  · simp [find?_delete]
  · simp [find?, PathMap.find?_insert]

/-- Nothing is left after clearing. -/
theorem find?_clear (s : Store) (q : Path) : s.clear.find? q = none := rfl

end Store

end PatchLint
