import PatchLint.Proofs.Since
import PatchLint.Proofs.Store
import PatchLint.Store.Course

/-!
# Replaying changes

A host that replays every batch of changes has what the store had when its changes
were taken last, and a batch names the files whose entries were written or removed
since the changes were taken before (`Store.replayed_eq_stored`).

A batch reports the state of a file at the moment it is taken, however often the file
has changed.  What makes up for that is that a file that is not counted as touched is
replayed as it is stored (`Store.Mirrors`): this holds after every action.
-/

namespace PatchLint

namespace Store

/-! ## Entries are never empty -/

/-- No file has an entry without records. -/
def Filled (s : Store) : Prop := ∀ p, s.find? p ≠ some []

theorem Filled.delete {s : Store} (h : s.Filled) (p : Path) : (s.delete p).Filled := by
  intro q found
  exact h q (find?_of_delete found)

theorem Filled.set {s : Store} (h : s.Filled) (p : Path) (records : List Record) :
    (s.set p records).Filled := by
  intro q found
  rw [find?_set] at found
  split at found
  · split at found
    · cases found
    · next written => exact written (Option.some.inj found)
  · exact h q found

theorem Filled.clear (s : Store) : s.clear.Filled := fun _ => nofun

theorem Filled.makeRoom {s : Store} (h : s.Filled) (t : Target) : (s.makeRoom t).Filled := by
  cases t with
  | file path => exact h.delete path
  | commit repository hash => exact .clear s

theorem Filled.writeGroups {s : Store} (h : s.Filled) (t : Target) (groups : List FileGroup) :
    (s.writeGroups t groups).Filled := by
  induction groups generalizing s with
  | nil => exact h
  | cons g gs ih => exact ih (h.set (t.keyOf g.file) g.records)

theorem Filled.act {s : Store} (h : s.Filled) (a : Action) : (s.act a).Filled := by
  cases a with
  | set p records => exact h.set p records
  | delete p => exact h.delete p
  | clear => exact .clear s
  | take => exact h

theorem filled_run (as : List Action) : (empty.run as).Filled := by
  induction as using List.reverseRecOn with
  | nil => exact fun p => nofun
  | append_singleton as a ih =>
    rw [run_concat]
    exact ih.act a

theorem Filled.get_eq_nil_iff {s : Store} (h : s.Filled) {p : Path} :
    s.get p = [] ↔ s.find? p = none := by
  cases found : s.find? p with
  | none => simp [get, found]
  | some records =>
    have written : records ≠ [] := fun none => h p (none ▸ found)
    simp [get, found, written]

theorem Filled.ne_nil_of_mem {s : Store} (h : s.Filled) {e : Path × List Record}
    (mem : e ∈ s.entries.entries) : e.2 ≠ [] :=
  fun none => h e.1 (none ▸ PathMap.find?_of_mem mem)

/-- There are no records exactly when there are no entries. -/
theorem Filled.total_eq_zero_iff {s : Store} (h : s.Filled) : s.total = 0 ↔ s.isEmpty := by
  rw [isEmpty, PathMap.isEmpty, List.isEmpty_iff, total, List.length_eq_zero_iff,
    List.flatMap_eq_nil_iff, List.eq_nil_iff_forall_not_mem]
  exact forall₂_congr fun e mem => iff_of_false (h.ne_nil_of_mem mem) not_false

/-! ## Replaying a batch -/

theorem find?_replay_one (shown : PathMap (List Record)) (c : Change) (q : Path) :
    (replay shown [c]).find? q =
      if c.path.Same q then (if c.records = [] then none else some c.records)
      else shown.find? q := by
  simp only [replay, List.foldl_cons, List.foldl_nil]
  split
  · simp [PathMap.find?_erase]
  · simp [PathMap.find?_insert]

/-- Changes that report the state of a store leave the reported files as they are
stored, and the others as they were. -/
theorem find?_replay {s : Store} (filled : s.Filled) {batch : List Change}
    (own : ∀ c ∈ batch, c.records = s.get c.path) (shown : PathMap (List Record)) (q : Path) :
    (replay shown batch).find? q =
      if ∃ c ∈ batch, c.path.Same q then s.find? q else shown.find? q := by
  induction batch generalizing shown with
  | nil => simp [replay]
  | cons c rest ih =>
    obtain ⟨first, others⟩ := List.forall_mem_cons.1 own
    have next : replay shown (c :: rest) = replay (replay shown [c]) rest := rfl
    rw [next, ih others, find?_replay_one]
    by_cases later : ∃ c ∈ rest, c.path.Same q
    · simp [later]
    · by_cases same : c.path.Same q
      · have stored : (if c.records = [] then none else some c.records) = s.find? q := by
          rw [first, s.get_congr same]
          split
          · next none => exact (filled.get_eq_nil_iff.1 none).symm
          · next written =>
            cases found : s.find? q with
            | none => exact absurd (filled.get_eq_nil_iff.2 found) written
            | some records => simp [get, found]
        simp [later, same, stored]
      · simp [later, same]

theorem find?_replay_changes {s : Store} (filled : s.Filled) (shown : PathMap (List Record))
    (q : Path) : (replay shown s.changes).find? q =
      if s.touched.find? q = none then shown.find? q else s.find? q := by
  have own : ∀ c ∈ s.changes, c.records = s.get c.path := by
    intro c hc
    obtain ⟨p, -, rfl⟩ := List.mem_map.1 hc
    rfl
  rw [find?_replay filled own]
  simp only [exists_change_iff, ne_eq, ite_not]

theorem pairwise_changes (s : Store) :
    s.changes.Pairwise fun c d => c.path.compare d.path = .lt := by
  rw [changes, PathMap.keys, List.pairwise_map, List.pairwise_map]
  exact s.touched.ascending

/-! ## Replaying every batch -/

/-- A file that is not counted as touched is shown as it is stored. -/
def Mirrors (shown : PathMap (List Record)) (s : Store) : Prop :=
  ∀ p, s.touched.find? p = none → shown.find? p = s.find? p

theorem Mirrors.noted {shown : PathMap (List Record)} {s t : Store} (h : Mirrors shown s)
    (notes : s.Notes t) : Mirrors shown t := by
  intro p untouched
  obtain ⟨before, same⟩ := notes p untouched
  rw [same]
  exact h p before

/-- Replaying what is taken makes up for all that was touched. -/
theorem Mirrors.find?_replay {shown : PathMap (List Record)} {s : Store} (h : Mirrors shown s)
    (filled : s.Filled) (p : Path) : (replay shown s.changes).find? p = s.find? p := by
  rw [find?_replay_changes filled]
  split
  · next untouched => exact h p untouched
  · rfl

theorem replayed_append (bs more : List (List Change)) :
    replayed (bs ++ more) = more.foldl replay (replayed bs) :=
  List.foldl_append

theorem mirrors_run (as : List Action) :
    Mirrors (replayed (empty.batches as)) (empty.run as) := by
  induction as using List.reverseRecOn with
  | nil => exact fun p _ => rfl
  | append_singleton as a ih =>
    rw [batches_append, replayed_append, run_concat]
    cases a with
    | set p records => exact ih.noted (notes_set _ p records)
    | delete p => exact ih.noted (notes_delete _ p)
    | clear => exact ih.noted (notes_clear _)
    | take => exact fun p _ => ih.find?_replay (filled_run as) p

theorem batches_eq_nil {as : List Action} (none : ∀ a ∈ as, a ≠ .take) (s : Store) :
    s.batches as = [] := by
  induction as generalizing s with
  | nil => rfl
  | cons a as ih =>
    obtain ⟨first, others⟩ := List.forall_mem_cons.1 none
    have silent : s.batch? a = Option.none := by
      cases a with
      | take => exact absurd rfl first
      | _ => rfl
    simp [batches, silent, ih others]

/-! ## What is touched -/

theorem contains_eq_false_iff {s : Store} {p : Path} :
    s.entries.contains p = false ↔ s.find? p = none :=
  Option.isSome_eq_false_iff.trans Option.isNone_iff_eq_none

theorem delete_of_absent {s : Store} {p : Path} (absent : s.find? p = none) :
    s.delete p = s := by
  simp [delete, contains_eq_false_iff.2 absent]

theorem touched_delete (s : Store) (p q : Path) :
    (s.delete p).touched.find? q = none ↔
      ¬ (p.Same q ∧ s.find? p ≠ none) ∧ s.touched.find? q = none := by
  by_cases absent : s.find? p = none
  · simp [delete_of_absent absent, absent]
  · have present : s.entries.contains p = true :=
      eq_true_of_ne_false (mt contains_eq_false_iff.1 absent)
    simp [delete, present, absent, PathMap.find?_insert_eq_none_iff]

theorem touched_act (s : Store) (a : Action) (p : Path) :
    (s.act a).touched.find? p = none ↔
      ¬ s.Touches p a ∧ (a = .take ∨ s.touched.find? p = none) := by
  cases a with
  | set q records =>
    by_cases none : records = []
    · simp [Store.act, set, Touches, none, touched_delete]
    · simp [Store.act, set, Touches, none, PathMap.find?_insert_eq_none_iff]
  | delete q => simp [Store.act, Touches, touched_delete]
  | clear =>
    have cleared : s.clear.touched.find? p = none ↔ _ :=
      PathMap.find?_foldl_insert_eq_none_iff
    rw [Store.act, cleared, ← PathMap.find?_eq_none_iff, Touches, not_not, find?]
    simp [and_comm]
  | take => exact iff_of_true rfl ⟨not_false, .inl rfl⟩

/-- The entry of a path was written or removed since the changes were taken last. -/
def TouchedLately (as : List Action) (p : Path) : Prop :=
  ∃ earlier a later, as = earlier ++ a :: later ∧ (empty.run earlier).Touches p a ∧
    ∀ b ∈ later, b ≠ .take

theorem touchedLately_concat {as : List Action} {a : Action} {p : Path} :
    TouchedLately (as ++ [a]) p ↔
      (empty.run as).Touches p a ∨ TouchedLately as p ∧ a ≠ .take :=
  exists_since_concat

theorem touched_run (as : List Action) (p : Path) :
    (empty.run as).touched.find? p ≠ none ↔ TouchedLately as p := by
  induction as using List.reverseRecOn with
  | nil =>
    refine iff_of_false (fun touched => touched rfl) ?_
    rintro ⟨earlier, a, later, split, -⟩
    simp at split
  | append_singleton as a ih =>
    rw [run_concat, touchedLately_concat, ← ih, ne_eq, touched_act]
    tauto

/-! ## Replaying is storing -/

/-- Whatever is done to a store, the batch of changes that is taken lists its files in
path order, and these are the files whose entries were written or removed since the
changes were taken before.  A host that replays every batch has what the store had when
the last of them was taken.  Nothing is noted when a file without an entry is deleted,
and nothing is left to be taken right after the changes were taken. -/
theorem replayed_eq_stored (before after : List Action) :
    let s := empty.run before
    let batches := empty.batches (before ++ .take :: after)
    batches = empty.batches before ++ s.changes :: s.taken.batches after ∧
    (s.changes.Pairwise fun c d => c.path.compare d.path = .lt) ∧
    (∀ p, (∃ c ∈ s.changes, c.path.Same p) ↔ TouchedLately before p) ∧
    ((∀ a ∈ after, a ≠ .take) → ∀ p, (replayed batches).find? p = s.find? p) ∧
    (∀ p, s.find? p = none → s.delete p = s) ∧ s.taken.changes = [] := by
  intro s batches
  have split : batches = empty.batches before ++ s.changes :: s.taken.batches after :=
    batches_append empty before (.take :: after)
  refine ⟨split, pairwise_changes s, ?_, ?_, fun p => delete_of_absent, rfl⟩
  · intro p
    rw [exists_change_iff, touched_run]
  · intro last p
    rw [split, batches_eq_nil last, replayed_append]
    exact (mirrors_run before).find?_replay (filled_run before) p

/-- A file that was cleared is removed, and one that was set again under another
spelling has its new records. -/
theorem cleared_and_set_again :
    let r : Record := ⟨⟨"a.c", 1, .error, "SPACING", "space"⟩, .information⟩
    let before : List Action :=
      [.set (.ofString "/a.c") [r], .set (.ofString "/b.c") [r], .take, .clear,
        .set (.ofString "//b.c") [r, r], .delete (.ofString "/c.c")]
    let shown := replayed (empty.batches (before ++ [.take, .delete (.ofString "/b.c")]))
    shown.find? (.ofString "/a.c") = none ∧ shown.find? (.ofString "/b.c") = some [r, r] := by
  intro r before shown
  have replays := (replayed_eq_stored before [.delete (.ofString "/b.c")]).2.2.2.1 (by decide)
  rw [replays, replays]
  decide +kernel

end Store

end PatchLint
