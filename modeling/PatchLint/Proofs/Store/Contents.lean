import PatchLint.Proofs.Store.Replay

/-!
# What a store holds

Whatever is done to a store, it is a finite map from files to records, and none of its
entries is empty.  A file holds what was set last, under any of its spellings, unless
that was nothing or the file was deleted or the store cleared since
(`Store.find?_run_eq_some_iff`).  The keys and the numbers that a host reports agree with
this (`Store.holds_last_set`).
-/

namespace PatchLint

namespace Store

/-- The action sets the records of a path, under some spelling of it. -/
def Action.Sets (p : Path) (records : List Record) : Action → Prop
  | .set q written => q.Same p ∧ written = records
  | _ => False

/-- After the action nothing is left of what a path held before. -/
def Action.Overrides (p : Path) : Action → Prop
  | .set q _ => q.Same p
  | .delete q => q.Same p
  | .clear => True
  | .take => False

/-- The records are what was set last for a path, and they were neither deleted nor
cleared since. -/
def LastSet (as : List Action) (p : Path) (records : List Record) : Prop :=
  ∃ earlier a later, as = earlier ++ a :: later ∧ a.Sets p records ∧
    ∀ b ∈ later, ¬ b.Overrides p

theorem lastSet_concat {as : List Action} {a : Action} {p : Path} {records : List Record} :
    LastSet (as ++ [a]) p records ↔ a.Sets p records ∨ LastSet as p records ∧ ¬ a.Overrides p :=
  exists_since_concat

/-! ## Entries -/

/-- A path holds what an action sets, if that is anything, or what it held before, if the
action leaves it alone. -/
theorem find?_act_eq_some_iff {s : Store} {a : Action} {p : Path} {records : List Record} :
    (s.act a).find? p = some records ↔
      a.Sets p records ∧ records ≠ [] ∨ s.find? p = some records ∧ ¬ a.Overrides p := by
  cases a with
  | set q written =>
    have found : (s.act (.set q written)).find? p = _ := find?_set s q p written
    rw [found]
    by_cases same : q.Same p
    · by_cases none : written = []
      · simp [Action.Sets, Action.Overrides, same, none, eq_comm]
      · simp only [same, none, if_true, if_false, Option.some.injEq, Action.Sets,
          Action.Overrides, true_and, not_true, and_false, or_false]
        constructor
        · rintro rfl
          exact ⟨rfl, none⟩
        · exact And.left
    · simp [Action.Sets, Action.Overrides, same]
  | delete q =>
    have found : (s.act (.delete q)).find? p = _ := find?_delete s q p
    rw [found]
    by_cases same : q.Same p
    · simp [Action.Sets, Action.Overrides, same]
    · simp [Action.Sets, Action.Overrides, same]
  | clear =>
    have found : (s.act .clear).find? p = none := find?_clear s p
    simp [found, Action.Sets, Action.Overrides]
  | take =>
    have found : (s.act .take).find? p = s.find? p := rfl
    simp [found, Action.Sets, Action.Overrides]

theorem find?_run_eq_some_iff (as : List Action) (p : Path) (records : List Record) :
    (empty.run as).find? p = some records ↔ LastSet as p records ∧ records ≠ [] := by
  induction as using List.reverseRecOn with
  | nil =>
    refine iff_of_false nofun ?_
    rintro ⟨⟨earlier, a, later, split, -⟩, -⟩
    simp at split
  | append_singleton as a ih =>
    rw [run_concat, find?_act_eq_some_iff, ih, lastSet_concat]
    tauto

/-! ## Numbers -/

/-- The records of all files are those of one after the other, in path order. -/
theorem total_eq_foldr (s : Store) :
    s.total = s.keys.foldr (fun p n => (s.get p).length + n) 0 := by
  suffices counted : ∀ l : List (Path × List Record), (∀ e ∈ l, s.get e.1 = e.2) →
      (l.flatMap Prod.snd).length =
        (l.map Prod.fst).foldr (fun p n => (s.get p).length + n) 0 by
    refine counted s.entries.entries fun e mem => ?_
    rw [get, find?, PathMap.find?_of_mem mem, Option.getD_some]
  intro l
  induction l with
  | nil => exact fun _ => rfl
  | cons e l ih =>
    intro held
    obtain ⟨first, others⟩ := List.forall_mem_cons.1 held
    rw [List.flatMap_cons, List.length_append, ih others, List.map_cons, List.foldr_cons, first]

theorem pairwise_keys (s : Store) : s.keys.Pairwise fun p q => p.compare q = .lt := by
  rw [keys, PathMap.keys, List.pairwise_map]
  exact s.entries.ascending

/-- Whatever is done to a store, a path holds the records that were set last for it,
unless there were none or they were deleted or cleared since; the keys are the paths that
hold something, each of them once and in path order; and the numbers of keys and records
are those of the entries, with no records exactly when there is no entry. -/
theorem holds_last_set (as : List Action) :
    let s := empty.run as
    (∀ p records, s.find? p = some records ↔ LastSet as p records ∧ records ≠ []) ∧
    (s.keys.Pairwise fun p q => p.compare q = .lt) ∧
    (∀ p, (∃ k ∈ s.keys, k.Same p) ↔ ∃ records, s.find? p = some records) ∧
    s.size = s.keys.length ∧
    s.total = s.keys.foldr (fun p n => (s.get p).length + n) 0 ∧
    (s.isEmpty ↔ s.total = 0) := by
  intro s
  have present : ∀ p, (∃ k ∈ s.keys, k.Same p) ↔ ∃ records, s.find? p = some records := by
    intro p
    rw [← Option.ne_none_iff_exists']
    exact PathMap.find?_ne_none_iff.symm
  have counted : s.size = s.keys.length := by
    rw [size, PathMap.size, keys, PathMap.keys, List.length_map]
  exact ⟨find?_run_eq_some_iff as, pairwise_keys s, present, counted, total_eq_foldr s,
    (filled_run as).total_eq_zero_iff.symm⟩

example :
    let r : Record := ⟨⟨"a.c", 1, .error, "SPACING", "space"⟩, .information⟩
    (empty.run [.set (.ofString "/a.c") [r], .set (.ofString "//a.c") []]).isEmpty := by
  decide +kernel

end Store

end PatchLint
