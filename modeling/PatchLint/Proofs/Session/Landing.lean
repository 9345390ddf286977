import Mathlib.Data.List.Pairwise
import PatchLint.Proofs.Report
import PatchLint.Proofs.Store

/-!
# What a landing leaves in the store

A check's records are grouped by the file the checker named, and kept under the
path that the name stands for.  Two names may stand for one path, and then there
are two groups with one key: both are written, the later over the earlier.

So whether all findings arrive is a matter of spelling.  As long as no path is
spelled in two ways (`Running.SpelledOnce`), each key holds its findings and is
listed once; otherwise neither is true (`Session.keeps_findings_iff_spelledOnce`).
-/

namespace PatchLint

namespace Running

/-- The records of a check, in the order of its checker's output. -/
def records (check : Running) : List Record :=
  (check.layout.findings check.output.outText.toList).map
    (Record.ofFinding check.resolved.config.level)

/-- The path that a record is kept under. -/
def keyOf (check : Running) (r : Record) : Path := check.target.keyOf r.file

/-- No path is spelled in two ways. -/
def SpelledOnce (check : Running) : Prop :=
  ∀ a ∈ check.records, ∀ b ∈ check.records, (check.keyOf a).Same (check.keyOf b) → a.file = b.file

instance (check : Running) : Decidable check.SpelledOnce :=
  inferInstanceAs (Decidable (∀ a ∈ _, ∀ b ∈ _, _ → _))

variable (check : Running)

theorem grouped : Report.Grouped check.records check.report.groups :=
  Report.grouped_ofRecords check.records

/-- The keys of a check's groups. -/
def keys : List Path := check.report.groups.map fun g => check.target.keyOf g.file

/-- Each group has a record that names its file. -/
theorem exists_record {g : FileGroup} (hg : g ∈ check.report.groups) :
    ∃ r ∈ check.records, r.file = g.file := by
  obtain ⟨r, rest, records⟩ := List.exists_cons_of_ne_nil (check.grouped.written g hg)
  have mem : r ∈ g.records := records ▸ List.mem_cons_self
  rw [check.grouped.records g hg] at mem
  obtain ⟨mem, named⟩ := List.mem_filter.1 mem
  exact ⟨r, mem, of_decide_eq_true named⟩

theorem exists_key_iff {p : Path} :
    (∃ k ∈ check.keys, k.Same p) ↔ ∃ r ∈ check.records, (check.keyOf r).Same p := by
  constructor
  · rintro ⟨k, hk, same⟩
    obtain ⟨g, hg, rfl⟩ := List.mem_map.1 hk
    obtain ⟨r, hr, named⟩ := check.exists_record hg
    refine ⟨r, hr, ?_⟩
    rw [keyOf, named]
    exact same
  · rintro ⟨r, hr, same⟩
    obtain ⟨g, hg, named⟩ := check.grouped.named r hr
    refine ⟨_, List.mem_map_of_mem hg, ?_⟩
    rw [named]
    exact same

/-- Groups have keys of their own exactly when no path is spelled in two ways. -/
theorem spelledOnce_iff_pairwise :
    check.SpelledOnce ↔ check.keys.Pairwise fun k l => ¬ k.Same l := by
  rw [keys, List.pairwise_map]
  constructor
  · intro once
    refine check.grouped.distinct.imp_of_mem ?_
    intro g h hg hh differ same
    obtain ⟨a, ha, first⟩ := check.exists_record hg
    obtain ⟨b, hb, second⟩ := check.exists_record hh
    refine differ (first.symm.trans ((once a ha b hb ?_).trans second))
    rw [keyOf, keyOf, first, second]
    exact same
  · intro apart a ha b hb same
    obtain ⟨g, hg, first⟩ := check.grouped.named a ha
    obtain ⟨h, hh, second⟩ := check.grouped.named b hb
    rw [keyOf, keyOf, ← first, ← second] at same
    have symmetric : Std.Symm fun g h : FileGroup =>
        ¬ (check.target.keyOf g.file).Same (check.target.keyOf h.file) :=
      ⟨fun _ _ differ same => differ same.symm⟩
    by_contra differ
    refine apart.forall hg hh ?_ same
    rintro rfl
    exact differ (first.symm.trans second)

/-- The records of a path are those of one name if the path has one spelling. -/
theorem SpelledOnce.filter_eq {check : Running} (once : check.SpelledOnce) {r : Record}
    (hr : r ∈ check.records) {p : Path} (own : (check.keyOf r).Same p) :
    (check.records.filter fun q => (check.keyOf q).Same p) =
      check.records.filter fun q => q.file = r.file := by
  refine List.filter_congr ?_
  intro q hq
  refine decide_eq_decide.2 ⟨?_, ?_⟩
  · intro same
    exact once q hq r hr (same.trans own.symm)
  · intro named
    rw [keyOf, named]
    exact own

/-! ## The store after landing -/

variable (s : Session)

/-- A key holds the records of one of its spellings. -/
theorem find?_land {p : Path} (key : ∃ k ∈ check.keys, k.Same p) :
    ∃ r ∈ check.records, (check.keyOf r).Same p ∧
      (s.land check).store.find? p = some (check.records.filter fun q => q.file = r.file) := by
  obtain ⟨k, hk, same⟩ := key
  obtain ⟨g, hg, rfl⟩ := List.mem_map.1 hk
  -- Groups of one key are written one over the other, so the last of them stays.
  have found : (check.report.groups.reverse.find? fun g =>
      (check.target.keyOf g.file).Same p).isSome := by
    rw [List.find?_isSome]
    exact ⟨g, List.mem_reverse.2 hg, decide_eq_true same⟩
  obtain ⟨last, found⟩ := Option.isSome_iff_exists.1 found
  have own : (check.target.keyOf last.file).Same p := by simpa using List.find?_some found
  have mem : last ∈ check.report.groups := List.mem_reverse.1 (List.mem_of_find?_eq_some found)
  obtain ⟨r, hr, named⟩ := check.exists_record mem
  refine ⟨r, hr, ?_, ?_⟩
  · rw [keyOf, named]
    exact own
  · show (Store.writeGroups _ _ _).find? p = _
    rw [Store.find?_writeGroups_eq _ _ p check.grouped.written, found, named,
      ← check.grouped.records last mem]
    rfl

/-- A path that is no key holds what was left when room was made. -/
theorem find?_land_of_not_key {p : Path} (other : ¬ ∃ k ∈ check.keys, k.Same p) :
    (s.land check).store.find? p = (s.store.makeRoom check.target).find? p := by
  have absent : (check.report.groups.reverse.find? fun g =>
      (check.target.keyOf g.file).Same p) = none := by
    refine List.find?_eq_none.2 fun g hg own => other ?_
    exact ⟨_, List.mem_map_of_mem (List.mem_reverse.1 hg), of_decide_eq_true own⟩
  show (Store.writeGroups _ _ _).find? p = _
  rw [Store.find?_writeGroups_eq _ _ p check.grouped.written, absent]
  rfl

/-- A key holds all its records exactly when no path is spelled in two ways. -/
theorem spelledOnce_iff_find? :
    check.SpelledOnce ↔ ∀ k ∈ check.keys, (s.land check).store.find? k =
      some (check.records.filter fun r => (check.keyOf r).Same k) := by
  constructor
  · intro once k hk
    obtain ⟨r, hr, own, held⟩ := check.find?_land s ⟨k, hk, .rfl⟩
    rw [held, once.filter_eq hr own]
  · intro kept a ha b hb same
    obtain ⟨k, hk, own⟩ := check.exists_key_iff.2 ⟨b, hb, .rfl⟩
    -- The key holds the records of one name only, and both records are among them.
    obtain ⟨r, -, -, held⟩ := check.find?_land s ⟨k, hk, .rfl⟩
    have one := Option.some.inj (held.symm.trans (kept k hk))
    have named : ∀ q ∈ check.records, (check.keyOf q).Same k → q.file = r.file := by
      intro q hq same
      have mem : q ∈ check.records.filter fun q => q.file = r.file :=
        one ▸ List.mem_filter.2 ⟨hq, decide_eq_true same⟩
      exact of_decide_eq_true (List.mem_filter.1 mem).2
    exact (named a ha (same.trans own.symm)).trans (named b hb own.symm).symm

/-- No record is lost when no path is spelled in two ways. -/
theorem length_land (once : check.SpelledOnce) :
    (check.keys.flatMap (s.land check).store.get).length = check.records.length := by
  have held : ∀ g ∈ check.report.groups,
      (s.land check).store.get (check.target.keyOf g.file) = g.records := by
    intro g hg
    have mem : check.target.keyOf g.file ∈ check.keys := List.mem_map_of_mem hg
    obtain ⟨r, hr, named⟩ := check.exists_record hg
    have own : (check.keyOf r).Same (check.target.keyOf g.file) := by
      rw [keyOf, named]
      exact .rfl
    rw [Store.get, (check.spelledOnce_iff_find? s).1 once _ mem, once.filter_eq hr own, named,
      check.grouped.records g hg]
    rfl
  have all : check.keys.flatMap (s.land check).store.get =
      check.report.groups.flatMap FileGroup.records := by
    rw [keys, List.flatMap_map]
    exact List.flatMap_congr held
  rw [all, check.grouped.total]

end Running

namespace Session

/-- Only a check that lands completes. -/
theorem finish_completed {s : Session} {check : Running} {findings : Nat} {files : List Path}
    (completed : (s.finish check).1 = .completed findings files) :
    findings = check.records.length ∧ files = check.keys ∧ (s.finish check).2.1 = s.land check := by
  have total : check.report.total = check.records.length := check.grouped.total
  unfold finish at completed ⊢
  split at completed
  · cases completed
  · next runs =>
    split at completed
    · next held =>
      cases completed
      refine ⟨total, rfl, ?_⟩
      rw [if_neg runs, if_pos held]
    · cases completed

/-- A check that lands reports the number of its findings, and the paths that its
findings name.  Each path holds the findings under one of its names.  That these
are all the findings of the path, and that each path is reported once, comes to the
same: that no path is spelled in two ways.  Then the findings that are held are as
many as were reported. -/
theorem keeps_findings_iff_spelledOnce (s : Session) (check : Running) {findings : Nat}
    {files : List Path} (completed : (s.finish check).1 = .completed findings files) :
    let store := (s.finish check).2.1.store
    findings = check.records.length ∧
    (∀ p, (∃ k ∈ files, k.Same p) ↔ ∃ r ∈ check.records, (check.keyOf r).Same p) ∧
    (∀ p, (∃ k ∈ files, k.Same p) → ∃ r ∈ check.records, (check.keyOf r).Same p ∧
      store.find? p = some (check.records.filter fun q => q.file = r.file)) ∧
    (check.SpelledOnce ↔ ∀ k ∈ files, store.find? k =
      some (check.records.filter fun r => (check.keyOf r).Same k)) ∧
    (check.SpelledOnce ↔ files.Pairwise fun k l => ¬ k.Same l) ∧
    (check.SpelledOnce → (files.flatMap store.get).length = findings) := by
  intro store
  obtain ⟨rfl, rfl, landed⟩ := finish_completed completed
  have stored : store = (s.land check).store := congrArg Session.store landed
  rw [stored]
  exact ⟨rfl, fun p => check.exists_key_iff, fun p => check.find?_land s,
    check.spelledOnce_iff_find? s, check.spelledOnce_iff_pairwise, check.length_land s⟩

/-- Two files of a commit keep what was found in them, and so do two findings of one
file. -/
theorem spelled_once_is_kept :
    let text := "a.c:1: ERROR:X: one\nb.c:3: ERROR:X: one\na.c:2: ERROR:Y: two\n"
    let entered := new.enter (new.plan (.commit (.ofString "/r") "1f")) ⟨Text.Utf8.encode text, [], 0⟩
    let landed := entered.2.finish entered.1
    landed.1 = .completed 3 [.ofString "/r/a.c", .ofString "/r/b.c"] ∧
      (landed.2.1.store.get (.ofString "/r/a.c")).map (·.code) = ["X", "Y"] ∧
      ([.ofString "/r/a.c", .ofString "/r/b.c"].flatMap landed.2.1.store.get).length = 3 := by
  intro text entered landed
  have completed : landed.1 = .completed 3 [.ofString "/r/a.c", .ofString "/r/b.c"] := by
    decide +kernel
  obtain ⟨-, -, -, kept, -, all⟩ := keeps_findings_iff_spelledOnce entered.2 entered.1 completed
  have once : entered.1.SpelledOnce := by decide +kernel
  refine ⟨completed, ?_, all once⟩
  rw [Store.get, kept.1 once _ List.mem_cons_self]
  decide +kernel

/-- A checker that spells a file in two ways has one of its findings lost, and the
file is reported twice. -/
theorem respelled_finding_is_lost :
    let text := "a.c:1: ERROR:X: one\n./a.c:2: ERROR:Y: two\n"
    let entered := new.enter (new.plan (.commit (.ofString "/r") "1f")) ⟨Text.Utf8.encode text, [], 0⟩
    let landed := entered.2.finish entered.1
    landed.1 = .completed 2 [.ofString "/r/a.c", .ofString "/r/./a.c"] ∧
      (Path.ofString "/r/a.c").Same (.ofString "/r/./a.c") ∧
      (entered.1.records.filter fun r => (entered.1.keyOf r).Same (.ofString "/r/a.c")).length = 2 ∧
      (landed.2.1.store.get (.ofString "/r/a.c")).map (·.code) = ["Y"] ∧
      landed.2.1.store.total = 1 := by
  decide +kernel

end Session

end PatchLint
