import Mathlib.Data.List.Induction
import Mathlib.Data.List.Nodup
import PatchLint.Report

/-!
# Where records come from

Grouping a list of records by file loses none and invents none.  There is one group
for each file that is named, with the records that name it, in the order of the list
(`Report.grouped_ofRecords`), and the groups come in the order of their first records
(`Report.pairwise_idxOf_files`).

So all records of a report have the severity the report was made with
(`Report.level_of_ofOutput`), and but for the severity they are the findings of the
output, whatever grammar it is read with (`Report.grouped_by_file`).
-/

namespace PatchLint

namespace Report

/-! ## One group for each file -/

/-- The groups divide the records by the file they name. -/
structure Grouped (rs : List Record) (groups : List FileGroup) : Prop where
  distinct : groups.Pairwise fun g h => g.file ≠ h.file
  records : ∀ g ∈ groups, g.records = rs.filter fun r => r.file = g.file
  named : ∀ r ∈ rs, ∃ g ∈ groups, g.file = r.file
  written : ∀ g ∈ groups, g.records ≠ []
  total : (groups.flatMap FileGroup.records).length = rs.length

/-- The files of groups with one more record. -/
theorem files_addTo (r : Record) (groups : List FileGroup) :
    (addTo r groups).map FileGroup.file =
      if r.file ∈ groups.map FileGroup.file then groups.map FileGroup.file
      else groups.map FileGroup.file ++ [r.file] := by
  induction groups with
  | nil => rfl
  | cons first rest ih =>
    by_cases same : first.file = r.file
    · simp [addTo, same]
    · have other : r.file ≠ first.file := Ne.symm same
      simp only [addTo, same, if_false, List.map_cons, ih, List.mem_cons, other, false_or]
      split <;> rfl

/-- A group is as it was, or it is that of the record's file, and the record is its
last. -/
theorem cases_addTo {r : Record} {groups : List FileGroup} {g : FileGroup}
    (distinct : groups.Pairwise fun g h => g.file ≠ h.file) (hg : g ∈ addTo r groups) :
    (g ∈ groups ∧ g.file ≠ r.file) ∨
      (g.file = r.file ∧ ∃ old, g.records = old ++ [r] ∧
        (⟨r.file, old⟩ ∈ groups ∨ old = [] ∧ ∀ h ∈ groups, h.file ≠ r.file)) := by
  induction groups with
  | nil =>
    obtain rfl := List.mem_singleton.1 hg
    exact .inr ⟨rfl, [], rfl, .inr ⟨rfl, fun _ none => absurd none List.not_mem_nil⟩⟩
  | cons first rest ih =>
    obtain ⟨apart, distinct⟩ := List.pairwise_cons.1 distinct
    by_cases same : first.file = r.file
    · simp only [addTo, same, if_true] at hg
      rcases List.mem_cons.1 hg with rfl | hg
      · exact .inr ⟨rfl, first.records, rfl, .inl (same ▸ List.mem_cons_self)⟩
      · exact .inl ⟨List.mem_cons_of_mem _ hg, fun file => apart g hg (same.trans file.symm)⟩
    · simp only [addTo, same, if_false] at hg
      rcases List.mem_cons.1 hg with rfl | hg
      · exact .inl ⟨List.mem_cons_self, same⟩
      · rcases ih distinct hg with ⟨old, differ⟩ | ⟨file, old, grown, before | ⟨rfl, new⟩⟩
        · exact .inl ⟨List.mem_cons_of_mem _ old, differ⟩
        · exact .inr ⟨file, old, grown, .inl (List.mem_cons_of_mem _ before)⟩
        · exact .inr ⟨file, [], grown, .inr ⟨rfl, List.forall_mem_cons.2 ⟨same, new⟩⟩⟩

theorem length_addTo (r : Record) (groups : List FileGroup) :
    ((addTo r groups).flatMap FileGroup.records).length =
      (groups.flatMap FileGroup.records).length + 1 := by
  induction groups with
  | nil => rfl
  | cons first rest ih =>
    by_cases same : first.file = r.file
    · simp only [addTo, same, if_true, List.flatMap_cons, List.length_append, List.length_singleton]
      omega
    · simp only [addTo, same, if_false, List.flatMap_cons, List.length_append, ih]
      omega

/-- A record of a file without a group is not among the records. -/
theorem Grouped.filter_eq_nil {rs : List Record} {groups : List FileGroup} (h : Grouped rs groups)
    {file : String} (new : ∀ g ∈ groups, g.file ≠ file) :
    (rs.filter fun r => r.file = file) = [] := by
  rw [List.filter_eq_nil_iff]
  intro r hr same
  obtain ⟨g, hg, named⟩ := h.named r hr
  exact new g hg (named.trans (of_decide_eq_true same))

theorem Grouped.addTo {rs : List Record} {groups : List FileGroup} (h : Grouped rs groups)
    (r : Record) : Grouped (rs ++ [r]) (Report.addTo r groups) where
  distinct := by
    have files : (groups.map FileGroup.file).Nodup := List.pairwise_map.2 h.distinct
    have grown : ((Report.addTo r groups).map FileGroup.file).Nodup := by
      rw [files_addTo]
      split
      · exact files
      · next new => exact List.nodup_append'.2 ⟨files, List.nodup_singleton _, by simpa using new⟩
    exact List.pairwise_map.1 grown
  records := by
    intro g hg
    rcases cases_addTo h.distinct hg with ⟨old, differ⟩ | ⟨file, old, grown, before⟩
    · have other : ¬ r.file = g.file := Ne.symm differ
      simp [h.records g old, other]
    · have kept : old = rs.filter fun q => q.file = r.file := by
        rcases before with before | ⟨rfl, new⟩
        · exact h.records _ before
        · exact (h.filter_eq_nil new).symm
      simp [grown, kept, file]
  named := by
    intro q hq
    have file : q.file ∈ (Report.addTo r groups).map FileGroup.file := by
      rw [files_addTo]
      rcases List.mem_append.1 hq with old | new
      · obtain ⟨g, hg, named⟩ := h.named q old
        have mem : q.file ∈ groups.map FileGroup.file := named ▸ List.mem_map_of_mem hg
        split
        · exact mem
        · exact List.mem_append_left _ mem
      · obtain rfl := List.mem_singleton.1 new
        split
        · assumption
        · exact List.mem_append_right _ List.mem_cons_self
    exact List.mem_map.1 file
  written := by
    intro g hg
    rcases cases_addTo h.distinct hg with ⟨old, -⟩ | ⟨-, old, grown, -⟩
    · exact h.written g old
    · simp [grown]
  total := by
    rw [length_addTo, h.total, List.length_append, List.length_singleton]

theorem groups_ofRecords_concat (rs : List Record) (r : Record) :
    (ofRecords (rs ++ [r])).groups = addTo r (ofRecords rs).groups := by
  simp [ofRecords, List.foldl_append]

/-- Grouping divides the records by file. -/
theorem grouped_ofRecords (rs : List Record) : Grouped rs (ofRecords rs).groups := by
  induction rs using List.reverseRecOn with
  | nil => exact ⟨List.Pairwise.nil, by simp [ofRecords], by simp, by simp [ofRecords], rfl⟩
  | append_singleton rs r ih =>
    rw [groups_ofRecords_concat]
    exact ih.addTo r

/-! ## The order of the groups -/

/-- There are groups for the files that records name, and for no other file. -/
theorem Grouped.mem_files_iff {rs : List Record} {groups : List FileGroup} (h : Grouped rs groups)
    {file : String} :
    file ∈ groups.map FileGroup.file ↔ file ∈ rs.map fun r => r.file := by
  rw [List.mem_map, List.mem_map]
  constructor
  · rintro ⟨g, hg, rfl⟩
    obtain ⟨r, hr⟩ := List.exists_mem_of_ne_nil _ (h.written g hg)
    rw [h.records g hg] at hr
    obtain ⟨mem, named⟩ := List.mem_filter.1 hr
    exact ⟨r, mem, of_decide_eq_true named⟩
  · rintro ⟨r, hr, rfl⟩
    exact h.named r hr

/-- The groups come in the order of their first records. -/
theorem pairwise_idxOf_files (rs : List Record) :
    ((ofRecords rs).groups.map FileGroup.file).Pairwise fun a b =>
      (rs.map fun r => r.file).idxOf a < (rs.map fun r => r.file).idxOf b := by
  induction rs using List.reverseRecOn with
  | nil => exact List.Pairwise.nil
  | append_singleton rs r ih =>
    have named : ∀ file ∈ (ofRecords rs).groups.map FileGroup.file, file ∈ rs.map fun r => r.file :=
      fun _ => (grouped_ofRecords rs).mem_files_iff.1
    -- One more record does not move the first record of a file that is named before.
    have kept : ((ofRecords rs).groups.map FileGroup.file).Pairwise fun a b =>
        ((rs ++ [r]).map fun r => r.file).idxOf a < ((rs ++ [r]).map fun r => r.file).idxOf b := by
      refine ih.imp_of_mem fun ha hb before => ?_
      rwa [List.map_append, List.idxOf_append_of_mem (named _ ha),
        List.idxOf_append_of_mem (named _ hb)]
    rw [groups_ofRecords_concat, files_addTo]
    split
    · exact kept
    · next new =>
      refine List.pairwise_append.2 ⟨kept, List.pairwise_singleton _ _, ?_⟩
      intro a ha b hb
      obtain rfl := List.mem_singleton.1 hb
      have unnamed : r.file ∉ rs.map fun r => r.file :=
        fun mem => new ((grouped_ofRecords rs).mem_files_iff.2 mem)
      rw [List.map_append, List.idxOf_append_of_mem (named a ha),
        List.idxOf_append_of_notMem unnamed]
      exact Nat.lt_add_right _ (List.idxOf_lt_length_iff.2 (named a ha))

/-! ## Severities -/

/-- The records of a report are among those it was made of. -/
theorem mem_of_ofRecords {rs : List Record} {g : FileGroup} {q : Record}
    (hg : g ∈ (ofRecords rs).groups) (hq : q ∈ g.records) : q ∈ rs := by
  rw [(grouped_ofRecords rs).records g hg] at hq
  exact List.mem_of_mem_filter hq

/-- The records of a report have its severity. -/
theorem level_of_ofOutput {layout : Layout} {level : Level} {text : String} {g : FileGroup}
    {r : Record} (hg : g ∈ (ofOutput layout level text).groups) (hr : r ∈ g.records) :
    r.level = level := by
  obtain ⟨finding, -, rfl⟩ := List.mem_map.1 (mem_of_ofRecords hg hr)
  rfl

/-! ## Grouping what a grammar finds -/

/-- The records that name a file are made of the findings that do. -/
theorem filter_ofFinding (level : Level) (found : List Finding) (file : String) :
    ((found.map (Record.ofFinding level)).filter fun r => r.file = file) =
      (found.filter fun f => f.file = file).map fun f =>
        ⟨⟨file, f.line, f.kind, f.code, f.message⟩, level⟩ := by
  rw [List.filter_map]
  refine List.map_congr_left fun f hf => ?_
  obtain rfl : f.file = file := of_decide_eq_true (List.mem_filter.1 hf).2
  rfl

/-- Grouping loses and reorders nothing, whatever grammar the output is read with.  There
is one group for each file that a finding names, in the order of first appearance.  A
group is not empty, and its records are the findings that name its file, in the order of
the output and with nothing but the severity added. -/
theorem grouped_by_file (grammar : List Char → List Finding) (level : Level) (output : String) :
    let found := grammar output.toList
    let report := ofRecords (found.map (Record.ofFinding level))
    (∀ layout : Layout, grammar = layout.findings → ofOutput layout level output = report) ∧
    (report.groups.map FileGroup.file).Nodup ∧
    (∀ file, file ∈ report.groups.map FileGroup.file ↔ ∃ f ∈ found, f.file = file) ∧
    (report.groups.map FileGroup.file).Pairwise (fun a b =>
      (found.map Finding.file).idxOf a < (found.map Finding.file).idxOf b) ∧
    (∀ g ∈ report.groups, g.records ≠ [] ∧
      g.records = (found.filter fun f => f.file = g.file).map fun f =>
        ⟨⟨g.file, f.line, f.kind, f.code, f.message⟩, level⟩) ∧
    report.total = found.length ∧ (report.isEmpty = true ↔ found = []) := by
  intro found report
  have grouped := grouped_ofRecords (found.map (Record.ofFinding level))
  have files : (found.map (Record.ofFinding level)).map (fun r => r.file) =
      found.map Finding.file := List.map_map
  refine ⟨?_, List.pairwise_map.2 grouped.distinct, ?_, ?_, ?_, ?_, ?_⟩
  · rintro layout rfl
    rfl
  · intro file
    rw [grouped.mem_files_iff, files, List.mem_map]
  · rw [← files]
    exact pairwise_idxOf_files _
  · intro g hg
    exact ⟨grouped.written g hg, (grouped.records g hg).trans (filter_ofFinding level found g.file)⟩
  · exact grouped.total.trans (List.length_map _)
  · rw [isEmpty, List.isEmpty_iff]
    constructor
    · intro none
      have counted := grouped.total
      change (report.groups.flatMap FileGroup.records).length = _ at counted
      rw [none, List.length_map] at counted
      exact List.eq_nil_of_length_eq_zero counted.symm
    · intro none
      simp only [report, none]
      rfl

/-- A file that is named again after another one keeps its place and gets its record. -/
theorem interleaved_files_are_grouped :
    let output := "b.c:1: ERROR:X: one\na.c:2: WARNING:Y: two\nb.c:3: CHECK:Z: three\n"
    let report := ofOutput .singleLine .hint output
    report.groups.map FileGroup.file = ["b.c", "a.c"] ∧ report.total = 3 ∧
    (∀ g ∈ report.groups, g.records ≠ []) ∧
    ∀ g ∈ report.groups, g.file = "b.c" → g.records =
      [⟨⟨"b.c", 1, .error, "X", "one"⟩, .hint⟩, ⟨⟨"b.c", 3, .check, "Z", "three"⟩, .hint⟩] := by
  intro output report
  obtain ⟨same, -, -, -, groups, total, -⟩ :=
    grouped_by_file (Layout.findings .singleLine) .hint output
  have found : Layout.findings .singleLine output.toList =
      [⟨"b.c", 1, .error, "X", "one"⟩, ⟨"a.c", 2, .warning, "Y", "two"⟩,
        ⟨"b.c", 3, .check, "Z", "three"⟩] := by decide +kernel
  rw [← same .singleLine rfl] at groups total
  rw [found] at groups total
  refine ⟨by decide +kernel, total, fun g hg => (groups g hg).1, ?_⟩
  intro g hg named
  rw [(groups g hg).2, named]
  rfl

end Report

end PatchLint
