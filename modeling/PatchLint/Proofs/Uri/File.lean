import PatchLint.Uri.Basic

/-!
# URIs of files

The URI of a file tells its path up to spelling: two absolute paths with one URI
are the same file (`Uri.same_of_fileText`).  A name is recovered from its segment
by decoding; a segment holds no slash, so the segments are recovered from the
written URI by cutting it at the slashes; and no name is written as two dots or
as nothing, so steps up and the root are told apart from names.
-/

namespace PatchLint

namespace Uri

/-! ## Segments -/

/-- What is encoded in a segment is read back. -/
theorem decode_encode_segment (bs : List UInt8) : decode (encode EncodeSet.segment bs) = bs := by
  refine decode_encode (by decide) ?_ bs
  intro b large
  have control : EncodeSet.controls b = true := by
    have above : (0x7E : UInt8) < b := UInt8.lt_iff_toNat_lt.2 (by simp; omega)
    simp [EncodeSet.controls, above]
  simp [EncodeSet.segment, EncodeSet.path, EncodeSet.fragment, EncodeSet.adding, control]

/-- No digit is a slash. -/
theorem hexDigit_ne_slash {n : Nat} (h : n < 16) : Text.hexDigit true n ≠ '/' := by
  have digits : ∀ n : Fin 16, Text.hexDigit true n ≠ '/' := by decide
  exact digits ⟨n, h⟩

/-- A slash in a name is encoded. -/
theorem slash_not_mem_encode (bs : List UInt8) : '/' ∉ encode EncodeSet.segment bs := by
  intro mem
  obtain ⟨b, -, mem⟩ := List.mem_flatMap.1 mem
  unfold encodeByte at mem
  split at mem
  · simp only [Text.hexByte, List.mem_cons, List.not_mem_nil, or_false] at mem
    rcases mem with sign | high | low
    · cases sign
    · exact hexDigit_ne_slash (by have := b.toNat_lt; omega) high.symm
    · exact hexDigit_ne_slash (Nat.mod_lt _ (by decide)) low.symm
  · next plain =>
    have same : '/' = Char.ofNat b.toNat := List.mem_singleton.1 mem
    -- The slash is the only byte that stands for the slash, and it is encoded.
    have table : ∀ n : Fin 256, Char.ofNat n = '/' → EncodeSet.segment (UInt8.ofNat n) = true := by
      decide +kernel
    have encoded := table ⟨b.toNat, b.toNat_lt⟩ same.symm
    rw [UInt8.ofNat_toNat] at encoded
    exact plain encoded

/-- A step that is part of a path behind its start. -/
def IsStep (c : Component) : Prop :=
  c = .up ∨ ∃ bytes, c = .name bytes ∧ bytes ≠ [] ∧ bytes ≠ [Path.dot, Path.dot]

theorem isStep_of_componentOf {segment : List UInt8} {c : Component}
    (h : Path.componentOf segment = some c) : IsStep c := by
  unfold Path.componentOf at h
  split at h
  · cases h
  · next counts =>
    split at h
    · cases h
      exact .inl rfl
    · next differ =>
      cases h
      exact .inr ⟨segment, rfl, fun none => counts (.inl none), differ⟩

/-- A step is written as a segment without a slash, and not as nothing. -/
theorem segmentOf_of_isStep {c : Component} (h : IsStep c) :
    ∃ text, segmentOf c = some text ∧ '/' ∉ text.toList ∧ text ≠ "" := by
  rcases h with rfl | ⟨bytes, rfl, some, -⟩
  · exact ⟨"..", rfl, by decide, by decide⟩
  · refine ⟨_, rfl, ?_, ?_⟩
    · rw [String.toList_ofList]
      exact slash_not_mem_encode bytes
    · intro none
      have nothing : encode EncodeSet.segment bytes = [] := by
        simpa using congrArg String.toList none
      have read := decode_encode_segment bytes
      rw [nothing] at read
      exact some read.symm

/-- Steps with one segment are one step. -/
theorem segmentOf_inj {c d : Component} (hc : IsStep c) (hd : IsStep d)
    (same : segmentOf c = segmentOf d) : c = d := by
  have spelled : ∀ {bytes : List UInt8},
      some ".." = some (String.ofList (encode EncodeSet.segment bytes)) →
        bytes = [Path.dot, Path.dot] := by
    intro bytes h
    have dots : "..".toList = encode EncodeSet.segment bytes := by
      simpa using congrArg String.toList (Option.some.inj h)
    rw [← decode_encode_segment bytes, ← dots]
    decide
  rcases hc with rfl | ⟨a, rfl, -, differ⟩
  · rcases hd with rfl | ⟨b, rfl, -, differ⟩
    · rfl
    · exact absurd (spelled same) differ
  · rcases hd with rfl | ⟨b, rfl, -, -⟩
    · exact absurd (spelled same.symm) differ
    · have written : encode EncodeSet.segment a = encode EncodeSet.segment b := by
        simpa using congrArg String.toList (Option.some.inj same)
      rw [← decode_encode_segment a, written, decode_encode_segment]

/-- Steps with one list of segments are one list of steps. -/
theorem filterMap_segmentOf_inj {cs ds : List Component} (hc : ∀ c ∈ cs, IsStep c)
    (hd : ∀ d ∈ ds, IsStep d) (same : cs.filterMap segmentOf = ds.filterMap segmentOf) :
    cs = ds := by
  induction cs generalizing ds with
  | nil =>
    cases ds with
    | nil => rfl
    | cons d ds =>
      obtain ⟨text, segment, -⟩ := segmentOf_of_isStep (hd d List.mem_cons_self)
      simp [segment] at same
  | cons c cs ih =>
    obtain ⟨first, hfirst, -⟩ := segmentOf_of_isStep (hc c List.mem_cons_self)
    cases ds with
    | nil => simp [hfirst] at same
    | cons d ds =>
      obtain ⟨second, hsecond, -⟩ := segmentOf_of_isStep (hd d List.mem_cons_self)
      rw [List.filterMap_cons_some hfirst, List.filterMap_cons_some hsecond] at same
      obtain ⟨rfl, rest⟩ := List.cons.inj same
      obtain rfl := segmentOf_inj (hc c List.mem_cons_self) (hd d List.mem_cons_self)
        (hfirst.trans hsecond.symm)
      rw [ih (fun e he => hc e (List.mem_cons_of_mem _ he))
        (fun e he => hd e (List.mem_cons_of_mem _ he)) rest]

/-! ## Written URIs -/

/-- A text is cut at its slashes in one way. -/
theorem flatMap_slash_inj {xs ys : List (List Char)} (hx : ∀ x ∈ xs, '/' ∉ x)
    (hy : ∀ y ∈ ys, '/' ∉ y)
    (same : xs.flatMap (fun s => '/' :: s) = ys.flatMap (fun s => '/' :: s)) : xs = ys := by
  have cut : ∀ {x : List Char} (zs : List (List Char)), '/' ∉ x →
      (x ++ zs.flatMap fun s => '/' :: s).takeWhile (· ≠ '/') = x ∧
        (x ++ zs.flatMap fun s => '/' :: s).dropWhile (· ≠ '/') =
          zs.flatMap fun s => '/' :: s := by
    intro x zs hx
    have inside : ∀ a ∈ x, decide (a ≠ '/') = true := by
      intro a ha
      exact decide_eq_true fun same => hx (same ▸ ha)
    rw [List.takeWhile_append_of_pos inside, List.dropWhile_append_of_pos inside]
    cases zs <;> simp
  induction xs generalizing ys with
  | nil =>
    cases ys with
    | nil => rfl
    | cons y ys => simp at same
  | cons x xs ih =>
    cases ys with
    | nil => simp at same
    | cons y ys =>
      simp only [List.flatMap_cons, List.cons_append, List.cons.injEq, true_and] at same
      obtain ⟨first, rest⟩ := cut xs (hx x List.mem_cons_self)
      obtain ⟨first', rest'⟩ := cut ys (hy y List.mem_cons_self)
      rw [same] at first rest
      rw [← first, first', ih (fun z hz => hx z (List.mem_cons_of_mem _ hz))
        (fun z hz => hy z (List.mem_cons_of_mem _ hz)) (rest.symm.trans rest')]

theorem toList_fileText_ofSegments (ss : List String) :
    (ofSegments ss).fileText.toList = "file://".toList ++
      ((if ss = [] then [""] else ss).map String.toList).flatMap fun s => '/' :: s := by
  have slashed : ∀ texts : List String,
      (String.join (texts.map fun s => "/" ++ s)).toList =
        (texts.map String.toList).flatMap fun s => '/' :: s := by
    intro texts
    simp [String.toList_join, List.flatMap_def, Function.comp_def]
  simp only [fileText, pathText, ofSegments, String.toList_append, slashed]
  rfl

/-- The steps of an absolute path follow its root. -/
theorem components_of_isAbsolute {p : Path} (h : p.isAbsolute = true) :
    ∃ cs, p.components = .root :: cs ∧ ∀ c ∈ cs, IsStep c := by
  refine ⟨(Path.segmentsOf p.bytes).filterMap Path.componentOf, ?_, ?_⟩
  · simp [Path.components, h]
  · intro c hc
    obtain ⟨segment, -, found⟩ := List.mem_filterMap.1 hc
    exact isStep_of_componentOf found

/-- A segment of a path is not empty and holds no slash. -/
theorem segment_of_isStep {cs : List Component} (hc : ∀ c ∈ cs, IsStep c) {text : String}
    (mem : text ∈ cs.filterMap segmentOf) : '/' ∉ text.toList ∧ text ≠ "" := by
  obtain ⟨c, hmem, found⟩ := List.mem_filterMap.1 mem
  obtain ⟨other, segment, legal⟩ := segmentOf_of_isStep (hc c hmem)
  obtain rfl := Option.some.inj (found.symm.trans segment)
  exact legal

/-- What is written between slashes holds none. -/
theorem slash_not_mem_written {cs : List Component} (hc : ∀ c ∈ cs, IsStep c) {x : List Char}
    (mem : x ∈ ((if cs.filterMap segmentOf = [] then [""] else cs.filterMap segmentOf).map
      String.toList)) : '/' ∉ x := by
  obtain ⟨text, written, rfl⟩ := List.mem_map.1 mem
  split at written
  · rw [List.mem_singleton.1 written]
    decide
  · exact (segment_of_isStep hc written).1

/-- Segments of steps are recovered from the written URI. -/
theorem segments_of_fileText {cs ds : List Component} (hc : ∀ c ∈ cs, IsStep c)
    (hd : ∀ d ∈ ds, IsStep d)
    (same : (ofSegments (cs.filterMap segmentOf)).fileText =
      (ofSegments (ds.filterMap segmentOf)).fileText) :
    cs.filterMap segmentOf = ds.filterMap segmentOf := by
  have bytes := congrArg String.toList same
  rw [toList_fileText_ofSegments, toList_fileText_ofSegments] at bytes
  have cut := flatMap_slash_inj (fun _ => slash_not_mem_written hc)
    (fun _ => slash_not_mem_written hd) (List.append_cancel_left bytes)
  have written := (List.map_inj_right fun _ _ => String.toList_inj.1).1 cut
  -- No segments and an empty one are written alike, but no step has an empty segment.
  split at written
  · next none =>
    split at written
    · next none' => rw [none, none']
    · exact absurd rfl (segment_of_isStep hd (written ▸ List.mem_singleton_self "")).2
  · split at written
    · exact absurd rfl (segment_of_isStep hc (written ▸ List.mem_singleton_self "")).2
    · exact written

/-- Absolute paths with one written URI are one file. -/
theorem same_of_fileText {p q : Path} {u v : Uri} (hp : ofPath? p = some u)
    (hq : ofPath? q = some v) (same : u.fileText = v.fileText) : p.Same q := by
  have absolute : ∀ {r : Path} {w : Uri}, ofPath? r = some w →
      ∃ cs, r.components = .root :: cs ∧ (∀ c ∈ cs, IsStep c) ∧
        w = ofSegments (cs.filterMap segmentOf) := by
    intro r w h
    have isAbsolute : r.isAbsolute = true := by
      rw [← isSome_ofPath?, h]
      rfl
    obtain ⟨cs, components, steps⟩ := components_of_isAbsolute isAbsolute
    refine ⟨cs, components, steps, ?_⟩
    simp only [ofPath?, isAbsolute, if_true, components] at h
    exact (Option.some.inj h).symm
  obtain ⟨cs, hcs, csteps, rfl⟩ := absolute hp
  obtain ⟨ds, hds, dsteps, rfl⟩ := absolute hq
  have steps := filterMap_segmentOf_inj csteps dsteps (segments_of_fileText csteps dsteps same)
  show p.components = q.components
  rw [hcs, hds, steps]

end Uri

end PatchLint
