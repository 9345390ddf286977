import PatchLint.Proofs.Layout.Search

/-!
# Findings line by line

The search runs over a whole text, and yet a finding depends on one line
(`singleLine_findings_linewise`) or on two neighbouring lines
(`twoLine_findings_pairwise`).  A match stays on its lines, and a search that goes on
from the middle of a second line misses nothing, as a second line is no first line.
-/

namespace PatchLint

open Text

variable {line first second more rest : List Char} {c : Capture}

namespace Pattern

/-! ## One line -/

theorem singleLineMatch?_line_eq_some_iff (h : lineFeed ∉ line) :
    singleLineMatch? line = some (c, rest) ↔ c.OnLine line ∧ rest = [] := by
  have whole : singleLineMatch? (line ++ []) = some (c, rest) ↔ c.OnLine line ∧ rest = [] :=
    singleLineMatch?_eq_some_iff h atLineEnd_nil
  rwa [List.append_nil] at whole

theorem singleLineMatch?_append (h : lineFeed ∉ line) (ends : AtLineEnd more) :
    singleLineMatch? (line ++ more) = (singleLineMatch? line).map fun found => (found.1, more) := by
  ext ⟨c, rest⟩
  rw [singleLineMatch?_eq_some_iff h ends, Option.map_eq_some_iff]
  constructor
  · rintro ⟨onLine, rfl⟩
    exact ⟨(c, []), (singleLineMatch?_line_eq_some_iff h).2 ⟨onLine, rfl⟩, rfl⟩
  · rintro ⟨found, matched, same⟩
    cases same
    exact ⟨((singleLineMatch?_line_eq_some_iff h).1 matched).1, rfl⟩

theorem singleLine_captures (h : lineFeed ∉ line) :
    singleLine.captures line = ((singleLineMatch? line).map Prod.fst).toList := by
  rw [captures_eq, show singleLine.match? line = singleLineMatch? line from rfl]
  cases matched : singleLineMatch? line with
  | none => simp [nextLine_eq_none h]
  | some found =>
    obtain ⟨c, rest⟩ := found
    obtain ⟨-, rfl⟩ := (singleLineMatch?_line_eq_some_iff h).1 matched
    rfl

theorem singleLine_captures_append (h : lineFeed ∉ line) (rest : List Char) :
    singleLine.captures (line ++ lineFeed :: rest) =
      singleLine.captures line ++ singleLine.captures rest := by
  rw [captures_eq, show singleLine.match? _ = singleLineMatch? _ from rfl,
    singleLineMatch?_append h (atLineEnd_lineFeed rest), singleLine_captures h]
  cases singleLineMatch? line with
  | none => simp [nextLine_append h]
  | some found => simp [nextLine]

/-! ## Two lines -/

theorem twoLineMatch?_lines_eq_some_iff (h : lineFeed ∉ first) (h' : lineFeed ∉ second) :
    twoLineMatch? (first ++ lineFeed :: second) = some (c, rest) ↔
      c.OnLines first second ∧ c.PlaceLine second rest := by
  have whole : twoLineMatch? (first ++ lineFeed :: (second ++ [])) = some (c, rest) ↔
      c.OnLines first second ∧ ∃ left, c.PlaceLine second left ∧ rest = left ++ [] :=
    twoLineMatch?_eq_some_iff h h' atLineEnd_nil
  simpa using whole

theorem twoLineMatch?_append (h : lineFeed ∉ first) (h' : lineFeed ∉ second)
    (ends : AtLineEnd more) :
    twoLineMatch? (first ++ lineFeed :: (second ++ more)) =
      (twoLineMatch? (first ++ lineFeed :: second)).map fun found =>
        (found.1, found.2 ++ more) := by
  ext ⟨c, rest⟩
  rw [twoLineMatch?_eq_some_iff h h' ends, Option.map_eq_some_iff]
  constructor
  · rintro ⟨onLines, left, isPlace, rfl⟩
    exact ⟨(c, left), (twoLineMatch?_lines_eq_some_iff h h').2 ⟨onLines, isPlace⟩, rfl⟩
  · rintro ⟨⟨c', left⟩, matched, same⟩
    cases same
    obtain ⟨onLines, isPlace⟩ := (twoLineMatch?_lines_eq_some_iff h h').1 matched
    exact ⟨onLines, left, isPlace, rfl⟩

theorem twoLineMatch?_line (h : lineFeed ∉ line) : twoLineMatch? line = none := by
  rw [Option.eq_none_iff_forall_ne_some]
  intro found matched
  simp only [twoLineMatch?, Option.bind_eq_bind, Option.bind_eq_some_iff, Prod.exists] at matched
  obtain ⟨k, code, message, back, said, behind, broken, -⟩ := matched
  obtain ⟨text, -, -, -, rfl⟩ := (remark?_eq_some_iff (c := ⟨[], [], k, code, message⟩)).1 said
  refine h (List.mem_append_right _ ?_)
  rcases lineBreak?_eq_some_iff.1 broken with rfl | rfl
  · exact List.mem_cons_self
  · exact List.mem_cons_of_mem _ List.mem_cons_self

theorem twoLine_captures_line (h : lineFeed ∉ line) : twoLine.captures line = [] := by
  rw [captures_eq, show twoLine.match? line = none from twoLineMatch?_line h, nextLine_eq_none h]
  rfl

theorem twoLine_captures_lines (h : lineFeed ∉ first) (h' : lineFeed ∉ second) :
    twoLine.captures (first ++ lineFeed :: second) =
      ((twoLineMatch? (first ++ lineFeed :: second)).map Prod.fst).toList := by
  rw [captures_eq, show twoLine.match? _ = twoLineMatch? _ from rfl]
  cases matched : twoLineMatch? (first ++ lineFeed :: second) with
  | none => simp [nextLine_append h, twoLine_captures_line h']
  | some found =>
    obtain ⟨c, left⟩ := found
    obtain ⟨-, isPlace⟩ := (twoLineMatch?_lines_eq_some_iff h h').1 matched
    simp [nextLine_eq_none (isPlace.not_mem_rest h')]

/-- A second line leaves nothing to find but what is on the next lines. -/
theorem twoLine_captures_append (h : lineFeed ∉ first) (h' : lineFeed ∉ second)
    (ends : AtLineEnd more) :
    twoLine.captures (first ++ lineFeed :: (second ++ more)) =
      twoLine.captures (first ++ lineFeed :: second) ++ twoLine.captures (second ++ more) := by
  rw [captures_eq, show twoLine.match? _ = twoLineMatch? _ from rfl,
    twoLineMatch?_append h h' ends, twoLine_captures_lines h h']
  cases matched : twoLineMatch? (first ++ lineFeed :: second) with
  | none => simp [nextLine_append h]
  | some found =>
    obtain ⟨c, left⟩ := found
    obtain ⟨-, isPlace⟩ := (twoLineMatch?_lines_eq_some_iff h h').1 matched
    -- behind the match and behind the second line, the same line comes next
    have behind : nextLine (left ++ more) = nextLine (second ++ more) := by
      rw [nextLine_append_of_not_mem h', nextLine_append_of_not_mem (isPlace.not_mem_rest h')]
    have missed : twoLine.match? (second ++ more) = none := by
      obtain ⟨number, place, -, -, rfl, -⟩ := isPlace
      exact twoLineMatch?_hash _
    rw [captures_eq twoLine (second ++ more), missed]
    simp [behind]

end Pattern

/-! ## Findings on one line -/

theorem singleLine_findings_line (h : lineFeed ∉ line) :
    Layout.singleLine.findings line =
      ((Pattern.singleLineMatch? line).bind fun found => found.1.finding?).toList := by
  rw [Layout.findings, Pattern.findings, Pattern.singleLine_captures h]
  cases Pattern.singleLineMatch? line with
  | none => rfl
  | some found => cases shown : found.1.finding? <;> simp [shown]

theorem singleLine_findings_of_onLine {f : Finding} (h : lineFeed ∉ line) (onLine : c.OnLine line)
    (denotes : c.Denotes f) : Layout.singleLine.findings line = [f] := by
  have matched := (Pattern.singleLineMatch?_line_eq_some_iff h).2 ⟨onLine, rfl⟩
  have shown : c.finding? = some f := Capture.finding?_eq_some_iff.2 denotes
  rw [singleLine_findings_line h, matched, Option.bind_some, shown]
  rfl

theorem singleLine_findings_eq_nil (h : lineFeed ∉ line)
    (none : ∀ (c : Capture) f, c.OnLine line → ¬ c.Denotes f) :
    Layout.singleLine.findings line = [] := by
  rw [singleLine_findings_line h, Option.toList_eq_nil_iff, Option.eq_none_iff_forall_ne_some]
  intro f found
  obtain ⟨⟨c, rest⟩, matched, shown⟩ := Option.bind_eq_some_iff.1 found
  obtain ⟨onLine, -⟩ := (Pattern.singleLineMatch?_line_eq_some_iff h).1 matched
  exact none c f onLine (Capture.finding?_eq_some_iff.1 shown)

theorem singleLine_findings_line_append (h : lineFeed ∉ line) (rest : List Char) :
    Layout.singleLine.findings (line ++ lineFeed :: rest) =
      Layout.singleLine.findings line ++ Layout.singleLine.findings rest := by
  simp only [Layout.findings, Pattern.findings, Pattern.singleLine_captures_append h,
    List.filterMap_append]

theorem singleLine_findings_append (a b : List Char) :
    Layout.singleLine.findings (a ++ lineFeed :: b) =
      Layout.singleLine.findings a ++ Layout.singleLine.findings b := by
  induction a using line_induction with
  | last line h => exact singleLine_findings_line_append h b
  | more line rest h ih =>
    rw [List.append_assoc, List.cons_append, singleLine_findings_line_append h,
      singleLine_findings_line_append h, ih, List.append_assoc]

theorem singleLine_findings_eq_flatMap (cs : List Char) :
    Layout.singleLine.findings cs = (pieces cs).flatMap Layout.singleLine.findings := by
  induction cs using line_induction with
  | last line h => rw [pieces_of_not_mem h, List.flatMap_singleton]
  | more line rest h ih =>
    rw [singleLine_findings_line_append h, pieces_append h, List.flatMap_cons, ih]

/-- In the layout of one line the findings of a text are those of its lines, in order,
and texts with a line feed between them are read each for itself.  A line shows what the
capture on it denotes, and nothing if there is none or it denotes nothing. -/
theorem singleLine_findings_linewise :
    (∀ cs, Layout.singleLine.findings cs = (pieces cs).flatMap Layout.singleLine.findings) ∧
    (∀ a b, Layout.singleLine.findings (a ++ lineFeed :: b) =
      Layout.singleLine.findings a ++ Layout.singleLine.findings b) ∧
    ∀ line, lineFeed ∉ line →
      (∀ (c : Capture) f, c.OnLine line → c.Denotes f → Layout.singleLine.findings line = [f]) ∧
      ((∀ (c : Capture) f, c.OnLine line → ¬ c.Denotes f) →
        Layout.singleLine.findings line = []) := by
  refine ⟨singleLine_findings_eq_flatMap, singleLine_findings_append, ?_⟩
  intro line h
  exact ⟨fun c f => singleLine_findings_of_onLine h, singleLine_findings_eq_nil h⟩

/-- Of the beginnings that could be the file, the first is.  A carriage return in the
middle of a line hides what is on it. -/
theorem shortest_file_is_read :
    let line := "a b:7: CHECK: X:9: ERROR:Y: z \r".toList
    let broken := "a\r:7: CHECK:X: y".toList
    Layout.singleLine.findings line = [⟨"a b", 7, .check, "X", "9: ERROR:Y: z"⟩] ∧
      Layout.singleLine.findings broken = [] := by
  intro line broken
  obtain ⟨-, -, linewise⟩ := singleLine_findings_linewise
  have matched : Pattern.singleLineMatch? line =
      some (⟨"a b".toList, ['7'], .check, ['X'], "9: ERROR:Y: z ".toList⟩, []) := by
    decide +kernel
  have onLine := ((Pattern.singleLineMatch?_line_eq_some_iff (by decide)).1 matched).1
  refine ⟨(linewise line (by decide)).1 _ _ onLine ?_, (linewise broken (by decide)).2 ?_⟩
  · exact Capture.finding?_eq_some_iff.1 (by decide +kernel)
  · intro c f onLine
    exact absurd onLine.noReturn (by decide)

/-! ## Findings on two lines -/

theorem twoLine_findings_lines (h : lineFeed ∉ first) (h' : lineFeed ∉ second) :
    Layout.twoLine.findings (first ++ lineFeed :: second) =
      ((Pattern.twoLineMatch? (first ++ lineFeed :: second)).bind fun found =>
        found.1.finding?).toList := by
  rw [Layout.findings, Pattern.findings, Pattern.twoLine_captures_lines h h']
  cases Pattern.twoLineMatch? (first ++ lineFeed :: second) with
  | none => rfl
  | some found => cases shown : found.1.finding? <;> simp [shown]

theorem twoLine_findings_of_onLines {f : Finding} (h : lineFeed ∉ first) (h' : lineFeed ∉ second)
    (onLines : c.OnLines first second) (denotes : c.Denotes f) :
    Layout.twoLine.findings (first ++ lineFeed :: second) = [f] := by
  obtain ⟨rest, isPlace⟩ := onLines.shortest.1.2
  have matched := (Pattern.twoLineMatch?_lines_eq_some_iff h h').2 ⟨onLines, isPlace⟩
  have shown : c.finding? = some f := Capture.finding?_eq_some_iff.2 denotes
  rw [twoLine_findings_lines h h', matched, Option.bind_some, shown]
  rfl

theorem twoLine_findings_eq_nil (h : lineFeed ∉ first) (h' : lineFeed ∉ second)
    (none : ∀ (c : Capture) f, c.OnLines first second → ¬ c.Denotes f) :
    Layout.twoLine.findings (first ++ lineFeed :: second) = [] := by
  rw [twoLine_findings_lines h h', Option.toList_eq_nil_iff, Option.eq_none_iff_forall_ne_some]
  intro f found
  obtain ⟨⟨c, rest⟩, matched, shown⟩ := Option.bind_eq_some_iff.1 found
  obtain ⟨onLines, -⟩ := (Pattern.twoLineMatch?_lines_eq_some_iff h h').1 matched
  exact none c f onLines (Capture.finding?_eq_some_iff.1 shown)

theorem twoLine_findings_line (h : lineFeed ∉ line) : Layout.twoLine.findings line = [] := by
  rw [Layout.findings, Pattern.findings, Pattern.twoLine_captures_line h]
  rfl

theorem twoLine_findings_append (h : lineFeed ∉ first) (h' : lineFeed ∉ second)
    (ends : AtLineEnd more) :
    Layout.twoLine.findings (first ++ lineFeed :: (second ++ more)) =
      Layout.twoLine.findings (first ++ lineFeed :: second) ++
        Layout.twoLine.findings (second ++ more) := by
  simp only [Layout.findings, Pattern.findings, Pattern.twoLine_captures_append h h' ends,
    List.filterMap_append]

theorem twoLine_findings_eq_flatMap (cs : List Char) :
    Layout.twoLine.findings cs = ((pieces cs).zip (pieces cs).tail).flatMap fun pair =>
      Layout.twoLine.findings (pair.1 ++ lineFeed :: pair.2) := by
  induction cs using line_induction with
  | last line h =>
    rw [pieces_of_not_mem h, twoLine_findings_line h]
    rfl
  | more line rest h ih =>
    obtain ⟨second, more, h', ends, rfl⟩ := exists_line rest
    obtain ⟨others, split⟩ := exists_pieces h' ends
    rw [pieces_append h, split, twoLine_findings_append h h' ends, ih, split]
    rfl

/-- A place is no remark. -/
theorem Capture.OnLines.not_onLines {third : List Char} (h : c.OnLines first second)
    (d : Capture) : ¬ d.OnLines second third := by
  intro other
  obtain ⟨-, _, number, place, -, -, rfl, -⟩ := h.shortest.1
  obtain ⟨-, -, -, blank, spelled⟩ := other.remark
  have start := prefix_dropReturn ('#' :: (number ++ (": FILE: ".toList ++ place)))
  rw [spelled] at start
  cases kind : d.kind with
  | error => simp [kind, Kind.tag] at start
  | warning => simp [kind, Kind.tag] at start
  | check => simp [kind, Kind.tag] at start

/-- In the layout of two lines the findings of a text are those of its pairs of
neighbouring lines, in order.  A pair shows what the capture on it denotes, and nothing
if there is none or it denotes nothing.  No line belongs to two pairs that have a
capture on them. -/
theorem twoLine_findings_pairwise :
    (∀ cs, Layout.twoLine.findings cs = ((pieces cs).zip (pieces cs).tail).flatMap fun pair =>
      Layout.twoLine.findings (pair.1 ++ lineFeed :: pair.2)) ∧
    ∀ first second, lineFeed ∉ first → lineFeed ∉ second →
      (∀ (c : Capture) f, c.OnLines first second → c.Denotes f →
        Layout.twoLine.findings (first ++ lineFeed :: second) = [f]) ∧
      ((∀ (c : Capture) f, c.OnLines first second → ¬ c.Denotes f) →
        Layout.twoLine.findings (first ++ lineFeed :: second) = []) ∧
      ∀ (c d : Capture) third, c.OnLines first second → ¬ d.OnLines second third := by
  refine ⟨twoLine_findings_eq_flatMap, ?_⟩
  intro first second h h'
  refine ⟨fun c f => twoLine_findings_of_onLines h h', twoLine_findings_eq_nil h h', ?_⟩
  exact fun c d third onLines => onLines.not_onLines d

/-- A remark that no place follows leaves the next remark its place. -/
theorem stray_remark_takes_no_place :
    let stray := "WARNING:A: one".toList
    let first := "ERROR: B: two\r".toList
    let second := "#12: FILE: a:b:3:4: five".toList
    Layout.twoLine.findings (stray ++ lineFeed :: (first ++ lineFeed :: second)) =
      [⟨"a:b", 3, .error, "B", "two"⟩] := by
  intro stray first second
  obtain ⟨pairs, pair⟩ := twoLine_findings_pairwise
  have lines : pieces (stray ++ lineFeed :: (first ++ lineFeed :: second)) =
      [stray, first, second] := by decide
  have unplaced : Layout.twoLine.findings (stray ++ lineFeed :: first) = [] := by
    refine (pair stray first (by decide) (by decide)).2.1 ?_
    intro c f onLines
    obtain ⟨-, rest, number, place, -, -, spelled, -⟩ := onLines.shortest.1
    have start : first.head? = some '#' := congrArg List.head? spelled
    exact absurd start (by decide)
  have matched : Pattern.twoLineMatch? (first ++ lineFeed :: second) =
      some (⟨"a:b".toList, ['3'], .error, ['B'], " two".toList⟩, "4: five".toList) := by
    decide +kernel
  have onLines :=
    ((Pattern.twoLineMatch?_lines_eq_some_iff (by decide) (by decide)).1 matched).1
  have placed := (pair first second (by decide) (by decide)).1 _ ⟨"a:b", 3, .error, "B", "two"⟩
    onLines (Capture.finding?_eq_some_iff.1 (by decide +kernel))
  rw [pairs, lines]
  simp only [List.tail_cons, List.zip_cons_cons, List.zip_nil_right, List.flatMap_cons,
    List.flatMap_nil, unplaced, placed]
  rfl

end PatchLint
