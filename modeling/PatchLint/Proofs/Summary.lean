import PatchLint.Check.Probe

/-!
# Where a summary is found

Each reader of a summary reads what is printed for its part and nothing else
(`Summary.wordingAt?_eq_some_iff`).  So the search stops at the first place of a text
that some wording stands at (`Summary.wording?_eq_some_iff`), whatever stands around it:
a beginning of a wording that breaks off hides nothing, as the search goes on one
character further.

The digits of a wording are a longest run of digits, since a blank stands on both sides.
If all such runs have a value that fits, the first wording makes a summary
(`Summary.counts_of_first_wording`), and whether a probe passes is settled by whether
there is one.
-/

namespace PatchLint

open Text

/-! ## Values of digits -/

/-- The number that decimal digits denote. -/
def Text.denoted (digits : List Char) : Nat := Nat.ofDigitChars 10 digits 0

/-- The only decimal digits among the characters of ASCII are those from 0 to 9. -/
theorem Text.digit_of_ascii {c : Char} (digit : isDecimalDigit c) (ascii : c.toNat < 128) :
    '0'.toNat ≤ c.toNat ∧ c.toNat ≤ '9'.toNat := by
  have table : ∀ n : Fin 128, decimalDigits.holds n = true →
      '0'.toNat ≤ n.val ∧ n.val ≤ '9'.toNat := by
    decide +kernel
  exact table ⟨c.toNat, ascii⟩ digit

theorem Text.naturalFrom?_of_ascii {digits : List Char} (decimal : ∀ c ∈ digits, isDecimalDigit c)
    (ascii : ∀ c ∈ digits, c.toNat < 128) (n : Nat) :
    naturalFrom? n digits = some (Nat.ofDigitChars 10 digits n) := by
  induction digits generalizing n with
  | nil => rfl
  | cons c digits ih =>
    obtain ⟨digit, decimal⟩ := List.forall_mem_cons.1 decimal
    obtain ⟨plain, ascii⟩ := List.forall_mem_cons.1 ascii
    have value : digitValue? c = some (c.toNat - '0'.toNat) := if_pos (digit_of_ascii digit plain)
    rw [naturalFrom?, value, Nat.ofDigitChars_cons]
    exact ih decimal ascii _

namespace Summary

variable {cs rest : List Char}

/-! ## Readers and what they read -/

theorem number?_eq_some_iff {digits : List Char} :
    number? cs = some (digits, rest) ↔
      Wording.IsNumber digits ∧ (∀ c ∈ rest.head?, isDecimalDigit c = false) ∧
        cs = digits ++ rest := by
  constructor
  · intro found
    obtain ⟨split, some, decimal, stops⟩ := run?_eq_some found
    exact ⟨⟨some, decimal⟩, stops, split⟩
  · rintro ⟨number, stops, rfl⟩
    exact run?_append number.1 number.2 stops

theorem linesClause?_eq_some_iff {lines : List Char} :
    linesClause? cs = some lines ↔
      Wording.IsNumber lines ∧ ∃ rest, cs = blank ++ (lines ++ (behindLines ++ rest)) := by
  constructor
  · intro found
    simp only [linesClause?, Option.bind_eq_bind, Option.bind_eq_some_iff, Prod.exists] at found
    obtain ⟨_, blank, _, _, run, rest, behind, last⟩ := found
    cases last
    obtain ⟨number, -, rfl⟩ := number?_eq_some_iff.1 run
    exact ⟨number, rest, by rw [after?_eq_some_iff.1 blank, after?_eq_some_iff.1 behind]⟩
  · rintro ⟨number, rest, rfl⟩
    exact linesClause?_text number rest

theorem checksClause?_eq_some_iff {checks : List Char} :
    checksClause? cs = some (checks, rest) ↔
      Wording.IsNumber checks ∧ cs = blank ++ (checks ++ (behindChecks ++ rest)) := by
  constructor
  · intro found
    simp only [checksClause?, Option.bind_eq_bind, Option.bind_eq_some_iff, Prod.exists] at found
    obtain ⟨_, blank, _, _, run, _, behind, last⟩ := found
    cases last
    obtain ⟨number, -, rfl⟩ := number?_eq_some_iff.1 run
    exact ⟨number, by rw [after?_eq_some_iff.1 blank, after?_eq_some_iff.1 behind]⟩
  · rintro ⟨number, rfl⟩
    exact checksClause?_text number rest

theorem clauses?_eq_some_iff {checks : Option (List Char)} {lines : List Char} :
    clauses? cs = some (checks, lines) ↔
      (∀ digits ∈ checks, Wording.IsNumber digits) ∧ Wording.IsNumber lines ∧
        ∃ rest, cs = Wording.checksText checks ++ (blank ++ (lines ++ (behindLines ++ rest))) := by
  constructor
  · intro found
    have without : (linesClause? cs).map (fun lines => (none, lines)) = some (checks, lines) →
        (∀ digits ∈ checks, Wording.IsNumber digits) ∧ Wording.IsNumber lines ∧
          ∃ rest, cs = Wording.checksText checks ++
            (blank ++ (lines ++ (behindLines ++ rest))) := by
      intro mapped
      obtain ⟨_, clause, same⟩ := Option.map_eq_some_iff.1 mapped
      cases same
      exact ⟨nofun, linesClause?_eq_some_iff.1 clause⟩
    unfold clauses? at found
    split at found
    · next digits rest first =>
      split at found
      · next second =>
        cases found
        obtain ⟨number, rfl⟩ := checksClause?_eq_some_iff.1 first
        obtain ⟨numeric, rest, rfl⟩ := linesClause?_eq_some_iff.1 second
        refine ⟨?_, numeric, rest, ?_⟩
        · rintro _ ⟨⟩
          exact number
        · simp only [Wording.checksText, List.append_assoc]
      · exact without found
    · exact without found
  · rintro ⟨number, numeric, rest, rfl⟩
    exact clauses?_text number numeric rest

/-- A text has a wording at its front exactly when it starts with a printed one. -/
theorem wordingAt?_eq_some_iff {w : Wording} :
    wordingAt? cs = some w ↔ w.IsNumeric ∧ ∃ rest, cs = w.text ++ rest := by
  constructor
  · intro found
    simp only [wordingAt?, Option.bind_eq_bind, Option.bind_eq_some_iff, Prod.exists] at found
    obtain ⟨_, front, errors, _, first, _, between, warnings, _, second, _, behind, checks, lines,
      clauses, last⟩ := found
    cases last
    obtain ⟨numericErrors, -, rfl⟩ := number?_eq_some_iff.1 first
    obtain ⟨numericWarnings, -, rfl⟩ := number?_eq_some_iff.1 second
    obtain ⟨numericChecks, numericLines, rest, rfl⟩ := clauses?_eq_some_iff.1 clauses
    refine ⟨⟨numericErrors, numericWarnings, numericChecks, numericLines⟩, rest, ?_⟩
    rw [after?_eq_some_iff.1 front, after?_eq_some_iff.1 between, after?_eq_some_iff.1 behind]
    simp only [Wording.text, List.append_assoc]
  · rintro ⟨numeric, rest, rfl⟩
    exact wordingAt?_text numeric rest

/-! ## The first wording of a text -/

/-- A printed wording stands in a text behind some of its beginning. -/
def Wording.OccursBehind (w : Wording) (before cs : List Char) : Prop :=
  w.IsNumeric ∧ ∃ rest, cs = before ++ (w.text ++ rest)

/-- No wording stands further to the left. -/
def Wording.FirstBehind (w : Wording) (before cs : List Char) : Prop :=
  w.OccursBehind before cs ∧
    ∀ (v : Wording) (shorter : List Char), v.OccursBehind shorter cs →
      before.length ≤ shorter.length

theorem Wording.occursBehind_nil_iff {w : Wording} :
    w.OccursBehind [] cs ↔ wordingAt? cs = some w := wordingAt?_eq_some_iff.symm

/-- A wording stands at the front, or behind the first character. -/
theorem Wording.occursBehind_cons_iff {w : Wording} {c : Char} {before : List Char} :
    w.OccursBehind before (c :: cs) ↔
      (before = [] ∧ wordingAt? (c :: cs) = some w) ∨
        ∃ shorter, before = c :: shorter ∧ w.OccursBehind shorter cs := by
  cases before with
  | nil => simp [occursBehind_nil_iff]
  | cons b before =>
    simp only [OccursBehind, List.cons_append, List.cons.injEq, reduceCtorEq, false_and, false_or]
    constructor
    · rintro ⟨numeric, rest, rfl, split⟩
      exact ⟨before, ⟨rfl, rfl⟩, numeric, rest, split⟩
    · rintro ⟨_, ⟨rfl, rfl⟩, numeric, rest, split⟩
      exact ⟨numeric, rest, rfl, split⟩

theorem Wording.not_occursBehind_in_nil (w : Wording) (before : List Char) :
    ¬ w.OccursBehind before [] := by
  rintro ⟨-, rest, split⟩
  have text : w.text = [] := (List.append_eq_nil_iff.1 (List.append_eq_nil_iff.1 split.symm).2).1
  cases text

/-- If any wording stands in a text, one is found. -/
theorem exists_wording?_of_occursBehind {w : Wording} {before : List Char}
    (h : w.OccursBehind before cs) : ∃ v, wording? cs = some v := by
  induction cs generalizing before with
  | nil => exact absurd h (w.not_occursBehind_in_nil before)
  | cons c cs ih =>
    rw [wording?]
    cases front : wordingAt? (c :: cs) with
    | some v => exact ⟨v, rfl⟩
    | none =>
      rcases Wording.occursBehind_cons_iff.1 h with ⟨-, here⟩ | ⟨shorter, -, later⟩
      · rw [front] at here
        cases here
      · exact ih later

/-- What is found is the first wording of the text. -/
theorem exists_firstBehind_of_wording? {w : Wording} (h : wording? cs = some w) :
    ∃ before, w.FirstBehind before cs := by
  induction cs with
  | nil => cases h
  | cons c cs ih =>
    rw [wording?] at h
    cases front : wordingAt? (c :: cs) with
    | some v =>
      rw [front] at h
      cases h
      exact ⟨[], Wording.occursBehind_nil_iff.2 front, fun _ _ _ => Nat.zero_le _⟩
    | none =>
      rw [front] at h
      obtain ⟨before, occurs, first⟩ := ih h
      refine ⟨c :: before, Wording.occursBehind_cons_iff.2 (.inr ⟨before, rfl, occurs⟩), ?_⟩
      intro v place other
      rcases Wording.occursBehind_cons_iff.1 other with ⟨-, here⟩ | ⟨shorter, rfl, later⟩
      · rw [front] at here
        cases here
      · exact Nat.succ_le_succ (first v shorter later)

/-- There is one first wording. -/
theorem Wording.FirstBehind.eq {v w : Wording} {before shorter : List Char}
    (hv : v.FirstBehind before cs) (hw : w.FirstBehind shorter cs) : v = w := by
  obtain ⟨⟨numericV, restV, splitV⟩, firstV⟩ := hv
  obtain ⟨⟨numericW, restW, splitW⟩, firstW⟩ := hw
  have length : before.length = shorter.length :=
    Nat.le_antisymm (firstV w shorter ⟨numericW, restW, splitW⟩)
      (firstW v before ⟨numericV, restV, splitV⟩)
  have same := (List.append_inj (splitV.symm.trans splitW) length).2
  have front := wordingAt?_text numericV restV
  rw [same, wordingAt?_text numericW restW] at front
  exact (Option.some.inj front).symm

theorem wording?_eq_some_iff {w : Wording} :
    wording? cs = some w ↔ ∃ before, w.FirstBehind before cs := by
  constructor
  · exact exists_firstBehind_of_wording?
  · rintro ⟨before, first⟩
    obtain ⟨v, found⟩ := exists_wording?_of_occursBehind first.1
    obtain ⟨place, found'⟩ := exists_firstBehind_of_wording? found
    rw [found, found'.eq first]

/-! ## Counts -/

/-- A longest run of decimal digits in a text. -/
def DigitRun (digits cs : List Char) : Prop :=
  Wording.IsNumber digits ∧ ∃ before after, cs = before ++ (digits ++ after) ∧
    (∀ c ∈ before.getLast?, isDecimalDigit c = false) ∧
    ∀ c ∈ after.head?, isDecimalDigit c = false

/-- Each number of a text is written in ASCII and fits. -/
def Countable (cs : List Char) : Prop :=
  ∀ digits, DigitRun digits cs → (∀ c ∈ digits, c.toNat < 128) ∧ denoted digits < bound

/-- The counts that the digits of a wording denote. -/
def Wording.counts (w : Wording) : Summary where
  errors := denoted w.errors
  warnings := denoted w.warnings
  checks := w.checks.map denoted
  lines := denoted w.lines

theorem denoted_lt {digits : List Char} (decimal : ∀ c ∈ digits, isDecimalDigit c)
    (ascii : ∀ c ∈ digits, c.toNat < 128) (n : Nat) :
    Nat.ofDigitChars 10 digits n < (n + 1) * Nat.pow 10 digits.length := by
  induction digits generalizing n with
  | nil =>
    show n < (n + 1) * 1
    omega
  | cons c digits ih =>
    obtain ⟨digit, decimal⟩ := List.forall_mem_cons.1 decimal
    obtain ⟨plain, ascii⟩ := List.forall_mem_cons.1 ascii
    have value : c.toNat - '0'.toNat ≤ 9 := Nat.sub_le_sub_right (digit_of_ascii digit plain).2 _
    rw [Nat.ofDigitChars_cons]
    calc
      Nat.ofDigitChars 10 digits (10 * n + (c.toNat - '0'.toNat))
        < (10 * n + (c.toNat - '0'.toNat) + 1) * Nat.pow 10 digits.length := ih decimal ascii _
      _ ≤ ((n + 1) * 10) * Nat.pow 10 digits.length := Nat.mul_le_mul_right _ (by omega)
      _ = (n + 1) * Nat.pow 10 (digits.length + 1) := by
        rw [Nat.mul_assoc, Nat.mul_comm 10]
        rfl

/-- Up to 19 ASCII digits fit, however they are divided into numbers. -/
theorem countable_of_short (ascii : (cs.filter isDecimalDigit).all fun c => c.toNat < 128)
    (short : (cs.filter isDecimalDigit).length ≤ 19) : Countable cs := by
  rintro digits ⟨⟨-, decimal⟩, before, after, rfl, -, -⟩
  have plain : ∀ c ∈ digits, c.toNat < 128 := by
    intro c hc
    have mem : c ∈ before ++ (digits ++ after) := by simp [hc]
    have digit := List.mem_filter.2 ⟨mem, decimal c hc⟩
    exact of_decide_eq_true (List.all_eq_true.1 ascii c digit)
  have length : digits.length ≤ 19 := by
    rw [List.filter_append, List.filter_append, List.filter_eq_self.2 decimal,
      List.length_append, List.length_append] at short
    omega
  refine ⟨plain, ?_⟩
  calc
    denoted digits < (0 + 1) * Nat.pow 10 digits.length := denoted_lt decimal plain 0
    _ = Nat.pow 10 digits.length := Nat.one_mul _
    _ ≤ Nat.pow 10 19 := Nat.pow_le_pow_right (by decide) length
    _ ≤ bound := by decide

theorem DigitRun.naturalBelow? {digits : List Char} (h : DigitRun digits cs) (fits : Countable cs) :
    naturalBelow? bound digits = some (denoted digits) := by
  obtain ⟨ascii, below⟩ := fits digits h
  have read : natural? digits = some (denoted digits) := by
    rw [natural?.eq_def]
    split
    · exact absurd rfl h.1.1
    · exact naturalFrom?_of_ascii h.1.2 ascii 0
  rw [Text.naturalBelow?, read]
  exact Option.filter_some_pos (decide_eq_true below)

/-- Digits with a blank on both sides are a longest run. -/
theorem digitRun_between_blanks (left right : List Char) {digits : List Char}
    (number : Wording.IsNumber digits) (starts : left.getLast? = some ' ')
    (ends : right.head? = some ' ') (within : left ++ (digits ++ right) <:+: cs) :
    DigitRun digits cs := by
  obtain ⟨front, rest, split⟩ := within
  have blank : ∀ c ∈ some ' ', isDecimalDigit c = false := by
    rintro c ⟨⟩
    decide +kernel
  refine ⟨number, front ++ left, right ++ rest, ?_, ?_, ?_⟩
  · simpa only [List.append_assoc] using split.symm
  · rw [List.getLast?_append, starts]
    exact blank
  · rw [List.head?_append, ends]
    exact blank

/-- The digits of a wording are longest runs of the text it stands in. -/
theorem Wording.OccursBehind.digitRuns {w : Wording} {before : List Char}
    (h : w.OccursBehind before cs) :
    DigitRun w.errors cs ∧ DigitRun w.warnings cs ∧ (∀ digits ∈ w.checks, DigitRun digits cs) ∧
      DigitRun w.lines cs := by
  obtain ⟨⟨errors, warnings, checks, lines⟩, rest, rfl⟩ := h
  have within : w.text <:+: before ++ (w.text ++ rest) := ⟨before, rest, by simp⟩
  let counted := blank ++ (w.lines ++ behindLines)
  let clauses := Wording.checksText w.checks ++ counted
  let front := beforeErrors ++ (w.errors ++ (behindErrors ++ (w.warnings ++ behindWarnings)))
  refine ⟨?_, ?_, ?_, ?_⟩
  · refine digitRun_between_blanks beforeErrors behindErrors errors rfl rfl (.trans ?_ within)
    exact ⟨[], w.warnings ++ (behindWarnings ++ clauses), by simp [Wording.text, clauses, counted]⟩
  · refine digitRun_between_blanks behindErrors behindWarnings warnings rfl rfl (.trans ?_ within)
    exact ⟨beforeErrors ++ w.errors, clauses, by simp [Wording.text, clauses, counted]⟩
  · intro digits some
    have number := checks digits some
    rw [Option.mem_def] at some
    refine digitRun_between_blanks blank behindChecks number rfl rfl (.trans ?_ within)
    exact ⟨front, counted, by simp [Wording.text, some, Wording.checksText, front, counted]⟩
  · refine digitRun_between_blanks blank behindLines lines rfl rfl (.trans ?_ within)
    exact ⟨front ++ Wording.checksText w.checks, [], by simp [Wording.text, front]⟩

/-- If all numbers of a text fit, a wording in it makes a summary with its counts. -/
theorem Wording.OccursBehind.ofWording? {w : Wording} {before : List Char}
    (h : w.OccursBehind before cs) (fits : Countable cs) : ofWording? w = some w.counts := by
  obtain ⟨errors, warnings, checks, lines⟩ := h.digitRuns
  have clause : w.checks.bind (Text.naturalBelow? bound) = w.checks.map denoted := by
    cases named : w.checks with
    | none => rfl
    | some digits => exact (checks digits named).naturalBelow? fits
  simp only [Summary.ofWording?, errors.naturalBelow? fits, warnings.naturalBelow? fits,
    lines.naturalBelow? fits, clause, Option.bind_eq_bind, Option.bind_some, Option.pure_def]
  rfl

theorem find?_eq_some_iff {text : String} (fits : Countable text.toList) {s : Summary} :
    find? text = some s ↔ ∃ (w : Wording) (before : List Char),
      w.FirstBehind before text.toList ∧ s = w.counts := by
  rw [find?, Option.bind_eq_some_iff]
  constructor
  · rintro ⟨w, found, read⟩
    obtain ⟨before, first⟩ := wording?_eq_some_iff.1 found
    rw [first.1.ofWording? fits] at read
    exact ⟨w, before, first, (Option.some.inj read).symm⟩
  · rintro ⟨w, before, first, rfl⟩
    exact ⟨w, wording?_eq_some_iff.2 ⟨before, first⟩, first.1.ofWording? fits⟩

theorem exists_find?_iff {text : String} (fits : Countable text.toList) :
    (∃ s, find? text = some s) ↔ ∃ (w : Wording) (before : List Char),
      w.OccursBehind before text.toList := by
  constructor
  · rintro ⟨s, found⟩
    obtain ⟨w, before, first, -⟩ := (find?_eq_some_iff fits).1 found
    exact ⟨w, before, first.1⟩
  · rintro ⟨w, before, occurs⟩
    obtain ⟨v, found⟩ := exists_wording?_of_occursBehind occurs
    obtain ⟨place, first⟩ := wording?_eq_some_iff.1 found
    exact ⟨v.counts, (find?_eq_some_iff fits).2 ⟨v, place, first, rfl⟩⟩

end Summary

/-- A probe passes with the summary of what the checker printed. -/
theorem probe_eq_ok_iff {σ : Type} {host : Host σ} {executable : Path} {args : List String}
    {cwd : Option Path} {scene : Scene σ} {output : Output} {s : Summary}
    (ended : (host.start (probeLaunch executable args cwd) scene.host).1 = .ok output) :
    ((probe host executable args cwd).run scene).1 = .ok s ↔
      Summary.find? output.outText = some s := by
  simp only [probe, Work.run_bind, Work.run_start, Work.run_pure, ended, probed]
  cases Summary.find? output.outText with
  | none => simp
  | some found => simp

namespace Summary

/-- In a text whose numbers all fit, what is found are the counts of the first wording.
So there is a summary exactly when a wording stands anywhere, and it has a number of
checks exactly when the first wording has one; and a probe of a checker that prints the
text passes exactly then. -/
theorem counts_of_first_wording (text : String) (fits : Countable text.toList) :
    ((∃ s, find? text = some s) ↔ ∃ (w : Wording) (before : List Char),
      w.OccursBehind before text.toList) ∧
    (∀ s, find? text = some s ↔ ∃ (w : Wording) (before : List Char),
      w.FirstBehind before text.toList ∧ s = w.counts) ∧
    (∀ (w : Wording) (before : List Char) (s : Summary), w.FirstBehind before text.toList →
      find? text = some s → (s.checks = none ↔ w.checks = none)) ∧
    ∀ (σ : Type) (host : Host σ) (executable : Path) (args : List String) (cwd : Option Path)
      (scene : Scene σ) (output : Output),
      (host.start (probeLaunch executable args cwd) scene.host).1 = .ok output →
      output.outText = text →
      ((∃ s, ((probe host executable args cwd).run scene).1 = .ok s) ↔
        ∃ (w : Wording) (before : List Char), w.OccursBehind before text.toList) := by
  refine ⟨exists_find?_iff fits, fun _ => find?_eq_some_iff fits, ?_, ?_⟩
  · intro w before s first found
    obtain ⟨v, place, other, rfl⟩ := (find?_eq_some_iff fits).1 found
    rw [other.eq first]
    exact Option.map_eq_none_iff
  · rintro σ host executable args cwd scene output ended rfl
    rw [← exists_find?_iff fits]
    exact exists_congr fun _ => probe_eq_ok_iff ended

/-- The first wording breaks off and the last one stands behind another, so the one in
the middle counts, and a checker that prints this passes a probe. -/
theorem wording_between_others_is_found :
    let text := "total: 1 errors, total: 2 errors, 0 warnings, 7 checks, 90 lines checked, " ++
      "total: 3 errors, 4 warnings, 5 lines checked"
    let output : Output := ⟨Text.Utf8.encode text, [], 1⟩
    let host : Host Unit := .uniform output
    Countable text.toList ∧
    (∃ (w : Wording) (before : List Char), w.FirstBehind before text.toList ∧
      w.counts = ⟨2, 0, some 7, 90⟩ ∧ w.checks ≠ none) ∧
    ∀ executable args cwd scene,
      ∃ s, ((probe host executable args cwd).run scene).1 = .ok s := by
  intro text output host
  have fits : Countable text.toList := countable_of_short (by decide +kernel) (by decide +kernel)
  have found : find? text = some ⟨2, 0, some 7, 90⟩ := by decide +kernel
  obtain ⟨present, counts, checks, accepted⟩ := counts_of_first_wording text fits
  obtain ⟨w, before, first, same⟩ := (counts _).1 found
  refine ⟨fits, ⟨w, before, first, same.symm, ?_⟩, ?_⟩
  · intro none
    cases (checks w before _ first found).2 none
  · intro executable args cwd scene
    have printed : ∀ t, Output.outText ⟨Text.Utf8.encode t, [], 1⟩ = t := Text.Utf8.lossy_encode
    have passes := accepted Unit host executable args cwd scene output rfl (printed text)
    exact passes.2 (present.1 ⟨_, found⟩)

end Summary

end PatchLint
