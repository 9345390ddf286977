import PatchLint.Proofs.Layout.Search
import PatchLint.Proofs.Layout.Transcript

/-!
# Reading what was printed

Reading undoes printing.  A finding that was printed is the match at the start of
its first line, the search passes over every other line, and so the findings of a
transcript are read back from it in order, in either layout (`findings_transcript`).

The automatic choice must not take two lines for one.  Neither of the two announces
a finding on one line: in the first what comes before a tag is no number, and the
second has no tag.
-/

namespace PatchLint

open Text

/-! ## Parts -/

theorem Text.isDecimalDigit_digits (n : Nat) : ∀ c ∈ digits n, isDecimalDigit c := by
  have single : ∀ m : Fin 10, isDecimalDigit (digit m) := by decide +kernel
  induction n using digits.induct with
  | case1 n small =>
    rw [digits, if_pos small]
    intro c hc
    obtain rfl := List.mem_singleton.1 hc
    exact single ⟨n, small⟩
  | case2 n large ih =>
    rw [digits, if_neg large]
    intro c hc
    rcases List.mem_append.1 hc with mem | mem
    · exact ih c mem
    · obtain rfl := List.mem_singleton.1 mem
      exact single ⟨n % 10, Nat.mod_lt _ (by decide)⟩

namespace LineEnd

variable (e : LineEnd) (more : List Char)

theorem isLineEnd_head? : ∀ c ∈ (e.text ++ more).head?, Pattern.isLineEnd c := by
  cases e with
  | feed =>
    rintro c ⟨⟩
    rfl
  | returnAndFeed =>
    rintro c ⟨⟩
    rfl

theorem lineEnd?_text : Pattern.lineEnd? (e.text ++ more) = some (lineFeed :: more) := by
  cases e with
  | feed => rfl
  | returnAndFeed =>
    have other : carriageReturn ≠ lineFeed := by decide
    simp [text, Pattern.lineEnd?, other]

theorem lineBreak?_text : Pattern.lineBreak? (e.text ++ more) = some more := by
  cases e with
  | feed => rfl
  | returnAndFeed => rfl

/-- A line and its end are a line in front of a line feed. -/
theorem exists_line_text {line : List Char} (h : lineFeed ∉ line) :
    ∃ whole, lineFeed ∉ whole ∧ line ++ (e.text ++ more) = whole ++ lineFeed :: more ∧
      dropReturn whole <+: line := by
  cases e with
  | feed => exact ⟨line, h, rfl, prefix_dropReturn line⟩
  | returnAndFeed =>
    refine ⟨line ++ [carriageReturn], ?_, by simp [text], ?_⟩
    · rw [List.mem_append, not_or]
      exact ⟨h, by decide⟩
    · exact ⟨[], by rw [dropReturn_append, List.append_nil]⟩

theorem nextLine_text {line : List Char} (h : lineFeed ∉ line) :
    nextLine (line ++ (e.text ++ more)) = some more := by
  obtain ⟨whole, inside, same, -⟩ := e.exists_line_text more h
  rw [same]
  exact nextLine_append inside more

end LineEnd

namespace Pattern

/-- A file is read up to the colon behind it, since no colon in it is followed by a
digit. -/
theorem shortest?_append {α : Type} {tail : List Char → Option α} {file rest : List Char} {a : α}
    (place : ∀ {cs b}, tail cs = some b → ∃ d behind, cs = ':' :: d :: behind ∧ isDecimalDigit d)
    (ne : file ≠ []) (inside : ∀ c ∈ file, isLineEnd c = false)
    (colons : file.IsChain fun a b => a = ':' → b ≠ ' ' ∧ isDecimalDigit b = false)
    (reads : tail (':' :: rest) = some a) :
    shortest? tail (file ++ ':' :: rest) = some (file, a) := by
  induction file with
  | nil => exact absurd rfl ne
  | cons c file ih =>
    obtain ⟨first, inside⟩ := List.forall_mem_cons.1 inside
    rw [List.cons_append, shortest?, first]
    cases file with
    | nil =>
      rw [List.nil_append, reads]
      rfl
    | cons d file =>
      have missed : tail (d :: file ++ ':' :: rest) = none := by
        rw [Option.eq_none_iff_forall_ne_some]
        intro b found
        obtain ⟨x, behind, split, digit⟩ := place found
        obtain ⟨-, colons⟩ := List.isChain_cons_cons.1 colons
        cases file with
        | nil =>
          cases split
          exact absurd digit (by decide +kernel)
        | cons y file =>
          cases split
          have other := ((List.isChain_cons_cons.1 colons).1 rfl).2
          rw [digit] at other
          cases other
      rw [missed, ih (by simp) inside (List.isChain_cons_cons.1 colons).2]
      rfl

theorem place_of_run? {cs behind number rest : List Char} (colon : after? [':'] cs = some behind)
    (run : run? isDecimalDigit behind = some (number, rest)) :
    ∃ d behind, cs = ':' :: d :: behind ∧ isDecimalDigit d := by
  have colon := after?_eq_some_iff.1 colon
  obtain ⟨split, ne, digits, -⟩ := run?_eq_some run
  obtain ⟨d, number, rfl⟩ := List.exists_cons_of_ne_nil ne
  exact ⟨d, number ++ rest, by rw [colon, split]; rfl, digits d List.mem_cons_self⟩

theorem place_of_singleLineTail? {cs : List Char}
    {a : (List Char × Kind × List Char × List Char) × List Char}
    (h : singleLineTail? cs = some a) : ∃ d behind, cs = ':' :: d :: behind ∧ isDecimalDigit d := by
  simp only [singleLineTail?, Option.bind_eq_bind, Option.bind_eq_some_iff, Prod.exists] at h
  obtain ⟨_, colon, _, _, run, -⟩ := h
  exact place_of_run? colon run

theorem place_of_placeTail? {cs : List Char} {a : List Char × List Char}
    (h : placeTail? cs = some a) : ∃ d behind, cs = ':' :: d :: behind ∧ isDecimalDigit d := by
  simp only [placeTail?, Option.bind_eq_bind, Option.bind_eq_some_iff, Prod.exists] at h
  obtain ⟨_, colon, _, _, run, -⟩ := h
  exact place_of_run? colon run

theorem run?_digits (n : Nat) (cs : List Char) :
    run? isDecimalDigit (digits n ++ ':' :: cs) = some (digits n, ':' :: cs) := by
  refine run?_append (digits_ne_nil n) (isDecimalDigit_digits n) ?_
  rintro c ⟨⟩
  decide +kernel

end Pattern

/-! ## Findings that were printed -/

namespace Finding

variable {f : Finding}

/-- What is read of a finding. -/
def capture (s : Spacing) (f : Finding) : Capture :=
  ⟨f.file.toList, digits f.line, f.kind, f.code.toList, f.printedMessage s⟩

theorem Legible.trim_printedMessage (h : f.Legible) (s : Spacing) :
    trim (f.printedMessage s) = f.message.toList := by
  have bare := trim_eq_self h.head?_message h.getLast?_message
  cases blank : s.beforeMessage with
  | false => simpa [printedMessage, blank, Spacing.blankIf] using bare
  | true =>
    have dropped : trimStart (' ' :: f.message.toList) = trimStart f.message.toList :=
      List.dropWhile_cons_of_pos (by decide)
    simpa [printedMessage, blank, Spacing.blankIf, trim, dropped] using bare

/-- The capture of a legible finding stands for it. -/
theorem Legible.finding?_capture (h : f.Legible) (s : Spacing) :
    (f.capture s).finding? = some f := by
  have number : naturalBelow? Capture.lineBound (digits f.line) = some f.line := by
    rw [naturalBelow?, natural?_digits]
    exact Option.filter_some_pos (decide_eq_true h.line_lt)
  have pos : f.line ≠ 0 := Nat.ne_of_gt h.line_pos
  simp [Capture.finding?, capture, number, h.trim_printedMessage s, pos, h.message_ne_nil]

theorem Legible.match?_inOneLine (h : f.Legible) (m : Manner) (more : List Char) :
    Pattern.singleLine.match? (f.inOneLine m ++ more) =
      some (f.capture m.spacing, lineFeed :: more) := by
  have remark := Pattern.remark?_remark h.toPrintable m.spacing (m.firstEnd.isLineEnd_head? more)
  have tail : Pattern.singleLineTail? (':' :: (digits f.line ++ ':' :: ' ' ::
      (f.remark m.spacing ++ (m.firstEnd.text ++ more)))) =
        some ((digits f.line, f.kind, f.code.toList, f.printedMessage m.spacing),
          lineFeed :: more) := by
    simp [Pattern.singleLineTail?, after?, Pattern.run?_digits, remark, LineEnd.lineEnd?_text]
  have file := Pattern.shortest?_append Pattern.place_of_singleLineTail? h.file_ne_nil
    h.isLineEnd_file h.colons tail
  have text : f.inOneLine m ++ more = f.file.toList ++ ':' :: (digits f.line ++ ':' :: ' ' ::
      (f.remark m.spacing ++ (m.firstEnd.text ++ more))) := by
    simp [inOneLine, singleLine, place]
  rw [text]
  show (Pattern.shortest? _ _).map _ = _
  rw [file]
  rfl

theorem Legible.place?_placeBehind (h : f.Legible) (m : Manner) (more : List Char) :
    Pattern.place? (f.placeBehind m.number ++ more) =
      some ((f.file.toList, digits f.line), more) := by
  have tail : Pattern.placeTail? (':' :: (digits f.line ++ ':' :: more)) =
      some (digits f.line, more) := by
    simp [Pattern.placeTail?, after?, Pattern.run?_digits]
  have file : Pattern.shortest? Pattern.placeTail? (f.file.toList ++ ':' ::
      (digits f.line ++ ':' :: more)) = some (f.file.toList, digits f.line, more) :=
    Pattern.shortest?_append Pattern.place_of_placeTail? h.file_ne_nil h.isLineEnd_file h.colons tail
  have text : f.placeBehind m.number ++ more = '#' :: (m.number ++ (": FILE: ".toList ++
      (f.file.toList ++ ':' :: (digits f.line ++ ':' :: more)))) := by
    simp [placeBehind, place]
  rw [text]
  generalize f.file.toList ++ ':' :: (digits f.line ++ ':' :: more) = behind at file ⊢
  have mark : ∀ cs, after? ['#'] ('#' :: cs) = some cs := after?_append ['#']
  have number : run? isDecimalDigit (m.number ++ (": FILE: ".toList ++ behind)) =
      some (m.number, ": FILE: ".toList ++ behind) := by
    refine run?_append m.number_ne_nil m.isDecimalDigit ?_
    rintro c ⟨⟩
    decide +kernel
  simp only [Pattern.place?, mark, number, after?_append, file, Option.bind_eq_bind,
    Option.bind_some]
  rfl

theorem Legible.match?_inTwoLines (h : f.Legible) (m : Manner) (more : List Char) :
    Pattern.twoLine.match? (f.inTwoLines m ++ more) =
      some (f.capture m.spacing, m.secondEnd.text ++ more) := by
  have remark := Pattern.remark?_remark h.toPrintable m.spacing
    (m.firstEnd.isLineEnd_head? (f.placeBehind m.number ++ (m.secondEnd.text ++ more)))
  have text : f.inTwoLines m ++ more = f.remark m.spacing ++ (m.firstEnd.text ++
      (f.placeBehind m.number ++ (m.secondEnd.text ++ more))) := by
    simp [inTwoLines]
  rw [text]
  show Pattern.twoLineMatch? _ = _
  simp [Pattern.twoLineMatch?, remark, LineEnd.lineBreak?_text, h.place?_placeBehind, capture]

end Finding

/-! ## Lines that announce no finding -/

theorem Noise.not_announces (line : Noise) : ¬ Pattern.Announces line.text := by
  rintro ⟨d, k, -, announced⟩
  exact line.untagged k ((List.suffix_cons d _).isInfix.trans announced)

/-- A colon in a text of two parts with a colon between them is that one, or it is
in the second part if there is none in the first. -/
theorem split_at_colon {before behind first second : List Char}
    (h : before ++ ':' :: behind = first ++ ':' :: second) (none : ':' ∉ first) :
    (before = first ∧ behind = second) ∨
      ∃ more, before = first ++ ':' :: more ∧ second = more ++ ':' :: behind := by
  rcases List.append_eq_append_iff.1 h with ⟨more, same, rest⟩ | ⟨more, same, rest⟩
  · cases more with
    | nil =>
      cases rest
      exact .inl ⟨by simpa using same.symm, rfl⟩
    | cons c more =>
      cases rest
      exact absurd (same ▸ List.mem_append_right _ List.mem_cons_self) none
  · cases more with
    | nil =>
      cases rest
      exact .inl ⟨by simpa using same, rfl⟩
    | cons c more =>
      cases rest
      exact .inr ⟨more, same, rfl⟩

namespace Finding

variable {f : Finding}

theorem not_mem_blankIf {c : Char} (other : c ≠ ' ') (b : Bool) : c ∉ Spacing.blankIf b := by
  cases b with
  | true => simpa [Spacing.blankIf] using other
  | false => exact List.not_mem_nil

theorem Legible.lineFeed_not_mem_remark (h : f.Legible) (s : Spacing) :
    lineFeed ∉ f.remark s := by
  have tag : lineFeed ∉ f.kind.tag.toList :=
    not_mem_of_class (Pattern.isCodeChar_tag f.kind) (by decide)
  have code : lineFeed ∉ f.code.toList := not_mem_of_class h.isCodeChar (by decide)
  have message : lineFeed ∉ f.message.toList :=
    fun mem => absurd (h.isLineEnd_eq_false _ mem) (by decide)
  have colon : lineFeed ≠ ':' := by decide
  have blank : ∀ b, lineFeed ∉ Spacing.blankIf b := not_mem_blankIf (by decide)
  simp [remark, Finding.printedMessage, tag, code, message, colon, blank]

theorem Legible.lineFeed_not_mem_placeBehind (h : f.Legible) (m : Manner) :
    lineFeed ∉ f.placeBehind m.number := by
  have digit : isDecimalDigit lineFeed = false := by decide +kernel
  have number := not_mem_of_class m.isDecimalDigit digit
  have line := not_mem_of_class (isDecimalDigit_digits f.line) digit
  have file : lineFeed ∉ f.file.toList :=
    fun mem => absurd (h.isLineEnd_file _ mem) (by decide)
  have word : lineFeed ∉ ": FILE: ".toList := by decide
  simp only [placeBehind, place, List.mem_cons, List.mem_append, not_or]
  exact ⟨by decide, number, word, ⟨file, by decide, line⟩, by decide, List.not_mem_nil⟩

theorem Untagged.printedMessage (h : f.Untagged) (s : Spacing) (k : Kind) :
    ¬ (k.tag.toList ++ [':']) <:+: f.printedMessage s := by
  cases blank : s.beforeMessage with
  | false => simpa [Finding.printedMessage, blank, Spacing.blankIf] using h k
  | true =>
    have printed : f.printedMessage s = ' ' :: f.message.toList := by
      simp [Finding.printedMessage, blank, Spacing.blankIf]
    rw [printed, List.infix_cons_iff]
    rintro (start | inside)
    · cases k with
      | error => cases (List.cons_prefix_cons.1 start).1
      | warning => cases (List.cons_prefix_cons.1 start).1
      | check => cases (List.cons_prefix_cons.1 start).1
    · exact h k inside

/-- A remark announces no finding on one line: what comes before its first colon is
a tag, what comes before its second is a code, and behind them there is no tag. -/
theorem Legible.remark_not_announces (h : f.Legible) (untagged : f.Untagged) (s : Spacing) :
    ¬ Pattern.Announces (f.remark s) := by
  rintro ⟨d, k, digit, x, y, split⟩
  have tag : ':' ∉ f.kind.tag.toList := not_mem_of_class (Pattern.isCodeChar_tag f.kind) (by decide)
  have code : ':' ∉ Spacing.blankIf s.afterKind ++ f.code.toList := by
    rw [List.mem_append, not_or]
    exact ⟨not_mem_blankIf (by decide) _, not_mem_of_class h.isCodeChar (by decide)⟩
  have split : (x ++ [d]) ++ ':' :: (' ' :: (k.tag.toList ++ ':' :: y)) = f.kind.tag.toList ++
      ':' :: ((Spacing.blankIf s.afterKind ++ f.code.toList) ++ ':' :: f.printedMessage s) := by
    simpa [remark] using split
  have free := untagged.printedMessage s k
  rcases split_at_colon split tag with ⟨first, -⟩ | ⟨t, -, behind⟩
  · have mem : d ∈ f.kind.tag.toList := first ▸ List.mem_append_right _ List.mem_cons_self
    have letters : f.kind.tag.toList.any isDecimalDigit = false := by
      cases f.kind <;> decide +kernel
    exact List.any_eq_false.1 letters d mem digit
  · rcases split_at_colon behind.symm code with ⟨-, message⟩ | ⟨t', -, message⟩
    · exact free ⟨[' '], y, by simp [← message]⟩
    · exact free ⟨t' ++ [':', ' '], y, by simp [message]⟩

theorem isChain_of_no_blank {cs : List Char} (h : ∀ c ∈ cs, c ≠ ' ') :
    cs.IsChain fun a b => a = ':' → b ≠ ' ' :=
  (List.pairwise_of_forall_mem_list fun _ _ b hb => fun _ => h b hb).isChain

/-- No blank follows a colon in a place. -/
theorem Legible.isChain_place (h : f.Legible) :
    (' ' :: (f.file.toList ++ ':' :: (digits f.line ++ [':']))).IsChain
      fun a b => a = ':' → b ≠ ' ' := by
  have number : (':' :: (digits f.line ++ [':'])).IsChain fun a b => a = ':' → b ≠ ' ' := by
    refine isChain_of_no_blank ?_
    rintro c mem rfl
    simp only [List.mem_cons, List.mem_append, List.not_mem_nil, or_false] at mem
    rcases mem with same | digit | same
    · exact absurd same (by decide)
    · exact not_mem_of_class (isDecimalDigit_digits f.line) (by decide +kernel) digit
    · exact absurd same (by decide)
  refine List.isChain_cons.2 ⟨?_, List.isChain_append.2 ⟨?_, number, ?_⟩⟩
  · intro _ _ same
    cases same
  · exact h.colons.imp fun _ _ pair colon => (pair colon).1
  · rintro _ _ _ ⟨⟩ _
    decide

/-- A place announces no finding on one line: in front of its first blank behind a
colon there is its number, but no tag behind that, and in front of the other there
is no number. -/
theorem Legible.placeBehind_not_announces (h : f.Legible) (m : Manner) :
    ¬ Pattern.Announces (f.placeBehind m.number) := by
  rintro ⟨d, k, digit, x, y, split⟩
  have number : ':' ∉ '#' :: m.number := by
    rw [List.mem_cons, not_or]
    exact ⟨by decide, not_mem_of_class m.isDecimalDigit (by decide +kernel)⟩
  have split : (x ++ [d]) ++ ':' :: (' ' :: (k.tag.toList ++ ':' :: y)) = ('#' :: m.number) ++
      ':' :: (" FILE".toList ++ ':' :: (' ' :: (f.file.toList ++ ':' :: (digits f.line ++ [':'])))) := by
    simpa [placeBehind, place] using split
  rcases split_at_colon split number with ⟨-, behind⟩ | ⟨t, before, behind⟩
  · cases k with
    | error => simp [Kind.tag] at behind
    | warning => simp [Kind.tag] at behind
    | check => simp [Kind.tag] at behind
  · rcases split_at_colon behind.symm (by decide) with ⟨rfl, -⟩ | ⟨t', -, file⟩
    · have before : x ++ [d] = ('#' :: (m.number ++ ": FIL".toList)) ++ ['E'] := by
        simpa using before
      cases (List.append_inj' before rfl).2
      exact absurd digit (by decide +kernel)
    · have chain := h.isChain_place
      rw [file] at chain
      have colon : [':', ' '] <:+: t' ++ ':' :: (' ' :: (k.tag.toList ++ ':' :: y)) :=
        ⟨t', k.tag.toList ++ ':' :: y, by simp⟩
      have pair := List.IsChain.infix chain colon
      exact (List.isChain_cons_cons.1 pair).1 rfl rfl

end Finding

/-! ## Transcripts -/

variable {pieces : List Piece}

/-- The search for findings on one line passes over a line that announces none. -/
theorem singleLine_findings_of_quiet {line : List Char} (quiet : ¬ Pattern.Announces line)
    (inside : lineFeed ∉ line) (e : LineEnd) (more : List Char) :
    Pattern.singleLine.findings (line ++ (e.text ++ more)) = Pattern.singleLine.findings more := by
  have missed : Pattern.singleLine.match? (line ++ (e.text ++ more)) = none := by
    obtain ⟨whole, inside', same, within⟩ := e.exists_line_text more inside
    rw [same]
    exact Pattern.singleLineMatch?_eq_none inside' (atLineEnd_lineFeed more)
      fun announced => quiet (announced.of_infix within.isInfix)
  exact Pattern.findings_of_no_match missed (e.nextLine_text more inside)

theorem singleLine_findings_inOneLine (legible : ∀ f ∈ findingsOf pieces, f.Legible) :
    Pattern.singleLine.findings (transcript Finding.inOneLine pieces) = findingsOf pieces := by
  induction pieces with
  | nil => exact Pattern.findings_nil rfl
  | cons piece pieces ih =>
    cases piece with
    | noise line e =>
      rw [transcript_noise, singleLine_findings_of_quiet line.not_announces line.lineFeed_not_mem]
      exact ih legible
    | finding f m =>
      obtain ⟨first, legible⟩ := List.forall_mem_cons.1 legible
      have matched := first.match?_inOneLine m (transcript Finding.inOneLine pieces)
      have behind : nextLine (lineFeed :: transcript Finding.inOneLine pieces) = some _ := rfl
      rw [transcript_finding,
        Pattern.findings_of_match matched behind (first.finding?_capture m.spacing), ih legible]
      rfl

/-- No piece of two lines starts with a hash mark, so a place never follows noise. -/
theorem head?_transcript_inTwoLines (pieces : List Piece) :
    (transcript Finding.inTwoLines pieces).head? ≠ some '#' := by
  cases pieces with
  | nil => simp [transcript]
  | cons piece pieces =>
    cases piece with
    | noise line e =>
      rw [transcript_noise]
      have mark := line.head?_ne
      cases text : line.text with
      | nil =>
        intro start
        have ends := e.isLineEnd_head? (transcript Finding.inTwoLines pieces) '#' start
        exact absurd ends (by decide)
      | cons c cs =>
        rw [text] at mark
        exact mark
    | finding f m =>
      rw [transcript_finding, Finding.inTwoLines, Finding.remark]
      cases f.kind with
      | error => simp [Kind.tag]
      | warning => simp [Kind.tag]
      | check => simp [Kind.tag]

theorem twoLine_findings_inTwoLines (legible : ∀ f ∈ findingsOf pieces, f.Legible) :
    Pattern.twoLine.findings (transcript Finding.inTwoLines pieces) = findingsOf pieces := by
  induction pieces with
  | nil => exact Pattern.findings_nil rfl
  | cons piece pieces ih =>
    cases piece with
    | noise line e =>
      have behind := e.nextLine_text (transcript Finding.inTwoLines pieces) line.lineFeed_not_mem
      have missed := Pattern.twoLineMatch?_eq_none behind (head?_transcript_inTwoLines pieces)
      rw [transcript_noise, Pattern.findings_of_no_match missed behind]
      exact ih legible
    | finding f m =>
      obtain ⟨first, legible⟩ := List.forall_mem_cons.1 legible
      have matched := first.match?_inTwoLines m (transcript Finding.inTwoLines pieces)
      have behind := m.secondEnd.nextLine_text (transcript Finding.inTwoLines pieces)
        List.not_mem_nil
      rw [transcript_finding,
        Pattern.findings_of_match matched behind (first.finding?_capture m.spacing), ih legible]
      rfl

/-- Two lines are not taken for one. -/
theorem singleLine_findings_inTwoLines (legible : ∀ f ∈ findingsOf pieces, f.Legible)
    (untagged : ∀ f ∈ findingsOf pieces, f.Untagged) :
    Pattern.singleLine.findings (transcript Finding.inTwoLines pieces) = [] := by
  induction pieces with
  | nil => exact Pattern.findings_nil rfl
  | cons piece pieces ih =>
    cases piece with
    | noise line e =>
      rw [transcript_noise, singleLine_findings_of_quiet line.not_announces line.lineFeed_not_mem]
      exact ih legible untagged
    | finding f m =>
      obtain ⟨first, legible⟩ := List.forall_mem_cons.1 legible
      obtain ⟨bare, untagged⟩ := List.forall_mem_cons.1 untagged
      have text : transcript Finding.inTwoLines (.finding f m :: pieces) =
          f.remark m.spacing ++ (m.firstEnd.text ++ (f.placeBehind m.number ++
            (m.secondEnd.text ++ transcript Finding.inTwoLines pieces))) := by
        simp [transcript_finding, Finding.inTwoLines]
      rw [text, singleLine_findings_of_quiet (first.remark_not_announces bare _)
        (first.lineFeed_not_mem_remark _),
        singleLine_findings_of_quiet (first.placeBehind_not_announces m)
          (first.lineFeed_not_mem_placeBehind m)]
      exact ih legible untagged

/-- Without findings the layout makes no difference. -/
theorem transcript_of_no_findings (none : findingsOf pieces = [])
    (print print' : Finding → Manner → List Char) :
    transcript print pieces = transcript print' pieces := by
  induction pieces with
  | nil => rfl
  | cons piece pieces ih =>
    cases piece with
    | noise line e => exact congrArg _ (ih none)
    | finding f m => cases none

/-- Reading undoes printing, in either layout: the findings of a transcript are read
back from its text, whatever else is printed and in whatever manner.  The automatic
choice reads them too; when they are on two lines, that takes that no message has the
tag of a kind in it. -/
theorem findings_transcript (pieces : List Piece) (legible : ∀ f ∈ findingsOf pieces, f.Legible) :
    (Layout.singleLine.findings (transcript Finding.inOneLine pieces) = findingsOf pieces ∧
      Layout.auto.findings (transcript Finding.inOneLine pieces) = findingsOf pieces) ∧
    (Layout.twoLine.findings (transcript Finding.inTwoLines pieces) = findingsOf pieces ∧
      ((∀ f ∈ findingsOf pieces, f.Untagged) →
        Layout.auto.findings (transcript Finding.inTwoLines pieces) = findingsOf pieces)) := by
  have one := singleLine_findings_inOneLine legible
  have two := twoLine_findings_inTwoLines legible
  refine ⟨⟨one, ?_⟩, two, ?_⟩
  · cases none : findingsOf pieces with
    | nil =>
      rw [Layout.findings, one, none, transcript_of_no_findings none _ Finding.inTwoLines, two, none]
    | cons f fs => rw [Layout.findings, one, none]
  · intro untagged
    rw [Layout.findings, singleLine_findings_inTwoLines legible untagged, two]

/-- A finding in a file with a colon in its name, between lines that are nearly findings,
is read in both layouts. -/
theorem colons_and_noise_are_read :
    let f : Finding := ⟨"a b:c.h", 7, .error, "SPACING", "no blank: WARNING"⟩
    let m : Manner := ⟨⟨true, false⟩, ['1', '2'], by decide, List.all_eq_true.1 (by decide +kernel),
      .returnAndFeed, .feed⟩
    let half : Noise := ⟨"WARNING:LONG_LINE: too long".toList, by decide, by decide,
      by rintro (_ | _ | _) <;> decide +kernel⟩
    let pieces : List Piece := [.noise half .feed, .finding f m, .noise half .returnAndFeed]
    Layout.auto.findings (transcript Finding.inOneLine pieces) = [f] ∧
      Layout.auto.findings (transcript Finding.inTwoLines pieces) = [f] := by
  intro f m half pieces
  have inside : ∀ cs : List Char, cs.any Pattern.isLineEnd = false →
      ∀ c ∈ cs, Pattern.isLineEnd c = false :=
    fun _ none c mem => Bool.eq_false_iff.2 (List.any_eq_false.1 none c mem)
  have printable : Pattern.Printable f :=
    { code_ne_nil := by decide
      isCodeChar := List.all_eq_true.1 (by decide +kernel)
      message_ne_nil := by decide
      isLineEnd_eq_false := inside _ (by decide +kernel) }
  have legible : f.Legible :=
    { printable with
      file_ne_nil := by decide
      isLineEnd_file := inside _ (by decide +kernel)
      colons := by decide +kernel
      line_pos := by decide
      line_lt := show 7 < Capture.lineBound by decide +kernel
      head?_message := by
        intro c mem
        cases mem.symm.trans (show f.message.toList.head? = some 'n' by decide)
        decide
      getLast?_message := by
        intro c mem
        cases mem.symm.trans (show f.message.toList.getLast? = some 'G' by decide)
        decide }
  have untagged : f.Untagged := by
    rintro (_ | _ | _) <;> decide +kernel
  have all : findingsOf pieces = [f] := rfl
  obtain ⟨⟨-, one⟩, -, two⟩ := findings_transcript pieces (by simpa [all] using legible)
  exact ⟨one, two (by simpa [all] using untagged)⟩

end PatchLint
