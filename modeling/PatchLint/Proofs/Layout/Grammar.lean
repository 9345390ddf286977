import PatchLint.Layout.Grammar

/-!
# What the layouts read

Each reader of the layouts reads what its part of the grammar is made of and nothing
else (`Pattern.remark?_eq_some_iff`, `Pattern.shortest?_eq_some_iff`), so a match is a
capture of the grammar: on one line (`Pattern.singleLineMatch?_eq_some_iff`) or on two
(`Pattern.twoLineMatch?_eq_some_iff`).  Behind the match the rest of its last line is
left.
-/

namespace PatchLint

open Text

/-- A character outside a class is not among characters of the class. -/
theorem Text.not_mem_of_class {p : Char → Bool} {cs : List Char} {c : Char}
    (inside : ∀ d ∈ cs, p d) (outside : p c = false) : c ∉ cs := by
  intro mem
  cases outside.symm.trans (inside c mem)

namespace Pattern

/-! ## Classes of characters -/

theorem isLineEnd_iff {c : Char} : isLineEnd c ↔ c = lineFeed ∨ c = carriageReturn := by
  simp [isLineEnd]

theorem isLineEnd_eq_false_of_isDecimalDigit {c : Char} (h : isDecimalDigit c) :
    isLineEnd c = false := by
  rw [isLineEnd, Bool.or_eq_false_iff, decide_eq_false_iff_not, decide_eq_false_iff_not]
  constructor
  · rintro rfl
    exact absurd h (by decide +kernel)
  · rintro rfl
    exact absurd h (by decide +kernel)

theorem isLineEnd_eq_false_of_isCodeChar {c : Char} (h : isCodeChar c) : isLineEnd c = false := by
  rw [isLineEnd, Bool.or_eq_false_iff, decide_eq_false_iff_not, decide_eq_false_iff_not]
  constructor
  · rintro rfl
    exact absurd h (by decide)
  · rintro rfl
    exact absurd h (by decide)

/-- A tag could be a code. -/
theorem isCodeChar_tag (k : Kind) : ∀ c ∈ k.tag.toList, isCodeChar c :=
  List.all_eq_true.1 (by cases k <;> decide)

/-- The text is inside a line. -/
def Unbroken (cs : List Char) : Prop := ∀ c ∈ cs, isLineEnd c = false

theorem unbroken_iff {cs : List Char} : Unbroken cs ↔ lineFeed ∉ cs ∧ carriageReturn ∉ cs := by
  simp only [Unbroken, isLineEnd, Bool.or_eq_false_iff, decide_eq_false_iff_not]
  constructor
  · intro inside
    exact ⟨fun mem => (inside _ mem).1 rfl, fun mem => (inside _ mem).2 rfl⟩
  · rintro ⟨feed, back⟩ c mem
    exact ⟨fun same => feed (same ▸ mem), fun same => back (same ▸ mem)⟩

@[simp] theorem unbroken_nil : Unbroken [] := List.forall_mem_nil _

@[simp] theorem unbroken_append {a b : List Char} :
    Unbroken (a ++ b) ↔ Unbroken a ∧ Unbroken b := List.forall_mem_append

@[simp] theorem unbroken_cons {c : Char} {cs : List Char} :
    Unbroken (c :: cs) ↔ isLineEnd c = false ∧ Unbroken cs := List.forall_mem_cons

theorem unbroken_blankIf (b : Bool) : Unbroken (Spacing.blankIf b) := by
  cases b with
  | true => exact unbroken_cons.2 ⟨rfl, unbroken_nil⟩
  | false => exact unbroken_nil

end Pattern

open Pattern (isLineEnd Unbroken unbroken_iff)

namespace Capture

variable {c : Capture} {text rest : List Char}

/-- A remark is inside a line if its message is. -/
theorem Remark.unbroken_iff (h : c.Remark text) : Unbroken text ↔ Unbroken c.message := by
  obtain ⟨-, codeChars, -, blank, rfl⟩ := h
  have tag : Unbroken c.kind.tag.toList := fun d mem =>
    Pattern.isLineEnd_eq_false_of_isCodeChar (Pattern.isCodeChar_tag c.kind d mem)
  have code : Unbroken c.code := fun d mem =>
    Pattern.isLineEnd_eq_false_of_isCodeChar (codeChars d mem)
  have colon : isLineEnd ':' = false := rfl
  simp [tag, code, colon, Pattern.unbroken_blankIf]

/-- A place is inside a line if its file is and what follows it. -/
theorem Place.unbroken_iff (h : c.Place text rest) :
    Unbroken text ↔ Unbroken c.file ∧ Unbroken rest := by
  obtain ⟨-, -, digits, rfl⟩ := h
  have line : Unbroken c.line := fun d mem =>
    Pattern.isLineEnd_eq_false_of_isDecimalDigit (digits d mem)
  have colon : isLineEnd ':' = false := rfl
  simp [line, colon]

/-- What follows a place is on its line. -/
theorem PlaceLine.not_mem_rest {d : Char} (h : c.PlaceLine text rest) (absent : d ∉ text) :
    d ∉ rest := by
  obtain ⟨number, place, -, -, rfl, -, -, -, rfl⟩ := h
  exact fun mem => absent (by simp [mem])

end Capture

namespace Pattern

variable {cs rest line more : List Char} {c : Capture}

/-! ## Remarks -/

theorem kindAmong?_eq_some {k : Kind} {ks : List Kind} (h : kindAmong? cs ks = some (k, rest)) :
    cs = k.tag.toList ++ ':' :: rest := by
  induction ks with
  | nil => cases h
  | cons x ks ih =>
    rw [kindAmong?] at h
    split at h
    · next found =>
      cases h
      rw [after?_eq_some_iff.1 found]
      simp
    · exact ih h

theorem exists_blankIf_skip (cs : List Char) :
    ∃ blank, cs = Spacing.blankIf blank ++ skip ' ' cs := by
  cases cs with
  | nil => exact ⟨false, rfl⟩
  | cons d cs =>
    by_cases same : d = ' '
    · exact ⟨true, by simp [skip, same, Spacing.blankIf]⟩
    · exact ⟨false, by simp [skip, same, Spacing.blankIf]⟩

/-- A remark is read up to the end of its line. -/
theorem remark?_eq_some_iff :
    remark? cs = some ((c.kind, c.code, c.message), rest) ↔
      ∃ text, c.Remark text ∧ Unbroken c.message ∧ (∀ d ∈ rest.head?, isLineEnd d) ∧
        cs = text ++ rest := by
  constructor
  · intro h
    simp only [remark?, Option.bind_eq_bind, Option.bind_eq_some_iff, Prod.exists] at h
    obtain ⟨kind, behind, tag, code, _, coded, _, colon, message, _, said, last⟩ := h
    cases last
    obtain ⟨blank, skipped⟩ := exists_blankIf_skip behind
    obtain ⟨split, code_ne, codeChars, -⟩ := run?_eq_some coded
    obtain ⟨spoken, message_ne, inside, outside⟩ := run?_eq_some said
    refine ⟨_, ⟨code_ne, codeChars, message_ne, blank, rfl⟩, ?_, ?_, ?_⟩
    · exact fun d mem => by simpa using inside d mem
    · exact fun d mem => by simpa using outside d mem
    · rw [kindAmong?_eq_some tag, skipped, split, after?_eq_some_iff.1 colon, spoken]
      simp
  · rintro ⟨_, ⟨code_ne, codeChars, message_ne, blank, rfl⟩, inside, ends, rfl⟩
    -- as printed with no blank of its own in front of the message
    have printable : Printable ⟨"", 0, c.kind, String.ofList c.code, String.ofList c.message⟩ :=
      { code_ne_nil := by simpa using code_ne
        isCodeChar := by simpa using codeChars
        message_ne_nil := by simpa using message_ne
        isLineEnd_eq_false := fun d mem => inside d (by simpa using mem) }
    simpa [Finding.remark, Finding.printedMessage, Spacing.blankIf] using
      remark?_remark printable ⟨blank, false⟩ ends

/-! ## Shortest beginnings -/

/-- Behind a beginning of the line `tail` reads something. -/
structure Begins {α : Type} (tail : List Char → Option α) (cs file : List Char) (a : α) : Prop where
  ne_nil : file ≠ []
  unbroken : Unbroken file
  reads : ∃ behind, cs = file ++ behind ∧ tail behind = some a

section Shortest

variable {α : Type} {tail : List Char → Option α} {file : List Char} {a : α}

theorem begins_of_shortest? (h : shortest? tail cs = some (file, a)) : Begins tail cs file a := by
  induction cs generalizing file with
  | nil => cases h
  | cons c cs ih =>
    rw [shortest?] at h
    split at h
    · cases h
    · next inside =>
      have inside : isLineEnd c = false := Bool.eq_false_iff.2 inside
      split at h
      · next reads =>
        cases h
        exact ⟨by simp, by simpa using inside, cs, rfl, reads⟩
      · obtain ⟨⟨first, _⟩, found, same⟩ := Option.map_eq_some_iff.1 h
        cases same
        obtain ⟨-, insides, behind, split, reads⟩ := ih found
        exact ⟨by simp, unbroken_cons.2 ⟨inside, insides⟩, behind, by rw [split]; rfl, reads⟩

/-- If there is a beginning, one that is no longer is found. -/
theorem exists_shortest? (h : Begins tail cs file a) :
    ∃ file' a', shortest? tail cs = some (file', a') ∧ file'.length ≤ file.length := by
  obtain ⟨ne, unbroken, behind, rfl, reads⟩ := h
  induction file with
  | nil => exact absurd rfl ne
  | cons c file ih =>
    obtain ⟨inside, insides⟩ := unbroken_cons.1 unbroken
    rw [List.cons_append, shortest?, inside, if_neg Bool.false_ne_true]
    cases first : tail (file ++ behind) with
    | some a' => exact ⟨[c], a', rfl, by simp⟩
    | none =>
      have later : file ≠ [] := by
        rintro rfl
        cases first.symm.trans reads
      obtain ⟨file', a', found, shorter⟩ := ih later insides
      exact ⟨c :: file', a', by rw [found]; rfl, Nat.succ_le_succ shorter⟩

/-- A beginning is known by its length. -/
theorem Begins.eq_and_eq {file' : List Char} {a' : α} (h : Begins tail cs file a)
    (h' : Begins tail cs file' a') (same : file.length = file'.length) : file = file' ∧ a = a' := by
  obtain ⟨-, -, behind, rfl, reads⟩ := h
  obtain ⟨-, -, behind', split, reads'⟩ := h'
  obtain ⟨rfl, rfl⟩ := List.append_inj split same
  exact ⟨rfl, Option.some.inj (reads.symm.trans reads')⟩

theorem shortest?_eq_some_iff :
    shortest? tail cs = some (file, a) ↔
      Begins tail cs file a ∧
        ∀ file' a', Begins tail cs file' a' → file.length ≤ file'.length := by
  constructor
  · intro h
    refine ⟨begins_of_shortest? h, ?_⟩
    intro file' a' begins
    obtain ⟨_, _, found, shorter⟩ := exists_shortest? begins
    cases h.symm.trans found
    exact shorter
  · rintro ⟨begins, least⟩
    obtain ⟨file', a', found, shorter⟩ := exists_shortest? begins
    have others := begins_of_shortest? found
    obtain ⟨rfl, rfl⟩ := begins.eq_and_eq others
      (Nat.le_antisymm (least file' a' others) shorter)
    exact found

end Shortest

/-! ## One line -/

/-- The line end is passed over up to its line feed. -/
theorem lineEnd?_eq_some_iff :
    lineEnd? cs = some rest ↔ AtLineEnd rest ∧ (cs = rest ∨ cs = carriageReturn :: rest) := by
  constructor
  · intro h
    cases cs with
    | nil =>
      cases h
      exact ⟨atLineEnd_nil, .inl rfl⟩
    | cons c cs =>
      rw [lineEnd?] at h
      split at h
      · next feed =>
        cases h
        exact ⟨by simpa [AtLineEnd] using feed, .inl rfl⟩
      · split at h
        · next back =>
          split at h
          · next ends =>
            cases h
            subst back
            refine ⟨?_, .inr rfl⟩
            rcases ends with rfl | feed
            · simp [AtLineEnd]
            · simp [AtLineEnd, feed]
          · cases h
        · cases h
  · rintro ⟨ends, rfl | rfl⟩
    · cases cs with
      | nil => rfl
      | cons c cs =>
        cases ends c rfl
        rfl
    · have other : carriageReturn ≠ lineFeed := by decide
      rw [lineEnd?, if_neg other, if_pos rfl]
      cases rest with
      | nil => rfl
      | cons c cs =>
        cases ends c rfl
        exact if_pos (.inr rfl)

/-- In front of the line end is the line without its carriage return. -/
theorem dropReturn_eq_of_append {front back : List Char} (h : lineFeed ∉ line)
    (ends : AtLineEnd more) (inside : Unbroken front) (stop : AtLineEnd rest)
    (ending : back = rest ∨ back = carriageReturn :: rest) (split : line ++ more = front ++ back) :
    dropReturn line = front ∧ rest = more := by
  obtain ⟨noFeed, noReturn⟩ := unbroken_iff.1 inside
  rcases ending with rfl | rfl
  · obtain ⟨rfl, rfl⟩ := ends.eq_and_eq stop h noFeed split
    exact ⟨dropReturn_of_not_mem noReturn, rfl⟩
  · have longer : lineFeed ∉ front ++ [carriageReturn] := by
      rw [List.mem_append, not_or]
      exact ⟨noFeed, by decide⟩
    rw [List.append_cons] at split
    obtain ⟨rfl, rfl⟩ := ends.eq_and_eq stop h longer split
    exact ⟨dropReturn_append front, rfl⟩

theorem exists_lineEnd (line more : List Char) :
    ∃ back, (back = more ∨ back = carriageReturn :: more) ∧
      line ++ more = dropReturn line ++ back := by
  rcases dropReturn_cases line with same | same
  · exact ⟨more, .inl rfl, by rw [← same]⟩
  · refine ⟨carriageReturn :: more, .inr rfl, ?_⟩
    rw [List.append_cons, ← same]

theorem unbroken_dropReturn (h : lineFeed ∉ line) (noReturn : carriageReturn ∉ dropReturn line) :
    Unbroken (dropReturn line) :=
  unbroken_iff.2 ⟨fun mem => h ((prefix_dropReturn line).subset mem), noReturn⟩

/-- What follows the file: a line number, a remark and the end of the line. -/
theorem singleLineTail?_eq_some_iff :
    singleLineTail? cs = some ((c.line, c.kind, c.code, c.message), rest) ↔
      c.line ≠ [] ∧ (∀ d ∈ c.line, isDecimalDigit d) ∧ Unbroken c.message ∧
        ∃ remark ends, c.Remark remark ∧ lineEnd? ends = some rest ∧
          cs = ':' :: (c.line ++ ':' :: ' ' :: (remark ++ ends)) := by
  constructor
  · intro h
    simp only [singleLineTail?, Option.bind_eq_bind, Option.bind_eq_some_iff, Prod.exists] at h
    obtain ⟨_, colon, number, _, run, _, blank, k, code, message, ends, said, _, ending, last⟩ := h
    obtain ⟨split, number_ne, digits, -⟩ := run?_eq_some run
    injection last with last
    obtain ⟨rfl, rfl, rfl, rfl, rfl⟩ : number = c.line ∧ k = c.kind ∧ code = c.code ∧
        message = c.message ∧ _ = rest := by
      simpa [and_assoc] using last
    obtain ⟨remark, isRemark, unbroken, -, spoken⟩ := remark?_eq_some_iff.1 said
    refine ⟨number_ne, digits, unbroken, remark, ends, isRemark, ending, ?_⟩
    rw [after?_eq_some_iff.1 colon, split, after?_eq_some_iff.1 blank, spoken]
    rfl
  · rintro ⟨number_ne, digits, unbroken, remark, ends, isRemark, ending, rfl⟩
    have colon : isDecimalDigit ':' = false := by decide +kernel
    have run : run? isDecimalDigit (c.line ++ ':' :: ' ' :: (remark ++ ends)) =
        some (c.line, ':' :: ' ' :: (remark ++ ends)) :=
      run?_append number_ne digits (by simpa using colon)
    have stops : ∀ d ∈ ends.head?, isLineEnd d := by
      obtain ⟨stop, rfl | rfl⟩ := lineEnd?_eq_some_iff.1 ending
      · exact fun d mem => isLineEnd_iff.2 (.inl (stop d mem))
      · rintro d ⟨⟩
        rfl
    have said : remark? (remark ++ ends) = some ((c.kind, c.code, c.message), ends) :=
      remark?_eq_some_iff.2 ⟨remark, isRemark, unbroken, stops, rfl⟩
    simp [singleLineTail?, after?, run, said, ending]

/-- The beginnings of a line are the files of what is on it. -/
theorem begins_singleLineTail?_iff (h : lineFeed ∉ line) (ends : AtLineEnd more) :
    Begins singleLineTail? (line ++ more) c.file ((c.line, c.kind, c.code, c.message), rest) ↔
      carriageReturn ∉ dropReturn line ∧ c.OneLine (dropReturn line) ∧ rest = more := by
  constructor
  · rintro ⟨file_ne, unbrokenFile, behind, split, reads⟩
    obtain ⟨line_ne, digits, unbroken, remark, back, isRemark, ending, rfl⟩ :=
      singleLineTail?_eq_some_iff.1 reads
    obtain ⟨stop, ending⟩ := lineEnd?_eq_some_iff.1 ending
    have place : c.Place (c.file ++ ':' :: (c.line ++ ':' :: ' ' :: remark)) (' ' :: remark) :=
      ⟨file_ne, line_ne, digits, rfl⟩
    have inside := place.unbroken_iff.2
      ⟨unbrokenFile, unbroken_cons.2 ⟨rfl, isRemark.unbroken_iff.2 unbroken⟩⟩
    have split : line ++ more = (c.file ++ ':' :: (c.line ++ ':' :: ' ' :: remark)) ++ back := by
      simpa using split
    obtain ⟨whole, rest_eq⟩ := dropReturn_eq_of_append h ends inside stop ending split
    rw [whole]
    exact ⟨(unbroken_iff.1 inside).2, ⟨remark, place, isRemark⟩, rest_eq⟩
  · rintro ⟨noReturn, ⟨remark, place, isRemark⟩, rfl⟩
    obtain ⟨unbrokenFile, unbroken⟩ := place.unbroken_iff.1 (unbroken_dropReturn h noReturn)
    have unbroken := isRemark.unbroken_iff.1 (unbroken_cons.1 unbroken).2
    obtain ⟨file_ne, line_ne, digits, spelled⟩ := place
    obtain ⟨back, ending, split⟩ := exists_lineEnd line rest
    refine ⟨file_ne, unbrokenFile, ':' :: (c.line ++ ':' :: ' ' :: (remark ++ back)), ?_, ?_⟩
    · rw [split, spelled]
      simp
    · exact singleLineTail?_eq_some_iff.2 ⟨line_ne, digits, unbroken, remark, back, isRemark,
        lineEnd?_eq_some_iff.2 ⟨ends, ending⟩, rfl⟩

/-- A match on one line is what is on the line. -/
theorem singleLineMatch?_eq_some_iff (h : lineFeed ∉ line) (ends : AtLineEnd more) :
    singleLineMatch? (line ++ more) = some (c, rest) ↔ c.OnLine line ∧ rest = more := by
  have found : singleLineMatch? (line ++ more) = some (c, rest) ↔
      shortest? singleLineTail? (line ++ more) =
        some (c.file, (c.line, c.kind, c.code, c.message), rest) := by
    rw [singleLineMatch?, Option.map_eq_some_iff]
    constructor
    · rintro ⟨_, found, same⟩
      cases same
      exact found
    · exact fun found => ⟨_, found, rfl⟩
  rw [found, shortest?_eq_some_iff, begins_singleLineTail?_iff h ends]
  constructor
  · rintro ⟨⟨noReturn, isLine, rfl⟩, least⟩
    refine ⟨⟨noReturn, isLine, ?_⟩, rfl⟩
    exact fun d other => least _ _ ((begins_singleLineTail?_iff h ends).2 ⟨noReturn, other, rfl⟩)
  · rintro ⟨⟨noReturn, isLine, least⟩, rfl⟩
    refine ⟨⟨noReturn, isLine, rfl⟩, ?_⟩
    rintro file ⟨⟨number, k, code, message⟩, rest'⟩ begins
    exact least ⟨file, number, k, code, message⟩ ((begins_singleLineTail?_iff h ends).1 begins).2.1

/-! ## Two lines -/

theorem lineBreak?_eq_some_iff :
    lineBreak? cs = some rest ↔
      cs = lineFeed :: rest ∨ cs = carriageReturn :: lineFeed :: rest := by
  have other : carriageReturn ≠ lineFeed := by decide
  rw [lineBreak?, after?_eq_some_iff]
  cases cs with
  | nil => simp [skip]
  | cons d cs =>
    by_cases same : d = carriageReturn
    · simp [skip, same, other]
    · simp [skip, same]

theorem begins_placeTail?_iff :
    Begins placeTail? cs c.file (c.line, rest) ↔ Unbroken c.file ∧ c.Place cs rest := by
  constructor
  · rintro ⟨file_ne, unbroken, behind, rfl, reads⟩
    simp only [placeTail?, Option.bind_eq_bind, Option.bind_eq_some_iff, Prod.exists] at reads
    obtain ⟨_, colon, number, _, run, _, colon', last⟩ := reads
    cases last
    obtain ⟨split, line_ne, digits, -⟩ := run?_eq_some run
    refine ⟨unbroken, file_ne, line_ne, digits, ?_⟩
    rw [after?_eq_some_iff.1 colon, split, after?_eq_some_iff.1 colon']
    rfl
  · rintro ⟨unbroken, file_ne, line_ne, digits, rfl⟩
    refine ⟨file_ne, unbroken, _, rfl, ?_⟩
    have colon : isDecimalDigit ':' = false := by decide +kernel
    have run : run? isDecimalDigit (c.line ++ ':' :: rest) = some (c.line, ':' :: rest) :=
      run?_append line_ne digits (by simpa using colon)
    simp [placeTail?, after?, run]

/-- A place is on its own line, and what follows on that line is left. -/
theorem begins_placeTail?_append_iff {place : List Char} (h : lineFeed ∉ place)
    (ends : AtLineEnd more) :
    Begins placeTail? (place ++ more) c.file (c.line, rest) ↔
      carriageReturn ∉ c.file ∧ ∃ left, c.Place place left ∧ rest = left ++ more := by
  rw [begins_placeTail?_iff]
  constructor
  · rintro ⟨unbroken, file_ne, line_ne, digits, spelled⟩
    have front : c.Place (c.file ++ ':' :: (c.line ++ ':' :: [])) [] :=
      ⟨file_ne, line_ne, digits, rfl⟩
    have inside := front.unbroken_iff.2 ⟨unbroken, unbroken_nil⟩
    have split : place ++ more = (c.file ++ ':' :: (c.line ++ ':' :: [])) ++ rest := by
      simpa using spelled
    obtain ⟨left, rfl, rfl⟩ := ends.exists_left (unbroken_iff.1 inside).1 split
    exact ⟨(unbroken_iff.1 unbroken).2, left, ⟨file_ne, line_ne, digits, by simp⟩, rfl⟩
  · rintro ⟨noReturn, left, ⟨file_ne, line_ne, digits, rfl⟩, rfl⟩
    have noFeed : lineFeed ∉ c.file := fun mem => h (List.mem_append_left _ mem)
    exact ⟨unbroken_iff.2 ⟨noFeed, noReturn⟩, file_ne, line_ne, digits, by simp⟩

/-- The number of a place line is all of its digits. -/
theorem run?_number {number : List Char} (ne : number ≠ [])
    (digits : ∀ d ∈ number, isDecimalDigit d) (place : List Char) :
    run? isDecimalDigit (number ++ (": FILE: ".toList ++ place)) =
      some (number, ": FILE: ".toList ++ place) := by
  refine run?_append ne digits ?_
  rintro d ⟨⟩
  decide +kernel

end Pattern

theorem Capture.placeLine_iff {c : Capture} {number place rest : List Char} (ne : number ≠ [])
    (digits : ∀ d ∈ number, isDecimalDigit d) :
    c.PlaceLine ('#' :: (number ++ (": FILE: ".toList ++ place))) rest ↔ c.Place place rest := by
  constructor
  · rintro ⟨number', place', ne', digits', split, isPlace⟩
    have run := Pattern.run?_number ne digits place
    rw [(List.cons.inj split).2, Pattern.run?_number ne' digits' place'] at run
    cases run
    exact isPlace
  · exact fun isPlace => ⟨number, place, ne, digits, rfl, isPlace⟩

namespace Pattern

variable {c : Capture} {first second rest more : List Char}

/-- A line whose place is read starts with a number. -/
theorem exists_number_of_place? {a : (List Char × List Char) × List Char}
    (ends : AtLineEnd more) (h : place? (second ++ more) = some a) :
    ∃ number place, number ≠ [] ∧ (∀ d ∈ number, isDecimalDigit d) ∧
      second = '#' :: (number ++ (": FILE: ".toList ++ place)) := by
  simp only [place?, Option.bind_eq_bind, Option.bind_eq_some_iff, Prod.exists] at h
  obtain ⟨_, mark, number, _, run, place, word, -⟩ := h
  obtain ⟨split, ne, digits, -⟩ := run?_eq_some run
  have text : second ++ more = ('#' :: (number ++ ": FILE: ".toList)) ++ place := by
    rw [after?_eq_some_iff.1 mark, split, after?_eq_some_iff.1 word]
    simp
  have noFeed : lineFeed ∉ '#' :: (number ++ ": FILE: ".toList) := by
    have outside : isDecimalDigit lineFeed = false := by decide +kernel
    have noNumber := not_mem_of_class digits outside
    rw [List.mem_cons, List.mem_append, not_or, not_or]
    exact ⟨by decide, noNumber, by decide⟩
  obtain ⟨left, rfl, -⟩ := ends.exists_left noFeed text
  exact ⟨number, left, ne, digits, by simp⟩

theorem place?_number {number : List Char} (ne : number ≠ [])
    (digits : ∀ d ∈ number, isDecimalDigit d) (cs : List Char) :
    place? ('#' :: (number ++ (": FILE: ".toList ++ cs))) = some ((c.file, c.line), rest) ↔
      shortest? placeTail? cs = some (c.file, c.line, rest) := by
  have mark : ∀ cs, after? ['#'] ('#' :: cs) = some cs := after?_append ['#']
  simp only [place?, mark, run?_number ne digits, after?_append, Option.bind_eq_bind,
    Option.bind_some, Option.bind_eq_some_iff, Prod.exists]
  constructor
  · rintro ⟨_, _, _, found, same⟩
    cases same
    exact found
  · exact fun found => ⟨_, _, _, found, rfl⟩

/-- The shortest place is read. -/
theorem shortest?_placeTail?_eq_some_iff {place : List Char} (h : lineFeed ∉ place)
    (ends : AtLineEnd more) :
    shortest? placeTail? (place ++ more) = some (c.file, c.line, rest) ↔
      c.Shortest (fun d => carriageReturn ∉ d.file ∧ ∃ left, d.Place place left) ∧
        ∃ left, c.Place place left ∧ rest = left ++ more := by
  rw [shortest?_eq_some_iff, begins_placeTail?_append_iff h ends]
  constructor
  · rintro ⟨⟨noReturn, left, isPlace, leaves⟩, least⟩
    refine ⟨⟨⟨noReturn, left, isPlace⟩, ?_⟩, left, isPlace, leaves⟩
    rintro d ⟨noReturn', left', isPlace'⟩
    exact least d.file (d.line, left' ++ more)
      ((begins_placeTail?_append_iff h ends).2 ⟨noReturn', left', isPlace', rfl⟩)
  · rintro ⟨⟨⟨noReturn, -⟩, least⟩, left, isPlace, leaves⟩
    refine ⟨⟨noReturn, left, isPlace, leaves⟩, ?_⟩
    rintro file ⟨number, rest'⟩ begins
    -- what is not in a place is taken from `c`
    obtain ⟨noReturn', left', isPlace', -⟩ := (begins_placeTail?_append_iff
      (c := { c with file := file, line := number }) h ends).1 begins
    exact least { c with file := file, line := number } ⟨noReturn', left', isPlace'⟩

/-- The place that is read is the one on the line with the shortest file. -/
theorem place?_eq_some_iff (h : lineFeed ∉ second) (ends : AtLineEnd more) :
    place? (second ++ more) = some ((c.file, c.line), rest) ↔
      c.Shortest (fun d => carriageReturn ∉ d.file ∧ ∃ left, d.PlaceLine second left) ∧
        ∃ left, c.PlaceLine second left ∧ rest = left ++ more := by
  by_cases numbered : ∃ number place, number ≠ [] ∧ (∀ d ∈ number, isDecimalDigit d) ∧
      second = '#' :: (number ++ (": FILE: ".toList ++ place))
  · obtain ⟨number, place, ne, digits, rfl⟩ := numbered
    have noFeed : lineFeed ∉ place := fun mem => h (by simp [mem])
    have text : '#' :: (number ++ (": FILE: ".toList ++ place)) ++ more =
        '#' :: (number ++ (": FILE: ".toList ++ (place ++ more))) := by simp
    rw [text, place?_number ne digits, shortest?_placeTail?_eq_some_iff noFeed ends]
    simp only [Capture.placeLine_iff ne digits]
  · constructor
    · exact fun read => absurd (exists_number_of_place? ends read) numbered
    · rintro ⟨-, left, ⟨number, place, ne, digits, spelled, -⟩, -⟩
      exact absurd ⟨number, place, ne, digits, spelled⟩ numbered

/-- A match on two lines is what is on the two lines, and the rest of the second line
is left. -/
theorem twoLineMatch?_eq_some_iff (h : lineFeed ∉ first) (h' : lineFeed ∉ second)
    (ends : AtLineEnd more) :
    twoLineMatch? (first ++ lineFeed :: (second ++ more)) = some (c, rest) ↔
      c.OnLines first second ∧ ∃ left, c.PlaceLine second left ∧ rest = left ++ more := by
  constructor
  · intro matched
    simp only [twoLineMatch?, Option.bind_eq_bind, Option.bind_eq_some_iff, Prod.exists] at matched
    obtain ⟨k, code, message, back, said, behind, broken, file, number, left, placed, last⟩ :=
      matched
    cases last
    obtain ⟨remark, isRemark, unbroken, -, split⟩ :=
      (remark?_eq_some_iff (c := ⟨file, number, k, code, message⟩)).1 said
    have inside := isRemark.unbroken_iff.2 unbroken
    obtain ⟨rfl, same⟩ := dropReturn_eq_of_append h (atLineEnd_lineFeed _) inside
      (atLineEnd_lineFeed behind) (lineBreak?_eq_some_iff.1 broken) split
    cases same
    obtain ⟨shortest, leaves⟩ :=
      (place?_eq_some_iff (c := ⟨file, number, k, code, message⟩) h' ends).1 placed
    exact ⟨⟨(unbroken_iff.1 inside).2, isRemark, shortest⟩, leaves⟩
  · rintro ⟨⟨noReturn, isRemark, shortest⟩, leaves⟩
    have inside := isRemark.unbroken_iff.1 (unbroken_dropReturn h noReturn)
    obtain ⟨back, ending, split⟩ := exists_lineEnd first (lineFeed :: (second ++ more))
    have stops : ∀ d ∈ back.head?, isLineEnd d := by
      rcases ending with rfl | rfl
      · rintro d ⟨⟩
        rfl
      · rintro d ⟨⟩
        rfl
    have said : remark? (dropReturn first ++ back) = some ((c.kind, c.code, c.message), back) :=
      remark?_eq_some_iff.2 ⟨_, isRemark, inside, stops, rfl⟩
    have broken := lineBreak?_eq_some_iff.2 ending
    have placed := (place?_eq_some_iff h' ends).2 ⟨shortest, leaves⟩
    rw [split]
    simp [twoLineMatch?, said, broken, placed]

/-- A second line is no first line. -/
theorem twoLineMatch?_hash (cs : List Char) : twoLineMatch? ('#' :: cs) = none := by
  rw [Option.eq_none_iff_forall_ne_some]
  intro found matched
  simp only [twoLineMatch?, Option.bind_eq_bind, Option.bind_eq_some_iff, Prod.exists] at matched
  obtain ⟨k, code, message, back, said, -⟩ := matched
  obtain ⟨_, ⟨-, -, -, blank, rfl⟩, -, -, split⟩ :=
    (remark?_eq_some_iff (c := ⟨[], [], k, code, message⟩)).1 said
  cases k with
  | error => simp [Kind.tag] at split
  | warning => simp [Kind.tag] at split
  | check => simp [Kind.tag] at split

end Pattern

end PatchLint
