/-!
# Lines

Two readings of a text as lines.  `pieces` cuts at every line feed and keeps
everything else.  `lines` is the reading for texts made of finished lines: a
carriage return before the line feed belongs to the line end, and an empty last
piece is no line.

What is shown of texts line by line is shown by induction over the pieces
(`line_induction`).
-/

namespace PatchLint.Text

abbrev lineFeed : Char := '\n'

abbrev carriageReturn : Char := '\r'

/-- The texts between line feeds.  There is always at least one. -/
def pieces : List Char → List (List Char)
  | [] => [[]]
  | c :: cs =>
      if c = lineFeed then [] :: pieces cs
      else match pieces cs with
        | [] => [[c]]
        | l :: ls => (c :: l) :: ls

/-- There is always a first piece. -/
theorem pieces_ne_nil (cs : List Char) : pieces cs ≠ [] := by
  cases cs with
  | nil => simp [pieces]
  | cons c cs =>
      simp only [pieces]
      split
      · simp
      · split <;> simp

theorem pieces_of_not_mem {line : List Char} (h : lineFeed ∉ line) : pieces line = [line] := by
  induction line with
  | nil => rfl
  | cons c line ih =>
      have other : c ≠ lineFeed := fun same => h (same ▸ List.mem_cons_self)
      rw [pieces, if_neg other, ih fun mem => h (List.mem_cons_of_mem _ mem)]

theorem pieces_append {line : List Char} (h : lineFeed ∉ line) (rest : List Char) :
    pieces (line ++ lineFeed :: rest) = line :: pieces rest := by
  induction line with
  | nil => rfl
  | cons c line ih =>
      have other : c ≠ lineFeed := fun same => h (same ▸ List.mem_cons_self)
      rw [List.cons_append, pieces, if_neg other, ih fun mem => h (List.mem_cons_of_mem _ mem)]

/-- A text is one line, or a line in front of a text. -/
theorem line_induction {motive : List Char → Prop}
    (last : ∀ line, lineFeed ∉ line → motive line)
    (more : ∀ line rest, lineFeed ∉ line → motive rest → motive (line ++ lineFeed :: rest))
    (cs : List Char) : motive cs := by
  suffices front : ∀ line, lineFeed ∉ line → motive (line ++ cs) from front [] List.not_mem_nil
  induction cs with
  | nil =>
      intro line h
      rw [List.append_nil]
      exact last line h
  | cons c cs ih =>
      intro line h
      by_cases same : c = lineFeed
      · subst same
        exact more line cs h (ih [] List.not_mem_nil)
      · have longer : lineFeed ∉ line ++ [c] := by
          rw [List.mem_append, List.mem_singleton, not_or]
          exact ⟨h, Ne.symm same⟩
        rw [List.append_cons]
        exact ih (line ++ [c]) longer

/-- A line without the one carriage return it may end in. -/
def dropReturn (l : List Char) : List Char :=
  if l.getLast? = some carriageReturn then l.dropLast else l

theorem dropReturn_append (l : List Char) : dropReturn (l ++ [carriageReturn]) = l := by
  simp [dropReturn]

theorem dropReturn_of_not_mem {l : List Char} (h : carriageReturn ∉ l) : dropReturn l = l :=
  if_neg fun last => h (List.mem_of_getLast? last)

/-- What is dropped is one carriage return or nothing. -/
theorem dropReturn_cases (l : List Char) :
    l = dropReturn l ∨ l = dropReturn l ++ [carriageReturn] := by
  by_cases last : l.getLast? = some carriageReturn
  · obtain ⟨front, rfl⟩ := List.getLast?_eq_some_iff.1 last
    rw [dropReturn_append]
    exact .inr rfl
  · exact .inl (if_neg last).symm

theorem prefix_dropReturn (l : List Char) : dropReturn l <+: l := by
  rcases dropReturn_cases l with same | same
  · exact ⟨[], by rw [List.append_nil, ← same]⟩
  · exact ⟨[carriageReturn], same.symm⟩

/-- The finished lines among pieces, and the last piece if it is not empty. -/
def finished : List (List Char) → List (List Char)
  | [] => []
  | [l] => if l = [] then [] else [l]
  | l :: ls => dropReturn l :: finished ls

/-- The lines of a text, each without its line end. -/
def lines (cs : List Char) : List (List Char) := finished (pieces cs)

example : lines "a\r\n\nb\r".toList = ["a".toList, [], "b\r".toList] := by decide
example : lines [] = [] ∧ lines "a\n".toList = ["a".toList] := by decide

theorem lines_append {line : List Char} (h : lineFeed ∉ line) (rest : List Char) :
    lines (line ++ lineFeed :: rest) = dropReturn line :: lines rest := by
  rw [lines, pieces_append h, lines]
  cases cut : pieces rest with
  | nil => exact absurd cut (pieces_ne_nil rest)
  | cons l ls => rfl

/-- What follows the first line feed, or nothing if there is none. -/
def nextLine : List Char → Option (List Char)
  | [] => none
  | c :: cs => if c = lineFeed then some cs else nextLine cs

/-- The text is behind all of a line: nothing comes next, or a line feed. -/
def AtLineEnd (rest : List Char) : Prop := ∀ c ∈ rest.head?, c = lineFeed

theorem atLineEnd_nil : AtLineEnd [] := by
  rintro c ⟨⟩

theorem atLineEnd_lineFeed (rest : List Char) : AtLineEnd (lineFeed :: rest) := by
  rintro c ⟨⟩
  rfl

/-- A text starts with a line. -/
theorem exists_line (cs : List Char) :
    ∃ line more, lineFeed ∉ line ∧ AtLineEnd more ∧ cs = line ++ more := by
  induction cs using line_induction with
  | last line h => exact ⟨line, [], h, atLineEnd_nil, (List.append_nil line).symm⟩
  | more line rest h => exact ⟨line, lineFeed :: rest, h, atLineEnd_lineFeed rest, rfl⟩

theorem exists_pieces {line more : List Char} (h : lineFeed ∉ line) (ends : AtLineEnd more) :
    ∃ others, pieces (line ++ more) = line :: others := by
  cases more with
  | nil => exact ⟨[], by rw [List.append_nil, pieces_of_not_mem h]⟩
  | cons c rest =>
      cases ends c rfl
      exact ⟨pieces rest, pieces_append h rest⟩

/-- A beginning of a text that has no line feed in it is in the first line. -/
theorem AtLineEnd.exists_left {line more front rest : List Char} (ends : AtLineEnd more)
    (inside : lineFeed ∉ front) (split : line ++ more = front ++ rest) :
    ∃ left, line = front ++ left ∧ rest = left ++ more := by
  rcases List.append_eq_append_iff.1 split with ⟨more', same, behind⟩ | ⟨left, same, behind⟩
  · cases more' with
    | nil => exact ⟨[], by simpa using same.symm, by simpa using behind.symm⟩
    | cons c more' =>
        cases ends c (by simp [behind])
        exact absurd (same ▸ List.mem_append_right _ List.mem_cons_self) inside
  · exact ⟨left, same, behind⟩

/-- A text has one first line. -/
theorem AtLineEnd.eq_and_eq {line more front rest : List Char} (ends : AtLineEnd more)
    (others : AtLineEnd rest) (h : lineFeed ∉ line) (inside : lineFeed ∉ front)
    (split : line ++ more = front ++ rest) : line = front ∧ more = rest := by
  obtain ⟨left, rfl, rfl⟩ := ends.exists_left inside split
  cases left with
  | nil => exact ⟨List.append_nil front, rfl⟩
  | cons c left =>
      cases others c rfl
      exact absurd (List.mem_append_right _ List.mem_cons_self) h

/-- The next line starts strictly later. -/
theorem length_lt_of_nextLine {cs rest : List Char} (h : nextLine cs = some rest) :
    rest.length < cs.length := by
  induction cs with
  | nil => simp [nextLine] at h
  | cons c cs ih =>
      simp only [nextLine] at h
      split at h
      · cases h
        simp
      · exact Nat.lt_succ_of_lt (ih h)

/-- The next line is looked for behind all of this one. -/
theorem nextLine_append_of_not_mem {line : List Char} (h : lineFeed ∉ line) (more : List Char) :
    nextLine (line ++ more) = nextLine more := by
  induction line with
  | nil => rfl
  | cons c line ih =>
      have other : c ≠ lineFeed := fun same => h (same ▸ List.mem_cons_self)
      rw [List.cons_append, nextLine, if_neg other]
      exact ih fun mem => h (List.mem_cons_of_mem _ mem)

theorem nextLine_eq_none {line : List Char} (h : lineFeed ∉ line) : nextLine line = none := by
  rw [← List.append_nil line]
  exact nextLine_append_of_not_mem h []

/-- The next line starts behind the line feed that ends this one. -/
theorem nextLine_append {line : List Char} (h : lineFeed ∉ line) (rest : List Char) :
    nextLine (line ++ lineFeed :: rest) = some rest :=
  nextLine_append_of_not_mem h _

theorem exists_of_nextLine {cs next : List Char} (h : nextLine cs = some next) :
    ∃ line, lineFeed ∉ line ∧ cs = line ++ lineFeed :: next := by
  induction cs using line_induction with
  | last line inside => cases (nextLine_eq_none inside).symm.trans h
  | more line rest inside =>
      cases (nextLine_append inside rest).symm.trans h
      exact ⟨line, inside, rfl⟩

end PatchLint.Text
