import PatchLint.Text.CodePoints

/-!
# Blank characters

The twenty-five characters of the property `White_Space`, and what it means to
trim a text.  Main statements: a text with no blank at either end is left alone
(`trim_eq_self`), and nothing is left of a text exactly when it is blank
throughout (`trim_eq_nil_iff`).
-/

namespace PatchLint.Text

/-- The code points of the property `White_Space`. -/
def blanks : Ranges :=
  [(0x9, 0xD), (0x20, 0x20), (0x85, 0x85), (0xA0, 0xA0), (0x1680, 0x1680), (0x2000, 0x200A),
    (0x2028, 0x2029), (0x202F, 0x202F), (0x205F, 0x205F), (0x3000, 0x3000)]

/-- A space, a tab, a line end, or one of their kin in other scripts. -/
def isBlank (c : Char) : Bool := blanks.holds c.toNat

example : blanks.Increasing := by decide

/-- The text without the blanks at its start. -/
def trimStart (cs : List Char) : List Char := cs.dropWhile isBlank

/-- The text without the blanks at its end. -/
def trimEnd (cs : List Char) : List Char := (cs.reverse.dropWhile isBlank).reverse

/-- The text without the blanks at either end. -/
def trim (cs : List Char) : List Char := trimEnd (trimStart cs)

/-- `trim` on strings. -/
def trimmed (s : String) : String := String.ofList (trim s.toList)

/-- Dropping leading blanks leaves nothing exactly when there is nothing else. -/
theorem trimStart_eq_nil_iff (cs : List Char) : trimStart cs = [] ↔ ∀ c ∈ cs, isBlank c := by
  induction cs with
  | nil => simp [trimStart]
  | cons c cs ih =>
      by_cases h : isBlank c
      · rw [trimStart, List.dropWhile_cons_of_pos h, List.forall_mem_cons]
        exact ih.trans (and_iff_right h).symm
      · simp [trimStart, h]

/-- A text without a blank at its start or end is its own trimmed form. -/
theorem trim_eq_self {cs : List Char} (hs : ∀ c ∈ cs.head?, isBlank c = false)
    (he : ∀ c ∈ cs.getLast?, isBlank c = false) : trim cs = cs := by
  have start : ∀ l : List Char, (∀ c ∈ l.head?, isBlank c = false) → l.dropWhile isBlank = l := by
    intro l hl
    cases l with
    | nil => rfl
    | cons c l => simp [hl c (by simp)]
  rw [trim, trimStart, start cs hs, trimEnd, start cs.reverse (by simpa using he),
    List.reverse_reverse]

/-- A text is blank throughout exactly when nothing is left of it. -/
theorem trim_eq_nil_iff (cs : List Char) : trim cs = [] ↔ ∀ c ∈ cs, isBlank c := by
  rw [trim, trimEnd, List.reverse_eq_nil_iff, ← trimStart, trimStart_eq_nil_iff,
    ← trimStart_eq_nil_iff cs]
  constructor
  · intro h
    cases hc : trimStart cs with
    | nil => rfl
    | cons c rest =>
        have hb : isBlank c := h c (by simp [hc])
        have := List.head?_dropWhile_not isBlank cs
        rw [← trimStart, hc] at this
        simp [hb] at this
  · intro h
    simp [h]

end PatchLint.Text
