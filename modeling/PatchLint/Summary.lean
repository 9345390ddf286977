import PatchLint.Text.DecimalDigit
import PatchLint.Text.Numeral
import PatchLint.Text.Reading

/-!
# The checker's summary

The checker ends with `total: E errors, W warnings, C checks, L lines checked`;
older releases leave out the clause on checks.  Whether a program is a usable
checker is decided by looking for that line anywhere in what it prints.  The
first place in the text with that wording counts, and it counts even if one of
its numbers does not fit.

Main statement: a printed wording is read back (`wordingAt?_text`).
-/

namespace PatchLint

open Text

/-- The counts of a summary. -/
structure Summary where
  /-- The number of errors. -/
  errors : Nat
  /-- The number of warnings. -/
  warnings : Nat
  /-- The number of checks, if the summary has it. -/
  checks : Option Nat
  /-- The number of lines checked. -/
  lines : Nat
deriving DecidableEq, Repr

namespace Summary

/-- One more than the greatest count. -/
def bound : Nat := Nat.pow 2 64

/-! ## Words around the counts -/

/-- What stands before the number of errors. -/
def beforeErrors : List Char := "total: ".toList

/-- What stands between the numbers of errors and of warnings. -/
def behindErrors : List Char := " errors, ".toList

/-- What follows the number of warnings. -/
def behindWarnings : List Char := " warnings,".toList

/-- What stands before the numbers of checks and of lines. -/
def blank : List Char := [' ']

/-- What follows the number of checks. -/
def behindChecks : List Char := " checks,".toList

/-- What follows the number of lines. -/
def behindLines : List Char := " lines checked".toList

/-! ## Reading -/

/-- A run of digits of any script. -/
def number? (cs : List Char) : Option (List Char × List Char) := run? isDecimalDigit cs

/-- The clause on checks and the text behind it. -/
def checksClause? (cs : List Char) : Option (List Char × List Char) := do
  let cs ← after? blank cs
  let (checks, cs) ← number? cs
  let cs ← after? behindChecks cs
  return (checks, cs)

/-- The end of the wording: the digits of the number of lines. -/
def linesClause? (cs : List Char) : Option (List Char) := do
  let cs ← after? blank cs
  let (lines, cs) ← number? cs
  let _ ← after? behindLines cs
  return lines

/-- The digits of the four counts, as they are printed. -/
structure Wording where
  /-- The digits of the number of errors. -/
  errors : List Char
  /-- The digits of the number of warnings. -/
  warnings : List Char
  /-- The digits of the number of checks. -/
  checks : Option (List Char)
  /-- The digits of the number of lines. -/
  lines : List Char
deriving DecidableEq, Repr

/-- The clauses on checks and lines, with the first one if it is there and the
second one follows it, and else without. -/
def clauses? (cs : List Char) : Option (Option (List Char) × List Char) :=
  match checksClause? cs with
  | some (checks, rest) => match linesClause? rest with
      | some lines => some (some checks, lines)
      | none => (linesClause? cs).map fun lines => (none, lines)
  | none => (linesClause? cs).map fun lines => (none, lines)

/-- The wording at the front of a text. -/
def wordingAt? (cs : List Char) : Option Wording := do
  let cs ← after? beforeErrors cs
  let (errors, cs) ← number? cs
  let cs ← after? behindErrors cs
  let (warnings, cs) ← number? cs
  let cs ← after? behindWarnings cs
  let (checks, lines) ← clauses? cs
  return ⟨errors, warnings, checks, lines⟩

/-- The first wording in a text. -/
def wording? : List Char → Option Wording
  | [] => none
  | c :: cs => match wordingAt? (c :: cs) with
    | some w => some w
    | none => wording? cs

/-- The counts of a wording.  A number of checks that does not fit is left out;
any other that does not fit makes the summary useless. -/
def ofWording? (w : Wording) : Option Summary := do
  let errors ← naturalBelow? bound w.errors
  let warnings ← naturalBelow? bound w.warnings
  let lines ← naturalBelow? bound w.lines
  return ⟨errors, warnings, w.checks.bind (naturalBelow? bound), lines⟩

def find? (text : String) : Option Summary := (wording? text.toList).bind ofWording?

/-! ## Printing -/

namespace Wording

/-- The clause on checks, if there is one. -/
def checksText : Option (List Char) → List Char
  | none => []
  | some checks => blank ++ (checks ++ behindChecks)

def text (w : Wording) : List Char :=
  beforeErrors ++ (w.errors ++ (behindErrors ++ (w.warnings ++ (behindWarnings ++
    (checksText w.checks ++ (blank ++ (w.lines ++ behindLines)))))))

/-- Digits, and at least one. -/
def IsNumber (cs : List Char) : Prop := cs ≠ [] ∧ ∀ c ∈ cs, isDecimalDigit c

/-- Every count of a wording has digits. -/
def IsNumeric (w : Wording) : Prop :=
  IsNumber w.errors ∧ IsNumber w.warnings ∧ (∀ cs ∈ w.checks, IsNumber cs) ∧ IsNumber w.lines

end Wording

/-- A number is read up to the blank behind it. -/
theorem number?_append {cs : List Char} (h : Wording.IsNumber cs) (rest : List Char)
    (ends : rest.head? = some ' ') : number? (cs ++ rest) = some (cs, rest) :=
  run?_append h.1 h.2 (by
    intro c hc
    cases ends.symm.trans hc
    decide +kernel)

/-- The end of a printed wording is read back. -/
theorem linesClause?_text {lines : List Char} (h : Wording.IsNumber lines) (rest : List Char) :
    linesClause? (blank ++ (lines ++ (behindLines ++ rest))) = some lines := by
  have number := number?_append h (behindLines ++ rest) rfl
  simp only [linesClause?, after?_append, number, Option.bind_eq_bind, Option.bind_some,
    Option.pure_def]

/-- The clause on checks of a printed wording is read back. -/
theorem checksClause?_text {checks : List Char} (h : Wording.IsNumber checks) (rest : List Char) :
    checksClause? (blank ++ (checks ++ (behindChecks ++ rest))) =
      some (checks, rest) := by
  have number := number?_append h (behindChecks ++ rest) rfl
  simp only [checksClause?, after?_append, number, Option.bind_eq_bind, Option.bind_some,
    Option.pure_def]

/-- The number of lines is no clause on checks. -/
theorem checksClause?_lines {lines : List Char} (h : Wording.IsNumber lines) (rest : List Char) :
    checksClause? (blank ++ (lines ++ (behindLines ++ rest))) = none := by
  have number := number?_append h (behindLines ++ rest) rfl
  have other : after? behindChecks (behindLines ++ rest) = none := rfl
  simp only [checksClause?, after?_append, number, other, Option.bind_eq_bind, Option.bind_some,
    Option.bind_none]

/-- Both clauses of a printed wording are read back. -/
theorem clauses?_text {checks : Option (List Char)} {lines : List Char}
    (hc : ∀ cs ∈ checks, Wording.IsNumber cs) (hl : Wording.IsNumber lines) (rest : List Char) :
    clauses? (Wording.checksText checks ++
      (blank ++ (lines ++ (behindLines ++ rest)))) = some (checks, lines) := by
  cases checks with
  | none =>
      simp only [Wording.checksText, List.nil_append, clauses?, checksClause?_lines hl,
        linesClause?_text hl, Option.map_some]
  | some cs =>
      simp only [Wording.checksText, List.append_assoc, clauses?, checksClause?_text (hc cs rfl),
        linesClause?_text hl]

/-- A printed wording is read back, whatever follows it. -/
theorem wordingAt?_text {w : Wording} (h : w.IsNumeric) (rest : List Char) :
    wordingAt? (w.text ++ rest) = some w := by
  have clauses := clauses?_text h.2.2.1 h.2.2.2 rest
  have warnings := number?_append h.2.1 (behindWarnings ++ (Wording.checksText w.checks ++
    (blank ++ (w.lines ++ (behindLines ++ rest))))) rfl
  have errors := number?_append h.1 (behindErrors ++ (w.warnings ++
    (behindWarnings ++ (Wording.checksText w.checks ++
      (blank ++ (w.lines ++ (behindLines ++ rest))))))) rfl
  simp only [Wording.text, List.append_assoc, wordingAt?, after?_append, errors, warnings, clauses,
    Option.bind_eq_bind, Option.bind_some, Option.pure_def]

end Summary

end PatchLint
