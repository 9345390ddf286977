import PatchLint.Layout.Pattern

/-!
# The layout of one line per finding

`<file>:<line>: <KIND>:<CODE>: <message>` on one line, the layout of current
releases of the checker.  One blank may follow the kind's colon.  The file is
the shortest text that leaves the rest of this shape, and a carriage return may
stand at the end of the line and nowhere else.
-/

namespace PatchLint

open Text

namespace Pattern

/-- The text at the end of its line: nothing or a line feed comes next, perhaps
behind a carriage return. -/
def lineEnd? : List Char → Option (List Char)
  | [] => some []
  | c :: cs =>
      if c = lineFeed then some (c :: cs)
      else if c = carriageReturn then
        if cs = [] ∨ cs.head? = some lineFeed then some cs else none
      else none

/-- What follows the file. -/
def singleLineTail? (cs : List Char) :
    Option ((List Char × Kind × List Char × List Char) × List Char) := do
  let cs ← after? [':'] cs
  let (line, cs) ← run? isDecimalDigit cs
  let cs ← after? [':', ' '] cs
  let (parts, cs) ← remark? cs
  let cs ← lineEnd? cs
  return ((line, parts), cs)

/-- A finding from the start of its line. -/
def singleLineMatch? (cs : List Char) : Option (Capture × List Char) :=
  (shortest? singleLineTail? cs).map fun (file, (line, kind, code, message), rest) =>
    (⟨file, line, kind, code, message⟩, rest)

theorem length_of_lineEnd? {cs rest : List Char} (h : lineEnd? cs = some rest) :
    rest.length ≤ cs.length := by
  cases cs with
  | nil => simp_all [lineEnd?]
  | cons c cs =>
      simp only [lineEnd?] at h
      split at h
      · cases h
        exact Nat.le_refl _
      · split at h
        · split at h
          · cases h
            simp
          · cases h
        · cases h

theorem length_of_singleLineTail? {cs : List Char}
    {a : (List Char × Kind × List Char × List Char) × List Char}
    (h : singleLineTail? cs = some a) : a.2.length ≤ cs.length := by
  simp only [singleLineTail?, Option.bind_eq_bind, Option.bind_eq_some_iff, Prod.exists] at h
  obtain ⟨b, hb, line, d, hd, e, he, k, c, m, f, hf, g, hg, last⟩ := h
  cases last
  have := length_of_after? hb
  have := length_of_run? hd
  have := length_of_after? he
  have := length_of_remark? hf
  have := length_of_lineEnd? hg
  dsimp only
  omega

/-- The pattern of one line per finding. -/
def singleLine : Pattern where
  match? := singleLineMatch?
  length_le := by
    intro cs rest c h
    simp only [singleLineMatch?, Option.map_eq_some_iff, Prod.exists] at h
    obtain ⟨file, line, k, code, m, r, found, eq⟩ := h
    cases eq
    exact length_of_shortest? length_of_singleLineTail? found

end Pattern

end PatchLint
