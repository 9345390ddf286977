import PatchLint.Layout.Pattern

/-!
# The layout of two lines per finding

`<KIND>:<CODE>: <message>` on one line and `#<n>: FILE: <file>:<line>:` at the
start of the next, the layout of older releases of the checker.  The number
`n` is not kept, and whatever follows the last colon is not looked at.
-/

namespace PatchLint

open Text

namespace Pattern

/-- A line feed, perhaps behind a carriage return. -/
def lineBreak? (cs : List Char) : Option (List Char) :=
  after? [lineFeed] (skip carriageReturn cs)

/-- What follows the file. -/
def placeTail? (cs : List Char) : Option (List Char × List Char) := do
  let cs ← after? [':'] cs
  let (line, cs) ← run? isDecimalDigit cs
  let cs ← after? [':'] cs
  return (line, cs)

/-- The second line of a finding: its file and line number. -/
def place? (cs : List Char) : Option ((List Char × List Char) × List Char) := do
  let cs ← after? ['#'] cs
  let (_, cs) ← run? isDecimalDigit cs
  let cs ← after? ": FILE: ".toList cs
  let (file, line, cs) ← shortest? placeTail? cs
  return ((file, line), cs)

/-- A finding from the start of its first line. -/
def twoLineMatch? (cs : List Char) : Option (Capture × List Char) := do
  let ((kind, code, message), cs) ← remark? cs
  let cs ← lineBreak? cs
  let ((file, line), cs) ← place? cs
  return (⟨file, line, kind, code, message⟩, cs)

theorem length_of_placeTail? {cs : List Char} {a : List Char × List Char}
    (h : placeTail? cs = some a) : a.2.length ≤ cs.length := by
  simp only [placeTail?, Option.bind_eq_bind, Option.bind_eq_some_iff, Prod.exists] at h
  obtain ⟨b, hb, line, d, hd, e, he, last⟩ := h
  cases last
  have := length_of_after? hb
  have := length_of_run? hd
  have := length_of_after? he
  dsimp only
  omega

theorem length_of_place? {cs rest : List Char} {a : List Char × List Char}
    (h : place? cs = some (a, rest)) : rest.length ≤ cs.length := by
  simp only [place?, Option.bind_eq_bind, Option.bind_eq_some_iff, Prod.exists] at h
  obtain ⟨b, hb, _, d, hd, e, he, file, line, f, hf, last⟩ := h
  cases last
  have := length_of_after? hb
  have := length_of_run? hd
  have := length_of_after? he
  have := length_of_shortest? length_of_placeTail? hf
  dsimp only at this
  omega

/-- The pattern of two lines per finding. -/
def twoLine : Pattern where
  match? := twoLineMatch?
  length_le := by
    intro cs rest c h
    simp only [twoLineMatch?, Option.bind_eq_bind, Option.bind_eq_some_iff, Prod.exists] at h
    obtain ⟨k, code, m, a, ha, b, hb, file, line, d, hd, last⟩ := h
    cases last
    have := length_of_remark? ha
    have := length_of_after? hb
    have := length_skip carriageReturn a
    have := length_of_place? hd
    omega

end Pattern

end PatchLint
