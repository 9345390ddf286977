import PatchLint.Finding
import PatchLint.Text.Blank
import PatchLint.Text.DecimalDigit
import PatchLint.Text.Lines
import PatchLint.Text.Reading

/-!
# Patterns in the checker's output

The checker prints findings among excerpts and remarks, so its output is
searched, not parsed.  A *pattern* says what a finding looks like from the
start of a line; the search (`Pattern.captures`) tries it at the start of every
line, and after a match goes on at the first line start behind the text that
was matched.

A match yields a *capture*, the parts of a finding as they were printed.  A
capture is a finding only if its line number is one and its message is not
blank (`Capture.finding?`).
-/

namespace PatchLint

open Text

/-- The parts of a finding as they were printed. -/
structure Capture where
  file : List Char
  /-- The digits of the line number, of any script. -/
  line : List Char
  kind : Kind
  code : List Char
  /-- The message, blanks included. -/
  message : List Char
deriving DecidableEq, Repr

namespace Capture

/-- One more than the greatest line number. -/
def lineBound : Nat := Nat.pow 2 32

/-- The finding a capture stands for.  The line number must be written in ASCII
digits, be at least 1 and stay below the bound, and the trimmed message must
not be empty. -/
def finding? (c : Capture) : Option Finding :=
  match naturalBelow? lineBound c.line with
  | none => none
  | some line =>
      let message := trim c.message
      if line = 0 ∨ message = [] then none
      else some ⟨String.ofList c.file, line, c.kind, String.ofList c.code, String.ofList message⟩

end Capture

/-- What a finding looks like from the start of a line. -/
structure Pattern where
  /-- The capture at the front of a text and the text behind it. -/
  match? : List Char → Option (Capture × List Char)
  /-- A match takes its characters off the front. -/
  length_le : ∀ {cs rest : List Char} {c : Capture}, match? cs = some (c, rest) →
    rest.length ≤ cs.length

namespace Pattern

/-- The captures in a text that starts at a line start. -/
def captures (p : Pattern) (cs : List Char) : List Capture :=
  match _matched : p.match? cs with
  | some (c, rest) => c :: match _behind : nextLine rest with
      | some next => captures p next
      | none => []
  | none => match _behind : nextLine cs with
      | some next => captures p next
      | none => []
termination_by cs.length
decreasing_by
  · exact Nat.lt_of_lt_of_le (length_lt_of_nextLine _behind) (p.length_le _matched)
  · exact length_lt_of_nextLine _behind

def findings (p : Pattern) (cs : List Char) : List Finding :=
  (p.captures cs).filterMap Capture.finding?

end Pattern

/-! ## Parts that both layouts share -/

namespace Pattern

def isLineEnd (c : Char) : Bool := c = lineFeed || c = carriageReturn

/-- A character of a code: neither a colon nor blank. -/
def isCodeChar (c : Char) : Bool := !(c = ':' || isBlank c)

/-- The kind whose tag and colon start the text. -/
def kindAmong? (cs : List Char) : List Kind → Option (Kind × List Char)
  | [] => none
  | k :: ks => match after? (k.tag.toList ++ [':']) cs with
    | some rest => some (k, rest)
    | none => kindAmong? cs ks

/-- A kind's tag, a colon, a blank that may be missing, a code, a colon and the
rest of the line as message. -/
def remark? (cs : List Char) : Option ((Kind × List Char × List Char) × List Char) := do
  let (kind, cs) ← kindAmong? cs Kind.all
  let (code, cs) ← run? isCodeChar (skip ' ' cs)
  let cs ← after? [':'] cs
  let (message, cs) ← run? (!isLineEnd ·) cs
  return ((kind, code, message), cs)

/-- The shortest non-empty beginning of the line behind which `tail` reads
something. -/
def shortest? {α : Type} (tail : List Char → Option α) : List Char → Option (List Char × α)
  | [] => none
  | c :: cs =>
      if isLineEnd c then none
      else match tail cs with
        | some a => some ([c], a)
        | none => (shortest? tail cs).map fun (file, a) => (c :: file, a)

theorem length_of_kindAmong? {cs rest : List Char} {k : Kind} {ks : List Kind}
    (h : kindAmong? cs ks = some (k, rest)) : rest.length ≤ cs.length := by
  induction ks with
  | nil => simp [kindAmong?] at h
  | cons x ks ih =>
      simp only [kindAmong?] at h
      split at h
      · next found =>
        cases h
        exact length_of_after? found
      · exact ih h

theorem length_of_remark? {cs rest : List Char} {parts : Kind × List Char × List Char}
    (h : remark? cs = some (parts, rest)) : rest.length ≤ cs.length := by
  simp only [remark?, Option.bind_eq_bind, Option.bind_eq_some_iff, Prod.exists] at h
  obtain ⟨k, a, hk, code, b, hc, d, hd, m, e, hm, last⟩ := h
  cases last
  have := length_of_kindAmong? hk
  have := length_of_run? hc
  have := length_skip ' ' a
  have := length_of_after? hd
  have := length_of_run? hm
  omega

theorem length_of_shortest? {α : Type} {tail : List Char → Option α} {rest : α → List Char}
    (shorter : ∀ {cs : List Char} {a : α}, tail cs = some a → (rest a).length ≤ cs.length)
    {cs file : List Char} {a : α} (h : shortest? tail cs = some (file, a)) :
    (rest a).length ≤ cs.length := by
  induction cs generalizing file with
  | nil => simp [shortest?] at h
  | cons c cs ih =>
      simp only [shortest?] at h
      split at h
      · cases h
      · split at h
        · next found =>
          cases h
          exact Nat.le_succ_of_le (shorter found)
        · simp only [Option.map_eq_some_iff, Prod.exists] at h
          obtain ⟨f, b, hb, eq⟩ := h
          cases eq
          exact Nat.le_succ_of_le (ih hb)

end Pattern

end PatchLint
