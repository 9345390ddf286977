import PatchLint.Layout.Basic
import PatchLint.Layout.Printer

/-!
# The grammar of the layouts

What a line, or two lines, must be made of to show a finding, said without a search.
The parts are those of a capture.  A line may be put together from parts in several
ways, as a file name may have colons in it, and it is the one with the shortest file
that counts (`Capture.OnLine`, `Capture.OnLines`).
-/

namespace PatchLint

open Text

namespace Capture

/-- The finding says what the parts say.  The line number is one in ASCII digits, and
the message is not blank. -/
structure Denotes (c : Capture) (f : Finding) : Prop where
  file : f.file = String.ofList c.file
  line : natural? c.line = some f.line
  line_pos : 0 < f.line
  line_lt : f.line < lineBound
  kind : f.kind = c.kind
  code : f.code = String.ofList c.code
  message : f.message = String.ofList (trim c.message)
  message_ne_nil : trim c.message ≠ []

/-- The text is made of the kind, the code and the message.  A blank may follow the
colon behind the kind. -/
structure Remark (c : Capture) (text : List Char) : Prop where
  code_ne_nil : c.code ≠ []
  isCodeChar : ∀ d ∈ c.code, Pattern.isCodeChar d
  message_ne_nil : c.message ≠ []
  spelled : ∃ blank, text = c.kind.tag.toList ++ ':' ::
    (Spacing.blankIf blank ++ (c.code ++ ':' :: c.message))

/-- The text starts with the file and the line number, with a colon behind each. -/
structure Place (c : Capture) (text rest : List Char) : Prop where
  file_ne_nil : c.file ≠ []
  line_ne_nil : c.line ≠ []
  isDecimalDigit : ∀ d ∈ c.line, isDecimalDigit d
  spelled : text = c.file ++ ':' :: (c.line ++ ':' :: rest)

/-- The text is made of a place, a blank and a remark. -/
def OneLine (c : Capture) (text : List Char) : Prop :=
  ∃ remark, c.Place text (' ' :: remark) ∧ c.Remark remark

/-- The text starts with a number and a place. -/
def PlaceLine (c : Capture) (text rest : List Char) : Prop :=
  ∃ number place, number ≠ [] ∧ (∀ d ∈ number, isDecimalDigit d) ∧
    text = '#' :: (number ++ (": FILE: ".toList ++ place)) ∧ c.Place place rest

/-- No capture of a kind has a shorter file. -/
def Shortest (p : Capture → Prop) (c : Capture) : Prop :=
  p c ∧ ∀ d, p d → c.file.length ≤ d.file.length

/-- The parts are on one line.  The line may end in a carriage return. -/
structure OnLine (c : Capture) (line : List Char) : Prop where
  noReturn : carriageReturn ∉ dropReturn line
  shortest : Shortest (fun d => d.OneLine (dropReturn line)) c

/-- The parts are on two lines.  The first may end in a carriage return, and the second
in anything. -/
structure OnLines (c : Capture) (first second : List Char) : Prop where
  noReturn : carriageReturn ∉ dropReturn first
  remark : c.Remark (dropReturn first)
  shortest : Shortest (fun d => carriageReturn ∉ d.file ∧ ∃ rest, d.PlaceLine second rest) c

/-! ## Laws -/

/-- A capture stands for what its parts say. -/
theorem finding?_eq_some_iff {c : Capture} {f : Finding} :
    c.finding? = some f ↔ c.Denotes f := by
  constructor
  · intro found
    unfold finding? at found
    split at found
    · cases found
    · next line number =>
      obtain ⟨number, bounded⟩ := Option.filter_eq_some_iff.1 number
      dsimp only at found
      split at found
      · cases found
      · next proper =>
        rw [not_or] at proper
        cases found
        exact ⟨rfl, number, Nat.pos_of_ne_zero proper.1, of_decide_eq_true bounded, rfl, rfl, rfl,
          proper.2⟩
  · rintro ⟨file, number, pos, bounded, kind, code, message, written⟩
    have number : naturalBelow? lineBound c.line = some f.line := by
      rw [naturalBelow?, number]
      exact Option.filter_some_pos (decide_eq_true bounded)
    obtain ⟨file', line, kind', code', message'⟩ := f
    cases file
    cases kind
    cases code
    cases message
    simp only [finding?, number]
    exact if_neg (not_or.2 ⟨Nat.ne_of_gt pos, written⟩)

end Capture

end PatchLint
