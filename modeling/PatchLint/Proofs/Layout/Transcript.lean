import Mathlib.Data.List.Chain
import PatchLint.Layout.Printer

/-!
# Transcripts

What a run of the checker leaves behind as a whole: findings, all printed in the
same layout, and other lines before, between and behind them.  The checker makes
small choices with each finding that it prints (`Manner`), and the other lines are
anything that does not look like a finding (`Noise`).

A transcript says which findings were printed (`findingsOf`), and the point of the
two layouts is that reading the text gives these again.  What that takes of a
finding is that it is legible (`Finding.Legible`).
-/

namespace PatchLint

open Text

/-- How a line ends. -/
inductive LineEnd where
  | feed
  | returnAndFeed
deriving DecidableEq, Repr

def LineEnd.text : LineEnd → List Char
  | .feed => [lineFeed]
  | .returnAndFeed => [carriageReturn, lineFeed]

/-- A line that is not part of a finding. -/
structure Noise where
  text : List Char
  lineFeed_not_mem : lineFeed ∉ text
  head?_ne : text.head? ≠ some '#'
  untagged : ∀ k : Kind, ¬ ':' :: ' ' :: (k.tag.toList ++ [':']) <:+: text

/-- What the checker chooses when it prints a finding. -/
structure Manner where
  spacing : Spacing
  /-- The finding's number in the output, which only the layout of two lines shows. -/
  number : List Char
  number_ne_nil : number ≠ []
  isDecimalDigit : ∀ c ∈ number, isDecimalDigit c
  firstEnd : LineEnd
  secondEnd : LineEnd

namespace Finding

/-- The second of two lines for a finding, with its number as it is shown. -/
def placeBehind (number : List Char) (f : Finding) : List Char :=
  '#' :: (number ++ (": FILE: ".toList ++ (f.place ++ [':'])))

/-- The finding on one line. -/
def inOneLine (f : Finding) (m : Manner) : List Char := f.singleLine m.spacing ++ m.firstEnd.text

/-- The finding on two lines. -/
def inTwoLines (f : Finding) (m : Manner) : List Char :=
  f.remark m.spacing ++ (m.firstEnd.text ++ (f.placeBehind m.number ++ m.secondEnd.text))

/-- A finding whose parts can be told apart when it is printed.  No colon in the name
of its file is followed by a blank or by a decimal digit of any script. -/
structure Legible (f : Finding) : Prop extends Pattern.Printable f where
  file_ne_nil : f.file.toList ≠ []
  isLineEnd_file : ∀ c ∈ f.file.toList, Pattern.isLineEnd c = false
  colons : f.file.toList.IsChain fun a b => a = ':' → b ≠ ' ' ∧ isDecimalDigit b = false
  line_pos : 0 < f.line
  line_lt : f.line < Capture.lineBound
  head?_message : ∀ c ∈ f.message.toList.head?, isBlank c = false
  getLast?_message : ∀ c ∈ f.message.toList.getLast?, isBlank c = false

/-- A finding whose message has no tag of a kind in it. -/
def Untagged (f : Finding) : Prop :=
  ∀ k : Kind, ¬ (k.tag.toList ++ [':']) <:+: f.message.toList

end Finding

/-- A part of a transcript. -/
inductive Piece where
  | noise (line : Noise) (lineEnd : LineEnd)
  | finding (f : Finding) (m : Manner)

/-- The text of a piece, in the layout that `print` prints findings in. -/
def Piece.text (print : Finding → Manner → List Char) : Piece → List Char
  | .noise line lineEnd => line.text ++ lineEnd.text
  | .finding f m => print f m

def transcript (print : Finding → Manner → List Char) (pieces : List Piece) : List Char :=
  pieces.flatMap (Piece.text print)

section

variable (print : Finding → Manner → List Char) (pieces : List Piece)

theorem transcript_noise (line : Noise) (e : LineEnd) :
    transcript print (.noise line e :: pieces) =
      line.text ++ (e.text ++ transcript print pieces) := by
  simp [transcript, Piece.text]

theorem transcript_finding (f : Finding) (m : Manner) :
    transcript print (.finding f m :: pieces) = print f m ++ transcript print pieces := rfl

end

/-- The findings of a transcript. -/
def findingsOf : List Piece → List Finding
  | [] => []
  | .noise _ _ :: pieces => findingsOf pieces
  | .finding f _ :: pieces => f :: findingsOf pieces

end PatchLint
