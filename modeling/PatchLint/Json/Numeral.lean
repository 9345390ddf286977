import PatchLint.Json.Token

/-!
# Values of numerals

A numeral of a commented JSON text is a whole number if it has neither point nor
exponent and fits a 64-bit word, with a sign a signed one; a hexadecimal numeral
must fit the signed word.  Other decimal numerals are binary numbers, and what
exceeds every width stays the text it was.
-/

namespace PatchLint

open Text

namespace Json

/-- One more than the greatest signed word. -/
def signedBound : Nat := Nat.pow 2 63

/-- The parts of a decimal numeral without its sign: the digits before and
behind the point, and whether it has a point or an exponent. -/
structure NumeralParts where
  /-- The digits before the point. -/
  whole : List Char
  /-- The digits behind the point. -/
  fraction : List Char
  exponent : Int
  /-- Whether there is neither point nor exponent. -/
  isWhole : Bool

/-- The exponent written at the front of a text, behind its letter. -/
def exponentValue : List Char → Int
  | '-' :: ds => -((natural? ds).getD 0 : Nat)
  | '+' :: ds => (natural? ds).getD 0
  | ds => (natural? ds).getD 0

/-- The parts of a decimal numeral without its sign. -/
def numeralParts (cs : List Char) : NumeralParts :=
  let whole := cs.takeWhile isDigit
  let rest := cs.dropWhile isDigit
  let (fraction, rest') := match rest with
    | '.' :: r => (r.takeWhile isDigit, r.dropWhile isDigit)
    | r => ([], r)
  ⟨whole, fraction, exponentValue (rest'.drop 1), rest = []⟩

/-- The binary number that parts of a numeral denote. -/
def floatOf? (negative : Bool) (parts : NumeralParts) : Option Json :=
  ((Decimal.ofParts negative parts.whole parts.fraction parts.exponent).value?).map .float

/-- The value of a decimal numeral without its sign. -/
def decimal? (negative : Bool) (cs : List Char) : Option Json :=
  let parts := numeralParts cs
  match parts.isWhole, natural? parts.whole with
  | true, some n =>
      if negative then
        if 0 < n ∧ n ≤ signedBound then some (.int (-n)) else floatOf? negative parts
      else if n < Decimal.wordBound then some (nat n) else floatOf? negative parts
  | _, _ => floatOf? negative parts

/-- The value of a hexadecimal numeral, given the digits behind `0x`. -/
def hexadecimal? (negative : Bool) (ds : List Char) : Option Json :=
  ((hexFrom? 0 ds).filter (· < signedBound)).map fun n => .int (if negative then -n else n)

/-- The value of a numeral. -/
def ofNumeral (text : List Char) : Json :=
  let negative := text.head? = some '-'
  let unsigned := text.dropWhile fun c => c = '+' || c = '-'
  let value := match unsigned with
    | '0' :: x :: ds =>
        if x = 'x' ∨ x = 'X' then hexadecimal? negative ds else decimal? negative unsigned
    | _ => decimal? negative unsigned
  value.getD (.str (String.ofList text))

end Json

end PatchLint
