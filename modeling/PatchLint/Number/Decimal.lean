import PatchLint.Number.Binary64
import PatchLint.Text.Numeral

/-!
# Decimal texts of binary numbers

Reading goes in two steps, as it does in common readers.  The digits are
gathered in a 64-bit word, digits that no longer fit only count towards the
power of ten, and word and power are each rounded to a number of the format
before their product or quotient is rounded once more (`Decimal.value?`).

Writing finds the fewest digits that read back as the number, the nearest of
those to it (`Binary64.shortest`), and lays them out by `Binary64.text`:
positional from `0.00001` up to below `1e+16`, always with a point, and with an
exponent beyond.
-/

namespace PatchLint

open Text

/-! ## Reading -/

/-- A decimal numeral: a sign, digits, and a power of ten. -/
structure Decimal where
  /-- The sign. -/
  negative : Bool
  /-- The digits as far as they fit a 64-bit word. -/
  significand : Nat
  /-- The power of ten. -/
  exponent : Int
deriving DecidableEq, Repr

namespace Decimal

/-- One more than the greatest 64-bit word. -/
def wordBound : Nat := Nat.pow 2 64

/-- The greatest power of ten of the format, and the step for smaller ones. -/
def greatestPower : Nat := 308

/-- A power of ten rounded to the format. -/
def power? (k : Nat) : Option Binary64 := Binary64.ofNat? (Nat.pow 10 k)

/-- A number divided by `10 ^ k`, in steps that the format can hold. -/
def divided? (x : Binary64) (k : Nat) : Option Binary64 :=
  if x.isZero then some x
  else if k ≤ greatestPower then (power? k).bind x.div?
  else ((power? greatestPower).bind x.div?).bind fun y => divided? y (k - greatestPower)
termination_by k
decreasing_by simp only [greatestPower] at *; omega

/-- The number a decimal numeral stands for, unless it exceeds the format. -/
def value? (d : Decimal) : Option Binary64 := do
  let x ← Binary64.ofNat? d.significand
  let y ← if 0 ≤ d.exponent then
      if x.isZero then some x
      else if d.exponent.toNat ≤ greatestPower then (power? d.exponent.toNat).bind x.mul?
      else none
    else divided? x (-d.exponent).toNat
  return if d.negative then y.neg else y

/-- Digits gathered in a word: the word, and how many digits did not fit. -/
def gather (word : Nat) : List Char → Nat × Nat
  | [] => (word, 0)
  | c :: cs =>
      let d := (digitValue? c).getD 0
      if 10 * word + d < wordBound then gather (10 * word + d) cs else (word, (c :: cs).length)

/-- The numeral with the given digits before and behind the point.  Digits
before the point that do not fit count towards the power of ten, and digits
behind it that do not fit do not count. -/
def ofParts (negative : Bool) (whole fraction : List Char) (exponent : Int) : Decimal :=
  let (word, beyond) := gather 0 whole
  let (word', left) := gather word fraction
  ⟨negative, word', exponent + beyond - (fraction.length - left : Nat)⟩

end Decimal

/-! ## Writing -/

namespace Binary64

/-- Compares `digits * 10 ^ power` with `units * 2 ^ exponent`. -/
def compareDecimal (digits : Nat) (power : Int) (units : Nat) (exponent : Int) : Ordering :=
  compare (digits * Nat.pow 10 power.toNat * Nat.pow 2 (-exponent).toNat)
    (units * Nat.pow 2 exponent.toNat * Nat.pow 10 (-power).toNat)

/-- Whether a decimal reads back as the number: it lies between the midpoints to
the neighbours, the midpoints included if the mantissa is even.  Below a power
of two the neighbour is half as far. -/
def readsBack (x : Binary64) (digits : Nat) (power : Int) : Bool :=
  let m := x.mantissa
  let down := if m = Nat.pow 2 52 ∧ leastExponent < x.exponent then 1 else 2
  let low := compareDecimal digits power (4 * m - down) (x.exponent - 2)
  let high := compareDecimal digits power (4 * m + 2) (x.exponent - 2)
  if m % 2 = 0 then low ≠ .lt ∧ high ≠ .gt else low = .gt ∧ high = .lt

/-- The greatest power of ten that is at most the number, which is not zero. -/
def decimalOrder (x : Binary64) : Int :=
  let guess := (x.mantissa.log2 + x.exponent) * 30103 / 100000
  let atMost (k : Int) : Bool := compareDecimal 1 k x.mantissa x.exponent ≠ .gt
  if atMost (guess + 1) then guess + 1 else if atMost guess then guess else guess - 1

/-- The decimal with its last digit at a given power of ten that reads back: the
nearer one if both neighbours of the number do, and a tie goes to the even one. -/
def nearestAt? (x : Binary64) (power : Int) : Option Nat :=
  let num := x.mantissa * Nat.pow 2 x.exponent.toNat * Nat.pow 10 (-power).toNat
  let den := Nat.pow 2 (-x.exponent).toNat * Nat.pow 10 power.toNat
  let below := num / den
  let nearest := roundQuotient num den
  let other := if nearest = below then below + 1 else below
  if x.readsBack nearest power then some nearest
  else if x.readsBack other power then some other
  else none

/-- The shortest decimal that reads back, found by allowing one digit more at a
time from a given power of ten downwards. -/
def shortestFrom (x : Binary64) (power : Int) : Nat → Nat × Int
  | 0 => (0, power)
  | fuel + 1 => match x.nearestAt? power with
    | some digits => (digits, power)
    | none => shortestFrom x (power - 1) fuel

/-- The shortest decimal that reads back.  Seventeen digits always do. -/
def shortest (x : Binary64) : Nat × Int := shortestFrom x x.decimalOrder 18

/-- Digits without the zeros at their end, and how many there were. -/
def stripZeros : List Char → List Char × Nat
  | [] => ([], 0)
  | c :: cs =>
      let (kept, n) := stripZeros cs
      if kept = [] ∧ c = '0' then ([], n + 1) else (c :: kept, n)

/-- How numbers are laid out in messages and files. -/
structure TextFormat where
  /-- The greatest number of digits before the point. -/
  wholeDigits : Int
  /-- The greatest number of zeros right behind the point. -/
  leadingZeros : Int

/-- Numbers are positional with up to sixteen digits before the point and up to
four zeros behind it. -/
def messageFormat : TextFormat := ⟨16, 4⟩

/-- Digits laid out with the point behind `point` of them. -/
def layOut (format : TextFormat) (ds : List Char) (point : Int) : List Char :=
  if 0 < point ∧ point ≤ format.wholeDigits then
    let whole := point.toNat
    if ds.length ≤ whole then ds ++ List.replicate (whole - ds.length) '0' ++ ['.', '0']
    else ds.take whole ++ ['.'] ++ ds.drop whole
  else if -format.leadingZeros ≤ point ∧ point ≤ 0 then
    ['0', '.'] ++ List.replicate (-point).toNat '0' ++ ds
  else
    let sign := if 0 < point then '+' else '-'
    let tail := 'e' :: sign :: digits (point - 1).natAbs
    match ds with
    | [] => tail
    | [d] => d :: tail
    | d :: rest => d :: '.' :: rest ++ tail

/-- The text of a number. -/
def text (x : Binary64) : String :=
  let sign := if x.negative then ['-'] else []
  let body :=
    if x.isZero then ['0', '.', '0']
    else
      let (n, power) := x.shortest
      let written := digits n
      layOut messageFormat (stripZeros written).1 (written.length + power)
  String.ofList (sign ++ body)

end Binary64

end PatchLint
