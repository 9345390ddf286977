/-!
# Binary floating-point numbers of 64 bits

A finite number of the format has a sign, a mantissa below `2 ^ 53` and an
exponent; its value is the mantissa times two to the exponent.  A quotient of
natural numbers is rounded to the nearest number of the format, a tie to the
even mantissa (`Binary64.ofQuotient?`), and products and quotients of numbers
are exact results rounded once.  Nothing here is infinite: what exceeds the
format is `none`.
-/

namespace PatchLint

/-- A finite number of the format. -/
structure Binary64 where
  /-- The sign, which zero has too. -/
  negative : Bool
  /-- The mantissa.  It lies below `2 ^ 52` only at the least exponent. -/
  mantissa : Nat
  /-- The exponent of two. -/
  exponent : Int
deriving DecidableEq, Repr, Inhabited

namespace Binary64

/-- The number of bits of a mantissa. -/
def precision : Nat := 53

def leastExponent : Int := -1074

def greatestExponent : Int := 971

/-- Zero with a sign. -/
def zero (negative : Bool) : Binary64 := ⟨negative, 0, leastExponent⟩

/-- The nearest natural number to a quotient, a tie to the even one. -/
def roundQuotient (num den : Nat) : Nat :=
  let q := num / den
  let r := num % den
  if 2 * r < den then q
  else if den < 2 * r then q + 1
  else q + q % 2

/-- The quotient of two natural numbers, divided by two to an exponent and
rounded. -/
def scaled (num den : Nat) (exponent : Int) : Nat :=
  if 0 ≤ exponent then roundQuotient num (den * Nat.pow 2 exponent.toNat)
  else roundQuotient (num * Nat.pow 2 (-exponent).toNat) den

/-- The greatest `k` with `2 ^ k` at most the quotient, or one more. -/
def binaryOrder (num den : Nat) : Int := (num.log2 : Int) - den.log2

/-- The nearest number to a quotient, a tie to the even mantissa. -/
def ofQuotient? (negative : Bool) (num den : Nat) : Option Binary64 :=
  if num = 0 then some (zero negative)
  else
    let guess := max (binaryOrder num den - precision) leastExponent
    let exponent := if scaled num den guess < Nat.pow 2 precision then guess else guess + 1
    let mantissa := scaled num den exponent
    let (mantissa, exponent) :=
      if mantissa < Nat.pow 2 precision then (mantissa, exponent) else (mantissa / 2, exponent + 1)
    if greatestExponent < exponent then none else some ⟨negative, mantissa, exponent⟩

/-- A natural number times two to an exponent, as a quotient. -/
def ratio (mantissa : Nat) (exponent : Int) : Nat × Nat :=
  if 0 ≤ exponent then (mantissa * Nat.pow 2 exponent.toNat, 1)
  else (mantissa, Nat.pow 2 (-exponent).toNat)

/-- The nearest number to a natural number. -/
def ofNat? (n : Nat) : Option Binary64 := ofQuotient? false n 1

/-- The product, rounded once. -/
def mul? (a b : Binary64) : Option Binary64 :=
  let (num, den) := ratio (a.mantissa * b.mantissa) (a.exponent + b.exponent)
  ofQuotient? (a.negative ^^ b.negative) num den

/-- The quotient by a number other than zero, rounded once. -/
def div? (a b : Binary64) : Option Binary64 :=
  let (num, den) := ratio a.mantissa (a.exponent - b.exponent)
  ofQuotient? (a.negative ^^ b.negative) num (den * b.mantissa)

/-- The number with the opposite sign. -/
def neg (a : Binary64) : Binary64 := { a with negative := !a.negative }

/-- A zero of either sign. -/
def isZero (a : Binary64) : Bool := a.mantissa = 0

example : ofNat? 1 = some ⟨false, Nat.pow 2 52, -52⟩ := by decide
example : ofQuotient? true 1 10 = some ⟨true, 7205759403792794, -56⟩ := by decide
example : ofNat? (Nat.pow 2 53 + 1) = some ⟨false, Nat.pow 2 52, 1⟩ := by decide

end Binary64

end PatchLint
