/-!
# Numerals

Natural numbers written in ASCII digits, and the check that a value fits a
fixed width.  Main statement: a written number is read back (`natural?_digits`).
-/

namespace PatchLint.Text

/-- The value of an ASCII digit. -/
def digitValue? (c : Char) : Option Nat :=
  if '0' ≤ c ∧ c ≤ '9' then some (c.toNat - '0'.toNat) else none

/-- The value of digits that follow the value `n`. -/
def naturalFrom? (n : Nat) : List Char → Option Nat
  | [] => some n
  | c :: cs => match digitValue? c with
    | some d => naturalFrom? (10 * n + d) cs
    | none => none

/-- The number a text of ASCII digits denotes.  The empty text denotes none. -/
def natural? : List Char → Option Nat
  | [] => none
  | cs => naturalFrom? 0 cs

/-- A number below a bound, or nothing. -/
def naturalBelow? (bound : Nat) (cs : List Char) : Option Nat :=
  (natural? cs).filter (· < bound)

/-- The ASCII digit of a value below 10. -/
def digit (n : Nat) : Char := Char.ofNat ('0'.toNat + n)

/-- The digits of a number, with no leading zero. -/
def digits (n : Nat) : List Char :=
  if n < 10 then [digit n] else digits (n / 10) ++ [digit (n % 10)]
termination_by n

/-- The digits of a number as a string. -/
def numeral (n : Nat) : String := String.ofList (digits n)

/-- Digits are read one by one: reading what follows starts from what came before. -/
theorem naturalFrom?_append (n : Nat) (xs ys : List Char) :
    naturalFrom? n (xs ++ ys) = (naturalFrom? n xs).bind (naturalFrom? · ys) := by
  induction xs generalizing n with
  | nil => rfl
  | cons c xs ih =>
      simp only [List.cons_append, naturalFrom?]
      split <;> simp [ih]

/-- A digit has the value it was made from. -/
theorem digitValue?_digit {n : Nat} (h : n < 10) : digitValue? (digit n) = some n := by
  have : ∀ m : Fin 10, digitValue? (digit m) = some m.val := by decide
  exact this ⟨n, h⟩

/-- Reading the digits of a number from zero gives the number. -/
theorem naturalFrom?_digits (n : Nat) : naturalFrom? 0 (digits n) = some n := by
  induction n using digits.induct with
  | case1 n h => rw [digits]; simp [h, naturalFrom?, digitValue?_digit]
  | case2 n h ih =>
      rw [digits]
      simp only [h, if_false, naturalFrom?_append, ih, Option.bind_some, naturalFrom?]
      rw [digitValue?_digit (Nat.mod_lt _ (by decide))]
      simp only [Option.some.injEq]
      omega

/-- A number has at least one digit. -/
theorem digits_ne_nil (n : Nat) : digits n ≠ [] := by
  rw [digits]
  split <;> simp

/-- A written number is read back. -/
theorem natural?_digits (n : Nat) : natural? (digits n) = some n := by
  rw [natural?.eq_def]
  split
  · next h => exact absurd h (digits_ne_nil n)
  · exact naturalFrom?_digits n

/-- The value of a hexadecimal digit. -/
def hexValue? (c : Char) : Option Nat :=
  if '0' ≤ c ∧ c ≤ '9' then some (c.toNat - '0'.toNat)
  else if 'a' ≤ c ∧ c ≤ 'f' then some (c.toNat - 'a'.toNat + 10)
  else if 'A' ≤ c ∧ c ≤ 'F' then some (c.toNat - 'A'.toNat + 10)
  else none

/-- The value of hexadecimal digits that follow the value `n`. -/
def hexFrom? (n : Nat) : List Char → Option Nat
  | [] => some n
  | c :: cs => match hexValue? c with
    | some d => hexFrom? (16 * n + d) cs
    | none => none

/-- The digit of a value below 16, in the given case. -/
def hexDigit (upper : Bool) (n : Nat) : Char :=
  if n < 10 then Char.ofNat ('0'.toNat + n)
  else Char.ofNat ((if upper then 'A' else 'a').toNat + (n - 10))

/-- Two hexadecimal digits for a byte. -/
def hexByte (upper : Bool) (b : UInt8) : List Char :=
  [hexDigit upper (b.toNat / 16), hexDigit upper (b.toNat % 16)]

/-- The hexadecimal digits of a number in lower case, with no leading zero. -/
def hexDigits (n : Nat) : List Char :=
  if n < 16 then [hexDigit false n] else hexDigits (n / 16) ++ [hexDigit false (n % 16)]
termination_by n

example : natural? "042".toList = some 42 ∧ natural? [] = none ∧ natural? "4x".toList = none := by
  decide
example : naturalBelow? 256 "256".toList = none ∧ naturalBelow? 256 "255".toList = some 255 := by
  decide
example : hexByte true 0xAF = ['A', 'F'] ∧ hexByte false 9 = ['0', '9'] := by decide

end PatchLint.Text
