/-!
# Sets of code points

A set of characters given by a standard is a table: closed ranges of code
points in increasing order.  Looking a code point up stops at the first range
that lies above it, so the low code points are found at once.
-/

namespace PatchLint.Text

/-- A set of code points, as closed ranges. -/
abbrev Ranges := List (Nat × Nat)

/-- The ranges are not empty, do not touch, and come in increasing order. -/
def Ranges.Increasing : Ranges → Prop
  | [] => True
  | [r] => r.1 ≤ r.2
  | r :: s :: rest => r.1 ≤ r.2 ∧ r.2 < s.1 ∧ Ranges.Increasing (s :: rest)

/-- The ranges increase is decided range by range. -/
instance Ranges.decidableIncreasing : (rs : Ranges) → Decidable rs.Increasing
  | [] => .isTrue trivial
  | [r] => inferInstanceAs (Decidable (r.1 ≤ r.2))
  | r :: s :: rest =>
      have := Ranges.decidableIncreasing (s :: rest)
      inferInstanceAs (Decidable (r.1 ≤ r.2 ∧ r.2 < s.1 ∧ Ranges.Increasing (s :: rest)))

/-- Whether a code point lies in one of the ranges. -/
def Ranges.holds : Ranges → Nat → Bool
  | [], _ => false
  | (low, high) :: rest, n => if n < low then false else n ≤ high || Ranges.holds rest n

end PatchLint.Text
