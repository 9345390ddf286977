import PatchLint.Number.Decimal

/-!
# JSON values

The values that settings, configuration files and editor messages are made of.
A whole number and a number with a point are different values, even when they
denote the same quantity.  The members of an object are kept in the order of
their keys, by code point, and of two members with one key the later wins
(`Json.insertMember`).
-/

namespace PatchLint

/-- A JSON value. -/
inductive Json where
  | null
  | bool (b : Bool)
  /-- A whole number. -/
  | int (n : Int)
  /-- A number with a point or an exponent. -/
  | float (x : Binary64)
  | str (s : String)
  | arr (items : List Json)
  /-- Members in the order of their keys. -/
  | obj (members : List (String × Json))
deriving Repr, Inhabited

namespace Json

/-- Members with one more, in the order of their keys.  An equal key gets the
new value. -/
def insertMember (key : String) (value : Json) : List (String × Json) → List (String × Json)
  | [] => [(key, value)]
  | (k, v) :: rest =>
      if key < k then (key, value) :: (k, v) :: rest
      else if key = k then (key, value) :: rest
      else (k, v) :: insertMember key value rest

/-- The members given one after the other, in the order of their keys. -/
def ordered (members : List (String × Json)) : List (String × Json) :=
  members.foldl (fun ms m => insertMember m.1 m.2 ms) []

/-- An object with the given members. -/
def object (members : List (String × Json)) : Json := .obj (ordered members)

/-- A natural number. -/
def nat (n : Nat) : Json := .int n

def strings (ss : List String) : Json := .arr (ss.map .str)

/-- `null`, or the value. -/
def ofOption : Option Json → Json
  | none => .null
  | some v => v

/-- The value of the member with a key. -/
def member? (key : String) : List (String × Json) → Option Json
  | [] => none
  | (k, v) :: rest => if k = key then some v else member? key rest

/-- The value of a member of an object. -/
def get? (key : String) : Json → Option Json
  | .obj members => member? key members
  | _ => none

/-- The string that a value is. -/
def str? : Json → Option String
  | .str s => some s
  | _ => none

/-- The items of an array. -/
def arr? : Json → Option (List Json)
  | .arr items => some items
  | _ => none

/-- The natural number that a value is. -/
def nat? : Json → Option Nat
  | .int n => if 0 ≤ n then some n.toNat else none
  | _ => none

/-- Whether a value is `null`. -/
def isNull : Json → Bool
  | .null => true
  | _ => false

/-! ## Laws -/

/-- A key that was inserted has the new value, and the others are as they
were. -/
theorem member?_insertMember (key k : String) (value : Json) (members : List (String × Json)) :
    member? k (insertMember key value members) =
      if key = k then some value else member? k members := by
  induction members with
  | nil => simp [insertMember, member?]
  | cons hd rest ih =>
      obtain ⟨l, v⟩ := hd
      simp only [insertMember]
      split
      · simp [member?]
      · split
        · next h =>
          subst h
          by_cases hk : key = k <;> simp [member?, hk]
        · next differ =>
          by_cases hl : l = k
          · have : key ≠ k := fun h => differ (h.trans hl.symm)
            simp [member?, hl, this]
          · simp [member?, hl, ih]

end Json

end PatchLint
