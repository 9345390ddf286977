import PatchLint.Json.Basic
import PatchLint.Log
import PatchLint.Text.Quoted

/-!
# Decoding JSON values

How a JSON value becomes a value of a domain type.  Decoding a record goes
through its members in the order of their keys and stops at the first that does
not fit; it may also warn about a value that it replaces.  The warnings up to a
failure are kept.

A record may also be written as an array of its fields in the order of their
declaration.
-/

namespace PatchLint

open Text

namespace Json

/-- What a value was found to be, in words. -/
def found : Json → String
  | .null => "null"
  | .bool true => "boolean `true`"
  | .bool false => "boolean `false`"
  | .int n => "integer `" ++ toString n ++ "`"
  | .float x => "floating point `" ++ x.text ++ "`"
  | .str s => "string " ++ quoted s
  | .arr _ => "sequence"
  | .obj _ => "map"

/-- Why a value does not decode. -/
inductive Misfit where
  /-- A value of another type than expected. -/
  | wrongType (value : Json) (expected : String)
  /-- A name that is none of the choices. -/
  | unknownChoice (name : String) (choices : List String)
  /-- A choice written as an object without exactly one member. -/
  | notOneMember
  /-- An array with fewer items than the record has fields. -/
  | tooShort (length : Nat) (record : String) (fields : Nat)
  /-- An array with more items than the record has fields. -/
  | tooLong (length : Nat)
  /-- A record without a field it needs. -/
  | missing (field : String)
  /-- A whole number that does not fit. -/
  | outOfRange (n : Int) (expected : String)
  /-- A value of the right type that cannot be what it should be. -/
  | invalid (reason : String)

/-- Names between backquotes, as a list of choices. -/
def choiceList : List String → String
  | [a, b] => "`" ++ a ++ "` or `" ++ b ++ "`"
  | names => "one of " ++ ", ".intercalate (names.map fun n => "`" ++ n ++ "`")

def Misfit.message : Misfit → String
  | .wrongType value expected => "invalid type: " ++ value.found ++ ", expected " ++ expected
  | .unknownChoice name choices =>
      "unknown variant `" ++ name ++ "`, expected " ++ choiceList choices
  | .notOneMember => "invalid value: map, expected map with a single key"
  | .tooShort length record fields =>
      "invalid length " ++ toString length ++ ", expected struct " ++ record ++ " with " ++
        toString fields ++ if fields = 1 then " element" else " elements"
  | .tooLong length => "invalid length " ++ toString length ++ ", expected fewer elements in array"
  | .missing field => "missing field `" ++ field ++ "`"
  | .outOfRange n expected =>
      "invalid value: " ++ (Json.int n).found ++ ", expected " ++ expected
  | .invalid reason => reason

/-- A decoding: a value or a misfit, and the warnings on the way. -/
abbrev Decoding := ExceptT Misfit (StateM Log)

/-- The result of a decoding and its warnings. -/
def Decoding.result {α : Type} (d : Decoding α) : Except Misfit α × Log := d.run.run []

/-- A warning. -/
def Decoding.note (line : LogLine) : Decoding Unit := modify (· ++ [line])

def decodeString : Json → Decoding String
  | .str s => pure s
  | v => throw (.wrongType v "a string")

/-- A truth value. -/
def decodeBool : Json → Decoding Bool
  | .bool b => pure b
  | v => throw (.wrongType v "a boolean")

/-- A whole number between two bounds. -/
def decodeWhole (least greatest : Int) (name : String) : Json → Decoding Int
  | .int n => if least ≤ n ∧ n ≤ greatest then pure n else throw (.outOfRange n name)
  | v => throw (.wrongType v name)

/-- A list of values of one type. -/
def decodeList {α : Type} (decode : Json → Decoding α) : Json → Decoding (List α)
  | .arr items => items.mapM decode
  | v => throw (.wrongType v "a sequence")

def decodeStrings : Json → Decoding (List String) := decodeList decodeString

/-- A value that may be missing: `null` stands for none. -/
def decodeOptional {α : Type} (decode : Json → Decoding α) : Json → Decoding (Option α)
  | .null => pure none
  | v => some <$> decode v

/-- The choice with a given name. -/
def choiceNamed {α : Type} (choices : List α) (name : α → String) (s : String) : Decoding α :=
  match choices.find? fun c => name c = s with
  | some c => pure c
  | none => throw (.unknownChoice s (choices.map name))

/-- A choice, by its name or as an object with the name as its only key and
`null` as its value. -/
def decodeChoice {α : Type} (choices : List α) (name : α → String) : Json → Decoding α
  | .str s => choiceNamed choices name s
  | .obj [(key, content)] => do
      let c ← choiceNamed choices name key
      if content.isNull then pure c else throw (.wrongType content "unit")
  | .obj _ => throw .notOneMember
  | v => throw (.wrongType v "string or map")

/-- Where a field of a record may be left out. -/
inductive Absence where
  | nowhere
  /-- In an object, but not in an array. -/
  | inObject
  /-- In an object, and in an array that ends before it. -/
  | anywhere
deriving DecidableEq, Repr

/-- A field of a record: its key, where it may be left out, and how a value is
put into it. -/
structure FieldRule (ρ : Type) where
  key : String
  /-- Where it may be left out. -/
  absence : Absence
  /-- The record with the field set. -/
  set : Json → ρ → Decoding ρ

/-- The fields that have to be in an object and are not. -/
def missingFields {ρ : Type} (fields : List (FieldRule ρ)) (members : List (String × Json)) :
    List (FieldRule ρ) :=
  fields.filter fun f => f.absence = .nowhere && (member? f.key members).isNone

/-- A record with the members of an object put in, in the order of their keys.
Unknown keys are passed over.  Fields that are missing are found last. -/
def decodeMembers {ρ : Type} (fields : List (FieldRule ρ)) (blank : ρ)
    (members : List (String × Json)) : Decoding ρ := do
  let r ← members.foldlM
    (fun r m => match fields.find? fun f => f.key = m.1 with
      | some f => f.set m.2 r
      | none => pure r)
    blank
  match missingFields fields members with
  | [] => pure r
  | f :: _ => throw (.missing f.key)

/-- A record with the items of an array put in, field by field. -/
def decodeItems {ρ : Type} : List (FieldRule ρ) → List Json → ρ → Decoding ρ
  | f :: fs, v :: vs, r => f.set v r >>= decodeItems fs vs
  | _, _, r => pure r

/-- The place of the first field that an array of a given length ends before
although it may not. -/
def firstLacking {ρ : Type} (fields : List (FieldRule ρ)) (length : Nat) : Option Nat :=
  ((fields.drop length).findIdx? fun f => f.absence ≠ .anywhere).map (length + ·)

/-- A record, from an object only. -/
def decodeObject {ρ : Type} (name : String) (fields : List (FieldRule ρ)) (blank : ρ) :
    Json → Decoding ρ
  | .obj members => decodeMembers fields blank members
  | v => throw (.wrongType v ("struct " ++ name))

/-- A record, from an object or an array. -/
def decodeRecord {ρ : Type} (name : String) (fields : List (FieldRule ρ)) (blank : ρ) :
    Json → Decoding ρ
  | .arr items => do
      let r ← decodeItems fields items blank
      match firstLacking fields items.length with
      | some place => throw (.tooShort place name fields.length)
      | none => if fields.length < items.length then throw (.tooLong items.length) else pure r
  | v => decodeObject name fields blank v

end Json

end PatchLint
