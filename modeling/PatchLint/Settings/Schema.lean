import PatchLint.Json.Commented
import PatchLint.Json.Printer
import PatchLint.Settings.Basic

/-!
# The schema of configuration files

A configuration file is an object whose keys are known and whose values have
the right type.  The schema says so independently of how settings are decoded:
it refuses keys that decoding would pass over, and it does not know that a
record may be written as an array.  Checking goes through the members in the
order of their keys and stops at the first that does not conform.
-/

namespace PatchLint

open Json

namespace Schema

/-- What the value of a key may be. -/
inductive Shape where
  | string
  | boolean
  | strings
  /-- A string out of a list. -/
  | oneOf (choices : List String)

/-- The keys of a configuration file and what their values may be. -/
def properties : List (String × Shape) :=
  [("$schema", .string),
    (Settings.Key.executable, .string),
    (Settings.Key.args, .strings),
    (Settings.Key.exclude, .strings),
    (Settings.Key.useFolderAsCwd, .boolean),
    (Settings.Key.level, .string),
    (Settings.Key.runMode, .oneOf ["manual", "onSave"]),
    (Settings.Key.layout, .oneOf ["auto", "singleLine", "twoLine"])]

/-- Why a value does not conform. -/
inductive Violation where
  /-- A value at a place that is not of the type it should be. -/
  | wrongType (value : Json) (expected : String) (place : String)
  /-- A string at a place that is none of the choices. -/
  | notAmong (value : String) (choices : List String) (place : String)
  /-- A key that is not known. -/
  | unknownKey (key : String)

/-- Strings as JSON, with commas between and `or` before the last. -/
def alternatives : List String → String
  | [] => ""
  | [a] => (Json.str a).compact
  | [a, b] => (Json.str a).compact ++ " or " ++ (Json.str b).compact
  | a :: rest => (Json.str a).compact ++ ", " ++ alternatives rest

def Violation.message : Violation → String
  | .wrongType value expected place =>
      value.compact ++ " is not of type \"" ++ expected ++ "\" at " ++ place
  | .notAmong value choices place =>
      (Json.str value).compact ++ " is not one of " ++ alternatives choices ++ " at " ++ place
  | .unknownKey key => "Additional properties are not allowed ('" ++ key ++ "' was unexpected) at "

def checkString (place : String) : Json → Except Violation Unit
  | .str _ => .ok ()
  | v => .error (.wrongType v "string" place)

/-- Strings at a place, the first of them with a given index. -/
def checkStrings (place : String) : Nat → List Json → Except Violation Unit
  | _, [] => .ok ()
  | n, v :: vs => match checkString (place ++ "/" ++ toString n) v with
    | .ok _ => checkStrings place (n + 1) vs
    | .error e => .error e

/-- A value at a place. -/
def Shape.check (place : String) : Shape → Json → Except Violation Unit
  | .string, v => checkString place v
  | .boolean, .bool _ => .ok ()
  | .boolean, v => .error (.wrongType v "boolean" place)
  | .strings, .arr items => checkStrings place 0 items
  | .strings, v => .error (.wrongType v "array" place)
  | .oneOf choices, .str s =>
      if s ∈ choices then .ok () else .error (.notAmong s choices place)
  | .oneOf _, v => .error (.wrongType v "string" place)

/-- The members of a configuration file. -/
def checkMembers : List (String × Json) → Except Violation Unit
  | [] => .ok ()
  | (key, value) :: rest => match properties.find? fun p => p.1 = key with
    | none => .error (.unknownKey key)
    | some p => match p.2.check ("/" ++ key) value with
      | .ok _ => checkMembers rest
      | .error e => .error e

/-- A configuration file. -/
def check : Json → Except Violation Unit
  | .obj members => checkMembers members
  | v => .error (.wrongType v "object" "")

end Schema

/-- Why a text or a value gives no settings. -/
inductive Invalid where
  /-- The text is not commented JSON. -/
  | syntaxError (mistake : Mistake)
  /-- The value does not conform to the schema. -/
  | violation (v : Schema.Violation)
  /-- The value does not decode. -/
  | misfit (m : Misfit)

def Invalid.reason : Invalid → String
  | .syntaxError mistake => "Invalid JSON: " ++ mistake.message
  | .violation v => "Config validation failed: " ++ v.message
  | .misfit m => m.message

/-- The value of a configuration text, which conforms to the schema.  An empty
text counts as an empty object. -/
def configValue (text : List Char) : Except Invalid Json :=
  match Json.ofText text with
  | .error mistake => .error (.syntaxError mistake)
  | .ok found =>
      let value := found.getD (.obj [])
      match Schema.check value with
      | .error v => .error (.violation v)
      | .ok _ => .ok value

end PatchLint
