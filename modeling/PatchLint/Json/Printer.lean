import PatchLint.Json.Basic

/-!
# Printing JSON values

Two layouts.  The compact one has no space at all and is what messages show.
The indented one puts each item and member on a line of its own, two spaces
deeper than its container, and leaves empty containers closed.  In both, a
string escapes the quote, the backslash and the control characters, and writes
everything else as it is.
-/

namespace PatchLint

open Text

namespace Json

/-- A control character by number. -/
def controlEscape (c : Char) : List Char :=
  ['\\', 'u', '0', '0'] ++ hexByte false (UInt8.ofNat c.toNat)

/-- A character inside a string. -/
def escapedChar (c : Char) : List Char :=
  if c = '"' then ['\\', '"']
  else if c = '\\' then ['\\', '\\']
  else if c = '\n' then ['\\', 'n']
  else if c = '\r' then ['\\', 'r']
  else if c = '\t' then ['\\', 't']
  else if c = '\x08' then ['\\', 'b']
  else if c = '\x0c' then ['\\', 'f']
  else if c.toNat < 0x20 then controlEscape c
  else [c]

/-- A string between quotes. -/
def quotedString (s : String) : List Char := ['"'] ++ s.toList.flatMap escapedChar ++ ['"']

/-- A whole number. -/
def integer (n : Int) : List Char :=
  if n < 0 then '-' :: digits n.natAbs else digits n.natAbs

/-- A value without parts. -/
def scalar : Json → List Char
  | .null => "null".toList
  | .bool true => "true".toList
  | .bool false => "false".toList
  | .int n => integer n
  | .float x => x.text.toList
  | .str s => quotedString s
  | .arr _ => "[]".toList
  | .obj _ => ['{', '}']

mutual

/-- The compact layout of a value. -/
def compactChars : Json → List Char
  | .arr items => ['['] ++ compactItems items ++ [']']
  | .obj members => ['{'] ++ compactMembers members ++ ['}']
  | value => scalar value

/-- Items with commas between. -/
def compactItems : List Json → List Char
  | [] => []
  | [v] => compactChars v
  | v :: rest => compactChars v ++ [','] ++ compactItems rest

/-- Members with commas between. -/
def compactMembers : List (String × Json) → List Char
  | [] => []
  | [(k, v)] => quotedString k ++ [':'] ++ compactChars v
  | (k, v) :: rest => quotedString k ++ [':'] ++ compactChars v ++ [','] ++ compactMembers rest

end

/-- The compact text of a value. -/
def compact (v : Json) : String := String.ofList (compactChars v)

/-- A line end and the indentation of a depth. -/
def indentation (depth : Nat) : List Char := '\n' :: List.replicate (2 * depth) ' '

mutual

/-- The indented layout of a value that stands at a depth. -/
def indentedChars (depth : Nat) : Json → List Char
  | .arr [] => "[]".toList
  | .arr (v :: rest) =>
      ['['] ++ indentedItems (depth + 1) (v :: rest) ++ indentation depth ++ [']']
  | .obj [] => ['{', '}']
  | .obj (m :: rest) =>
      ['{'] ++ indentedMembers (depth + 1) (m :: rest) ++ indentation depth ++ ['}']
  | value => scalar value

/-- Items on lines of their own. -/
def indentedItems (depth : Nat) : List Json → List Char
  | [] => []
  | [v] => indentation depth ++ indentedChars depth v
  | v :: rest => indentation depth ++ indentedChars depth v ++ [','] ++ indentedItems depth rest

/-- Members on lines of their own. -/
def indentedMembers (depth : Nat) : List (String × Json) → List Char
  | [] => []
  | [(k, v)] => indentation depth ++ quotedString k ++ [':', ' '] ++ indentedChars depth v
  | (k, v) :: rest =>
      indentation depth ++ quotedString k ++ [':', ' '] ++ indentedChars depth v ++ [','] ++
        indentedMembers depth rest

end

/-- The indented text of a value. -/
def indented (v : Json) : String := String.ofList (indentedChars 0 v)

example : (object [("b", .int 1), ("a", .arr [.null, .bool true]), ("b", .str "x\n")]).compact =
    "\x7b\"a\":[null,true],\"b\":\"x\\n\"\x7d" := by decide +kernel

end Json

end PatchLint
