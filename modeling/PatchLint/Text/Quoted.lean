import PatchLint.Text.Numeral
import PatchLint.Text.Unprinted
import PatchLint.Text.Utf8

/-!
# Quoted texts

How messages show a text that may hold anything: between double quotes, with a
backslash before the quote and the backslash, short names for the line ends,
the tab and the zero character, and the number of every other character that
has no shape of its own.  A byte string is shown the same way, with each byte
of a broken piece by number and the apostrophe with a backslash too.
-/

namespace PatchLint.Text

/-- A code point by number, `\u` and the hexadecimal digits in braces. -/
def byNumber (c : Char) : List Char := ['\\', 'u', '{'] ++ hexDigits c.toNat ++ ['}']

/-- A character inside quotes.  The apostrophe is escaped only if asked. -/
def quotedChar (apostrophe : Bool) (c : Char) : List Char :=
  if c = '"' then ['\\', '"']
  else if c = '\\' then ['\\', '\\']
  else if c = '\'' then if apostrophe then ['\\', '\''] else ['\'']
  else if c = '\n' then ['\\', 'n']
  else if c = '\r' then ['\\', 'r']
  else if c = '\t' then ['\\', 't']
  else if c = '\x00' then ['\\', '0']
  else if isUnprinted c then byNumber c
  else [c]

/-- A piece of a byte string inside quotes. -/
def quotedPiece : Utf8.Piece → List Char
  | .char c => quotedChar true c
  | .broken bytes => bytes.flatMap fun b => ['\\', 'x'] ++ hexByte true b

/-- A string between double quotes. -/
def quoted (s : String) : String :=
  String.ofList (['"'] ++ s.toList.flatMap (quotedChar false) ++ ['"'])

/-- A byte string between double quotes. -/
def quotedBytes (bs : List UInt8) : String :=
  String.ofList (['"'] ++ (Utf8.read bs).flatMap quotedPiece ++ ['"'])

/-- Texts in brackets, with a comma and a blank between. -/
def bracketed (texts : List String) : String := "[" ++ ", ".intercalate texts ++ "]"

/-- An optional text: `None`, or the text in `Some(…)`. -/
def optional : Option String → String
  | none => "None"
  | some s => "Some(" ++ s ++ ")"

example : quotedChar false '\'' = ['\''] ∧ quotedChar true '\'' = ['\\', '\''] := by decide
example : quotedChar false '\u200B' = "\\u\x7b200b\x7d".toList := by decide +kernel

end PatchLint.Text
