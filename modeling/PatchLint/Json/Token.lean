import PatchLint.Json.Basic
import PatchLint.Text.Alphanumeric
import PatchLint.Text.Blank
import PatchLint.Text.Lines

/-!
# Tokens of commented JSON

Configuration files are JSON with a few liberties: comments, strings in either
quote, bare words as keys, hexadecimal numbers and a plus sign.  A text is read
as tokens, each with the number of characters in front of it, and ends either
properly or at a fault (`Tokens.ofText`).  A fault in a later token does not
hide what is wrong with an earlier one, so it stands at the end of the tokens
instead of replacing them.

Reading a token from a non-empty text says how many characters it takes beyond
the first, so the rest is always shorter and the reading ends.
-/

namespace PatchLint

open Text

namespace Json

/-- What can be wrong with a commented JSON text. -/
inductive Cause where
  | unexpectedToken
  | unterminatedComment
  | unterminatedString
  | escapeInDoubleQuotes
  | escapeInSingleQuotes
  | escape
  | hexDigits
  /-- An escape that is half of a surrogate pair, by its digits. -/
  | unpairedHigh (digits : List Char)
  | highWithoutLow (digits : List Char)
  | unpairedLow (digits : List Char)
  | digit
  | digitAfterSign
  | exponentDigit
  | unterminatedObject
  | unterminatedArray
  | tokenInObject
  | colonAfterKey
  | valueAfterColon
  | closeBrace
  | closeBracket
  | colon
  | comma
  | word
  | secondValue
deriving DecidableEq, Repr

/-- The text for an escape that is half of a surrogate pair. -/
def Cause.halfPair (digits : List Char) (remark : String) : String :=
  "Invalid unicode escape sequence. '" ++ String.ofList digits ++ " (" ++ remark ++
    ")' is not a valid UTF8 character"

def Cause.message : Cause → String
  | .unexpectedToken => "Unexpected token"
  | .unterminatedComment => "Unterminated comment block"
  | .unterminatedString => "Unterminated string literal"
  | .escapeInDoubleQuotes => "Invalid escape in double quote string"
  | .escapeInSingleQuotes => "Invalid escape in single quote string"
  | .escape => "Invalid escape"
  | .hexDigits => "Expected four hex digits"
  | .unpairedHigh digits => halfPair digits "unpaired high surrogate"
  | .highWithoutLow digits => halfPair digits "high surrogate not followed by low surrogate"
  | .unpairedLow digits => halfPair digits "unpaired low surrogate"
  | .digit => "Expected digit"
  | .digitAfterSign => "Expected digit following negative sign"
  | .exponentDigit => "Expected plus, minus, or digit in number literal"
  | .unterminatedObject => "Unterminated object"
  | .unterminatedArray => "Unterminated array"
  | .tokenInObject => "Unexpected token in object"
  | .colonAfterKey => "Expected colon after the string or word in object property"
  | .valueAfterColon => "Expected value after colon in object property"
  | .closeBrace => "Unexpected close brace"
  | .closeBracket => "Unexpected close bracket"
  | .colon => "Unexpected colon"
  | .comma => "Unexpected comma"
  | .word => "Unexpected word"
  | .secondValue => "Text cannot contain more than one JSON value"

/-- A cause and the number of characters in front of its place. -/
structure Fault where
  /-- What is wrong. -/
  cause : Cause
  /-- How many characters come first. -/
  offset : Nat
deriving DecidableEq, Repr

/-- A token of a commented JSON text. -/
inductive Token where
  | openBrace
  | closeBrace
  | openBracket
  | closeBracket
  | comma
  | colon
  | null
  | bool (b : Bool)
  | str (chars : List Char)
  | number (chars : List Char)
  | word (chars : List Char)
deriving DecidableEq, Repr

/-- A token and the number of characters in front of it. -/
structure Placed where
  token : Token
  /-- How many characters come first. -/
  offset : Nat
deriving DecidableEq, Repr

/-- The tokens of a text and how it ends: after so many characters, or at a
fault. -/
structure Tokens where
  /-- The tokens in order. -/
  items : List Placed
  /-- The length of the text, or what is wrong behind the tokens. -/
  ending : Except Fault Nat

/-! ## Strings -/

def shortEscape? (c : Char) : Option Char :=
  if c = '\\' ∨ c = '/' then some c
  else if c = 'b' then some '\x08'
  else if c = 'f' then some '\x0c'
  else if c = 'n' then some '\n'
  else if c = 'r' then some '\r'
  else if c = 't' then some '\t'
  else none

/-- The value of four hexadecimal digits at the front of a text. -/
def fourHex? : List Char → Option (Nat × List Char)
  | a :: b :: c :: d :: _ => (hexFrom? 0 [a, b, c, d]).map fun n => (n, [a, b, c, d])
  | _ => none

/-- The first half of a surrogate pair. -/
def isHighHalf (n : Nat) : Bool := 0xD800 ≤ n && n ≤ 0xDBFF

/-- The second half of a surrogate pair. -/
def isLowHalf (n : Nat) : Bool := 0xDC00 ≤ n && n ≤ 0xDFFF

/-- The character of a surrogate pair. -/
def joinHalves (high low : Nat) : Char :=
  Char.ofNat (0x10000 + (high - 0xD800) * 0x400 + (low - 0xDC00))

/-- The character of an escape by number and how many characters it takes, given
the text behind `\u`. -/
def numberEscape (cs : List Char) : Except Cause (Char × Nat) :=
  match fourHex? cs with
  | none => .error .hexDigits
  | some (n, ds) =>
      if isHighHalf n then
        match cs.drop 4 with
        | '\\' :: 'u' :: rest => match fourHex? rest with
            | none => .error .hexDigits
            | some (m, _) =>
                if isLowHalf m then .ok (joinHalves n m, 10) else .error (.highWithoutLow ds)
        | _ => .error (.unpairedHigh ds)
      else if isLowHalf n then .error (.unpairedLow ds)
      else .ok (Char.ofNat n, 4)

/-- The character of an escape and how many characters it takes, given the text
behind the backslash.  Only the quote that encloses the string may be
escaped. -/
def escape (quote : Char) : List Char → Except Cause (Char × Nat)
  | [] => .error .unterminatedString
  | c :: cs =>
      if c = '"' ∨ c = '\'' then
        if c = quote then .ok (c, 1)
        else if quote = '"' then .error .escapeInDoubleQuotes
        else .error .escapeInSingleQuotes
      else if c = 'u' then (numberEscape cs).map fun (d, n) => (d, n + 1)
      else match shortEscape? c with
        | some d => .ok (d, 1)
        | none => .error .escape

/-- The characters of a string and how many characters its text takes with the
closing quote, given the text behind the opening quote. `start` is the place of
the opening quote, `offset` that of the text. -/
def stringBody (quote : Char) (start offset : Nat) :
    List Char → Except Fault (List Char × Nat)
  | [] => .error ⟨.unterminatedString, start⟩
  | c :: cs =>
      if c = quote then .ok ([], 1)
      else if c = '\\' then
        match escape quote cs with
        | .error .unterminatedString => .error ⟨.unterminatedString, start⟩
        | .error cause => .error ⟨cause, offset⟩
        | .ok (d, n) => match stringBody quote start (offset + 1 + n) (cs.drop n) with
            | .ok (ds, taken) => .ok (d :: ds, taken + 1 + n)
            | .error fault => .error fault
      else match stringBody quote start (offset + 1) cs with
        | .ok (ds, taken) => .ok (c :: ds, taken + 1)
        | .error fault => .error fault
termination_by cs => cs.length
decreasing_by
  · simp only [List.length_drop, List.length_cons]
    omega
  · simp

/-! ## Numbers -/

/-- An ASCII digit. -/
def isDigit (c : Char) : Bool := (digitValue? c).isSome

/-- A hexadecimal digit. -/
def isHexDigit (c : Char) : Bool := (hexValue? c).isSome

/-- At least one digit at the front of a text, and the text behind them. -/
def digits1 (p : Char → Bool) (cause : Cause) (offset : Nat) (cs : List Char) :
    Except Fault (List Char × List Char) :=
  match cs.takeWhile p with
  | [] => .error ⟨cause, offset⟩
  | ds => .ok (ds, cs.dropWhile p)

/-- A point and digits, if there is a point. -/
def fraction (offset : Nat) : List Char → Except Fault (List Char × List Char)
  | '.' :: cs => (digits1 isDigit .digit (offset + 1) cs).map fun (ds, rest) => ('.' :: ds, rest)
  | cs => .ok ([], cs)

def exponent (offset : Nat) : List Char → Except Fault (List Char × List Char)
  | [] => .ok ([], [])
  | e :: cs =>
      if e = 'e' ∨ e = 'E' then
        match cs with
        | s :: rest =>
            if s = '+' ∨ s = '-' then
              (digits1 isDigit .digit (offset + 2) rest).map fun (ds, rest) => (e :: s :: ds, rest)
            else
              (digits1 isDigit .exponentDigit (offset + 1) cs).map fun (ds, rest) => (e :: ds, rest)
        | [] => .error ⟨.exponentDigit, offset + 1⟩
      else .ok ([], e :: cs)

/-- The fraction and the exponent behind the whole part of a number. -/
def numberTail (lead : List Char) (offset : Nat) (cs : List Char) : Except Fault (List Char) :=
  match fraction offset cs with
  | .error fault => .error fault
  | .ok (f, rest) => (exponent (offset + f.length) rest).map fun (e, _) => lead ++ f ++ e

/-- A number without its sign.  A zero is the whole part by itself, unless `x`
follows it. -/
def unsignedNumber (offset : Nat) : List Char → Except Fault (List Char)
  | [] => .error ⟨.digitAfterSign, offset⟩
  | c :: cs =>
      if c = '0' then
        match cs with
        | x :: rest =>
            if x = 'x' ∨ x = 'X' then
              (digits1 isHexDigit .digit (offset + 2) rest).map fun (ds, _) => c :: x :: ds
            else numberTail [c] (offset + 1) cs
        | [] => .ok [c]
      else if isDigit c then
        let whole := (c :: cs).takeWhile isDigit
        numberTail whole (offset + whole.length) ((c :: cs).dropWhile isDigit)
      else .error ⟨.digitAfterSign, offset⟩

/-- A number at the front of a text. -/
def number (offset : Nat) : List Char → Except Fault (List Char)
  | [] => .error ⟨.digitAfterSign, offset⟩
  | c :: cs =>
      if c = '+' ∨ c = '-' then (unsignedNumber (offset + 1) cs).map (c :: ·)
      else unsignedNumber offset (c :: cs)

/-! ## Words and comments -/

/-- A character of a bare word. -/
def isWordChar (c : Char) : Bool := isAlphanumeric c || c = '-' || c = '_'

/-- A character that ends a bare word. -/
def endsWord (c : Char) : Bool := isBlank c || c = ':'

/-- A bare word: everything up to a blank or a colon, if it is made of word
characters only and not empty. -/
def bareWord (offset : Nat) (cs : List Char) : Except Fault (List Char) :=
  let w := cs.takeWhile (!endsWord ·)
  if w = [] ∨ !w.all isWordChar then .error ⟨.unexpectedToken, offset⟩ else .ok w

/-- Whether a text starts with a keyword that no alphanumeric character
continues. -/
def startsWithKeyword (keyword cs : List Char) : Bool :=
  keyword.isPrefixOf cs &&
    match cs.drop keyword.length with
    | [] => true
    | c :: _ => !isAlphanumeric c

/-- The length of a comment up to the end of its line. -/
def lineCommentLength : List Char → Nat
  | [] => 0
  | c :: cs =>
      if c = lineFeed then 0
      else if c = carriageReturn ∧ cs.head? = some lineFeed then 0
      else lineCommentLength cs + 1

/-- The length of a comment up to and with its end mark. -/
def blockCommentLength? : List Char → Option Nat
  | '*' :: '/' :: _ => some 2
  | _ :: cs => (blockCommentLength? cs).map (· + 1)
  | [] => none

/-! ## Texts -/

/-- What is read at the front of a non-empty text. -/
inductive Lexeme where
  /-- A blank or a comment, with the characters it takes beyond the first. -/
  | nothing (more : Nat)
  /-- A token, with the characters it takes beyond the first. -/
  | token (t : Token) (more : Nat)

/-- The token of a character that is one by itself. -/
def punctuation? (c : Char) : Option Token :=
  if c = '{' then some .openBrace
  else if c = '}' then some .closeBrace
  else if c = '[' then some .openBracket
  else if c = ']' then some .closeBracket
  else if c = ',' then some .comma
  else if c = ':' then some .colon
  else none

/-- A comment at the front of a text, given what follows its first slash. -/
def comment (offset : Nat) : List Char → Except Fault Lexeme
  | '/' :: cs => .ok (.nothing (lineCommentLength cs + 1))
  | '*' :: cs => match blockCommentLength? cs with
      | some n => .ok (.nothing (n + 1))
      | none => .error ⟨.unterminatedComment, offset⟩
  | _ => .error ⟨.unexpectedToken, offset⟩

/-- What is read at the front of a non-empty text. -/
def lexeme (offset : Nat) (c : Char) (cs : List Char) : Except Fault Lexeme :=
  if isBlank c then .ok (.nothing 0)
  else match punctuation? c with
    | some t => .ok (.token t 0)
    | none =>
        if c = '"' ∨ c = '\'' then
          (stringBody c offset (offset + 1) cs).map fun (s, n) => .token (.str s) n
        else if c = '/' then comment offset cs
        else if c = '+' ∨ c = '-' ∨ isDigit c then
          (number offset (c :: cs)).map fun n => .token (.number n) (n.length - 1)
        else if startsWithKeyword "true".toList (c :: cs) then .ok (.token (.bool true) 3)
        else if startsWithKeyword "false".toList (c :: cs) then .ok (.token (.bool false) 4)
        else if startsWithKeyword "null".toList (c :: cs) then .ok (.token .null 3)
        else (bareWord offset (c :: cs)).map fun w => .token (.word w) (w.length - 1)

/-- The tokens of a text that stands behind `offset` characters. -/
def Tokens.from (offset : Nat) : List Char → Tokens
  | [] => ⟨[], .ok offset⟩
  | c :: cs => match lexeme offset c cs with
    | .error fault => ⟨[], .error fault⟩
    | .ok (.nothing more) => Tokens.from (offset + 1 + more) (cs.drop more)
    | .ok (.token t more) =>
        let rest := Tokens.from (offset + 1 + more) (cs.drop more)
        ⟨⟨t, offset⟩ :: rest.items, rest.ending⟩
termination_by cs => cs.length
decreasing_by all_goals simp only [List.length_drop, List.length_cons]; omega

def Tokens.ofText (cs : List Char) : Tokens := Tokens.from 0 cs

end Json

end PatchLint
