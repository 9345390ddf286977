import PatchLint.Json.Numeral

/-!
# Commented JSON texts

Reading the tokens of a text as one value, or none if there is no token.
Commas between items may be missing, and one may stand before a closing bracket.

The reader is a machine that takes one token at a time.  Its state is the stack
of open containers and what may come next (`Json.State`), so reading a text is
folding its tokens, and every text is read to its end or to its first fault.
-/

namespace PatchLint

open Text

namespace Json

/-- A container that is still open. -/
inductive Frame where
  /-- An array and its items so far. -/
  | array (offset : Nat) (items : List Json)
  /-- An object and its members so far. -/
  | object (offset : Nat) (members : List (String × Json))
  /-- An object that waits for the value of a key. -/
  | member (offset : Nat) (members : List (String × Json)) (key : String)

/-- What may come next. -/
inductive State where
  /-- A value.  In an array, also its end. -/
  | value (stack : List Frame)
  /-- What follows an item: a comma, another item, or the end of the array. -/
  | afterItem (stack : List Frame) (offset : Nat) (items : List Json)
  /-- A key, or the end of the object. -/
  | key (stack : List Frame) (offset : Nat) (members : List (String × Json))
  /-- What follows a member: a comma, another key, or the end of the object. -/
  | afterMember (stack : List Frame) (offset : Nat) (members : List (String × Json))
  /-- The colon behind a key. -/
  | colon (stack : List Frame) (offset : Nat) (members : List (String × Json)) (key : String)
  /-- Nothing: the text has its value. -/
  | done (v : Json)

namespace State

/-- The state after a finished value. -/
def complete (v : Json) : List Frame → State
  | [] => .done v
  | .array offset items :: stack => .afterItem stack offset (items ++ [v])
  | .member offset members k :: stack => .afterMember stack offset (insertMember k v members)
  | .object offset members :: stack => .afterMember stack offset members

/-- A token where a value may begin. -/
def beginValue (stack : List Frame) (t : Placed) : Except Fault State :=
  match t.token with
  | .openBrace => .ok (.key stack t.offset [])
  | .openBracket => .ok (.value (.array t.offset [] :: stack))
  | .null => .ok (complete .null stack)
  | .bool b => .ok (complete (.bool b) stack)
  | .str s => .ok (complete (.str (String.ofList s)) stack)
  | .number n => .ok (complete (ofNumeral n) stack)
  | .closeBrace => .error ⟨.closeBrace, t.offset⟩
  | .closeBracket => .error ⟨.closeBracket, t.offset⟩
  | .comma => .error ⟨.comma, t.offset⟩
  | .colon => .error ⟨.colon, t.offset⟩
  | .word _ => .error ⟨.word, t.offset⟩

/-- A token where an item of an array may begin or the array may end. -/
def item (stack : List Frame) (offset : Nat) (items : List Json) (t : Placed) :
    Except Fault State :=
  if t.token = .closeBracket then .ok (complete (.arr items) stack)
  else beginValue (.array offset items :: stack) t

/-- A token where a key may begin or the object may end. -/
def keyOrEnd (stack : List Frame) (offset : Nat) (members : List (String × Json)) (t : Placed) :
    Except Fault State :=
  match t.token with
  | .closeBrace => .ok (complete (.obj members) stack)
  | .str k => .ok (.colon stack offset members (String.ofList k))
  | .word k => .ok (.colon stack offset members (String.ofList k))
  | .number k => .ok (.colon stack offset members (String.ofList k))
  | _ => .error ⟨.tokenInObject, t.offset⟩

/-- One token. -/
def step : State → Placed → Except Fault State
  | .value (.array offset items :: stack), t => item stack offset items t
  | .value stack, t => beginValue stack t
  | .afterItem stack offset items, t =>
      if t.token = .comma then .ok (.value (.array offset items :: stack))
      else item stack offset items t
  | .key stack offset members, t => keyOrEnd stack offset members t
  | .afterMember stack offset members, t =>
      if t.token = .comma then .ok (.key stack offset members) else keyOrEnd stack offset members t
  | .colon stack offset members k, t =>
      if t.token = .colon then .ok (.value (.member offset members k :: stack))
      else .error ⟨.colonAfterKey, t.offset⟩
  | .done _, t => .error ⟨.secondValue, t.offset⟩

/-- The value of a text that ends here, if it has one. -/
def finish (length : Nat) : State → Except Fault (Option Json)
  | .value [] => .ok none
  | .value (.array offset _ :: _) => .error ⟨.unterminatedArray, offset⟩
  | .value (.object offset _ :: _) => .error ⟨.unterminatedObject, offset⟩
  | .value (.member _ _ _ :: _) => .error ⟨.valueAfterColon, length⟩
  | .afterItem _ offset _ => .error ⟨.unterminatedArray, offset⟩
  | .key _ offset _ => .error ⟨.unterminatedObject, offset⟩
  | .afterMember _ offset _ => .error ⟨.unterminatedObject, offset⟩
  | .colon .. => .error ⟨.colonAfterKey, length⟩
  | .done v => .ok (some v)

end State

/-- The value of the tokens of a text, if there are any. -/
def ofTokens (tokens : Tokens) : Except Fault (Option Json) :=
  match tokens.items.foldlM State.step (.value []) with
  | .error fault => .error fault
  | .ok state => match tokens.ending with
    | .error fault => .error fault
    | .ok length => state.finish length

/-- A cause with the line and column of its place, both counted from 1. -/
structure Mistake where
  /-- What is wrong. -/
  cause : Cause
  line : Nat
  /-- The column, in characters. -/
  column : Nat
deriving DecidableEq, Repr

/-- The line and column of a fault in its text. -/
def Fault.locate (text : List Char) (f : Fault) : Mistake :=
  let before := text.take f.offset
  ⟨f.cause, before.count lineFeed + 1,
    (before.reverse.takeWhile (· ≠ lineFeed)).length + 1⟩

def Mistake.message (m : Mistake) : String :=
  m.cause.message ++ " on line " ++ toString m.line ++ " column " ++ toString m.column

/-- The value of a commented JSON text, if it is not empty. -/
def ofText (text : List Char) : Except Mistake (Option Json) :=
  (ofTokens (Tokens.ofText text)).mapError (Fault.locate text)

/-- The value of a JSON text that is not empty. -/
def parse? (text : String) : Option Json :=
  match ofText text.toList with
  | .ok v => v
  | .error _ => none

end Json

end PatchLint
