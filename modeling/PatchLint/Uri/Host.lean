import PatchLint.Text.Reading
import PatchLint.Uri.Percent

/-!
# Hosts of URIs

A host is a name, an address of four bytes or an address of eight pieces of
sixteen bits.  For the schemes of the web a name is decoded, put in lower case
and checked, and a name that ends in a number has to be an address.  Of names in
other scripts only the ASCII letters are put in lower case.
-/

namespace PatchLint.Uri

open Text

/-- Why a text is no URI. -/
inductive UriFault where
  /-- It has no scheme. -/
  | relative
  /-- It has no host where one is needed. -/
  | emptyHost
  /-- Its host has a character that no name may have. -/
  | invalidName
  /-- Its host has a character that may not stand there for other schemes. -/
  | invalidCharacter
  /-- Its host ends in a number and is no address. -/
  | invalidAddress
  /-- Its host is in brackets and is no address. -/
  | invalidLongAddress
  /-- The number of its service does not fit sixteen bits. -/
  | invalidService
deriving DecidableEq, Repr

def UriFault.message : UriFault → String
  | .relative => "relative URL without a base"
  | .emptyHost => "empty host"
  | .invalidName => "invalid international domain name"
  | .invalidCharacter => "invalid domain character"
  | .invalidAddress => "invalid IPv4 address"
  | .invalidLongAddress => "invalid IPv6 address"
  | .invalidService => "invalid port number"

/-- A host. -/
inductive HostName where
  /-- A name, the empty one for no host at all. -/
  | name (text : String)
  /-- An address of four bytes, as a number. -/
  | address (n : Nat)
  /-- An address of eight pieces. -/
  | pieces (ns : List Nat)
deriving DecidableEq, Repr

namespace HostName

/-! ## Addresses of four bytes -/

/-- The value of digits in a base. -/
def valueIn (base : Nat) (cs : List Char) : Option Nat :=
  cs.foldlM (fun n c => do
    let d ← hexValue? c
    if d < base then return base * n + d else none) 0

/-- A part of an address: decimal, octal behind a zero, hexadecimal behind `0x`.
Nothing behind the mark of a base means zero. -/
def partOf? : List Char → Option Nat
  | [] => none
  | '0' :: 'x' :: cs => valueIn 16 cs
  | '0' :: 'X' :: cs => valueIn 16 cs
  | '0' :: c :: cs => valueIn 8 (c :: cs)
  | cs => valueIn 10 cs

/-- The parts of a name, without an empty last one. -/
def partsOf (cs : List Char) : List (List Char) :=
  let parts := splitOn '.' cs
  if 1 < parts.length ∧ parts.getLast? = some [] then parts.dropLast else parts

/-- Whether a name ends in a number. -/
def endsInNumber (cs : List Char) : Bool :=
  match (partsOf cs).getLast? with
  | none => false
  | some last =>
      (last ≠ [] && last.all fun c => (digitValue? c).isSome) || (partOf? last).isSome

/-- The address that parts make up: all but the last are bytes, and the last
fills up the rest. -/
def addressOf? : List Nat → Option Nat
  | [] => none
  | parts =>
      let last := parts.getLast?.getD 0
      let bytes := parts.dropLast
      if 4 < parts.length ∨ bytes.any (255 < ·) ∨ Nat.pow 256 (4 - bytes.length) ≤ last then none
      else some (bytes.foldl (fun n b => 256 * n + b) 0 * Nat.pow 256 (4 - bytes.length) + last)

def readAddress (cs : List Char) : Except UriFault HostName :=
  match ((partsOf cs).mapM partOf?).bind addressOf? with
  | some n => .ok (.address n)
  | none => .error .invalidAddress

/-! ## Addresses of eight pieces -/

/-- A piece: one to four hexadecimal digits. -/
def pieceOf? (cs : List Char) : Option Nat :=
  if cs = [] ∨ 4 < cs.length then none else valueIn 16 cs

/-- A byte in decimal without a leading zero. -/
def byteIn? (cs : List Char) : Option Nat :=
  if cs.length ≠ 1 ∧ cs.head? = some '0' then none else naturalBelow? 256 cs

/-- The two pieces that four bytes make up. -/
def bytePieces? (cs : List Char) : Option (List Nat) := do
  match ← (splitOn '.' cs).mapM byteIn? with
  | [a, b, c, d] => return [256 * a + b, 256 * c + d]
  | _ => none

/-- Pieces between colons; the last may be four bytes. -/
def piecesOf? : List (List Char) → Option (List Nat)
  | [] => some []
  | [last] => if last.contains '.' then bytePieces? last else (pieceOf? last).map ([·])
  | p :: ps => do return (← pieceOf? p) :: (← piecesOf? ps)

/-- Pieces of a text that has no gap; no text has no pieces. -/
def plainPieces? (cs : List Char) : Option (List Nat) :=
  if cs = [] then some [] else piecesOf? (splitOn ':' cs)

/-- The texts before and behind the first two colons that stand together. -/
def cutGap : List Char → Option (List Char × List Char)
  | ':' :: ':' :: cs => some ([], cs)
  | c :: cs => (cutGap cs).map fun p => (c :: p.1, p.2)
  | [] => none

/-- The address that a text in brackets is.  Two colons that stand together
leave out at least one piece of zero. -/
def readPieces (cs : List Char) : Except UriFault HostName :=
  let found : Option (List Nat) := match cutGap cs with
    | none => (plainPieces? cs).filter fun ps => ps.length = 8
    | some (before, behind) => do
        if before.contains '.' then none
        let front ← plainPieces? before
        let back ← plainPieces? behind
        if 7 < front.length + back.length then none
        return front ++ List.replicate (8 - front.length - back.length) 0 ++ back
  match found with
  | some ps => .ok (.pieces ps)
  | none => .error .invalidLongAddress

/-- The address in brackets that a text is, if it starts with a bracket. -/
def bracketed? : List Char → Option (Except UriFault HostName)
  | '[' :: cs =>
      some (if cs.getLast? = some ']' then readPieces cs.dropLast else .error .invalidLongAddress)
  | _ => none

/-! ## Names -/

/-- Whether a name for the schemes of the web may have a character. -/
def isNameChar (c : Char) : Bool :=
  0x20 < c.toNat && c.toNat ≠ 0x7F &&
    !(['#', '%', '/', ':', '<', '>', '?', '@', '[', '\\', ']', '^', '|', '\uFFFD'].contains c)

/-- An ASCII letter in lower case, and any other character as it is. -/
def lower (c : Char) : Char :=
  if 'A' ≤ c ∧ c ≤ 'Z' then Char.ofNat (c.toNat + 32) else c

/-- The host of a scheme of the web. -/
def read (cs : List Char) : Except UriFault HostName :=
  match bracketed? cs with
  | some result => result
  | none =>
      let name := (Utf8.lossy (decode cs)).toList.map lower
      if name.all isNameChar then
        if name = [] then .error .emptyHost
        else if endsInNumber name then readAddress name
        else .ok (.name (String.ofList name))
      else .error .invalidName

/-- Whether a host of another scheme may have a character. -/
def isOtherChar (c : Char) : Bool :=
  !(['\x00', '\t', '\n', '\r', ' ', '#', '/', ':', '<', '>', '?', '@', '[', '\\', ']', '^',
    '|'].contains c)

/-- The host of another scheme. -/
def readOther (cs : List Char) : Except UriFault HostName :=
  match bracketed? cs with
  | some result => result
  | none =>
      if cs.all isOtherChar then .ok (.name (encodeText .controls cs))
      else .error .invalidCharacter

/-- Whether a host is this machine. -/
def isLocal : HostName → Bool
  | .name text => text = "" || text = "localhost"
  | _ => false

example : (read "LOCAL%48ost".toList).toOption = some (.name "localhost") := by decide +kernel
example : (read "0x7f.1".toList).toOption = some (.address (127 * Nat.pow 256 3 + 1)) := by
  decide +kernel
example : (read "[::1]".toList).toOption = some (.pieces [0, 0, 0, 0, 0, 0, 0, 1]) := by
  decide +kernel
example : (read "1.2.3.4.5".toList).toOption = none := by decide +kernel

end HostName

end PatchLint.Uri
