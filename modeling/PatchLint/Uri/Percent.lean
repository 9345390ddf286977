import PatchLint.Text.Numeral
import PatchLint.Text.Utf8

/-!
# Percent encoding

A byte that may not stand for itself in some part of a URI is written as a
percent sign and two hexadecimal digits.  Which bytes those are depends on the
part; the sets here grow from one to the next.  Decoding takes every well-formed
triple for its byte and leaves a lone percent sign alone.

Main statement: what was encoded with a set that holds the percent sign is read
back (`decode_encode`).
-/

namespace PatchLint.Uri

open Text

/-- Bytes to be encoded. -/
abbrev EncodeSet := UInt8 → Bool

namespace EncodeSet

/-- A set with some more characters. -/
def adding (s : EncodeSet) (cs : List Char) : EncodeSet := fun b =>
  s b || cs.any fun c => c.toNat = b.toNat

/-- Control characters, and all that is not ASCII. -/
def controls : EncodeSet := fun b => b < 0x20 || 0x7E < b

def fragment : EncodeSet := controls.adding [' ', '"', '<', '>', '\x60']

def query : EncodeSet := controls.adding [' ', '"', '#', '<', '>']

/-- What is encoded in the query of a special scheme. -/
def specialQuery : EncodeSet := query.adding ['\'']

/-- What is encoded in a path that is read. -/
def path : EncodeSet := fragment.adding ['#', '?', '\x7b', '\x7d']

/-- What is encoded in a segment that is made of a file's name. -/
def segment : EncodeSet := path.adding ['/', '%', '\\']

/-- What is encoded in the name and password in front of a host. -/
def userinfo : EncodeSet := path.adding ['/', ':', ';', '=', '@', '[', '\\', ']', '^', '|']

end EncodeSet

/-- A byte as it is written in a part with a given set. -/
def encodeByte (set : EncodeSet) (b : UInt8) : List Char :=
  if set b then '%' :: hexByte true b else [Char.ofNat b.toNat]

/-- Bytes as they are written in a part with a given set. -/
def encode (set : EncodeSet) (bs : List UInt8) : List Char := bs.flatMap (encodeByte set)

/-- A text as it is written in a part with a given set.  Percent signs that are
there already are kept unless the set holds them. -/
def encodeText (set : EncodeSet) (cs : List Char) : String :=
  String.ofList (encode set (Utf8.encodeChars cs))

/-- The byte that two hexadecimal digits stand for. -/
def byteOf? (a b : Char) : Option UInt8 := do
  return UInt8.ofNat (16 * (← hexValue? a) + (← hexValue? b))

/-- The bytes of a written text. -/
def decode : List Char → List UInt8
  | [] => []
  | [c] => Utf8.encodeChar c
  | [c, d] => Utf8.encodeChar c ++ Utf8.encodeChar d
  | c :: a :: b :: cs =>
      if c = '%' then match byteOf? a b with
        | some byte => byte :: decode cs
        | none => 0x25 :: decode (a :: b :: cs)
      else Utf8.encodeChar c ++ decode (a :: b :: cs)

/-! ## Laws -/

/-- The two digits of a byte give the byte. -/
private theorem byteOf?_hexDigits (b : UInt8) :
    byteOf? (hexDigit true (b.toNat / 16)) (hexDigit true (b.toNat % 16)) = some b := by
  have digits : ∀ n : Fin 16, hexValue? (hexDigit true n) = some n.val := by decide
  have high := digits ⟨b.toNat / 16, by have := b.toNat_lt; omega⟩
  have low := digits ⟨b.toNat % 16, Nat.mod_lt _ (by decide)⟩
  simp only [byteOf?, high, low, Option.bind_eq_bind, Option.bind_some]
  rw [show 16 * (b.toNat / 16) + b.toNat % 16 = b.toNat by omega]
  exact congrArg some UInt8.ofNat_toNat

/-- A character that is no percent sign is decoded by itself. -/
private theorem decode_cons {c : Char} (h : c ≠ '%') (rest : List Char) :
    decode (c :: rest) = Utf8.encodeChar c ++ decode rest := by
  match rest with
  | [] => simp [decode]
  | [d] => simp [decode]
  | a :: b :: cs => simp [decode, h]

/-- A byte that stands for itself is an ASCII character other than the percent
sign. -/
private theorem ascii_char {b : UInt8} (ascii : b.toNat < 0x80) (other : b ≠ 0x25) :
    Char.ofNat b.toNat ≠ '%' ∧ Utf8.encodeChar (Char.ofNat b.toNat) = [b] := by
  have table : ∀ n : Fin 128, n.val ≠ 0x25 →
      Char.ofNat n ≠ '%' ∧ Utf8.encodeChar (Char.ofNat n) = [UInt8.ofNat n] := by decide +kernel
  have := table ⟨b.toNat, ascii⟩ fun h => other (UInt8.toNat_inj.1 h)
  simpa using this

/-- What was encoded is read back when the percent sign and all that is not
ASCII are encoded. -/
theorem decode_encode {set : EncodeSet} (sign : set 0x25 = true)
    (others : ∀ b : UInt8, 0x80 ≤ b.toNat → set b = true) (bs : List UInt8) :
    decode (encode set bs) = bs := by
  induction bs with
  | nil => rfl
  | cons b bs ih =>
      simp only [encode, List.flatMap_cons] at ih ⊢
      by_cases h : set b
      · simp [encodeByte, h, hexByte, decode, byteOf?_hexDigits, ih]
      · have ascii : b.toNat < 0x80 :=
          Nat.lt_of_not_le fun large => h (others b large)
        obtain ⟨plain, bytes⟩ := ascii_char ascii fun k => h (k ▸ sign)
        simp [encodeByte, h, decode_cons plain, bytes, ih]

example : decode "%41%zz%".toList = [0x41, 0x25, 0x7A, 0x7A, 0x25] := by decide

end PatchLint.Uri
