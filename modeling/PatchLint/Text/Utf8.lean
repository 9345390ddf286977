/-!
# UTF-8

Characters as bytes, and bytes read back as characters.  Reading never fails:
bytes that belong to no character come out as *broken* pieces.  A broken piece
is a maximal beginning of a character that the next byte does not continue, or
a single byte that begins none.  `lossy` shows each broken piece as one
replacement character, `text?` refuses a text that has any.

Main statement: written characters are read back (`read_encodeChars`).
-/

namespace PatchLint.Text.Utf8

/-- A byte of a given value below 256. -/
private def byte (n : Nat) : UInt8 := UInt8.ofNat n

/-- The one to four bytes of a character. -/
def encodeChar (c : Char) : List UInt8 :=
  let n := c.toNat
  if n < 0x80 then [byte n]
  else if n < 0x800 then [byte (0xC0 + n / 0x40), byte (0x80 + n % 0x40)]
  else if n < 0x10000 then
    [byte (0xE0 + n / 0x1000), byte (0x80 + n / 0x40 % 0x40), byte (0x80 + n % 0x40)]
  else
    [byte (0xF0 + n / 0x40000), byte (0x80 + n / 0x1000 % 0x40), byte (0x80 + n / 0x40 % 0x40),
      byte (0x80 + n % 0x40)]

/-- The bytes of a list of characters. -/
def encodeChars (cs : List Char) : List UInt8 := cs.flatMap encodeChar

/-- The bytes of a string. -/
def encode (s : String) : List UInt8 := encodeChars s.toList

/-- What bytes are read as. -/
inductive Piece where
  /-- A character. -/
  | char (c : Char)
  /-- Bytes that belong to no character. -/
  | broken (bytes : List UInt8)
deriving DecidableEq, Repr

/-- A character whose first bytes have been read. -/
structure Begun where
  /-- The bytes so far. -/
  bytes : List UInt8
  /-- The bits they carry. -/
  value : Nat
  /-- How many bytes are still to come, at least one. -/
  owed : Nat
  /-- The least value the next byte may have. -/
  low : Nat
  /-- The greatest value the next byte may have. -/
  high : Nat
deriving DecidableEq, Repr

/-- A byte where a character may begin.  The bounds on the second byte rule out
overlong forms, surrogates, and code points above the last. -/
def start (b : UInt8) : List Piece × Option Begun :=
  let n := b.toNat
  if n < 0x80 then ([.char (Char.ofNat n)], none)
  else if n < 0xC2 then ([.broken [b]], none)
  else if n < 0xE0 then ([], some ⟨[b], n - 0xC0, 1, 0x80, 0xBF⟩)
  else if n < 0xF0 then
    ([], some ⟨[b], n - 0xE0, 2, if n = 0xE0 then 0xA0 else 0x80, if n = 0xED then 0x9F else 0xBF⟩)
  else if n < 0xF5 then
    ([], some ⟨[b], n - 0xF0, 3, if n = 0xF0 then 0x90 else 0x80, if n = 0xF4 then 0x8F else 0xBF⟩)
  else ([.broken [b]], none)

/-- One byte after those of a begun character, if there is one. -/
def step : Option Begun → UInt8 → List Piece × Option Begun
  | none, b => start b
  | some g, b =>
      let n := b.toNat
      if g.low ≤ n ∧ n ≤ g.high then
        let value := g.value * 0x40 + (n - 0x80)
        if g.owed ≤ 1 then ([.char (Char.ofNat value)], none)
        else ([], some ⟨g.bytes ++ [b], value, g.owed - 1, 0x80, 0xBF⟩)
      else
        let (out, next) := start b
        (.broken g.bytes :: out, next)

/-- Bytes read after those of a begun character, if there is one. -/
def readFrom : Option Begun → List UInt8 → List Piece
  | none, [] => []
  | some g, [] => [.broken g.bytes]
  | state, b :: bs => (step state b).1 ++ readFrom (step state b).2 bs

/-- What bytes are read as, piece by piece. -/
def read (bs : List UInt8) : List Piece := readFrom none bs

/-- The character that stands for a broken piece. -/
def replacement : Char := '\uFFFD'

def Piece.shown : Piece → Char
  | .char c => c
  | .broken _ => replacement

/-- The characters of the bytes, one replacement character for each broken
piece. -/
def lossy (bs : List UInt8) : String := String.ofList ((read bs).map Piece.shown)

/-- The character of a piece that is not broken. -/
def Piece.char? : Piece → Option Char
  | .char c => some c
  | .broken _ => none

/-- The text of the bytes, if no piece is broken. -/
def text? (bs : List UInt8) : Option String := ((read bs).mapM Piece.char?).map String.ofList

/-- A byte keeps its value. -/
private theorem toNat_byte {n : Nat} (h : n < 256) : (byte n).toNat = n := by
  simp [byte, Nat.mod_eq_of_lt h]

/-- The second of two bytes ends a character. -/
private theorem step_last (g : Begun) {n : Nat} (hn : n < 256) (hl : g.low ≤ n) (hh : n ≤ g.high)
    (ho : g.owed = 1) :
    step (some g) (byte n) = ([.char (Char.ofNat (g.value * 0x40 + (n - 0x80)))], none) := by
  simp [step, toNat_byte hn, hl, hh, ho]

/-- A byte in bounds that is not the last one owed. -/
private theorem step_more (g : Begun) {n : Nat} (hn : n < 256) (hl : g.low ≤ n) (hh : n ≤ g.high)
    (ho : 1 < g.owed) :
    step (some g) (byte n) =
      ([], some ⟨g.bytes ++ [byte n], g.value * 0x40 + (n - 0x80), g.owed - 1, 0x80, 0xBF⟩) := by
  have : ¬ g.owed ≤ 1 := by omega
  simp [step, toNat_byte hn, hl, hh, this]

/-- One byte is read at a time. -/
private theorem readFrom_cons (state : Option Begun) (b : UInt8) (bs : List UInt8) :
    readFrom state (b :: bs) = (step state b).1 ++ readFrom (step state b).2 bs := by
  cases state <;> rfl

/-- The first of two bytes. -/
private theorem start_two {n : Nat} (hl : 0xC2 ≤ n) (hh : n < 0xE0) :
    step none (byte n) = ([], some ⟨[byte n], n - 0xC0, 1, 0x80, 0xBF⟩) := by
  have a : ¬ n < 0x80 := by omega
  have b : ¬ n < 0xC2 := by omega
  simp [step, start, toNat_byte (show n < 256 by omega), a, b, hh]

/-- The first of three bytes. -/
private theorem start_three {n : Nat} (hl : 0xE0 ≤ n) (hh : n < 0xF0) :
    step none (byte n) = ([], some ⟨[byte n], n - 0xE0, 2, if n = 0xE0 then 0xA0 else 0x80,
      if n = 0xED then 0x9F else 0xBF⟩) := by
  have a : ¬ n < 0x80 := by omega
  have b : ¬ n < 0xC2 := by omega
  have c : ¬ n < 0xE0 := by omega
  simp [step, start, toNat_byte (show n < 256 by omega), a, b, c, hh]

/-- The first of four bytes. -/
private theorem start_four {n : Nat} (hl : 0xF0 ≤ n) (hh : n < 0xF5) :
    step none (byte n) = ([], some ⟨[byte n], n - 0xF0, 3, if n = 0xF0 then 0x90 else 0x80,
      if n = 0xF4 then 0x8F else 0xBF⟩) := by
  have a : ¬ n < 0x80 := by omega
  have b : ¬ n < 0xC2 := by omega
  have c : ¬ n < 0xE0 := by omega
  have d : ¬ n < 0xF0 := by omega
  simp [step, start, toNat_byte (show n < 256 by omega), a, b, c, d, hh]

/-- Reading after a character's bytes is reading what follows them. -/
theorem readFrom_encodeChar (c : Char) (bs : List UInt8) :
    readFrom none (encodeChar c ++ bs) = .char c :: readFrom none bs := by
  have valid : c.toNat < 0xD800 ∨ 0xDFFF < c.toNat ∧ c.toNat < 0x110000 := c.valid
  have same : Char.ofNat c.toNat = c := Char.ofNat_toNat c
  generalize hn : c.toNat = n at valid same
  simp only [encodeChar, hn]
  split
  · next h =>
    simp [readFrom, step, start, toNat_byte (show n < 256 by omega), h, same]
  split
  · next h1 h2 =>
    simp only [List.cons_append, List.nil_append]
    rw [readFrom_cons, start_two (by omega) (by omega),
      readFrom_cons, step_last _ (by omega) (by simp) (by simp; omega) rfl]
    have e : (0xC0 + n / 0x40 - 0xC0) * 0x40 + (0x80 + n % 0x40 - 0x80) = n := by omega
    simp only [e, same]
    rfl
  split
  · next h1 h2 h3 =>
    have low : (if 0xE0 + n / 0x1000 = 0xE0 then 0xA0 else 0x80) ≤ 0x80 + n / 0x40 % 0x40 := by
      split <;> omega
    have high : 0x80 + n / 0x40 % 0x40 ≤ if 0xE0 + n / 0x1000 = 0xED then 0x9F else 0xBF := by
      split <;> omega
    simp only [List.cons_append, List.nil_append]
    rw [readFrom_cons, start_three (by omega) (by omega),
      readFrom_cons, step_more _ (by omega) low high (by simp), readFrom_cons,
      step_last _ (by omega) (by simp) (by simp; omega) rfl]
    have e : ((0xE0 + n / 0x1000 - 0xE0) * 0x40 + (0x80 + n / 0x40 % 0x40 - 0x80)) * 0x40 +
        (0x80 + n % 0x40 - 0x80) = n := by omega
    simp only [e, same]
    rfl
  · next h1 h2 h3 =>
    have low : (if 0xF0 + n / 0x40000 = 0xF0 then 0x90 else 0x80) ≤ 0x80 + n / 0x1000 % 0x40 := by
      split <;> omega
    have high : 0x80 + n / 0x1000 % 0x40 ≤ if 0xF0 + n / 0x40000 = 0xF4 then 0x8F else 0xBF := by
      split <;> omega
    simp only [List.cons_append, List.nil_append]
    rw [readFrom_cons, start_four (by omega) (by omega),
      readFrom_cons, step_more _ (by omega) low high (by simp), readFrom_cons,
      step_more _ (by omega) (by simp) (by simp; omega) (by simp), readFrom_cons,
      step_last _ (by omega) (by simp) (by simp; omega) rfl]
    have e : (((0xF0 + n / 0x40000 - 0xF0) * 0x40 + (0x80 + n / 0x1000 % 0x40 - 0x80)) * 0x40 +
        (0x80 + n / 0x40 % 0x40 - 0x80)) * 0x40 + (0x80 + n % 0x40 - 0x80) = n := by omega
    simp only [e, same]
    rfl

/-- Written characters are read back. -/
theorem read_encodeChars (cs : List Char) : read (encodeChars cs) = cs.map .char := by
  induction cs with
  | nil => rfl
  | cons c cs ih =>
      rw [encodeChars, List.flatMap_cons, read, readFrom_encodeChar]
      simpa [read, encodeChars] using ih

/-- A written string is read back. -/
theorem lossy_encode (s : String) : lossy (encode s) = s := by
  rw [lossy, encode, read_encodeChars, List.map_map]
  exact (congrArg String.ofList (List.map_id _)).trans (String.ofList_toList)

example : read [0x41, 0xE2, 0x82, 0xAC, 0xE2, 0x82, 0x41] =
    [.char 'A', .char '€', .broken [0xE2, 0x82], .char 'A'] := by decide
example : read [0xC0, 0x80, 0xED, 0xA0] = [.broken [0xC0], .broken [0x80], .broken [0xED],
    .broken [0xA0]] := by decide

end PatchLint.Text.Utf8
