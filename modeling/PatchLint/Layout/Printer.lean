import PatchLint.Layout.Basic

/-!
# Printing findings

How the checker writes a finding in either layout.  Releases differ in two
blanks, so printing takes them as a choice (`Spacing`); reading takes both.

Main statement: a printed remark, which is what the layouts have in common, is
read back with the blank in front of the message as part of it
(`remark?_remark`).
-/

namespace PatchLint

open Text

/-- The blanks that a release of the checker prints. -/
structure Spacing where
  /-- Whether a blank follows the colon behind the kind. -/
  afterKind : Bool
  /-- Whether a blank stands in front of the message. -/
  beforeMessage : Bool
deriving DecidableEq, Repr

namespace Spacing

/-- A blank, or nothing. -/
def blankIf (b : Bool) : List Char := if b then [' '] else []

end Spacing

namespace Finding

/-- The message with the blank in front of it. -/
def printedMessage (s : Spacing) (f : Finding) : List Char :=
  Spacing.blankIf s.beforeMessage ++ f.message.toList

/-- The kind, the code and the message. -/
def remark (s : Spacing) (f : Finding) : List Char :=
  f.kind.tag.toList ++ [':'] ++
    (Spacing.blankIf s.afterKind ++ (f.code.toList ++ ':' :: f.printedMessage s))

def place (f : Finding) : List Char := f.file.toList ++ ':' :: digits f.line

def singleLine (s : Spacing) (f : Finding) : List Char := f.place ++ ": ".toList ++ f.remark s

end Finding

/-! ## Reading what was printed -/

namespace Pattern

/-- A tag and its colon are read as the kind. -/
theorem kindAmong?_tag (k : Kind) (rest : List Char) :
    kindAmong? (k.tag.toList ++ [':'] ++ rest) Kind.all = some (k, rest) := by
  cases k <;> simp [kindAmong?, Kind.all, Kind.tag, after?]

/-- A blank that may be missing is passed over in front of anything else. -/
theorem skip_blankIf {b : Bool} {cs : List Char} (h : cs.head? ≠ some ' ') :
    skip ' ' (Spacing.blankIf b ++ cs) = cs := by
  cases b with
  | true => rfl
  | false =>
      cases cs with
      | nil => rfl
      | cons c cs => simp_all [skip, Spacing.blankIf]

/-- What can be printed and read back: the code is made of code characters, the
message stays on its line, and neither is empty. -/
structure Printable (f : Finding) : Prop where
  /-- There is a code. -/
  code_ne_nil : f.code.toList ≠ []
  /-- The code holds neither a colon nor a blank. -/
  isCodeChar : ∀ c ∈ f.code.toList, isCodeChar c
  /-- There is a message. -/
  message_ne_nil : f.message.toList ≠ []
  /-- The message does not end its line. -/
  isLineEnd_eq_false : ∀ c ∈ f.message.toList, isLineEnd c = false

/-- A code does not start with a blank. -/
theorem Printable.head?_code {f : Finding} (h : Printable f) (cs : List Char) :
    (f.code.toList ++ cs).head? ≠ some ' ' := by
  cases hc : f.code.toList with
  | nil => exact absurd hc h.code_ne_nil
  | cons c rest =>
      have := h.isCodeChar c (by simp [hc])
      rintro ⟨⟩
      revert this
      decide +kernel

/-- A code is read up to its colon. -/
theorem Printable.run?_code {f : Finding} (h : Printable f) (cs : List Char) :
    run? Pattern.isCodeChar (f.code.toList ++ ':' :: cs) = some (f.code.toList, ':' :: cs) :=
  run?_append h.code_ne_nil h.isCodeChar (by
    rintro c ⟨⟩
    decide +kernel)

/-- A message is read up to the end of its line, with the blank in front of it. -/
theorem Printable.run?_message {f : Finding} (h : Printable f) (s : Spacing) {rest : List Char}
    (ends : ∀ c ∈ rest.head?, isLineEnd c) :
    run? (!isLineEnd ·) (f.printedMessage s ++ rest) = some (f.printedMessage s, rest) := by
  refine run?_append ?_ ?_ ?_
  · simp [Finding.printedMessage, h.message_ne_nil]
  · intro c hc
    rcases List.mem_append.1 hc with hb | hm
    · cases hs : s.beforeMessage with
      | true =>
          rw [hs] at hb
          cases List.mem_singleton.1 hb
          decide
      | false =>
          rw [hs] at hb
          cases hb
    · simp [h.isLineEnd_eq_false c hm]
  · intro c hc
    simp [ends c hc]

/-- A printed remark is read back.  The blank in front of the message belongs to
the message until the message is trimmed. -/
theorem remark?_remark {f : Finding} (h : Printable f) (s : Spacing) {rest : List Char}
    (ends : ∀ c ∈ rest.head?, isLineEnd c) :
    remark? (f.remark s ++ rest) =
      some ((f.kind, f.code.toList, f.printedMessage s), rest) := by
  have kind := kindAmong?_tag f.kind
  have code := h.run?_code (f.printedMessage s ++ rest)
  have message := h.run?_message s ends
  have skipped := skip_blankIf (b := s.afterKind)
    (h.head?_code (':' :: (f.printedMessage s ++ rest)))
  simp_all [remark?, Finding.remark, after?]

end Pattern

example :
    String.ofList (Finding.singleLine ⟨false, true⟩ ⟨"a.c", 3, .warning, "TABS", "no tabs"⟩) =
      "a.c:3: WARNING:TABS: no tabs" := by decide +kernel

end PatchLint
