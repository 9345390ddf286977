import PatchLint.Proofs.Layout.Grammar

/-!
# Where a search finds nothing

A search for findings goes line by line, so it passes over a line at whose start
there is no match.  A match is known by little.  One line for a finding has a
decimal digit in front of the blank and the tag of its kind
(`Pattern.Announces`, `Pattern.singleLineMatch?_eq_none`), and the second of two
lines starts with a hash mark (`Pattern.twoLineMatch?_eq_none`).
-/

namespace PatchLint

open Text

namespace Pattern

/-! ## Line by line -/

variable {p : Pattern} {cs rest next : List Char}

/-- The search goes on behind a match, or behind the line if there is none. -/
theorem captures_eq (p : Pattern) (cs : List Char) :
    p.captures cs = match p.match? cs with
      | some (c, rest) => c :: (nextLine rest).elim [] p.captures
      | none => (nextLine cs).elim [] p.captures := by
  rw [captures]
  split
  · next matched =>
    rw [matched]
    dsimp only
    split
    · next behind =>
      rw [behind]
      rfl
    · next stop =>
      rw [stop]
      rfl
  · next missed =>
    rw [missed]
    dsimp only
    split
    · next behind =>
      rw [behind]
      rfl
    · next stop =>
      rw [stop]
      rfl

theorem findings_of_match {c : Capture} {f : Finding} (matched : p.match? cs = some (c, rest))
    (behind : nextLine rest = some next) (found : c.finding? = some f) :
    p.findings cs = f :: p.findings next := by
  simp [findings, captures_eq p cs, matched, behind, found]

theorem findings_of_no_match (missed : p.match? cs = none) (behind : nextLine cs = some next) :
    p.findings cs = p.findings next := by
  simp [findings, captures_eq p cs, missed, behind]

theorem findings_nil (missed : p.match? [] = none) : p.findings [] = [] := by
  simp [findings, captures_eq p [], missed, nextLine]

/-! ## What is passed over -/

/-- The line has a decimal digit, a colon, a blank and the tag of a kind in it. -/
def Announces (line : List Char) : Prop :=
  ∃ d k, isDecimalDigit d ∧ d :: ':' :: ' ' :: (Kind.tag k).toList ++ [':'] <:+: line

theorem Announces.of_infix {part line : List Char} (h : Announces part) (inside : part <:+: line) :
    Announces line := by
  obtain ⟨d, k, digit, announced⟩ := h
  exact ⟨d, k, digit, announced.trans inside⟩

theorem announces_of_oneLine {c : Capture} {line : List Char} (h : c.OneLine line) :
    Announces line := by
  obtain ⟨_, ⟨-, ne, digits, rfl⟩, -, -, -, blank, rfl⟩ := h
  obtain ⟨front, last, split⟩ : ∃ front last, c.line = front ++ [last] :=
    ⟨_, _, (List.dropLast_concat_getLast ne).symm⟩
  refine ⟨last, c.kind, digits last (by simp [split]), c.file ++ ':' :: front,
    Spacing.blankIf blank ++ (c.code ++ ':' :: c.message), ?_⟩
  simp [split]

/-- On a line that announces no finding there is none in one line. -/
theorem singleLineMatch?_eq_none {line more : List Char} (h : lineFeed ∉ line)
    (ends : AtLineEnd more) (quiet : ¬ Announces (dropReturn line)) :
    singleLineMatch? (line ++ more) = none := by
  rw [Option.eq_none_iff_forall_ne_some]
  intro found matched
  have onLine := ((singleLineMatch?_eq_some_iff h ends).1 matched).1
  exact quiet (announces_of_oneLine onLine.shortest.1)

/-- In front of a line that does not start with a hash mark there is no finding in
two lines. -/
theorem twoLineMatch?_eq_none (behind : nextLine cs = some next) (h : next.head? ≠ some '#') :
    twoLineMatch? cs = none := by
  rw [Option.eq_none_iff_forall_ne_some]
  intro found matched
  obtain ⟨first, inside, rfl⟩ := exists_of_nextLine behind
  obtain ⟨second, more, inside', ends, rfl⟩ := exists_line next
  obtain ⟨-, _, ⟨number, place, -, -, rfl, -⟩, -⟩ :=
    (twoLineMatch?_eq_some_iff inside inside' ends).1 matched
  exact h rfl

end Pattern

end PatchLint
