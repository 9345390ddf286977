import PatchLint.Text.Blank
import PatchLint.Text.Lines
import PatchLint.Text.Utf8

/-!
# Commits

A repository's history is listed one commit to a line: the hash, a separator,
and the first line of the commit's message.  Lines that do not have that form
are passed over.  `Commit.line` writes the line that `Commit.ofLine?` reads.
-/

namespace PatchLint

open Text

/-- One entry of a repository's history. -/
structure Commit where
  /-- Its full hash. -/
  hash : String
  /-- The first line of its message. -/
  message : String
deriving DecidableEq, Repr, Inhabited

namespace Commit

/-- The separator between hash and message. -/
def separator : Char := '\x1f'

/-- The texts before and behind the first separator. -/
def cut : List Char → Option (List Char × List Char)
  | [] => none
  | c :: cs =>
      if c = separator then some ([], cs)
      else (cut cs).map fun p => (c :: p.1, p.2)

def ofLine? (line : List Char) : Option Commit := do
  let (before, message) ← cut line
  let hash := trim before
  if hash = [] then none else some ⟨String.ofList hash, String.ofList message⟩

/-- The commits of a listing, in its order. -/
def ofListing (text : String) : List Commit := (lines text.toList).filterMap ofLine?

def line (c : Commit) : List Char := c.hash.toList ++ separator :: c.message.toList

/-- The length of a short hash in bytes. -/
def shortLength : Nat := 12

/-- The characters that take up exactly a number of bytes, if some first
characters do. -/
def takeBytes? : Nat → List Char → Option (List Char)
  | 0, _ => some []
  | _ + 1, [] => none
  | n + 1, c :: cs =>
      if c.utf8Size ≤ n + 1 then (takeBytes? (n + 1 - c.utf8Size) cs).map (c :: ·) else none

/-- The hash for display: its first bytes, or all of it when it is shorter or the
cut would be inside a character. -/
def shortHash (c : Commit) : String :=
  ((takeBytes? shortLength c.hash.toList).map String.ofList).getD c.hash

/-- The commit for display. -/
def label (c : Commit) : String := c.shortHash ++ " " ++ c.message

/-! ## Laws -/

/-- The first separator is where a text without one ends. -/
theorem cut_append {before behind : List Char} (h : separator ∉ before) :
    cut (before ++ separator :: behind) = some (before, behind) := by
  induction before with
  | nil => simp [cut]
  | cons c before ih =>
      obtain ⟨first, rest⟩ := not_or.1 (fun k => h (List.mem_cons.2 k))
      simp [cut, Ne.symm first, ih rest]

theorem cut_eq_some_iff {line before behind : List Char} :
    cut line = some (before, behind) ↔
      line = before ++ separator :: behind ∧ separator ∉ before := by
  constructor
  · induction line generalizing before with
    | nil => simp [cut]
    | cons c line ih =>
        intro h
        simp only [cut] at h
        split at h
        · next same =>
          cases h
          exact ⟨by rw [same, List.nil_append], List.not_mem_nil⟩
        · next other =>
          obtain ⟨⟨rest, _⟩, found, same⟩ := Option.map_eq_some_iff.1 h
          cases same
          obtain ⟨split, inside⟩ := ih found
          refine ⟨by rw [split, List.cons_append], ?_⟩
          rw [List.mem_cons, not_or]
          exact ⟨Ne.symm other, inside⟩
  · rintro ⟨rfl, inside⟩
    exact cut_append inside

/-- A line without a separator cannot be cut. -/
theorem cut_eq_none_iff {line : List Char} : cut line = none ↔ separator ∉ line := by
  induction line with
  | nil => simp [cut]
  | cons c line ih =>
      by_cases h : c = separator
      · simp [cut, h]
      · simp [cut, h, ih, Ne.symm h]

end Commit

end PatchLint
