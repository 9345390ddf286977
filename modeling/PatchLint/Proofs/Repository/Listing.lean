import Mathlib.Data.List.Basic
import PatchLint.Proofs.Layout.Transcript
import PatchLint.Repository.Commit

/-!
# Reading a listing of commits

A listing has a line for each commit, and there may be other lines before, between and
behind them.  A line tells of no commit exactly when only blanks stand in front of its
first separator (`Commit.ofLine?_eq_none_iff`), and that stays so when the line loses a
carriage return at its end.  So every line is read by itself, whichever way it ends, and
the commits that were listed are read back in order (`Commit.ofListing_listing`).
-/

namespace PatchLint

open Text

namespace Text

theorem lines_of_not_mem {line : List Char} (h : lineFeed ∉ line) :
    lines line = if line = [] then [] else [line] := by
  rw [lines, pieces_of_not_mem h, finished]

end Text

/-- A line with its end is read as it is, or without a carriage return of its own. -/
theorem LineEnd.exists_lines_text (e : LineEnd) {line : List Char} (h : lineFeed ∉ line)
    (more : List Char) :
    ∃ read, (read = line ∨ read = dropReturn line) ∧
      lines (line ++ (e.text ++ more)) = read :: lines more := by
  cases e with
  | feed => exact ⟨dropReturn line, .inr rfl, lines_append h more⟩
  | returnAndFeed =>
    have inside : lineFeed ∉ line ++ [carriageReturn] := by
      rw [List.mem_append, not_or]
      exact ⟨h, by decide⟩
    refine ⟨line, .inl rfl, ?_⟩
    calc lines (line ++ (LineEnd.returnAndFeed.text ++ more))
        = lines (line ++ [carriageReturn] ++ lineFeed :: more) := by simp [LineEnd.text]
      _ = dropReturn (line ++ [carriageReturn]) :: lines more := lines_append inside more
      _ = line :: lines more := by rw [dropReturn_append]

namespace Commit

/-! ## Lines -/

/-- A commit that its line can be told from: the hash has blanks at neither end and no
separator in it, and neither the hash nor the message breaks the line. -/
structure Listable (c : Commit) : Prop where
  hash_ne_nil : c.hash.toList ≠ []
  lineFeed_not_mem_hash : lineFeed ∉ c.hash.toList
  separator_not_mem_hash : separator ∉ c.hash.toList
  head?_hash : ∀ x ∈ c.hash.toList.head?, isBlank x = false
  getLast?_hash : ∀ x ∈ c.hash.toList.getLast?, isBlank x = false
  lineFeed_not_mem_message : lineFeed ∉ c.message.toList
  getLast?_message : c.message.toList.getLast? ≠ some carriageReturn

/-- Nothing but blanks stands in front of the first separator of a line, if it has any. -/
def Hashless (line : List Char) : Prop :=
  ∀ before behind, line = before ++ separator :: behind → separator ∉ before →
    ∀ c ∈ before, isBlank c

theorem ofLine?_append {before : List Char} (inside : separator ∉ before)
    (message : List Char) :
    ofLine? (before ++ separator :: message) =
      if trim before = [] then none
      else some ⟨String.ofList (trim before), String.ofList message⟩ := by
  rw [ofLine?, cut_append inside]
  rfl

/-- A line is passed over exactly when no hash stands in front of its first separator. -/
theorem ofLine?_eq_none_iff {line : List Char} : ofLine? line = none ↔ Hashless line := by
  cases split : cut line with
  | none =>
    have without := cut_eq_none_iff.1 split
    refine iff_of_true (by rw [ofLine?, split]; rfl) ?_
    rintro before behind rfl
    exact absurd (List.mem_append_right _ List.mem_cons_self) without
  | some p =>
    obtain ⟨rfl, inside⟩ := cut_eq_some_iff.1 split
    rw [ofLine?_append inside, ite_eq_left_iff, trim_eq_nil_iff]
    constructor
    · intro passed before behind same other
      have found := cut_eq_some_iff.2 ⟨same, other⟩
      cases split.symm.trans found
      by_contra hashed
      cases passed hashed
    · intro hashless hashed
      exact absurd (hashless _ _ rfl inside) hashed

/-- A line that tells of no commit tells of none when its end is cut off. -/
theorem Hashless.of_prefix {line whole : List Char} (h : Hashless whole) (front : line <+: whole) :
    Hashless line := by
  obtain ⟨rest, rfl⟩ := front
  rintro before behind rfl inside
  exact h before (behind ++ rest) (by simp) inside

namespace Listable

variable {c : Commit}

theorem ofLine?_line (h : c.Listable) : ofLine? c.line = some c := by
  rw [line, ofLine?_append h.separator_not_mem_hash, trim_eq_self h.head?_hash h.getLast?_hash,
    if_neg h.hash_ne_nil, String.ofList_toList, String.ofList_toList]

theorem lineFeed_not_mem_line (h : c.Listable) : lineFeed ∉ c.line := by
  rw [line, List.mem_append, List.mem_cons, not_or, not_or]
  exact ⟨h.lineFeed_not_mem_hash, by decide, h.lineFeed_not_mem_message⟩

theorem dropReturn_line (h : c.Listable) : dropReturn c.line = c.line := by
  refine if_neg fun last => ?_
  rw [line, List.getLast?_append, List.getLast?_cons] at last
  cases message : c.message.toList.getLast? with
  | none => simp [message, separator, carriageReturn] at last
  | some x => exact h.getLast?_message (by simpa [message] using last)

end Listable

/-! ## Listings -/

/-- A line that tells of no commit. -/
structure Stray where
  text : List Char
  lineFeed_not_mem : lineFeed ∉ text
  hashless : Hashless text

/-- A line of a listing. -/
inductive Row where
  | commit (c : Commit)
  | stray (line : Stray)

namespace Row

def text : Row → List Char
  | .commit c => c.line
  | .stray line => line.text

def commit? : Row → Option Commit
  | .commit c => some c
  | .stray _ => none

/-- Whatever commit the row tells of can be told from its line. -/
def Legible (r : Row) : Prop := ∀ c ∈ r.commit?, c.Listable

theorem Legible.lineFeed_not_mem {r : Row} (h : r.Legible) : lineFeed ∉ r.text := by
  cases r with
  | commit c => exact (h c rfl).lineFeed_not_mem_line
  | stray line => exact line.lineFeed_not_mem

/-- A row is read as what it tells of, with or without a carriage return at its end. -/
theorem Legible.ofLine?_eq {r : Row} (h : r.Legible) {read : List Char}
    (reads : read = r.text ∨ read = dropReturn r.text) : ofLine? read = r.commit? := by
  cases r with
  | commit c =>
    have listable : c.Listable := h c rfl
    have same : read = c.line := by
      rcases reads with whole | dropped
      · exact whole
      · exact dropped.trans listable.dropReturn_line
    rw [same]
    exact listable.ofLine?_line
  | stray line =>
    have front : read <+: line.text := by
      rcases reads with rfl | rfl
      · exact List.prefix_rfl
      · exact prefix_dropReturn _
    exact ofLine?_eq_none_iff.2 (line.hashless.of_prefix front)

/-- The last row, without a line end. -/
theorem Legible.filterMap_lines {r : Row} (h : r.Legible) :
    (lines r.text).filterMap ofLine? = r.commit?.toList := by
  rw [lines_of_not_mem h.lineFeed_not_mem, ← h.ofLine?_eq (.inl rfl)]
  split
  · next empty =>
    rw [empty]
    rfl
  · rw [List.filterMap_eq_flatMap_toList, List.flatMap_singleton]

/-- A row in front of others. -/
theorem Legible.filterMap_lines_append {r : Row} (h : r.Legible) (e : LineEnd)
    (more : List Char) :
    (lines (r.text ++ (e.text ++ more))).filterMap ofLine? =
      r.commit?.toList ++ (lines more).filterMap ofLine? := by
  obtain ⟨read, reads, split⟩ := e.exists_lines_text h.lineFeed_not_mem more
  rw [split, List.filterMap_eq_flatMap_toList, List.flatMap_cons, h.ofLine?_eq reads,
    ← List.filterMap_eq_flatMap_toList]

end Row

section

variable (rows : List (Row × LineEnd)) (last? : Option Row)

/-- Rows with their line ends, and behind them a row without one if there is such a row. -/
def listing : List Char :=
  rows.flatMap (fun r => r.1.text ++ r.2.text) ++ (last?.map Row.text).getD []

/-- The commits of a listing. -/
def listed : List Commit :=
  rows.flatMap (fun r => r.1.commit?.toList) ++ (last?.bind Row.commit?).toList

variable (row : Row) (e : LineEnd)

theorem listing_cons :
    listing ((row, e) :: rows) last? = row.text ++ (e.text ++ listing rows last?) := by
  simp [listing]

theorem listed_cons :
    listed ((row, e) :: rows) last? = row.commit?.toList ++ listed rows last? := by
  simp [listed]

end

/-- The commits of a listing are read back in order, with their messages as they are,
whatever other lines there are and however the lines end. -/
theorem ofListing_listing (rows : List (Row × LineEnd)) (last? : Option Row)
    (listable : ∀ c ∈ listed rows last?, c.Listable) :
    ofListing (String.ofList (listing rows last?)) = listed rows last? := by
  rw [ofListing, String.toList_ofList]
  induction rows with
  | nil =>
    cases last? with
    | none => rfl
    | some row =>
      have legible : row.Legible := fun c hc => listable c (Option.mem_toList.2 hc)
      exact legible.filterMap_lines
  | cons first rows ih =>
    obtain ⟨row, e⟩ := first
    rw [listed_cons] at listable ⊢
    obtain ⟨own, others⟩ := List.forall_mem_append.1 listable
    have legible : row.Legible := fun c hc => own c (Option.mem_toList.2 hc)
    rw [listing_cons, legible.filterMap_lines_append, ih others]

/-- A line without a hash is passed over, and a message with a separator and blanks of its
own is read as it is, even in a last line that has no end. -/
theorem message_is_kept :
    let c : Commit := ⟨"1f", " a\x1fb "⟩
    c.Listable ∧ ofListing " \x1fwarning\r\n1f\x1f a\x1fb " = [c] := by
  intro c
  have hash : c.hash.toList = ['1', 'f'] := by decide +kernel
  have listable : c.Listable := {
    hash_ne_nil := by decide +kernel
    lineFeed_not_mem_hash := by decide +kernel
    separator_not_mem_hash := by decide +kernel
    head?_hash := by
      rw [hash]
      rintro x ⟨⟩
      decide
    getLast?_hash := by
      rw [hash]
      rintro x ⟨⟩
      decide
    lineFeed_not_mem_message := by decide +kernel
    getLast?_message := by decide +kernel }
  let warning : Stray :=
    ⟨" \x1fwarning".toList, by decide +kernel, ofLine?_eq_none_iff.1 (by decide +kernel)⟩
  let rows : List (Row × LineEnd) := [(.stray warning, .returnAndFeed)]
  have text : listing rows (some (.commit c)) = " \x1fwarning\r\n1f\x1f a\x1fb ".toList := by
    decide +kernel
  have read := ofListing_listing rows (some (.commit c)) fun c' mem =>
    List.mem_singleton.1 mem ▸ listable
  rw [text, String.ofList_toList] at read
  exact ⟨listable, read⟩

end Commit

end PatchLint
