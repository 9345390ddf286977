/-!
# Reading from the front of a text

Two steps that take characters off the front of a text and hand back the rest:
a given word (`after?`), and a longest run of characters of a class (`run?`).
Both lose nothing: what was taken and what is left make up the text
(`after?_eq_some_iff`, `run?_eq_some`), and what was put together is taken apart
again (`after?_append`, `run?_append`).
-/

namespace PatchLint.Text

/-- The text after a word, if the text starts with it. -/
def after? : List Char → List Char → Option (List Char)
  | [], cs => some cs
  | _ :: _, [] => none
  | w :: ws, c :: cs => if w = c then after? ws cs else none

/-- The longest run of characters of a class and the text after it, if there is
at least one. -/
def run? (p : Char → Bool) (cs : List Char) : Option (List Char × List Char) :=
  if cs.takeWhile p = [] then none else some (cs.takeWhile p, cs.dropWhile p)

/-- The text after a character, if the text starts with it, and else the whole
text. -/
def skip (c : Char) : List Char → List Char
  | [] => []
  | d :: cs => if d = c then cs else d :: cs

/-- The texts between occurrences of a character.  There is always at least one. -/
def splitOn (mark : Char) : List Char → List (List Char)
  | [] => [[]]
  | c :: cs =>
      if c = mark then [] :: splitOn mark cs
      else match splitOn mark cs with
        | [] => [[c]]
        | s :: ss => (c :: s) :: ss

/-- The texts before and behind the first character of a class, and that
character, or all of the text if there is none. -/
def cutAt (p : Char → Bool) (cs : List Char) : List Char × Option (Char × List Char) :=
  match cs.dropWhile fun c => !p c with
  | [] => (cs, none)
  | c :: rest => (cs.takeWhile fun c => !p c, some (c, rest))

/-- What follows a word is what the text is made of besides the word. -/
theorem after?_eq_some_iff {w cs rest : List Char} : after? w cs = some rest ↔ cs = w ++ rest := by
  induction w generalizing cs with
  | nil => simp [after?]
  | cons x w ih =>
      cases cs with
      | nil => simp [after?]
      | cons c cs =>
          by_cases h : x = c
          · simp [after?, h, ih]
          · simp [after?, h, Ne.symm h]

/-- A run takes all it can and nothing else. -/
theorem run?_eq_some {p : Char → Bool} {cs taken rest : List Char}
    (h : run? p cs = some (taken, rest)) :
    cs = taken ++ rest ∧ taken ≠ [] ∧ (∀ c ∈ taken, p c) ∧ ∀ c ∈ rest.head?, p c = false := by
  simp only [run?] at h
  split at h
  · cases h
  · next ne =>
    simp only [Option.some.injEq, Prod.mk.injEq] at h
    obtain ⟨rfl, rfl⟩ := h
    refine ⟨(List.takeWhile_append_dropWhile).symm, ne, ?_, ?_⟩
    · exact List.all_eq_true.1 List.all_takeWhile
    · intro c hc
      have := List.head?_dropWhile_not p cs
      rw [Option.mem_def] at hc
      simpa [hc] using this

/-- A run of characters of a class ends where the class ends. -/
theorem run?_append {p : Char → Bool} {taken rest : List Char} (ne : taken ≠ [])
    (inside : ∀ c ∈ taken, p c) (outside : ∀ c ∈ rest.head?, p c = false) :
    run? p (taken ++ rest) = some (taken, rest) := by
  have stop : rest.takeWhile p = [] ∧ rest.dropWhile p = rest := by
    cases rest with
    | nil => exact ⟨rfl, rfl⟩
    | cons c cs => simp [outside c (by simp)]
  rw [run?, List.takeWhile_append_of_pos inside, List.dropWhile_append_of_pos inside, stop.1,
    stop.2, List.append_nil, if_neg ne]

/-- A word is read off a text that starts with it. -/
theorem after?_append (w rest : List Char) : after? w (w ++ rest) = some rest :=
  after?_eq_some_iff.2 rfl

/-- What follows a word is no longer than the text. -/
theorem length_of_after? {w cs rest : List Char} (h : after? w cs = some rest) :
    rest.length ≤ cs.length := by
  rw [after?_eq_some_iff.1 h]
  simp

/-- What follows a run is no longer than the text. -/
theorem length_of_run? {p : Char → Bool} {cs taken rest : List Char}
    (h : run? p cs = some (taken, rest)) : rest.length ≤ cs.length := by
  rw [(run?_eq_some h).1]
  simp

/-- What is left after an optional character is no longer than the text. -/
theorem length_skip (c : Char) (cs : List Char) : (skip c cs).length ≤ cs.length := by
  cases cs with
  | nil => simp [skip]
  | cons d cs =>
      simp only [skip]
      split <;> simp

end PatchLint.Text
