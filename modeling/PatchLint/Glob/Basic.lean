/-!
# Exclude patterns

A pattern is written in the notation of shells: `?` and `*` for any byte and any
run of bytes, brackets for a class, braces for alternatives, a backslash before
a character that stands for itself, and `**` for any run of folders where it
stands for whole components of a path.

Reading a pattern takes one character at a time and keeps what is open
(`Glob.Draft`): the alternatives of each open group, and the class that is being
read, if any.
-/

namespace PatchLint

namespace Glob

/-- A part of a pattern. -/
inductive Part where
  /-- A character that stands for itself. -/
  | literal (c : Char)
  /-- Any byte. -/
  | any
  /-- Any run of bytes. -/
  | run
  /-- Any run of folders at the start of a branch. -/
  | foldersFirst
  /-- A slash and anything at the end of a branch. -/
  | foldersLast
  /-- A slash, or folders between slashes. -/
  | foldersBetween
  /-- One byte out of a class, or outside of it. -/
  | oneOf (negated : Bool) (ranges : List (Char × Char))
  /-- One of several branches. -/
  | group (branches : List (List Part))
deriving Repr, Inhabited

/-- What is wrong with a pattern. -/
inductive Cause where
  | unclosedClass
  | invalidRange (low high : Char)
  | unopenedGroup
  | unclosedGroup
  | danglingEscape
deriving DecidableEq, Repr

def Cause.message : Cause → String
  | .unclosedClass => "unclosed character class; missing ']'"
  | .invalidRange low high =>
      "invalid range; '" ++ low.toString ++ "' > '" ++ high.toString ++ "'"
  | .unopenedGroup =>
      "unopened alternate group; missing '\x7b' (maybe escape '\x7d' with '[\x7d]'?)"
  | .unclosedGroup =>
      "unclosed alternate group; missing '\x7d' (maybe escape '\x7b' with '[\x7b]'?)"
  | .danglingEscape => "dangling '\\'"

/-- The branches of a group, or of the whole pattern, as far as they are read. -/
structure Branches where
  /-- The finished branches, the latest first. -/
  finished : List (List Part)
  /-- The parts of the branch that is being read, the latest first. -/
  parts : List Part

/-- A class as far as it is read. -/
structure Class where
  /-- Whether the class stands for what is not in it. -/
  negated : Bool
  /-- The ranges, the latest first. -/
  ranges : List (Char × Char)
  /-- Whether the last character was a dash that may join two into a range. -/
  joining : Bool

/-- A pattern as far as it is read. -/
structure Draft where
  /-- The groups around the innermost one, from the inside out. -/
  outer : List Branches
  /-- The innermost group, or the whole pattern. -/
  inner : Branches

namespace Draft

/-- The draft of nothing. -/
def empty : Draft := ⟨[], ⟨[], []⟩⟩

/-- Whether a group is open. -/
def inGroup (d : Draft) : Bool := !d.outer.isEmpty

/-- A part put at the end of the branch. -/
def push (d : Draft) (p : Part) : Draft :=
  { d with inner := { d.inner with parts := p :: d.inner.parts } }

/-- The branch without its last part. -/
def pop (d : Draft) : Draft := { d with inner := { d.inner with parts := d.inner.parts.drop 1 } }

/-- A new group. -/
def openGroup (d : Draft) : Draft := ⟨d.inner :: d.outer, ⟨[], []⟩⟩

/-- A new branch of the group. -/
def nextBranch (d : Draft) : Draft :=
  { d with inner := ⟨d.inner.parts.reverse :: d.inner.finished, []⟩ }

/-- The group as a part of the one around it. -/
def closeGroup? (d : Draft) : Option Draft :=
  match d.outer with
  | [] => none
  | around :: outer =>
      let branches := (d.inner.parts.reverse :: d.inner.finished).reverse
      some (Draft.push ⟨outer, around⟩ (.group branches))

/-- Two stars in a row that stand for no folders. -/
def pushTwoRuns (d : Draft) : Draft := (d.push .run).push .run

/-- Folders behind a part that they replace.  Behind folders at the start or at
the end there is nothing to add. -/
def pushFolders (d : Draft) (folders : Part) : Draft :=
  match d.inner.parts with
  | .foldersFirst :: _ => d
  | .foldersLast :: _ => d
  | _ => d.pop.push folders

end Draft

/-- A range that ends at a character joined by a dash. -/
def Class.join (k : Class) (c : Char) : Except Cause Class :=
  match k.ranges with
  | [] => .ok { k with ranges := [(c, c)], joining := false }
  | (low, _) :: rest =>
      if c < low then .error (.invalidRange low c)
      else .ok { k with ranges := (low, c) :: rest, joining := false }

/-- One character of a class.  A bracket that closes nothing yet and a dash in
front stand for themselves. -/
def Class.add (k : Class) (c : Char) : Except Cause Class :=
  if c = '-' ∧ ¬k.joining ∧ k.ranges ≠ [] then .ok { k with joining := true }
  else if k.joining then k.join c
  else .ok { k with ranges := (c, c) :: k.ranges }

/-- The part that a finished class is.  A dash at its end stands for itself. -/
def Class.part (k : Class) : Part :=
  let ranges := if k.joining then ('-', '-') :: k.ranges else k.ranges
  .oneOf k.negated ranges.reverse

/-- A class from behind its opening bracket: the part and the text behind the
closing bracket. -/
def readClass (k : Class) (first : Bool) : List Char → Except Cause (Part × List Char)
  | [] => .error .unclosedClass
  | c :: cs =>
      if c = ']' ∧ ¬first then .ok (k.part, cs)
      else match k.add c with
        | .error e => .error e
        | .ok k' => readClass k' false cs

/-- A class from behind its opening bracket and a sign of negation. -/
def classAt : List Char → Except Cause (Part × List Char)
  | [] => .error .unclosedClass
  | c :: cs =>
      if c = '!' ∨ c = '^' then readClass ⟨true, [], false⟩ true cs
      else readClass ⟨false, [], false⟩ true (c :: cs)

/-- A class is read off the front of the text. -/
theorem length_of_readClass {k : Class} {first : Bool} {cs rest : List Char} {p : Part}
    (h : readClass k first cs = .ok (p, rest)) : rest.length ≤ cs.length := by
  induction cs generalizing k first with
  | nil => simp [readClass] at h
  | cons c cs ih =>
      simp only [readClass] at h
      split at h
      · cases h
        simp
      · split at h
        · cases h
        · exact Nat.le_succ_of_le (ih h)

/-- A class with its sign is read off the front of the text. -/
theorem length_of_classAt {cs rest : List Char} {p : Part} (h : classAt cs = .ok (p, rest)) :
    rest.length ≤ cs.length := by
  cases cs with
  | nil => simp [classAt] at h
  | cons c cs =>
      simp only [classAt] at h
      split at h
      · exact Nat.le_succ_of_le (length_of_readClass h)
      · exact length_of_readClass h

/-- What two stars stand for: the draft behind them, and whether the slash that
follows belongs to them.  `before` is the character in front of them. -/
def twoStars (before : Option Char) (d : Draft) (cs : List Char) : Draft × Bool :=
  let slashNext := cs.head? = some '/'
  if d.inner.parts = [] then
    if cs = [] ∨ slashNext then (d.push .foldersFirst, slashNext) else (d.pushTwoRuns, false)
  else if before ≠ some '/' ∧ ¬(d.inGroup ∧ (before = some ',' ∨ before = some '{')) then
    (d.pushTwoRuns, false)
  else if cs = [] ∨ d.inGroup ∧ (cs.head? = some ',' ∨ cs.head? = some '}') then
    (d.pushFolders .foldersLast, false)
  else if slashNext then (d.pushFolders .foldersBetween, true)
  else (d.pushTwoRuns, false)

/-- A pattern read from a place on.  `before` is the character in front. -/
def readFrom (before : Option Char) (d : Draft) : List Char → Except Cause Draft
  | [] => .ok d
  | c :: cs =>
      if c = '?' then readFrom (some c) (d.push .any) cs
      else if c = '*' then
        if cs.head? = some '*' then
          let (d', slash) := twoStars before d (cs.drop 1)
          if slash then readFrom (some '/') d' (cs.drop 2) else readFrom (some '*') d' (cs.drop 1)
        else readFrom (some c) (d.push .run) cs
      else if c = '[' then
        match _read : classAt cs with
        | .error e => .error e
        | .ok (p, rest) => readFrom (some ']') (d.push p) rest
      else if c = '{' then readFrom (some c) d.openGroup cs
      else if c = '}' then
        match d.closeGroup? with
        | none => .error .unopenedGroup
        | some d' => readFrom (some c) d' cs
      else if c = ',' then
        readFrom (some c) (if d.inGroup then d.nextBranch else d.push (.literal c)) cs
      else if c = '\\' then
        match cs with
        | [] => .error .danglingEscape
        | e :: rest => readFrom (some e) (d.push (.literal e)) rest
      else readFrom (some c) (d.push (.literal c)) cs
termination_by cs => cs.length
decreasing_by
  all_goals first
    | exact Nat.lt_succ_of_le (length_of_classAt _read)
    | (simp only [List.length_drop, List.length_cons]; omega)

def ofText (pattern : String) : Except Cause (List Part) :=
  match readFrom none Draft.empty pattern.toList with
  | .error e => .error e
  | .ok d => if d.inGroup then .error .unclosedGroup else .ok d.inner.parts.reverse

end Glob

end PatchLint
