import PatchLint.Glob.Basic
import PatchLint.Text.Utf8

/-!
# Matching exclude patterns

A pattern is compared with the bytes of a path, and must match them from end to
end.  Reading part of a pattern leaves a set of remainders of the path, those
behind a beginning that the part matches.  A part is understood by what it makes
of such a set (`Glob.leave`), so parts in a row are one step after the other,
and a pattern matches when the empty remainder is left.

All remainders are of one text, so each is known by its length, and a set of
them is a list with the longest first.  A slash is a byte like any other except
to the parts that stand for folders.
-/

namespace PatchLint

namespace Glob

open Text

def slashByte : UInt8 := 0x2F

/-- Every remainder of a text, the whole text first. -/
def tails : List UInt8 → List (List UInt8)
  | [] => [[]]
  | b :: bs => (b :: bs) :: tails bs

/-- Every remainder that stands behind a slash. -/
def behindSlash : List UInt8 → List (List UInt8)
  | [] => []
  | b :: bs => if b = slashByte then bs :: behindSlash bs else behindSlash bs

/-- Two sets of remainders in one.  Remainders that are equally long are
equal. -/
def union : List (List UInt8) → List (List UInt8) → List (List UInt8)
  | [], bs => bs
  | a :: as, [] => a :: as
  | a :: as, b :: bs =>
      if a.length = b.length then a :: union as bs
      else if b.length < a.length then a :: union as (b :: bs)
      else b :: union (a :: as) bs

/-- What follows a slash in each remainder that starts with one. -/
def behindFirstSlash (set : List (List UInt8)) : List (List UInt8) :=
  set.filterMap fun bs => if bs.head? = some slashByte then some (bs.drop 1) else none

/-- Every remainder of the longest in a set, and so of all. -/
def allTails (set : List (List UInt8)) : List (List UInt8) :=
  match set with
  | [] => []
  | longest :: _ => tails longest

/-- A set and every remainder that stands behind a slash in one of it. -/
def withBehindSlash (set : List (List UInt8)) : List (List UInt8) :=
  match set with
  | [] => []
  | longest :: _ => union set (behindSlash longest)

/-- The bytes a range covers.  A character outside ASCII stands for its bytes,
and the dash joins the last byte of the first character with the first byte of
the second. -/
def inRange (b : UInt8) (range : Char × Char) : Bool :=
  let low := Utf8.encodeChar range.1
  let high := Utf8.encodeChar range.2
  if range.1 = range.2 then low.contains b
  else
    low.dropLast.contains b || high.tail.contains b ||
      match low.getLast?, high.head? with
      | some l, some h => l ≤ b && b ≤ h
      | _, _ => false

/-- The remainders behind given bytes. -/
def behind (word : List UInt8) (set : List (List UInt8)) : List (List UInt8) :=
  set.filterMap fun bs => if word.isPrefixOf bs then some (bs.drop word.length) else none

/-- The remainders behind one byte of a kind. -/
def behindOne (p : UInt8 → Bool) (set : List (List UInt8)) : List (List UInt8) :=
  set.filterMap fun bs => match bs with
    | [] => none
    | b :: rest => if p b then some rest else none

mutual

/-- Whether parts can only match the empty text because every group in them is
empty. -/
def allVoid : List Part → Bool
  | [] => true
  | p :: ps => isVoid p && allVoid ps

/-- A group without any part in its branches. -/
def isVoid : Part → Bool
  | .group branches => allBranchesVoid branches
  | _ => false

/-- Branches without any part. -/
def allBranchesVoid : List (List Part) → Bool
  | [] => true
  | ps :: rest => allVoid ps && allBranchesVoid rest

end

mutual

/-- What a part leaves of a set of remainders. -/
def leave : Part → List (List UInt8) → List (List UInt8)
  | .literal c, set => behind (Utf8.encodeChar c) set
  | .any, set => behindOne (fun _ => true) set
  | .run, set => allTails set
  | .foldersFirst, set => withBehindSlash set
  | .foldersLast, set => allTails (behindFirstSlash set)
  | .foldersBetween, set => withBehindSlash (behindFirstSlash set)
  | .oneOf negated ranges, set => behindOne (fun b => ranges.any (inRange b) != negated) set
  | .group branches, set =>
      if allBranchesVoid branches then set else leaveByBranch branches set

/-- What parts in a row leave of a set of remainders. -/
def leaveAll : List Part → List (List UInt8) → List (List UInt8)
  | [], set => set
  | p :: ps, set => leaveAll ps (leave p set)

/-- What any branch with a part in it leaves of a set of remainders. -/
def leaveByBranch : List (List Part) → List (List UInt8) → List (List UInt8)
  | [], _ => []
  | ps :: branches, set =>
      union (if allVoid ps then [] else leaveAll ps set) (leaveByBranch branches set)

end

/-- Whether a pattern matches a text from end to end.  Folders at the start
alone match everything. -/
def isMatch (parts : List Part) (bs : List UInt8) : Bool :=
  match parts with
  | [.foldersFirst] => true
  | _ => (leaveAll parts [bs]).any List.isEmpty

end Glob

end PatchLint
