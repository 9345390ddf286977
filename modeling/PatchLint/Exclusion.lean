import PatchLint.Glob.Match
import PatchLint.Path.Basic

/-!
# Exclusion

A file that an exclude pattern matches is never checked.  The path is compared
as a text with forward slashes only, the way patterns are written.
-/

namespace PatchLint

/-- A pattern that cannot be read, and why. -/
structure PatternFault where
  pattern : String
  /-- What is wrong with it. -/
  cause : Glob.Cause
deriving DecidableEq, Repr

def PatternFault.message (f : PatternFault) : String :=
  "Invalid exclude pattern \"" ++ f.pattern ++ "\": " ++ f.cause.message

/-- Exclude patterns, ready to be matched. -/
structure Exclusion where
  /-- The patterns. -/
  globs : List (List Glob.Part)
deriving Inhabited

namespace Exclusion

/-- The exclusion by a list of patterns, or the first pattern that cannot be
read. -/
def ofPatterns : List String → Except PatternFault Exclusion
  | [] => .ok ⟨[]⟩
  | p :: ps => match Glob.ofText p with
    | .error cause => .error ⟨p, cause⟩
    | .ok glob => match ofPatterns ps with
      | .error fault => .error fault
      | .ok rest => .ok ⟨glob :: rest.globs⟩

/-- Whether a path is excluded. -/
def excludes (e : Exclusion) (p : Path) : Bool :=
  let bytes := Text.Utf8.encode (Path.slashed p.text)
  e.globs.any fun glob => Glob.isMatch glob bytes

end Exclusion

end PatchLint
