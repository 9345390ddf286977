import PatchLint.Path.Basic
import PatchLint.Uri.Host

/-!
# URIs

Editors name documents by URIs, and the files behind them are found by turning a
URI into a path.  A URI that was read is kept in a normal form, in which equal
URIs have equal parts; its path is kept as it is written, percent signs and all.

Going from a path to a URI keeps the path's components and nothing else of its
spelling (`ofPath?_congr`).
-/

namespace PatchLint

/-- The part of a URI behind its host. -/
inductive UriPath where
  /-- Segments, each with a slash in front. -/
  | segments (ss : List String)
  /-- A text without a slash in front. -/
  | opaqueText (text : String)
deriving DecidableEq, Repr

/-- A URI in normal form. -/
structure Uri where
  /-- The scheme in lower case. -/
  scheme : String
  /-- The name and the password, if there is a host. -/
  user : Option (String × Option String) := none
  /-- The host, if there is a place for one. -/
  host : Option Uri.HostName := none
  /-- The number of the service on the host, unless it is the scheme's own. -/
  service : Option Nat := none
  path : UriPath
  /-- What follows the question mark. -/
  query : Option String := none
  /-- What follows the number sign. -/
  fragment : Option String := none
deriving DecidableEq, Repr

namespace Uri

/-- The path as it is written. -/
def pathText (u : Uri) : String :=
  match u.path with
  | .segments ss => String.join (ss.map fun s => "/" ++ s)
  | .opaqueText text => text

/-- Whether the last name of the path ends in a text. -/
def pathEndsWith (u : Uri) (ending : String) : Bool :=
  ending.toList.isSuffixOf u.pathText.toList

/-! ## Files -/

def fileScheme : String := "file"

/-- The segment for a component, none for the root. -/
def segmentOf : Component → Option String
  | .root => none
  | .here => some "."
  | .up => some ".."
  | .name bytes => some (String.ofList (encode .segment bytes))

/-- The URI of a file with given segments.  A path is never empty. -/
def ofSegments (ss : List String) : Uri where
  scheme := fileScheme
  host := some (.name "")
  path := .segments (if ss = [] then [""] else ss)

/-- The URI of an absolute path. -/
def ofPath? (p : Path) : Option Uri :=
  if p.isAbsolute then some (ofSegments (p.components.filterMap segmentOf)) else none

/-- The URI of a file, as it is written. -/
def fileText (u : Uri) : String := fileScheme ++ "://" ++ u.pathText

/-- Whether bytes end in a letter and a colon or bar. -/
def endsInDrive (bytes : List UInt8) : Bool :=
  match bytes.reverse with
  | mark :: letter :: _ :: _ =>
      (mark = 0x3A || mark = 0x7C) &&
        ((0x41 ≤ letter && letter ≤ 0x5A) || (0x61 ≤ letter && letter ≤ 0x7A))
  | _ => false

/-- The path that segments spell. -/
def pathOf (ss : List String) : Path :=
  let bytes := ss.flatMap fun s => Path.slash :: decode s.toList
  ⟨if endsInDrive bytes then bytes ++ [Path.slash] else bytes⟩

/-- The path of a URI, whatever its scheme: there has to be a slash in front, and
the host, if there is one, has to be this machine. -/
def toPath? (u : Uri) : Option Path :=
  match u.path with
  | .segments (s :: ss) =>
      if (u.host.map HostName.isLocal).getD true then some (pathOf (s :: ss)) else none
  | _ => none

/-! ## Laws -/

/-- Every absolute path has a URI, and no other path has. -/
theorem isSome_ofPath? (p : Path) : (ofPath? p).isSome = p.isAbsolute := by
  unfold ofPath?
  split <;> simp_all

/-- Two spellings of one path have one URI. -/
theorem ofPath?_congr {p q : Path} (h : p.Same q) : ofPath? p = ofPath? q := by
  have hc : p.components = q.components := h
  simp only [ofPath?, h.isAbsolute_eq, hc]

end Uri

end PatchLint
