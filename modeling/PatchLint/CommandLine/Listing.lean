import PatchLint.CommandLine.Arguments
import PatchLint.Json.Printer
import PatchLint.Store

/-!
# Listings

The diagnostics of a store as a text for readers or as JSON.  Both list the
files in path order and the records of each in the order of the store
(`Listing.ofStore`).  The numbers at the end of the text are those the store
gives, and not counted from what is listed.
-/

namespace PatchLint.CommandLine

/-- The files of a store with their records, in path order. -/
abbrev Listing := List (Path × List Record)

namespace Listing

/-- The files with an entry. -/
def ofStore (s : Store) : Listing := s.keys.filterMap fun p => (s.find? p).map fun rs => (p, rs)

/-- A line of text with its end. -/
def line (s : String) : String := s ++ "\n"

def recordLine (r : Record) : String :=
  line ("  " ++ Text.numeral r.line ++ ": " ++ r.level.lowerName ++ " [" ++ r.code ++ "]: " ++
    r.text)

def fileLines (entry : Path × List Record) : String :=
  "\n" ++ line (entry.1.text ++ ":") ++ String.join (entry.2.map recordLine)

/-- The files with their records for readers. -/
def blocks (l : Listing) : String := String.join (l.map fileLines)

/-- The line about the numbers of records and files. -/
def countLine (records files : Nat) : String :=
  line ("Found " ++ Text.numeral records ++ " problem(s) in " ++ Text.numeral files ++ " file(s)")

def recordJson (r : Record) : Json :=
  .object [("file", .str r.file), ("line", .nat r.line), ("kind", .str r.kind.tag),
    ("code", .str r.code), ("message", .str r.message), ("severity", .str r.level.name)]

def json (l : Listing) : Json :=
  .arr (l.map fun e =>
    .object [("path", .str e.1.text), ("diagnostics", .arr (e.2.map recordJson))])

/-- The diagnostics of a store in a layout. -/
def shown (s : Store) : Format → String
  | .text => (ofStore s).blocks ++ "\n" ++ countLine s.total s.size
  | .json => line (ofStore s).json.indented

end Listing

end PatchLint.CommandLine
