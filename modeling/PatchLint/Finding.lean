import PatchLint.Text.Numeral

/-!
# Findings

What the checker reports: a place in a file, a kind, a code and a message.  A
*record* is a finding with the severity it is shown with; the severity comes
from the configuration, never from the checker.
-/

namespace PatchLint

/-- The kind of a finding, as the checker prints it. -/
inductive Kind where
  | error
  | warning
  | check
deriving DecidableEq, Repr, Inhabited

namespace Kind

/-- The tag the checker prints. -/
def tag : Kind → String
  | .error => "ERROR"
  | .warning => "WARNING"
  | .check => "CHECK"

/-- The kinds in the order their tags are tried. -/
def all : List Kind := [.warning, .error, .check]

/-- The kind with a given tag. -/
def ofTag? (s : String) : Option Kind := all.find? fun k => k.tag = s

end Kind

/-- The severity a finding is shown with. -/
inductive Level where
  | error
  | warning
  | information
  | hint
deriving DecidableEq, Repr, Inhabited

namespace Level

/-- The name used in settings. -/
def name : Level → String
  | .error => "Error"
  | .warning => "Warning"
  | .information => "Information"
  | .hint => "Hint"

/-- The name in listings, in lower case. -/
def lowerName : Level → String
  | .error => "error"
  | .warning => "warning"
  | .information => "information"
  | .hint => "hint"

/-- The levels, the gravest first. -/
def all : List Level := [.error, .warning, .information, .hint]

/-- The level with a given name. -/
def ofName? (s : String) : Option Level := all.find? fun l => l.name = s

/-- The level with a given name; any other text means information. -/
def ofName (s : String) : Level := (ofName? s).getD .information

/-- The number editors know a level by: 1 is the gravest. -/
def number : Level → Nat
  | .error => 1
  | .warning => 2
  | .information => 3
  | .hint => 4

end Level

/-- One finding of the checker. -/
structure Finding where
  /-- The file as the checker printed it. -/
  file : String
  /-- The line, counted from 1. -/
  line : Nat
  kind : Kind
  /-- The checker's name for the rule. -/
  code : String
  /-- The message, without the rule's name. -/
  message : String
deriving DecidableEq, Repr, Inhabited

/-- A finding with the severity it is shown with. -/
structure Record extends Finding where
  /-- The severity. -/
  level : Level
deriving DecidableEq, Repr, Inhabited

namespace Record

/-- A finding shown with a severity. -/
def ofFinding (level : Level) (f : Finding) : Record := ⟨f, level⟩

/-- The line counted from 0; line 0 counts as line 1. -/
def lineIndex (r : Record) : Nat := r.line - 1

/-- The message as it is shown, the kind's tag in front. -/
def text (r : Record) : String := r.kind.tag ++ ":" ++ r.message

end Record

end PatchLint
