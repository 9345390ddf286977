/-!
# Log lines

What the program tells about its work, as data: every operation hands back the
lines it has to say, and its caller decides where they go.
-/

namespace PatchLint

/-- The weight of a log line. -/
inductive LogWeight where
  | info
  | warn
  | error
deriving DecidableEq, Repr

/-- The tag in front of a line. -/
def LogWeight.tag : LogWeight → String
  | .info => "INFO"
  | .warn => "WARN"
  | .error => "ERROR"

/-- One line of the log. -/
structure LogLine where
  weight : LogWeight
  /-- What it says. -/
  message : String
deriving DecidableEq, Repr

/-- The log as it grows, the oldest line first. -/
abbrev Log := List LogLine

namespace LogLine

/-- A remark. -/
def info (message : String) : LogLine := ⟨.info, message⟩

def warn (message : String) : LogLine := ⟨.warn, message⟩

def error (message : String) : LogLine := ⟨.error, message⟩

def text (l : LogLine) : String := l.weight.tag ++ " " ++ l.message

end LogLine

end PatchLint
