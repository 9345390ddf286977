import PatchLint.Layout.SingleLine
import PatchLint.Layout.TwoLine

/-!
# Output layouts

The checker changed its output layout between releases.  A setting names the
layout to read; the automatic choice reads one line per finding, and two lines
per finding only if that finds nothing.
-/

namespace PatchLint

/-- The output layout to read. -/
inductive Layout where
  /-- One line per finding, or two if that finds nothing. -/
  | auto
  /-- One line per finding. -/
  | singleLine
  /-- Two lines per finding. -/
  | twoLine
deriving DecidableEq, Repr, Inhabited

namespace Layout

/-- The name used in messages. -/
def label : Layout → String
  | .auto => "auto"
  | .singleLine => "single-line"
  | .twoLine => "two-line"

/-- The name used in settings. -/
def name : Layout → String
  | .auto => "auto"
  | .singleLine => "singleLine"
  | .twoLine => "twoLine"

/-- The layouts, in the order settings list them. -/
def all : List Layout := [.auto, .singleLine, .twoLine]

/-- The name of the layout in configuration reports. -/
def reportName : Layout → String
  | .auto => "Auto"
  | .singleLine => "SingleLine"
  | .twoLine => "TwoLine"

/-- The findings in a text, in the order they are printed. -/
def findings : Layout → List Char → List Finding
  | .singleLine, cs => Pattern.singleLine.findings cs
  | .twoLine, cs => Pattern.twoLine.findings cs
  | .auto, cs => match Pattern.singleLine.findings cs with
      | [] => Pattern.twoLine.findings cs
      | found => found

end Layout

end PatchLint
