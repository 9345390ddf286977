import PatchLint.Layout.Basic

/-!
# Reports

A report is the checker's output grouped by file.  The file is the one a
finding names, not the one that was asked about: one check of a commit covers
many files.  Groups come in the order of their first finding, and each keeps
its findings in the order they were printed.
-/

namespace PatchLint

/-- The records of one file. -/
structure FileGroup where
  /-- The file as the checker printed it. -/
  file : String
  /-- Its records, in the order of the output. -/
  records : List Record
deriving DecidableEq, Repr

/-- The checker's output grouped by file. -/
structure Report where
  /-- The groups, in the order of their first finding. -/
  groups : List FileGroup
deriving DecidableEq, Repr

namespace Report

/-- Groups with one more record, in the group of its file if there is one. -/
def addTo (r : Record) : List FileGroup → List FileGroup
  | [] => [⟨r.file, [r]⟩]
  | g :: gs =>
      if g.file = r.file then ⟨g.file, g.records ++ [r]⟩ :: gs else g :: addTo r gs

/-- Records grouped by file. -/
def ofRecords (rs : List Record) : Report := ⟨rs.foldl (fun gs r => addTo r gs) []⟩

/-- The report on an output: its findings, all shown with one severity. -/
def ofOutput (layout : Layout) (level : Level) (output : String) : Report :=
  ofRecords ((layout.findings output.toList).map (Record.ofFinding level))

/-- The number of findings. -/
def total (r : Report) : Nat := (r.groups.flatMap FileGroup.records).length

/-- A report without findings. -/
def isEmpty (r : Report) : Bool := r.groups.isEmpty

end Report

end PatchLint
