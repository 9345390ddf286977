import PatchLint.Exclusion
import PatchLint.Host
import PatchLint.Settings.Schema

/-!
# Faults of a configuration

Everything that can be wrong with a configuration, by cause: a file that cannot
be read or does not hold settings, settings from a host that do not decode, an
exclude pattern that cannot be read, a checker that does not start or does not
behave like one.  The wording is in `ConfigFault.message` alone.
-/

namespace PatchLint

/-- Why a configuration file gives no configuration. -/
inductive FileFault where
  /-- The host does not read it. -/
  | unread (fault : HostFault)
  /-- Its bytes are no text. -/
  | notText
  /-- Its text does not conform to the schema, or is no JSON. -/
  | invalid (reason : Invalid)
  /-- Its value conforms to the schema and does not decode. -/
  | misfit (m : Json.Misfit)

/-- The words that open the text about settings that are not valid. -/
def invalidSettings : String := "Invalid settings: "

/-- The text of a file's fault. -/
def FileFault.message : FileFault → String
  | .unread fault => fault.message
  | .notText => "stream did not contain valid UTF-8"
  | .invalid reason => invalidSettings ++ reason.reason
  | .misfit m => m.message

/-- What is wrong with a configuration. -/
inductive ConfigFault where
  /-- The checker did not start for the probe. -/
  | probeNotStarted (checker : Path) (fault : HostFault)
  /-- The checker ran without printing a summary; what it complained about. -/
  | noSummary (checker : Path) (complaint : String)
  /-- A configuration file gives no configuration. -/
  | file (path : Path) (fault : FileFault)
  /-- The settings that a host sent are not valid. -/
  | invalid (reason : Invalid)
  /-- An exclude pattern cannot be read. -/
  | pattern (fault : PatternFault)

/-- The text about a program that did not start. -/
def notStarted (program : Path) (fault : HostFault) : String :=
  "Failed to call \"" ++ program.text ++ "\": " ++ fault.message

/-- The text of a configuration's fault. -/
def ConfigFault.message : ConfigFault → String
  | .probeNotStarted checker fault => notStarted checker fault
  | .noSummary checker complaint =>
      "\"" ++ checker.text ++ "\" did not print a checkpatch summary" ++
        if complaint = "" then "" else ". Stderr: \"" ++ complaint ++ "\""
  | .file path fault => "Failed to read " ++ path.text ++ ": " ++ fault.message
  | .invalid reason => invalidSettings ++ reason.reason
  | .pattern fault => fault.message

end PatchLint
