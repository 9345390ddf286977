import PatchLint.Check.Probe
import PatchLint.Session.Registry
import PatchLint.Store

/-!
# Sessions

A session is what one host of the checker owns: the configuration as of the last
reload, the diagnostics, and the checks that are running.  A check is started
and finished in two steps, between which anything may happen to the session, so
a session knows by number which checks it has started, which of them hold a slot
and which it has told to stop.

Each reload opens a new *generation*.  Checks that were prepared in an earlier
one never get a slot.

This module holds the state and the operations that reach nothing outside.
-/

namespace PatchLint

/-- Why a check has no outcome. -/
inductive CheckFault where
  /-- No configuration has passed validation since the last failure. -/
  | notConfigured
  /-- The configuration of the target cannot be used. -/
  | config (fault : ConfigFault)
  /-- The checker did not start. -/
  | notStarted (checker : Path) (fault : HostFault)

/-- The text of a check's fault. -/
def CheckFault.message : CheckFault → String
  | .notConfigured => "checkpatch is not configured"
  | .config fault => fault.message
  | .notStarted checker fault => PatchLint.notStarted checker fault

/-- How a check ends. -/
inductive Outcome where
  /-- The checker ran: the number of findings, and the keys that were written. -/
  | completed (findings : Nat) (files : List Path)
  /-- The file is excluded, and nothing ran. -/
  | excluded
  /-- A newer check or a newer configuration took its place. -/
  | superseded
deriving DecidableEq, Repr

/-- The number of findings, none unless the check completed. -/
def Outcome.findings : Outcome → Nat
  | .completed findings _ => findings
  | .excluded => 0
  | .superseded => 0

/-- Whether every key that was written is spelled by a text. -/
def Outcome.isWritable : Outcome → Bool
  | .completed _ files => files.all Path.isText
  | .excluded => true
  | .superseded => true

/-- Configuration, diagnostics and running checks. -/
structure Session where
  /-- The configuration. -/
  snapshot : Snapshot
  /-- What the last reload was given, kept for another try. -/
  inputs : Option (Settings × List WorkspaceFolder)
  /-- Whether the configuration has passed validation. -/
  configured : Bool
  /-- The diagnostics. -/
  store : Store
  /-- The checks that hold a slot. -/
  registry : Registry
  /-- The number of the next check. -/
  nextId : Nat
  /-- The number of reloads and disposals. -/
  generation : Nat
  /-- The checks that were told to stop. -/
  stopped : List Nat
  /-- A layout to read instead of the one in the settings. -/
  layout? : Option Layout

namespace Session

/-- A session without a workspace, with default settings and not configured. -/
def new (layout? : Option Layout := none) : Session where
  snapshot := Snapshot.build {} []
  inputs := none
  configured := false
  store := .empty
  registry := .empty
  nextId := 0
  generation := 0
  stopped := []
  layout?

/-- What the log says about a new session. -/
def newLog : Log := Snapshot.buildLog {} []

instance : Inhabited Session := ⟨new⟩

/-- When single files are checked. -/
def runMode (s : Session) : RunMode := s.snapshot.runMode

/-- The session with the other run mode. -/
def toggle (s : Session) : Session :=
  { s with snapshot := s.snapshot.withRunMode s.runMode.toggled }

/-- What the log says about the run mode after it was toggled. -/
def toggleLog (s : Session) : Log := [.info ("Run mode is now " ++ s.runMode.reportName)]

/-- The session with no configuration to try again. -/
def invalidate (s : Session) : Session := { s with configured := false, inputs := none }

/-- The session without the diagnostics of a file. -/
def clearFile (s : Session) (p : Path) : Session := { s with store := s.store.delete p }

/-- The session without diagnostics. -/
def clearAll (s : Session) : Session := { s with store := s.store.clear }

/-- The session with its changes taken. -/
def taken (s : Session) : Session := { s with store := s.store.taken }

/-- The session in a new generation: every running check is told to stop and
loses its slot, and the diagnostics are dropped. -/
def stopAll (s : Session) : Session :=
  { s with
    generation := s.generation + 1
    stopped := s.registry.ids ++ s.stopped
    registry := .empty
    store := s.store.clear }

/-- The session at its end. -/
def dispose (s : Session) : Session := { s.stopAll with configured := false }

/-- The session in a few words. -/
def summary (s : Session) : String :=
  "CheckpatchContext \x7b configured: " ++ Log.truth s.configured ++
    ", diagnostics: " ++ Text.numeral s.store.total ++
    ", in_flight: " ++ Text.numeral s.registry.size ++ ", .. \x7d"

/-! ## Laws -/

/-- Toggling changes nothing but the run mode. -/
@[simp] theorem runMode_toggle (s : Session) : s.toggle.runMode = s.runMode.toggled := rfl

end Session

end PatchLint
