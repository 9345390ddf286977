import PatchLint.Session.Basic

/-!
# Reloading

A reload takes over settings and workspace folders whether they are usable or
not: the running checks are stopped and the diagnostics dropped first, and the
configuration counts as validated only after every scope has passed the gate.
The run mode is part of the settings, so a reload sets it too; trying the last
reload again is a reload like any other.
-/

namespace PatchLint

namespace Session

variable {σ : Type}

/-- The session with settings and folders taken over and not yet validated. -/
def adopt (s : Session) (settings : Settings) (folders : List WorkspaceFolder) : Session :=
  { s.stopAll with
    snapshot := Snapshot.build settings folders
    inputs := some (settings, folders)
    configured := false }

/-- What the log says about a scope that failed, beyond what its probe said. -/
def failureLog : Scope × ConfigFault → Log
  | (scope, .pattern fault) => [.error (scope.description ++ ": " ++ fault.message)]
  | _ => []

/-- Validates the scopes of a snapshot in order, up to the first that fails. -/
def settle (host : Host σ) (snapshot : Snapshot) (s : Session) :
    Work σ (Except ConfigFault Unit × Session) := do
  let (_, failed) ← gate host snapshot snapshot.scopes
  match failed with
  | some failure => do
      Work.say (failureLog failure)
      return (.error failure.2, s)
  | none => do
      Work.say [.info "checkpatch is configured"]
      return (.ok (), { s with configured := true })

/-- Takes settings and folders over and validates every scope. -/
def reload (host : Host σ) (s : Session) (settings : Settings) (folders : List WorkspaceFolder) :
    Work σ (Except ConfigFault Unit × Session) := do
  Work.say (Snapshot.buildLog settings folders)
  settle host (Snapshot.build settings folders) (s.adopt settings folders)

/-- Tries the last reload again if the session is not configured. -/
def ensure (host : Host σ) (s : Session) : Work σ (Except CheckFault Unit × Session) :=
  if s.configured then pure (.ok (), s)
  else match s.inputs with
    | none => pure (.error .notConfigured, s)
    | some (settings, folders) => do
        let (result, s') ← s.reload host settings folders
        match result with
        | .ok _ => return (.ok (), s')
        | .error fault => do
            Work.say [.warn ("checkpatch is still not configured: " ++ fault.message)]
            return (.error .notConfigured, s')

end Session

end PatchLint
