import PatchLint.Proofs.Check.Gate
import PatchLint.Proofs.Session.Effects
import PatchLint.Proofs.Store

/-!
# Reloads

A reload probes the scopes of what it was given in order and stops at the first
that fails (`Session.reload_recorded`).  Whether it succeeds, whether every scope
passes and whether the session is configured from then on are one question.  In
either case the diagnostics are dropped, the running checks lose their slots, and
the host is told of every file that had diagnostics.  Trying the last reload again
keeps to the same (`Session.reload_gates`).
-/

namespace PatchLint

variable {σ : Type}

namespace Session

/-- The answer of a reload whose gate ended at a scope, or at none. -/
def reloadAnswer : Option (Scope × ConfigFault) → Except ConfigFault Unit
  | none => .ok ()
  | some (_, fault) => .error fault

/-- A reload answers as its gate ends, and leaves the host as its gate does. -/
theorem reload_eq_gate (host : Host σ) (s : Session) (settings : Settings)
    (folders : List WorkspaceFolder) (scene : Scene σ) :
    let snapshot := Snapshot.build settings folders
    let g := (gate host snapshot snapshot.scopes).run
      { scene with log := scene.log ++ Snapshot.buildLog settings folders }
    let done := (s.reload host settings folders).run scene
    done.1.1 = reloadAnswer g.1.2 ∧ done.2.host = g.2.host := by
  intro snapshot g done
  obtain ⟨result, state⟩ := settle_run host snapshot (s.adopt settings folders)
    { scene with log := scene.log ++ Snapshot.buildLog settings folders }
  rw [← reload_eq_settle] at result state
  refine ⟨?_, state⟩
  show ((s.reload host settings folders).run scene).1.1 = _
  rw [result]
  split
  · next failure failed => rw [failed]; rfl
  · next passed => rw [passed]; rfl

/-- A reload goes through the gate once and starts nothing besides. -/
theorem reload_recorded (host : Host σ) (s : Session) (settings : Settings)
    (folders : List WorkspaceFolder) (scene : Scene (σ × List Launch)) :
    let snapshot := Snapshot.build settings folders
    let done := (s.reload host.recorded settings folders).run scene
    ∃ failed started, done.2.host.2 = scene.host.2 ++ started ∧
      Gated host snapshot scene.host.1 snapshot.scopes failed started done.2.host.1 ∧
      done.1.1 = reloadAnswer failed := by
  intro snapshot done
  obtain ⟨started, memory, gated⟩ := gate_recorded host snapshot snapshot.scopes
    { scene with log := scene.log ++ Snapshot.buildLog settings folders }
  obtain ⟨answer, state⟩ := reload_eq_gate host.recorded s settings folders scene
  rw [← state] at memory gated
  exact ⟨_, started, memory, gated, answer⟩

theorem isOk_iff_eq_ok {ε : Type} {result : Except ε Unit} : result.isOk = true ↔ result = .ok () := by
  cases result with
  | ok u => exact iff_of_true rfl rfl
  | error e => exact iff_of_false nofun nofun

/-- A session is configured after a reload exactly when the reload has succeeded. -/
theorem reload_eq_ok_iff (host : Host σ) (s : Session) (settings : Settings)
    (folders : List WorkspaceFolder) (scene : Scene σ) :
    let done := (s.reload host settings folders).run scene
    done.1.1 = .ok () ↔ done.1.2.configured = true := by
  intro done
  rw [reload_run]
  exact isOk_iff_eq_ok.symm

end Session

end PatchLint
