import PatchLint.Proofs.Server.Dialogue
import PatchLint.Proofs.Session.Effects
import PatchLint.Proofs.Session.Landing

/-!
# Attempts to check

A check on behalf of an editor takes three steps: the configuration is tried again,
the target is settled, and the session checks it.  Each of them may be the last one.
`Attempt` says how an attempt ends and whether the session was asked at all.  Whatever
makes the server check something makes such an attempt (`checkFile_attempt`,
`checkCommit_attempt`).

The keys that a check has written are spelled by texts unless it checked a commit of a
repository that is not (`isWritable_of_check`).
-/

namespace PatchLint

variable {σ : Type}

/-! ## Keys -/

/-- What a file name stands for is spelled by a text if the base is. -/
theorem Target.isText_keyOf {t : Target}
    (base : ∀ repository, t.base = some repository → repository.isText = true) (file : String) :
    (t.keyOf file).isText = true := by
  cases t with
  | file path => exact Path.isText_ofString file
  | commit repository hash =>
    have spelled : Path.ofString repository.text = repository := of_decide_eq_true (base _ rfl)
    obtain ⟨joined, same⟩ := Path.exists_join_ofString repository.text file
    rw [spelled] at same
    show (repository.join (.ofString file)).isText = true
    rw [same]
    exact Path.isText_ofString joined

namespace Session

theorem prepare_eq_ended {s : Session} {t : Target} {outcome : Outcome}
    (h : s.prepare t = .error (.ok outcome)) : outcome = .excluded := by
  unfold prepare at h
  split at h
  · split at h
    · cases h
    · cases h
      rfl
    · cases h
  · cases h

/-- All keys that a check has written are those of file names. -/
theorem keyOf_of_check {host : Host σ} {s : Session} {t : Target} {scene : Scene σ}
    {findings : Nat} {files : List Path}
    (h : ((s.check host t).run scene).1.1 = .ok (.completed findings files)) :
    ∀ p ∈ files, ∃ file, p = t.keyOf file := by
  simp only [check, Work.run_bind] at h
  cases prepared : s.prepare t with
  | error result =>
    simp only [start_refused host prepared, Work.run_pure] at h
    obtain rfl : result = _ := h
    cases prepare_eq_ended prepared
  | ok p =>
    obtain ⟨-, rfl⟩ := prepare_eq_ok prepared
    simp only [start_prepared host prepared, spawn_run] at h
    generalize host.start ((s.plan t).resolved.launch (s.plan t).target) scene.host = launched at h
    obtain ⟨launched, state⟩ := launched
    cases launched with
    | error fault => cases h
    | ok output =>
      have written := (finish_completed (Except.ok.inj h)).2.1
      intro path hpath
      obtain ⟨g, -, rfl⟩ := List.mem_map.1 (written ▸ hpath)
      exact ⟨g.file, by rw [enter_fst]; rfl⟩

/-- The outcome of a check can be written, unless it is that of a commit of a
repository that no text spells. -/
theorem isWritable_of_check {host : Host σ} {s : Session} {t : Target} {scene : Scene σ}
    {outcome : Outcome} (h : ((s.check host t).run scene).1.1 = .ok outcome)
    (base : ∀ repository, t.base = some repository → repository.isText = true) :
    outcome.isWritable = true := by
  cases outcome with
  | completed findings files =>
    refine List.all_eq_true.2 fun p hp => ?_
    obtain ⟨file, rfl⟩ := keyOf_of_check h p hp
    exact Target.isText_keyOf base file
  | excluded => rfl
  | superseded => rfl

end Session

namespace Server

open Dialogue

/-! ## Attempts -/

/-- What is sent after a check of a target. -/
def notice : Target → Except CheckFault Outcome → List Sent
  | .file path => fileNotice path
  | .commit _ _ => commitNotice

/-- How an attempt to check something ends, and what it leaves.  The last step that was
taken is the retry of the configuration, the settling of the target, or the check. -/
inductive Attempt (env : Surroundings σ) (settle : Dialogue σ (Option Target)) (e : Exchange σ) :
    Option (Target × Except CheckFault Outcome) → Exchange σ → Prop where
  | unconfigured {e'} : (ensure env).run e = (false, e') → Attempt env settle e none e'
  | unsettled {e₁ e'} : (ensure env).run e = (true, e₁) → settle.run e₁ = (none, e') →
      Attempt env settle e none e'
  | checked {e₁ e₂ e₃ t result} : (ensure env).run e = (true, e₁) →
      settle.run e₁ = (some t, e₂) → (checkTarget env t).run e₂ = (result, e₃) →
      Attempt env settle e (some (t, result)) { e₃ with sent := e₃.sent ++ notice t result }

/-- The outcome of an attempt, if the session has given one. -/
def outcome? : Option (Target × Except CheckFault Outcome) → Option Outcome
  | some (_, .ok outcome) => some outcome
  | _ => none

/-- What a check of a target answers is what the session does. -/
theorem checkTarget_run (env : Surroundings σ) (t : Target) (e : Exchange σ) :
    let done := (e.server.session.check env.host t).run e.scene
    (checkTarget env t).run e = (done.1.1, (publish.run
      { e with server := { e.server with session := done.1.2 }, scene := done.2 }).2) := rfl

/-- A file is settled before the attempt. -/
def fileTarget (path : Path) : Dialogue σ (Option Target) := pure (some (.file path))

/-- The commit that is named or picked, and a line in the log about it. -/
def commitTarget (env : Surroundings σ) (r : CommitRequest) : Dialogue σ (Option Target) := do
  match ← pickTarget env r with
  | none => return none
  | some (repository, hash) => do
      say [.info ("Checking commit " ++ hash ++ " of " ++ repository.text)]
      return some (.commit repository hash)

theorem toOption_eq_outcome? (t : Target) (result : Except CheckFault Outcome) :
    result.toOption = outcome? (some (t, result)) := by
  cases result <;> rfl

theorem checkFile_elsewhere (env : Surroundings σ) {uri : Uri} (h : uri.toPath? = none)
    (e : Exchange σ) : (checkFile env uri).run e = (none, e) := by
  simp only [checkFile, h]
  rfl

/-- A file is checked by an attempt. -/
theorem checkFile_attempt (env : Surroundings σ) {uri : Uri} {path : Path}
    (h : uri.toPath? = some path) (e : Exchange σ) :
    ∃ ending e', Attempt env (fileTarget path) e ending e' ∧
      (checkFile env uri).run e = (outcome? ending, e') := by
  cases retried : (ensure env).run e with
  | mk configured e₁ =>
  simp only [checkFile, h, run_bind, retried]
  cases configured with
  | false => exact ⟨none, e₁, .unconfigured retried, rfl⟩
  | true =>
    cases checked : (checkTarget env (.file path)).run e₁ with
    | mk result e₃ =>
    refine ⟨_, _, .checked retried rfl checked, ?_⟩
    simp only [if_true, run_bind, checked, run_forM_send, run_pure]
    rw [toOption_eq_outcome? (.file path) result]
    rfl

/-- A commit is checked by an attempt. -/
theorem checkCommit_attempt (env : Surroundings σ) (r : CommitRequest) (e : Exchange σ) :
    ∃ ending e', Attempt env (commitTarget env r) e ending e' ∧
      (checkCommit env r).run e = (outcome? ending, e') := by
  cases retried : (ensure env).run e with
  | mk configured e₁ =>
  simp only [checkCommit, run_bind, retried]
  cases configured with
  | false => exact ⟨none, e₁, .unconfigured retried, rfl⟩
  | true =>
    have settled : (commitTarget env r).run e₁ = (match ((pickTarget env r).run e₁).1 with
      | none => pure none
      | some (repository, hash) => do
          say [.info ("Checking commit " ++ hash ++ " of " ++ repository.text)]
          return some (.commit repository hash) : Dialogue σ (Option Target)).run
        ((pickTarget env r).run e₁).2 := rfl
    simp only [if_true, run_bind]
    cases picked : (pickTarget env r).run e₁ with
    | mk target e₂ =>
    rw [picked] at settled
    cases target with
    | none => exact ⟨none, e₂, .unsettled retried settled, rfl⟩
    | some target =>
      obtain ⟨repository, hash⟩ := target
      simp only [run_bind, run_say, run_pure] at settled ⊢
      cases checked : (checkTarget env (.commit repository hash)).run
        { e₂ with
          scene := { e₂.scene with log := e₂.scene.log ++
            [.info ("Checking commit " ++ hash ++ " of " ++ repository.text)] } } with
      | mk result e₃ =>
      refine ⟨_, _, .checked retried settled checked, ?_⟩
      simp only [run_forM_send]
      rw [toOption_eq_outcome? (.commit repository hash) result]
      rfl

end Server

end PatchLint
