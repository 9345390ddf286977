import Mathlib.Algebra.Group.Nat.Even
import PatchLint.Proofs.Session.Retry

/-!
# The run mode

The run mode is part of the snapshot, and a snapshot is made from settings.  The host
asks for a mode by handing over settings, and the user by toggling.  There is a third
way for it to change, which nobody asks for: trying the last reload again makes the
snapshot anew from the settings that were handed over, and what was toggled since is
forgotten (`Course.forgets`).

Only this can come between the mode that is in force and the one that was asked for.
As there are two modes, each time that it happens undoes the time before, so the two
agree exactly when a toggle was forgotten an even number of times since the host's
last reload (`Course.asked_mode_unless_forgotten`).
-/

namespace PatchLint

variable {σ : Type}

namespace RunMode

theorem toggled_ne (m : RunMode) : m.toggled ≠ m := by cases m <;> decide

/-- There are two modes. -/
theorem eq_toggled_iff {m n : RunMode} : m = n.toggled ↔ m ≠ n := by
  cases m <;> cases n <;> decide

theorem toggled_inj {m n : RunMode} : m.toggled = n.toggled ↔ m = n := by
  cases m <;> cases n <;> decide

end RunMode

namespace Operation

/-- The run mode that an operation asks for, given the one before it. -/
def asks (mode : RunMode) : Operation σ → RunMode
  | .reload settings _ => settings.runMode
  | .toggle => mode.toggled
  | _ => mode

/-- The run mode that the host gives with an operation, if it does, and else the one
before it. -/
def gives (mode : RunMode) : Operation σ → RunMode
  | .reload settings _ => settings.runMode
  | _ => mode

/-- The operation asks for a run mode. -/
def SetsMode : Operation σ → Prop
  | .reload _ _ => True
  | .toggle => True
  | _ => False

theorem asks_eq_self {o : Operation σ} (keeps : ¬ o.SetsMode) (mode : RunMode) :
    o.asks mode = mode := by
  cases o with
  | reload | toggle => exact absurd trivial keeps
  | _ => rfl

end Operation

namespace Course

/-- The run mode that was asked for: that of the settings the host handed over last,
toggled as often as was asked for since. -/
def askedMode (os : List (Operation σ)) : RunMode := os.foldl Operation.asks .manual

/-- The run mode of the settings that the host handed over last. -/
def givenMode (os : List (Operation σ)) : RunMode := os.foldl Operation.gives .manual

/-- Whether an operation forgets that the run mode was toggled: it tries a reload again
that was given another mode than the one in force. -/
def forgets (c : Course σ) : Operation σ → Bool
  | .ensure =>
      !c.session.configured && c.session.inputs.any fun given => given.1.runMode ≠ c.session.runMode
  | _ => false

/-- How often it was forgotten that the run mode was toggled, since the host's last
reload. -/
def forgotten (past : List (Course σ × Operation σ)) : Nat :=
  past.foldl
    (fun n m => match m.2 with
      | .reload _ _ => 0
      | o => if m.1.forgets o then n + 1 else n)
    0

/-! ## One operation -/

theorem forgets_ensure_iff {c : Course σ} :
    c.forgets .ensure = true ↔ c.session.configured = false ∧
      ∃ settings folders, c.session.inputs = some (settings, folders) ∧
        settings.runMode ≠ c.session.runMode := by
  cases inputs : c.session.inputs with
  | none => simp [forgets, inputs]
  | some given =>
    obtain ⟨settings, folders⟩ := given
    simp [forgets, inputs]

theorem runMode_drop (s : Session) (t : Target) : (s.drop t).runMode = s.runMode := by
  rw [Session.runMode, Session.snapshot_drop, Session.runMode]

/-- Trying the last reload again gives the session the mode that the reload was given. -/
theorem runMode_ensure_of_inputs (host : Host σ) {c : Course σ}
    (off : c.session.configured = false) {settings : Settings} {folders : List WorkspaceFolder}
    (inputs : c.session.inputs = some (settings, folders)) :
    (c.step host .ensure).2.session.runMode = settings.runMode := by
  obtain ⟨session, -, -⟩ := Session.ensure_again host off inputs c.scene
  have left : (c.step host .ensure).2.session = _ := session.trans (Session.reload_run ..)
  rw [left]
  rfl

theorem runMode_ensure (host : Host σ) (c : Course σ) :
    (c.step host .ensure).2.session.runMode =
      if c.forgets .ensure then c.session.runMode.toggled else c.session.runMode := by
  have idle : ∀ {answer : Except CheckFault Unit},
      (c.session.ensure host).run c.scene = ((answer, c.session), c.scene) →
      c.forgets .ensure = false →
      (c.step host .ensure).2.session.runMode =
        if c.forgets .ensure then c.session.runMode.toggled else c.session.runMode := by
    intro answer same remembers
    have left : (c.step host .ensure).2.session = c.session :=
      congrArg (fun r : (Except CheckFault Unit × Session) × Scene σ => r.1.2) same
    rw [left, remembers]
    rfl
  cases configured : c.session.configured with
  | true =>
    exact idle (Session.ensure_configured host configured c.scene) (by simp [forgets, configured])
  | false =>
    cases inputs : c.session.inputs with
    | none =>
      exact idle (Session.ensure_without_inputs host configured inputs c.scene)
        (by simp [forgets, inputs])
    | some given =>
      obtain ⟨settings, folders⟩ := given
      rw [runMode_ensure_of_inputs host configured inputs]
      by_cases same : settings.runMode = c.session.runMode
      · simp [forgets, inputs, same]
      · simp [forgets, inputs, configured, RunMode.eq_toggled_iff.2 same]

theorem Effect.runMode_eq {c : Course σ} {o : Operation σ} {reply : Reply} {s : Session}
    {running : List Running} (effect : Effect c o reply s running) (keeps : ¬ o.SetsMode)
    (other : o ≠ .ensure) : s.runMode = c.session.runMode := by
  cases effect with
  | adopted _ adopts =>
    cases o with
    | reload => exact absurd trivial keeps
    | ensure => exact absurd rfl other
    | _ => exact adopts.elim
  | toggled => exact absurd trivial keeps
  | notStarted => exact runMode_drop _ _
  | started =>
    rw [Session.runMode, Session.snapshot_enter]
    exact runMode_drop _ _
  | _ => rfl

/-- The mode after an operation is the one that the operation asks for, unless the
operation forgets that the mode was toggled. -/
theorem runMode_step (host : Host σ) (c : Course σ) (o : Operation σ) :
    (c.step host o).2.session.runMode =
      if c.forgets o then c.session.runMode.toggled else o.asks c.session.runMode := by
  have effect := effect_step host c o
  cases o with
  | reload settings folders =>
    have left : (c.step host (.reload settings folders)).2.session = _ :=
      Session.reload_run host c.session settings folders c.scene
    rw [left]
    rfl
  | ensure => exact runMode_ensure host c
  | toggle => rfl
  | _ => exact effect.runMode_eq not_false nofun

theorem runMode_step_eq_asks_iff (host : Host σ) (c : Course σ) (o : Operation σ) :
    (c.step host o).2.session.runMode = o.asks c.session.runMode ↔ c.forgets o = false := by
  rw [runMode_step]
  cases forgets : c.forgets o with
  | false => simp
  | true =>
    cases o with
    | ensure => simpa [Operation.asks] using RunMode.toggled_ne _
    | _ => cases forgets

/-! ## What the last reload was given -/

/-- What is kept for another try changes only with a reload, and is given up when the
configuration is. -/
theorem inputs_step (host : Host σ) (c : Course σ) {o : Operation σ}
    (retried : ∀ settings folders, o ≠ .reload settings folders) :
    (c.step host o).2.session.inputs = c.session.inputs ∨
      (c.step host o).2.session.inputs = none := by
  have effect := effect_step host c o
  generalize (c.step host o).1 = reply at effect
  generalize (c.step host o).2.session = s at effect ⊢
  generalize (c.step host o).2.running = running at effect
  cases effect with
  | adopted ok adopts =>
    cases o with
    | reload settings folders => exact absurd rfl (retried settings folders)
    | ensure => exact .inl adopts.2.symm
    | _ => exact adopts.elim
  | invalidated => exact .inr rfl
  | @notStarted t => cases t <;> exact .inl rfl
  | @started t =>
    rw [Session.inputs_enter]
    cases t <;> exact .inl rfl
  | _ => exact .inl rfl

/-- What is kept for another try was given by the host's last reload. -/
theorem givenMode_of_inputs (host : Host σ) (state : σ) (layout? : Option Layout)
    {os : List (Operation σ)} {settings : Settings} {folders : List WorkspaceFolder}
    (inputs : ((new state layout?).run host os).session.inputs = some (settings, folders)) :
    settings.runMode = givenMode os := by
  induction os using List.reverseRecOn with
  | nil => cases inputs
  | append_singleton os o ih =>
    rw [run_concat] at inputs
    by_cases reloads : ∃ settings folders, o = .reload settings folders
    · obtain ⟨st, fs, rfl⟩ := reloads
      have left : (((new state layout?).run host os).step host (.reload st fs)).2.session = _ :=
        Session.reload_run host _ st fs _
      rw [left] at inputs
      cases inputs
      simp [givenMode, Operation.gives]
    · have same : givenMode (os ++ [o]) = givenMode os := by
        cases o with
        | reload st fs => exact absurd ⟨st, fs, rfl⟩ reloads
        | _ => simp [givenMode, Operation.gives]
      rw [same]
      rcases inputs_step host _ fun st fs h => reloads ⟨st, fs, h⟩ with kept | none
      · exact ih (kept.symm.trans inputs)
      · cases none.symm.trans inputs

/-! ## Runs -/

theorem askedMode_concat (os : List (Operation σ)) (o : Operation σ) :
    askedMode (os ++ [o]) = o.asks (askedMode os) := by
  simp [askedMode]

theorem forgotten_concat (past : List (Course σ × Operation σ)) (c : Course σ) (o : Operation σ) :
    forgotten (past ++ [(c, o)]) = match o with
      | .reload _ _ => 0
      | o => if c.forgets o then forgotten past + 1 else forgotten past := by
  simp [forgotten]

/-- The mode in force is the one that was asked for exactly when toggles were forgotten
in pairs. -/
theorem runMode_eq_asked_iff (host : Host σ) (state : σ) (layout? : Option Layout)
    (os : List (Operation σ)) :
    ((new state layout?).run host os).session.runMode = askedMode os ↔
      Even (forgotten ((new state layout?).history host os)) := by
  induction os using List.reverseRecOn with
  | nil => exact iff_of_true rfl Even.zero
  | append_singleton os o ih =>
    rw [run_concat, runMode_step, askedMode_concat, history_append]
    simp only [history]
    rw [forgotten_concat]
    generalize (new state layout?).run host os = c at ih ⊢
    cases o with
    | reload settings folders => exact iff_of_true rfl Even.zero
    | ensure =>
      show (if c.forgets .ensure then c.session.runMode.toggled else c.session.runMode) =
        askedMode os ↔ Even (if c.forgets .ensure then forgotten _ + 1 else forgotten _)
      cases c.forgets .ensure with
      | false => exact ih
      | true =>
        -- Modes that agreed differ from now on, and modes that differed agree.
        rw [if_pos rfl, if_pos rfl, Nat.even_add_one, ← ih, eq_comm, RunMode.eq_toggled_iff]
        exact ne_comm
    | toggle => exact RunMode.toggled_inj.trans ih
    | _ => exact ih

/-! ## How long a toggle stays in force -/

/-- A session whose last reload was given the mode in force. -/
def Remembers (c : Course σ) : Prop :=
  ∀ settings folders, c.session.inputs = some (settings, folders) →
    settings.runMode = c.session.runMode

theorem Remembers.not_forgets {c : Course σ} (h : c.Remembers) (o : Operation σ) :
    c.forgets o = false := by
  cases o with
  | ensure =>
    rw [← Bool.not_eq_true, forgets_ensure_iff]
    rintro ⟨-, settings, folders, inputs, differ⟩
    exact differ (h settings folders inputs)
  | _ => rfl

/-- If the last reload was given the mode in force, or is tried again, it was given the
mode that is in force then. -/
theorem remembers_step (host : Host σ) {c : Course σ} {o : Operation σ} (keeps : ¬ o.SetsMode)
    (h : c.Remembers ∨ c.forgets o = true) : (c.step host o).2.Remembers := by
  have retried : ∀ settings folders, o ≠ .reload settings folders := by
    rintro settings folders rfl
    exact keeps trivial
  intro settings folders inputs
  rcases inputs_step host c retried with kept | none
  · rw [kept] at inputs
    rcases h with same | forgets
    · rw [same settings folders inputs,
        (runMode_step_eq_asks_iff host c o).2 (same.not_forgets o), Operation.asks_eq_self keeps]
    · cases o with
      | ensure =>
        obtain ⟨off, -⟩ := forgets_ensure_iff.1 forgets
        exact (runMode_ensure_of_inputs host off inputs).symm
      | _ => cases forgets
  · cases none.symm.trans inputs

theorem Remembers.runMode_run (host : Host σ) {c : Course σ} (h : c.Remembers)
    {os : List (Operation σ)} (keeps : ∀ o ∈ os, ¬ o.SetsMode) :
    (c.run host os).session.runMode = c.session.runMode := by
  induction os generalizing c with
  | nil => rfl
  | cons o os ih =>
    obtain ⟨first, others⟩ := List.forall_mem_cons.1 keeps
    calc ((c.step host o).2.run host os).session.runMode
        = (c.step host o).2.session.runMode := ih (remembers_step host first (.inl h)) others
      _ = o.asks c.session.runMode := (runMode_step_eq_asks_iff host c o).2 (h.not_forgets o)
      _ = c.session.runMode := Operation.asks_eq_self first _

/-- Operations that ask for no mode leave the one in force alone exactly as long as none
of them forgets that it was toggled. -/
theorem runMode_run_eq_iff (host : Host σ) {c : Course σ} {os : List (Operation σ)}
    (keeps : ∀ o ∈ os, ¬ o.SetsMode) :
    (c.run host os).session.runMode = c.session.runMode ↔
      ∀ m ∈ c.history host os, m.1.forgets m.2 = false := by
  induction os generalizing c with
  | nil => exact iff_of_true rfl (by simp [history])
  | cons o os ih =>
    obtain ⟨first, others⟩ := List.forall_mem_cons.1 keeps
    have step := runMode_step host c o
    rw [Operation.asks_eq_self first] at step
    rw [history, List.forall_mem_cons]
    show ((c.step host o).2.run host os).session.runMode = _ ↔ _
    cases forgets : c.forgets o with
    | false =>
      rw [forgets, if_neg Bool.false_ne_true] at step
      rw [← step, ih others, and_iff_right rfl]
    | true =>
      -- After the mode has fallen back there is nothing more to forget, so it stays.
      rw [forgets, if_pos rfl] at step
      rw [(remembers_step host first (.inr forgets)).runMode_run host others, step]
      exact iff_of_false (RunMode.toggled_ne _) fun h => Bool.false_ne_true h.1.symm

/-! ## Who changes the mode -/

/-- Nothing changes the run mode unasked but a retry that forgets a toggle.

After each operation the mode is the one that the operation asks for, unless it forgets
that the mode was toggled.  That happens to a session that tries the last reload again
in another mode than that reload was given; whatever was toggled since, and whether it
succeeds or not, trying again leaves the mode that was given.  So the mode in force is
the one that was asked for exactly when this has happened an even number of times since
the host's last reload, and a toggle stays in force, until the next one or the next
reload, exactly as long as it does not happen. -/
theorem asked_mode_unless_forgotten (host : Host σ) (state : σ) (layout? : Option Layout)
    (os : List (Operation σ)) :
    let c := (new state layout?).run host os
    let toggled := (c.step host .toggle).2
    (∀ o, (c.step host o).2.session.runMode = o.asks c.session.runMode ↔ c.forgets o = false) ∧
    (c.forgets .ensure = true ↔ c.session.Retries ∧ c.session.runMode ≠ givenMode os) ∧
    (c.session.Retries → (c.step host .ensure).2.session.runMode = givenMode os) ∧
    (c.session.runMode = askedMode os ↔ Even (forgotten ((new state layout?).history host os))) ∧
    (c.step host .toggle).1 = .toggled c.session.runMode.toggled ∧
    ∀ more, (∀ o ∈ more, ¬ o.SetsMode) →
      ((toggled.run host more).session.runMode = c.session.runMode.toggled ↔
        ∀ m ∈ toggled.history host more, m.1.forgets m.2 = false) := by
  intro c toggled
  have given : ∀ {settings folders}, c.session.inputs = some (settings, folders) →
      settings.runMode = givenMode os := givenMode_of_inputs host state layout?
  refine ⟨runMode_step_eq_asks_iff host c, ?_, ?_, runMode_eq_asked_iff host state layout? os,
    rfl, ?_⟩
  · rw [forgets_ensure_iff]
    constructor
    · rintro ⟨off, settings, folders, inputs, differ⟩
      exact ⟨⟨off, by simp [inputs]⟩, given inputs ▸ differ.symm⟩
    · rintro ⟨⟨off, some⟩, differ⟩
      obtain ⟨⟨settings, folders⟩, inputs⟩ := Option.isSome_iff_exists.1 some
      exact ⟨off, settings, folders, inputs, given inputs ▸ differ.symm⟩
  · rintro ⟨off, some⟩
    obtain ⟨⟨settings, folders⟩, inputs⟩ := Option.isSome_iff_exists.1 some
    exact (runMode_ensure_of_inputs host off inputs).trans (given inputs)
  · intro more keeps
    have now : toggled.session.runMode = c.session.runMode.toggled := rfl
    rw [← now]
    exact runMode_run_eq_iff host keeps

/-- A toggle stays in force while files are checked.  After a reload whose patterns
cannot be read, it is gone once the reload is tried again. -/
theorem toggle_outlasts_checks :
    let checker : Host Unit := .uniform .sample
    let c := (new () none).run checker [.reload {} []]
    let checks : List (Operation Unit) :=
      [.ensure, .start (.file (.ofString "/a.c")), .finish 0, .ensure]
    let broken := (new () none).run checker [.reload { exclude := ["["] } [], .toggle]
    ((c.step checker .toggle).2.run checker checks).session.runMode = .onSave ∧
      broken.session.runMode = .onSave ∧
      (broken.step checker .ensure).2.session.runMode = .manual := by
  intro checker c checks broken
  obtain ⟨-, -, -, -, -, stays⟩ := asked_mode_unless_forgotten checker () none [.reload {} []]
  obtain ⟨-, -, falls, -⟩ := asked_mode_unless_forgotten checker () none
    [.reload { exclude := ["["] } [], .toggle]
  refine ⟨(stays checks ?_).2 ?_, by decide +kernel, falls ⟨?_, ?_⟩⟩
  · simp [checks, Operation.SetsMode]
  · decide +kernel
  · decide +kernel
  · decide +kernel

/-- A checker that is not there yet when the host hands over its settings, and is there
when they are tried again.  In between the user has asked for checks when a file is
saved, and was told that there will be. -/
theorem retry_forgets_toggle :
    let checker : Host Bool :=
      { start := fun _ ready => (if ready then .ok .sample else .error .notFound, true)
        read := fun _ _ => .error .notFound
        isFile := fun _ _ => false }
    let os := [.reload {} [], .toggle, .ensure]
    let toggled := (new false none).run checker (os.take 2)
    let tried := (new false none).run checker os
    toggled.session.runMode = .onSave ∧ tried.session.configured = true ∧
      tried.session.runMode = .manual ∧ askedMode os = .onSave := by
  decide +kernel

end Course

end PatchLint
