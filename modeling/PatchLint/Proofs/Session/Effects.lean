import PatchLint.Session.Course

/-!
# What operations do

The operations of a session are work on a host, and each has several ways to
end.  This module says once what they leave behind, so that nothing that is
shown of courses has to look into the work again.

Main statements: a reload leaves a session that has taken over what it was given
and is configured exactly when it succeeded (`Session.reload_run`), and each
operation of a course has one of the effects that `Course.Effect` lists
(`Course.effect_step`).
-/

namespace PatchLint

variable {σ : Type}

namespace Session

/-! ## What a start leaves alone -/

@[simp] theorem registry_drop (s : Session) (t : Target) : (s.drop t).registry = s.registry := by
  cases t <;> rfl

@[simp] theorem nextId_drop (s : Session) (t : Target) : (s.drop t).nextId = s.nextId := by
  cases t <;> rfl

@[simp] theorem generation_drop (s : Session) (t : Target) :
    (s.drop t).generation = s.generation := by
  cases t <;> rfl

@[simp] theorem stopped_drop (s : Session) (t : Target) : (s.drop t).stopped = s.stopped := by
  cases t <;> rfl

@[simp] theorem snapshot_drop (s : Session) (t : Target) : (s.drop t).snapshot = s.snapshot := by
  cases t <;> rfl

@[simp] theorem configured_drop (s : Session) (t : Target) :
    (s.drop t).configured = s.configured := by
  cases t <;> rfl

/-- A check that is entered gets the next number. -/
@[simp] theorem enter_fst (s : Session) (p : Prepared) (output : Output) :
    (s.enter p output).1 = ⟨p, s.nextId, output⟩ := by
  by_cases h : p.generation = s.generation <;> simp [enter, h]

@[simp] theorem nextId_enter (s : Session) (p : Prepared) (output : Output) :
    (s.enter p output).2.nextId = s.nextId + 1 := by
  by_cases h : p.generation = s.generation <;> simp [enter, h]

@[simp] theorem generation_enter (s : Session) (p : Prepared) (output : Output) :
    (s.enter p output).2.generation = s.generation := by
  by_cases h : p.generation = s.generation <;> simp [enter, h]

@[simp] theorem snapshot_enter (s : Session) (p : Prepared) (output : Output) :
    (s.enter p output).2.snapshot = s.snapshot := by
  by_cases h : p.generation = s.generation <;> simp [enter, h]

@[simp] theorem configured_enter (s : Session) (p : Prepared) (output : Output) :
    (s.enter p output).2.configured = s.configured := by
  by_cases h : p.generation = s.generation <;> simp [enter, h]

@[simp] theorem store_enter (s : Session) (p : Prepared) (output : Output) :
    (s.enter p output).2.store = s.store := by
  by_cases h : p.generation = s.generation <;> simp [enter, h]

@[simp] theorem inputs_enter (s : Session) (p : Prepared) (output : Output) :
    (s.enter p output).2.inputs = s.inputs := by
  by_cases h : p.generation = s.generation <;> simp [enter, h]

/-- A check of this generation takes its slot, and any other gets none. -/
theorem registry_enter (s : Session) (p : Prepared) (output : Output) :
    (s.enter p output).2.registry =
      if p.generation = s.generation then s.registry.enter p.target.slot s.nextId
      else s.registry := by
  by_cases h : p.generation = s.generation <;> simp [enter, h]

/-- A check of this generation stops the check that held its slot, and any other
is stopped itself. -/
theorem stopped_enter (s : Session) (p : Prepared) (output : Output) :
    (s.enter p output).2.stopped =
      (if p.generation = s.generation then (s.registry.holder? p.target.slot).toList
        else [s.nextId]) ++ s.stopped := by
  by_cases h : p.generation = s.generation <;> simp [enter, h]

/-! ## Starting -/

/-- A check that is prepared has the configuration of its target. -/
theorem prepare_eq_ok {s : Session} {t : Target} {p : Prepared} (h : s.prepare t = .ok p) :
    s.configured = true ∧ p = s.plan t := by
  unfold prepare at h
  split at h
  · next configured =>
    split at h
    · cases h
    · cases h
    · injection h with h
      exact ⟨configured, h.symm⟩
  · cases h

/-- A check that cannot be prepared ends with nothing done. -/
theorem start_refused (host : Host σ) {s : Session} {t : Target}
    {result : Except CheckFault Outcome} (h : s.prepare t = .error result) (scene : Scene σ) :
    (s.start host t).run scene =
      ((.ended result, s), { scene with log := scene.log ++ s.prepareLog t }) := by
  unfold start
  rw [h]
  rfl

/-- A check that was prepared is spawned. -/
theorem start_prepared (host : Host σ) {s : Session} {t : Target} {p : Prepared}
    (h : s.prepare t = .ok p) (scene : Scene σ) :
    (s.start host t).run scene =
      ((s.drop t).spawn host p).run { scene with log := scene.log ++ s.prepareLog t } := by
  unfold start
  rw [h]
  rfl

/-- A check is entered when its checker starts, and has ended otherwise. -/
theorem spawn_run (host : Host σ) (s : Session) (p : Prepared) (scene : Scene σ) :
    (spawn host s p).run scene =
      match host.start (p.resolved.launch p.target) scene.host with
      | (.ok output, state) =>
          ((.running (s.enter p output).1, (s.enter p output).2), { scene with host := state })
      | (.error fault, state) =>
          let fault := CheckFault.notStarted p.resolved.config.executable fault
          ((.ended (.error fault), s), ⟨state, scene.log ++ [.error fault.message]⟩) := by
  unfold spawn
  simp only [StateT.run_bind, Work.run_start]
  rcases host.start (p.resolved.launch p.target) scene.host with ⟨result, state⟩
  cases result with
  | ok output => rfl
  | error fault => rfl

/-! ## Reloading -/

/-- The gate decides whether a session becomes configured. -/
theorem settle_run (host : Host σ) (snapshot : Snapshot) (s : Session) (scene : Scene σ) :
    let r := (gate host snapshot snapshot.scopes).run scene
    ((settle host snapshot s).run scene).1 =
      (match r.1.2 with
        | some failure => (.error failure.2, s)
        | none => (.ok (), { s with configured := true })) ∧
      ((settle host snapshot s).run scene).2.host = r.2.host := by
  simp only [settle, Work.run_bind]
  cases ((gate host snapshot snapshot.scopes).run scene).1.2 with
  | none => exact ⟨rfl, rfl⟩
  | some failure => exact ⟨rfl, rfl⟩

/-- A session that settled is configured if it was or every scope has passed. -/
theorem settle_session (host : Host σ) (snapshot : Snapshot) (s : Session) (scene : Scene σ) :
    ((settle host snapshot s).run scene).1.2 =
      { s with configured := s.configured || ((settle host snapshot s).run scene).1.1.isOk } := by
  rw [(settle_run ..).1]
  split
  · simp [Except.isOk, Except.toBool]
  · simp [Except.isOk, Except.toBool]

/-- A reload takes over what it was given and lets the gate decide. -/
theorem reload_eq_settle (host : Host σ) (s : Session) (settings : Settings)
    (folders : List WorkspaceFolder) (scene : Scene σ) :
    (s.reload host settings folders).run scene =
      (settle host (Snapshot.build settings folders) (s.adopt settings folders)).run
        { scene with log := scene.log ++ Snapshot.buildLog settings folders } := rfl

/-- The session after a reload has taken over what it was given, and is configured
exactly when every scope has passed. -/
theorem reload_run (host : Host σ) (s : Session) (settings : Settings)
    (folders : List WorkspaceFolder) (scene : Scene σ) :
    ((s.reload host settings folders).run scene).1.2 =
      { s.adopt settings folders with
        configured := ((s.reload host settings folders).run scene).1.1.isOk } := by
  rw [reload_eq_settle, settle_session]
  rfl

/-- Trying again does nothing in a configured session. -/
theorem ensure_configured (host : Host σ) {s : Session} (h : s.configured = true)
    (scene : Scene σ) : (s.ensure host).run scene = ((.ok (), s), scene) := by
  simp only [ensure, h, if_true]
  rfl

/-- There is nothing to try again without inputs. -/
theorem ensure_without_inputs (host : Host σ) {s : Session} (h : s.configured = false)
    (inputs : s.inputs = none) (scene : Scene σ) :
    (s.ensure host).run scene = ((.error .notConfigured, s), scene) := by
  simp only [ensure, h, inputs]
  rfl

/-- Trying the last reload again is that reload. -/
theorem ensure_again (host : Host σ) {s : Session} (h : s.configured = false)
    {settings : Settings} {folders : List WorkspaceFolder}
    (inputs : s.inputs = some (settings, folders)) (scene : Scene σ) :
    let again := (s.ensure host).run scene
    let reload := (s.reload host settings folders).run scene
    again.1.2 = reload.1.2 ∧ again.1.1.isOk = reload.1.1.isOk ∧ again.2.host = reload.2.host := by
  simp only [ensure, h, inputs, Bool.false_eq_true, if_false, StateT.run_bind]
  rcases (s.reload host settings folders).run scene with ⟨⟨result, s'⟩, scene'⟩
  cases result with
  | ok u => exact ⟨rfl, rfl, rfl⟩
  | error fault => exact ⟨rfl, rfl, rfl⟩

end Session

namespace Course

/-! ## Starts in a course -/

theorem step_start (host : Host σ) (c : Course σ) (t : Target) :
    c.step host (.start t) = (.started (c.start host t).1, (c.start host t).2) := rfl

/-- A check that cannot be prepared ends, and only the log tells of it. -/
theorem start_refused (host : Host σ) {c : Course σ} {t : Target}
    {result : Except CheckFault Outcome} (h : c.session.prepare t = .error result) :
    c.start host t = (.ended result, c.say (c.session.prepareLog t)) := by
  simp only [start, work, Session.start_refused host h]
  rfl

/-- A check that was prepared is spawned, and its file has no diagnostics. -/
theorem start_prepared (host : Host σ) {c : Course σ} {t : Target} {p : Prepared}
    (h : c.session.prepare t = .ok p) :
    c.start host t =
      ((c.withSession (c.session.drop t)).say (c.session.prepareLog t)).spawn host p := by
  simp only [start, work, Session.start_prepared host h]
  rfl

/-- A check that is spawned runs if its checker starts, and has ended otherwise. -/
theorem spawn_cases (host : Host σ) (c : Course σ) (p : Prepared) :
    let launched := host.start (p.resolved.launch p.target) c.scene.host
    (∃ output state, launched = (.ok output, state) ∧
      c.spawn host p = (.running (c.session.enter p output).1,
        ⟨(c.session.enter p output).2, ⟨state, c.scene.log⟩,
          (c.session.enter p output).1 :: c.running⟩)) ∨
    (∃ fault state log, launched = (.error fault, state) ∧
      c.spawn host p = (.ended (.error (.notStarted p.resolved.config.executable fault)),
        { c with scene := ⟨state, log⟩ })) := by
  intro launched
  cases same : launched with
  | mk result state =>
    simp only [launched] at same
    simp only [spawn, work, Session.spawn_run, same]
    cases result with
    | ok output => exact .inl ⟨output, state, rfl, rfl⟩
    | error fault => exact .inr ⟨fault, state, _, rfl, rfl⟩

/-- A check that was prepared runs when its checker starts. -/
theorem step_start_running (host : Host σ) {c : Course σ} {t : Target} {p : Prepared}
    {output : Output} {state : σ} (prepared : c.session.prepare t = .ok p)
    (launched : host.start (p.resolved.launch p.target) c.scene.host = (.ok output, state)) :
    let entered := (c.session.drop t).enter p output
    c.step host (.start t) = (.started (.running entered.1),
      ⟨entered.2, ⟨state, c.scene.log ++ c.session.prepareLog t⟩, entered.1 :: c.running⟩) := by
  rw [step_start, start_prepared host prepared]
  simp only [spawn, work, say, withSession, Session.spawn_run, launched]
  rfl

/-- A check that was prepared has ended when its checker does not start. -/
theorem step_start_notStarted (host : Host σ) {c : Course σ} {t : Target} {p : Prepared}
    {fault : HostFault} {state : σ} (prepared : c.session.prepare t = .ok p)
    (launched : host.start (p.resolved.launch p.target) c.scene.host = (.error fault, state)) :
    let fault := CheckFault.notStarted p.resolved.config.executable fault
    c.step host (.start t) = (.started (.ended (.error fault)),
      ⟨c.session.drop t, ⟨state, c.scene.log ++ c.session.prepareLog t ++ [.error fault.message]⟩,
        c.running⟩) := by
  rw [step_start, start_prepared host prepared]
  simp only [spawn, work, say, withSession, Session.spawn_run, launched]
  rfl

/-! ## Effects -/

/-- What an operation may answer and leave behind, by the ways in which it may
end. -/
inductive Effect (c : Course σ) : Operation σ → Reply → Session → List Running → Prop where
  | idle {o reply} : ¬ c.Renews o → (∀ check, reply ≠ .started (.running check)) →
      (∀ check ∈ c.running, ¬ Ends check.id o) → Effect c o reply c.session c.running
  | adopted {o reply settings folders} (ok : Bool) : c.Adopts settings folders o →
      Effect c o reply { c.session.adopt settings folders with configured := ok } c.running
  | invalidated : Effect c .invalidate .done c.session.invalidate c.running
  | toggled : Effect c .toggle (.toggled c.session.toggle.runMode) c.session.toggle c.running
  | notStarted {t p result} : c.session.prepare t = .ok p →
      Effect c (.start t) (.started (.ended result)) (c.session.drop t) c.running
  | started {t p} (output : Output) : c.session.prepare t = .ok p →
      Effect c (.start t) (.started (.running ((c.session.drop t).enter p output).1))
        ((c.session.drop t).enter p output).2 (((c.session.drop t).enter p output).1 :: c.running)
  | landed {check} : check ∈ c.running → check.id ∉ c.session.stopped → c.session.holds check →
      Effect c (.finish check.id) (.finished (Session.landed check)) (c.session.land check)
        (c.running.filter fun r => r.id ≠ check.id)
  | superseded {check} : check ∈ c.running →
      (check.id ∈ c.session.stopped ∨ ¬ c.session.holds check) →
      Effect c (.finish check.id) (.finished .superseded) c.session
        (c.running.filter fun r => r.id ≠ check.id)
  | lost {check fault result} : check ∈ c.running → c.session.holds check →
      Effect c (.lose check.id fault) (.lost result)
        { c.session with registry := c.session.registry.leave check.target.slot }
        (c.running.filter fun r => r.id ≠ check.id)
  | abandoned {check fault result} : check ∈ c.running →
      (check.id ∈ c.session.stopped ∨ ¬ c.session.holds check) →
      Effect c (.lose check.id fault) (.lost result) c.session
        (c.running.filter fun r => r.id ≠ check.id)
  | clearedFile {p} : Effect c (.clearFile p) .done (c.session.clearFile p) c.running
  | clearedAll : Effect c .clearAll .done c.session.clearAll c.running
  | taken : Effect c .take (.changes c.session.store.changes) c.session.taken c.running
  | disposed : Effect c .dispose .done c.session.dispose c.running

theorem running?_eq_some {c : Course σ} {id : Nat} {check : Running}
    (h : c.running? id = some check) : check ∈ c.running ∧ check.id = id := by
  refine ⟨List.mem_of_find?_eq_some h, ?_⟩
  simpa using List.find?_some h

theorem running?_eq_none {c : Course σ} {id : Nat} (h : c.running? id = none) {check : Running}
    (hc : check ∈ c.running) : id ≠ check.id := by
  have := List.find?_eq_none.1 h check hc
  simpa [eq_comm] using this

theorem effect_ensure (host : Host σ) (c : Course σ) :
    Effect c .ensure (c.step host .ensure).1 (c.step host .ensure).2.session c.running := by
  show Effect c _ _ ((c.session.ensure host).run c.scene).1.2 c.running
  have idle : ¬ c.Renews .ensure → ∀ result,
      Effect c .ensure (.ensured result) c.session c.running := by
    intro renews result
    exact .idle renews (by intro check h; cases h) fun _ _ => not_false
  cases configured : c.session.configured with
  | true =>
    rw [Session.ensure_configured host configured]
    exact idle (by simp [Renews, configured]) _
  | false =>
    cases inputs : c.session.inputs with
    | none =>
      rw [Session.ensure_without_inputs host configured inputs]
      exact idle (by simp [Renews, inputs]) _
    | some given =>
      obtain ⟨settings, folders⟩ := given
      rw [(Session.ensure_again host configured inputs c.scene).1, Session.reload_run]
      exact .adopted _ ⟨configured, inputs⟩

theorem effect_start (host : Host σ) (c : Course σ) (t : Target) :
    Effect c (.start t) (c.step host (.start t)).1 (c.step host (.start t)).2.session
      (c.step host (.start t)).2.running := by
  rw [step_start]
  cases prepared : c.session.prepare t with
  | error result =>
    rw [start_refused host prepared]
    exact .idle not_false (by intro check h; cases h) fun _ _ => not_false
  | ok p =>
    rw [start_prepared host prepared]
    rcases spawn_cases host ((c.withSession (c.session.drop t)).say (c.session.prepareLog t)) p with
      ⟨output, state, -, spawned⟩ | ⟨fault, state, log, -, spawned⟩
    · rw [spawned]
      exact .started output prepared
    · rw [spawned]
      exact .notStarted prepared

theorem effect_finish (host : Host σ) (c : Course σ) (id : Nat) :
    Effect c (.finish id) (c.step host (.finish id)).1 (c.step host (.finish id)).2.session
      (c.step host (.finish id)).2.running := by
  cases known : c.running? id with
  | none =>
    have step : c.step host (.finish id) = (.done, c) := by simp only [step, known]
    rw [step]
    exact .idle not_false (by intro check h; cases h) fun check hc => running?_eq_none known hc
  | some check =>
    obtain ⟨running, rfl⟩ := running?_eq_some known
    have step : c.step host (.finish check.id) =
        (.finished (c.finish check).1, (c.finish check).2) := by simp only [step, known]
    rw [step]
    by_cases stopped : check.id ∈ c.session.stopped
    · have finish : c.session.finish check = (.superseded, c.session, []) := by
        simp only [Session.finish, stopped, if_true]
      simp only [Course.finish, finish]
      exact .superseded running (.inl stopped)
    · by_cases held : c.session.holds check = true
      · have finish : (c.session.finish check).1 = Session.landed check ∧
            (c.session.finish check).2.1 = c.session.land check := by
          simp [Session.finish, stopped, held]
        simp only [Course.finish, finish]
        exact .landed running stopped held
      · have finish : (c.session.finish check).1 = .superseded ∧
            (c.session.finish check).2.1 = c.session := by
          simp [Session.finish, stopped, held]
        simp only [Course.finish, finish]
        exact .superseded running (.inr held)

theorem effect_lose (host : Host σ) (c : Course σ) (id : Nat) (fault : HostFault) :
    Effect c (.lose id fault) (c.step host (.lose id fault)).1
      (c.step host (.lose id fault)).2.session (c.step host (.lose id fault)).2.running := by
  cases known : c.running? id with
  | none =>
    have step : c.step host (.lose id fault) = (.done, c) := by simp only [step, known]
    rw [step]
    exact .idle not_false (by intro check h; cases h) fun check hc => running?_eq_none known hc
  | some check =>
    obtain ⟨running, rfl⟩ := running?_eq_some known
    have step : c.step host (.lose check.id fault) =
        (.lost (c.lose check fault).1, (c.lose check fault).2) := by simp only [step, known]
    rw [step]
    by_cases stopped : check.id ∈ c.session.stopped
    · have lose : c.session.lose check fault = (.ok .superseded, c.session, []) := by
        simp only [Session.lose, stopped, if_true]
      simp only [Course.lose, lose]
      exact .abandoned running (.inl stopped)
    · have lose : (c.session.lose check fault).2.1 = c.session.release check := by
        simp only [Session.lose, stopped, if_false]
      simp only [Course.lose, lose, Session.release]
      by_cases held : c.session.holds check = true
      · simp only [held, if_true]
        exact .lost running held
      · simp only [held]
        exact .abandoned running (.inr held)

/-- Every operation has one of the effects. -/
theorem effect_step (host : Host σ) (c : Course σ) (o : Operation σ) :
    Effect c o (c.step host o).1 (c.step host o).2.session (c.step host o).2.running := by
  cases o with
  | reload settings folders =>
    show Effect c _ _ ((c.session.reload host settings folders).run c.scene).1.2 c.running
    rw [Session.reload_run]
    exact .adopted _ ⟨rfl, rfl⟩
  | ensure => exact effect_ensure host c
  | invalidate => exact .invalidated
  | toggle => exact .toggled
  | start t => exact effect_start host c t
  | finish id => exact effect_finish host c id
  | lose id fault => exact effect_lose host c id fault
  | clearFile p => exact .clearedFile
  | clearAll => exact .clearedAll
  | take => exact .taken
  | dispose => exact .disposed
  | outside change =>
    exact .idle not_false (by intro check h; cases h) fun _ _ => not_false

/-! ## Generations -/

/-- Settings are taken over or the session ends when a generation is opened. -/
theorem Renews.adopts_or_dispose {c : Course σ} {o : Operation σ} (h : c.Renews o) :
    (∃ settings folders, c.Adopts settings folders o) ∨ o = .dispose := by
  cases o with
  | reload settings folders => exact .inl ⟨settings, folders, rfl, rfl⟩
  | ensure =>
    obtain ⟨configured, inputs⟩ := h
    obtain ⟨⟨settings, folders⟩, given⟩ := Option.isSome_iff_exists.1 inputs
    exact .inl ⟨settings, folders, configured, given⟩
  | dispose => exact .inr rfl
  | _ => exact h.elim

/-- Within a generation no session becomes configured, and the configuration
changes in its run mode only. -/
theorem Effect.within {c : Course σ} {o : Operation σ} {reply : Reply} {s : Session}
    {running : List Running} (effect : Effect c o reply s running) (within : ¬ c.Renews o) :
    s.generation = c.session.generation ∧ (s.configured = true → c.session.configured = true) ∧
      ∃ mode, s.snapshot = c.session.snapshot.withRunMode mode := by
  have same : ∀ s' : Session, s'.generation = c.session.generation →
      s'.configured = c.session.configured → s'.snapshot = c.session.snapshot →
      s'.generation = c.session.generation ∧ (s'.configured = true → c.session.configured = true) ∧
        ∃ mode, s'.snapshot = c.session.snapshot.withRunMode mode := by
    intro s' generation configured snapshot
    exact ⟨generation, fun h => configured ▸ h, c.session.snapshot.runMode, snapshot⟩
  cases effect with
  | adopted ok adopts => exact absurd adopts.renews within
  | invalidated => exact ⟨rfl, nofun, c.session.snapshot.runMode, rfl⟩
  | toggled => exact ⟨rfl, id, _, rfl⟩
  | notStarted => exact same _ (by simp) (by simp) (by simp)
  | started => exact same _ (by simp) (by simp) (by simp)
  | disposed => exact absurd trivial within
  | _ => exact same _ rfl rfl rfl

/-! ## Starting for certain -/

/-- A check is started when its session is configured, its target is not excluded
and its checker starts. -/
theorem exists_started (output : Output) {c : Course σ} {t : Target}
    (configured : c.session.configured = true) (included : c.session.isExcluded t = .ok false) :
    ∃ check, (c.step (.uniform output) (.start t)).1 = .started (.running check) := by
  have prepared : c.session.prepare t = .ok (c.session.plan t) := by
    simp [Session.prepare, configured, included]
  rw [step_start, start_prepared _ prepared]
  rcases spawn_cases (.uniform output)
    ((c.withSession (c.session.drop t)).say (c.session.prepareLog t)) (c.session.plan t) with
      ⟨_, _, _, spawned⟩ | ⟨_, _, _, refused, _⟩
  · rw [spawned]
    exact ⟨_, rfl⟩
  · cases refused

end Course

/-! ## A sample -/

/-- The output of a checker that finds one thing, in the single-line layout. -/
def Output.sample : Output where
  out := Text.Utf8.encode
    "/a.c:1: ERROR:SPACING: space\ntotal: 1 errors, 0 warnings, 1 lines checked\n"
  err := []
  status := 0

/-- What it finds. -/
def Record.sample : Record := ⟨⟨"/a.c", 1, .error, "SPACING", "space"⟩, .information⟩

end PatchLint
