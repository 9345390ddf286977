import PatchLint.Proofs.Session.Accounts

/-!
# Sessions that differ in one check

A check that runs is known to the others by its number and its slot only.  Two
sessions are *alike* but for a check if the one differs from the other in who
holds the slots that the check holds, and in nothing else (`Session.Alike`).
Whatever operation comes next leaves them alike, as long as the check does not end
and no check lands in the second session that does not land in the first
(`Course.Alike.step`).  So do operations one after the other (`Course.Alike.run`),
and two sessions that are alike have the same diagnostics and the same changes.
-/

namespace PatchLint

variable {σ : Type}

namespace Session

/-- The second session has the same slots held by the same checks, but for those that
the check with a number holds in the first.  Who may hold them in the second is
given. -/
structure Alike (heir : Option Nat → Prop) (n : Nat) (s t : Session) : Prop where
  rest : ∃ registry stopped, t = { s with registry, stopped }
  holder : ∀ slot, (s.registry.holder? slot = some n ∧ heir (t.registry.holder? slot)) ∨
    t.registry.holder? slot = s.registry.holder? slot
  passed : n < s.nextId

/-- A change of a session that has nothing to do with running checks. -/
structure Aside (f : Session → Session) : Prop where
  apart : ∀ (s : Session) registry stopped,
    f { s with registry, stopped } = { f s with registry, stopped } := by intros; rfl
  registry : ∀ s, (f s).registry = s.registry := by intros; rfl
  nextId : ∀ s, (f s).nextId = s.nextId := by intros; rfl

/-- Work on two sessions has the same answer, leaves the same scene, and leaves
sessions that are alike. -/
structure Agree {α : Type} (heir : Option Nat → Prop) (n : Nat)
    (a b : (α × Session) × Scene σ) : Prop where
  answer : b.1.1 = a.1.1
  scene : b.2 = a.2
  session : Alike heir n a.1.2 b.1.2

/-- A check that is started gets the next number. -/
theorem id_of_start (host : Host σ) (s : Session) (t : Target) (scene : Scene σ)
    {check : Running} (started : ((s.start host t).run scene).1.1 = .running check) :
    check.id = s.nextId := by
  cases prepared : s.prepare t with
  | error result =>
    rw [start_refused host prepared] at started
    cases started
  | ok p =>
    rw [start_prepared host prepared, spawn_run] at started
    split at started
    · cases started
      simp
    · cases started

namespace Alike

variable {heir : Option Nat → Prop} {n : Nat} {s t : Session}

theorem store (h : Alike heir n s t) : t.store = s.store := by
  obtain ⟨registry, stopped, rfl⟩ := h.rest
  rfl

theorem configured (h : Alike heir n s t) : t.configured = s.configured := by
  obtain ⟨registry, stopped, rfl⟩ := h.rest
  rfl

theorem inputs (h : Alike heir n s t) : t.inputs = s.inputs := by
  obtain ⟨registry, stopped, rfl⟩ := h.rest
  rfl

theorem prepare (h : Alike heir n s t) (target : Target) :
    t.prepare target = s.prepare target := by
  obtain ⟨registry, stopped, rfl⟩ := h.rest
  rfl

theorem prepareLog (h : Alike heir n s t) (target : Target) :
    t.prepareLog target = s.prepareLog target := by
  obtain ⟨registry, stopped, rfl⟩ := h.rest
  rfl

theorem map (h : Alike heir n s t) (f : Session → Session) (aside : Aside f) :
    Alike heir n (f s) (f t) where
  rest := by
    obtain ⟨registry, stopped, rfl⟩ := h.rest
    exact ⟨registry, stopped, aside.apart s registry stopped⟩
  holder := by
    rw [aside.registry s, aside.registry t]
    exact h.holder
  passed := (aside.nextId s).symm ▸ h.passed

theorem drop (h : Alike heir n s t) (target : Target) :
    Alike heir n (s.drop target) (t.drop target) := by
  cases target with
  | file path => exact h.map (·.clearFile path) {}
  | commit repository hash => exact h

/-- Nobody holds a slot in a new generation. -/
theorem stopAll (h : Alike heir n s t) : Alike heir n s.stopAll t.stopAll where
  rest := by
    obtain ⟨registry, stopped, rfl⟩ := h.rest
    exact ⟨.empty, registry.ids ++ stopped, rfl⟩
  holder := fun _ => .inr rfl
  passed := h.passed

theorem adopt (h : Alike heir n s t) (settings : Settings) (folders : List WorkspaceFolder) :
    Alike heir n (s.adopt settings folders) (t.adopt settings folders) :=
  h.stopAll.map (fun s => { s with
    snapshot := Snapshot.build settings folders
    inputs := some (settings, folders)
    configured := false }) {}

/-- A check that is entered takes its slot in both. -/
theorem enter (h : Alike heir n s t) (p : Prepared) (output : Output) :
    (t.enter p output).1 = (s.enter p output).1 ∧
      Alike heir n (s.enter p output).2 (t.enter p output).2 := by
  have holder := h.holder
  obtain ⟨registry, stopped, rfl⟩ := h.rest
  refine ⟨by simp, ?_, ?_, ?_⟩
  · by_cases current : p.generation = s.generation
    · simp only [Session.enter, current, ne_eq, not_true, if_false]
      exact ⟨_, _, rfl⟩
    · simp only [Session.enter, current, ne_eq, not_false_iff, if_true]
      exact ⟨_, _, rfl⟩
  · intro slot
    rw [registry_enter, registry_enter]
    split
    · rw [Registry.holder?_enter, Registry.holder?_enter]
      split
      · exact .inr rfl
      · exact holder slot
    · exact holder slot
  · rw [nextId_enter]
    exact Nat.lt_succ_of_lt h.passed

/-- A slot is left in both. -/
theorem leave (h : Alike heir n s t) (slot : Slot) :
    Alike heir n { s with registry := s.registry.leave slot }
      { t with registry := t.registry.leave slot } where
  rest := by
    obtain ⟨registry, stopped, rfl⟩ := h.rest
    exact ⟨registry.leave slot, stopped, rfl⟩
  holder := by
    intro other
    rw [Registry.holder?_leave, Registry.holder?_leave]
    split
    · exact .inr rfl
    · exact h.holder other
  passed := h.passed

theorem land (h : Alike heir n s t) (check : Running) :
    Alike heir n (s.land check) (t.land check) :=
  (h.leave check.target.slot).map (fun s => { s with
    store := (s.store.makeRoom check.target).writeGroups check.target check.report.groups }) {}

/-- Another check that holds its slot in the first session holds it in the second. -/
theorem holds (h : Alike heir n s t) {r : Running} (other : r.id ≠ n) (held : s.holds r) :
    t.holds r := by
  rw [holds_iff] at held ⊢
  rcases h.holder r.target.slot with ⟨own, -⟩ | same
  · exact absurd (Option.some.inj (held.symm.trans own)) other
  · exact same.trans held

/-- A check that holds its slot in the second session only has it from the check that
is apart. -/
theorem heir_of_holds (h : Alike heir n s t) {r : Running} (held : t.holds r)
    (lost : ¬ s.holds r) :
    s.registry.holder? r.target.slot = some n ∧ heir (some r.id) := by
  rw [holds_iff] at held lost
  rcases h.holder r.target.slot with ⟨own, spare⟩ | same
  · exact ⟨own, held ▸ spare⟩
  · exact absurd (same.symm.trans held) lost

/-! ## Work -/

variable (host : Host σ) (scene : Scene σ)

theorem spawn (h : Alike heir n s t) (p : Prepared) :
    Agree heir n ((s.spawn host p).run scene) ((t.spawn host p).run scene) := by
  rw [spawn_run, spawn_run]
  rcases host.start (p.resolved.launch p.target) scene.host with ⟨result, state⟩
  cases result with
  | ok output =>
    obtain ⟨check, session⟩ := h.enter p output
    exact ⟨congrArg Started.running check, rfl, session⟩
  | error fault => exact ⟨rfl, rfl, h⟩

theorem start (h : Alike heir n s t) (target : Target) :
    Agree heir n ((s.start host target).run scene) ((t.start host target).run scene) := by
  have same := h.prepare target
  cases prepared : s.prepare target with
  | error result =>
    rw [start_refused host prepared, start_refused host (same.trans prepared), h.prepareLog]
    exact ⟨rfl, rfl, h⟩
  | ok p =>
    rw [start_prepared host prepared, start_prepared host (same.trans prepared), h.prepareLog]
    exact (h.drop target).spawn host _ p

theorem settle (h : Alike heir n s t) (snapshot : Snapshot) :
    Agree heir n ((s.settle host snapshot).run scene) ((t.settle host snapshot).run scene) := by
  simp only [Session.settle, Work.run_bind]
  cases ((gate host snapshot snapshot.scopes).run scene).1.2 with
  | some failure => exact ⟨rfl, rfl, h⟩
  | none =>
    exact ⟨rfl, rfl, h.map (fun s => { s with configured := true }) {}⟩

theorem reload (h : Alike heir n s t) (settings : Settings) (folders : List WorkspaceFolder) :
    Agree heir n ((s.reload host settings folders).run scene)
      ((t.reload host settings folders).run scene) := by
  rw [reload_eq_settle, reload_eq_settle]
  exact (h.adopt settings folders).settle host _ _

theorem ensure (h : Alike heir n s t) :
    Agree heir n ((s.ensure host).run scene) ((t.ensure host).run scene) := by
  simp only [Session.ensure, h.configured, h.inputs]
  split
  · exact ⟨rfl, rfl, h⟩
  · split
    · exact ⟨rfl, rfl, h⟩
    · next settings folders _ =>
      obtain ⟨answer, after, session⟩ := h.reload host scene settings folders
      simp only [Work.run_bind, answer, after]
      cases ((s.reload host settings folders).run scene).1.1 with
      | ok u => exact ⟨rfl, rfl, session⟩
      | error fault => exact ⟨rfl, rfl, session⟩

end Alike

end Session

namespace Course

/-- Two courses whose sessions are alike but for a check, which runs in the first
only. -/
structure Alike (heir : Option Nat → Prop) (n : Nat) (c d : Course σ) : Prop where
  session : Session.Alike heir n c.session d.session
  scene : d.scene = c.scene
  running : d.running = c.running.filter fun r => r.id ≠ n
  books : c.session.Accounts c.running
  others : d.session.Accounts d.running

/-- The operation is not the end of a check from which the one with a number took its
slot, if such a check may have the slot instead. -/
def Apart (heir : Option Nat → Prop) (n : Nat) (c : Course σ) (o : Operation σ) : Prop :=
  ∀ r ∈ c.running, Ends r.id o → heir (some r.id) →
    c.session.registry.holder? r.target.slot ≠ some n

namespace Alike

variable {heir : Option Nat → Prop} {n : Nat} {c d : Course σ}

theorem mem_running (h : Alike heir n c d) {r : Running} :
    r ∈ d.running ↔ r ∈ c.running ∧ r.id ≠ n := by
  simp [h.running]

/-- Nobody is known by a number in the second course who is not in the first. -/
theorem running?_eq_none (h : Alike heir n c d) {id : Nat} (unknown : c.running? id = none) :
    d.running? id = none := by
  refine List.find?_eq_none.2 ?_
  intro r hr
  exact List.find?_eq_none.1 unknown r (h.mem_running.1 hr).1

/-- What an operation leaves is alike if the sessions, scenes and running checks are:
the books are kept in both. -/
theorem of_step (h : Alike heir n c d) (host : Host σ) (o : Operation σ)
    (session : Session.Alike heir n (c.step host o).2.session (d.step host o).2.session)
    (scene : (d.step host o).2.scene = (c.step host o).2.scene)
    (running : (d.step host o).2.running =
      (c.step host o).2.running.filter fun r => r.id ≠ n) :
    Alike heir n (c.step host o).2 (d.step host o).2 :=
  ⟨session, scene, running, (effect_step host c o).accounts h.books,
    (effect_step host d o).accounts h.others⟩

/-- A check that ends with sessions that are alike, and the same lines in both. -/
theorem conclude (h : Alike heir n c d) {s t : Session} (session : Session.Alike heir n s t)
    (log : Log) (r : Running) :
    let a := ((c.withSession s).say log).without r
    let b := ((d.withSession t).say log).without r
    Session.Alike heir n a.session b.session ∧ b.scene = a.scene ∧
      b.running = a.running.filter fun r => r.id ≠ n := by
  refine ⟨session, ?_, ?_⟩
  · simp [Course.without, say, withSession, h.scene]
  · simp only [Course.without, say, withSession, h.running]
    exact List.filter_comm ..

/-- Another check ends alike if it holds its slot in both or in neither.  What becomes
of the session if it does is given. -/
theorem step_end (h : Alike heir n c d) (host : Host σ) {o : Operation σ} {r : Running}
    (hr : r ∈ c.running) (other : r.id ≠ n) (lands : d.session.holds r → c.session.holds r)
    (f : Session → Session) (log : Log)
    (ends : ∀ e : Course σ, e.session.Accounts e.running → r ∈ e.running →
      (e.step host o).2 = if e.session.holds r then
        ((e.withSession (f e.session)).say log).without r else e.without r)
    (session : Session.Alike heir n (f c.session) (f d.session)) :
    Alike heir n (c.step host o).2 (d.step host o).2 := by
  have here := ends c h.books hr
  have there := ends d h.others (h.mem_running.2 ⟨hr, other⟩)
  by_cases held : c.session.holds r
  · rw [if_pos held] at here
    rw [if_pos (h.session.holds other held)] at there
    obtain ⟨session, scene, running⟩ := h.conclude session log r
    refine h.of_step host o ?_ ?_ ?_
    all_goals rw [here, there]
    exacts [session, scene, running]
  · rw [if_neg held] at here
    rw [if_neg (mt lands held)] at there
    obtain ⟨session, scene, running⟩ := h.conclude h.session [] r
    refine h.of_step host o ?_ ?_ ?_
    all_goals rw [here, there]
    · exact session
    · exact h.scene
    · exact running

/-- Work that agrees on sessions that are alike leaves courses that are alike. -/
theorem of_work {α : Type} (h : Alike heir n c d) (host : Host σ) {o : Operation σ}
    (w : Session → Work σ (α × Session))
    (agree : ∀ scene, Session.Agree heir n ((w c.session).run scene) ((w d.session).run scene))
    (step : ∀ e : Course σ, (e.step host o).2 = (e.work w).2) :
    Alike heir n (c.step host o).2 (d.step host o).2 := by
  obtain ⟨-, scene, session⟩ := agree c.scene
  refine h.of_step host o ?_ ?_ ?_
  all_goals simp only [step, work, h.scene]
  · exact session
  · exact scene
  · exact h.running

theorem of_map (h : Alike heir n c d) (host : Host σ) {o : Operation σ} (f : Session → Session)
    (aside : Session.Aside f)
    (step : ∀ e : Course σ, (e.step host o).2 = e.withSession (f e.session)) :
    Alike heir n (c.step host o).2 (d.step host o).2 := by
  refine h.of_step host o ?_ ?_ ?_
  all_goals simp only [step, withSession]
  · exact h.session.map f aside
  · exact h.scene
  · exact h.running

/-- A check that is started runs in both. -/
theorem step_start (h : Alike heir n c d) (host : Host σ) (t : Target) :
    Alike heir n (c.step host (.start t)).2 (d.step host (.start t)).2 := by
  have agree := h.session.start host c.scene t
  have fresh : ∀ check : Running, _ → check.id = c.session.nextId :=
    fun _ => Session.id_of_start host c.session t c.scene
  have here : c.step host (.start t) = (.started (c.start host t).1, (c.start host t).2) := rfl
  have there : d.step host (.start t) = (.started (d.start host t).1, (d.start host t).2) := rfl
  refine h.of_step host _ ?_ ?_ ?_
  all_goals
    rw [here, there]
    simp only [Course.start, work, h.scene]
    generalize (c.session.start host t).run c.scene = a at agree fresh ⊢
    generalize (d.session.start host t).run c.scene = b at agree ⊢
    obtain ⟨⟨started, s⟩, scene⟩ := a
    obtain ⟨⟨started', s'⟩, scene'⟩ := b
    obtain ⟨⟨⟩, ⟨⟩, session⟩ := agree
    cases started
  · exact session
  · exact session
  · rfl
  · rfl
  · exact h.running
  · next check =>
    have other : check.id ≠ n := fresh check rfl ▸ Ne.symm (Nat.ne_of_lt h.session.passed)
    simp [enlist, h.running, other]

/-- Whatever operation comes next leaves courses alike that were alike, as long as the
check does not end and no other lands in the second course only. -/
theorem step (h : Alike heir n c d) (host : Host σ) {o : Operation σ} (goesOn : ¬ Ends n o)
    (apart : c.Apart heir n o) : Alike heir n (c.step host o).2 (d.step host o).2 := by
  have other : ∀ r : Running, Ends r.id o → r.id ≠ n := by
    rintro r ends rfl
    exact goesOn ends
  have lands : ∀ r ∈ c.running, Ends r.id o → d.session.holds r → c.session.holds r := by
    intro r hr ends held
    by_contra lost
    obtain ⟨own, inherits⟩ := h.session.heir_of_holds held lost
    exact apart r hr ends inherits own
  cases o with
  | reload settings folders =>
    exact h.of_work host (·.reload host settings folders)
      (h.session.reload host · settings folders) fun _ => rfl
  | ensure => exact h.of_work host (·.ensure host) (h.session.ensure host) fun _ => rfl
  | invalidate => exact h.of_map host Session.invalidate {} fun _ => rfl
  | toggle =>
    refine h.of_step host _ ?_ ?_ h.running
    · exact h.session.map Session.toggle {}
    · obtain ⟨registry, stopped, rest⟩ := h.session.rest
      simp only [Course.step, say, withSession, h.scene, rest]
      rfl
  | start t => exact h.step_start host t
  | finish id =>
    cases known : c.running? id with
    | none => simpa only [Course.step, known, h.running?_eq_none known] using h
    | some r =>
      obtain ⟨hr, rfl⟩ := running?_eq_some known
      refine h.step_end host hr (other r rfl) (lands r hr rfl) (·.land r)
        (Session.complaintLog r ++ Session.landedLog r) (fun e books mem => ?_) (h.session.land r)
      rw [Course.step_finish host books mem]
      split <;> rfl
  | lose id fault =>
    cases known : c.running? id with
    | none => simpa only [Course.step, known, h.running?_eq_none known] using h
    | some r =>
      obtain ⟨hr, rfl⟩ := running?_eq_some known
      refine h.step_end host hr (other r rfl) (lands r hr rfl)
        (fun s => { s with registry := s.registry.leave r.target.slot })
        [.error (unreadable fault)] (fun e books mem => ?_) (h.session.leave r.target.slot)
      rw [Course.step_lose host books mem]
      split <;> rfl
  | clearFile p => exact h.of_map host (·.clearFile p) {} fun _ => rfl
  | clearAll => exact h.of_map host Session.clearAll {} fun _ => rfl
  | take => exact h.of_map host Session.taken {} fun _ => rfl
  | dispose =>
    refine h.of_step host _ ?_ h.scene h.running
    exact h.session.stopAll.map (fun s => { s with configured := false }) {}
  | outside change =>
    refine h.of_step host _ h.session ?_ h.running
    exact congrArg (fun scene : Scene σ => { scene with host := change scene.host }) h.scene

/-- Operations one after the other leave courses alike that were alike. -/
theorem run (h : Alike heir n c d) (host : Host σ) {os : List (Operation σ)}
    (goesOn : ∀ o ∈ os, ¬ Ends n o) (apart : ∀ m ∈ c.history host os, m.1.Apart heir n m.2) :
    Alike heir n (c.run host os) (d.run host os) := by
  induction os generalizing c d with
  | nil => exact h
  | cons o os ih =>
    obtain ⟨on, goesOn⟩ := List.forall_mem_cons.1 goesOn
    obtain ⟨first, apart⟩ := List.forall_mem_cons.1 apart
    exact ih (h.step host on first) goesOn apart

end Alike

/-! ## A check that was not asked for -/

/-- The course with the next number passed over, and another scene. -/
def passing (c : Course σ) (scene : Scene σ) : Course σ :=
  { c with session := { c.session with nextId := c.session.nextId + 1 }, scene }

/-- The course in which the check that holds a slot is told to stop. -/
def interrupted (c : Course σ) (slot : Slot) : Course σ :=
  c.withSession { c.session with
    registry := c.session.registry.leave slot
    stopped := (c.session.registry.holder? slot).toList ++ c.session.stopped }

/-- A check that is entered makes no difference but in its number and its slot. -/
theorem alike_entered {c d : Course σ} (books : c.session.Accounts c.running) {p : Prepared}
    (current : p.generation = c.session.generation) (output : Output) {heir : Option Nat → Prop}
    (others : d.session.Accounts c.running) (running : d.running = c.running)
    (rest : ∃ registry stopped, d.session =
      { c.session with nextId := c.session.nextId + 1, registry, stopped })
    (own : heir (d.session.registry.holder? p.target.slot))
    (same : ∀ slot, p.target.slot ≠ slot →
      d.session.registry.holder? slot = c.session.registry.holder? slot) :
    let entered := c.session.enter p output
    Alike heir entered.1.id ⟨entered.2, d.scene, entered.1 :: c.running⟩ d := by
  intro entered
  have number : entered.1.id = c.session.nextId := by simp [entered]
  rw [number]
  have apart : c.running = c.running.filter fun r => r.id ≠ c.session.nextId :=
    (List.filter_eq_self.2 fun r hr => by simpa using books.ne_nextId hr).symm
  refine ⟨⟨?_, ?_, ?_⟩, rfl, ?_, books.enter p output (Nat.le_of_eq current), running ▸ others⟩
  · obtain ⟨registry, stopped, rest⟩ := rest
    refine ⟨registry, stopped, rest.trans ?_⟩
    simp [entered, Session.enter, current]
  · intro slot
    simp only [entered, Session.registry_enter, current, if_true, Registry.holder?_enter]
    by_cases here : p.target.slot = slot
    · exact .inl ⟨if_pos here, here ▸ own⟩
    · exact .inr ((same slot here).trans (if_neg here).symm)
  · simp [entered]
  · rw [running]
    simpa [entered] using apart

theorem alike_passing {c : Course σ} (books : c.session.Accounts c.running) {p : Prepared}
    (current : p.generation = c.session.generation) (output : Output) (scene : Scene σ) :
    let entered := c.session.enter p output
    Alike (fun _ => True) entered.1.id ⟨entered.2, scene, entered.1 :: c.running⟩
      (c.passing scene) :=
  alike_entered books current output (d := c.passing scene) books.skip rfl ⟨_, _, rfl⟩ trivial
    fun _ _ => rfl

/-- If the check that held the slot is told to stop all the same, nobody holds it in
place of the check that is entered. -/
theorem alike_interrupted {c : Course σ} (books : c.session.Accounts c.running) {p : Prepared}
    (current : p.generation = c.session.generation) (output : Output) (scene : Scene σ) :
    let entered := c.session.enter p output
    Alike (· = none) entered.1.id ⟨entered.2, scene, entered.1 :: c.running⟩
      ((c.interrupted p.target.slot).passing scene) := by
  intro entered
  have kept : ((c.interrupted p.target.slot).passing scene).session.Accounts c.running :=
    (books.interrupt p.target.slot).skip
  refine alike_entered books current output kept rfl ⟨_, _, rfl⟩ ?_ ?_
  · exact (Registry.holder?_leave ..).trans (if_pos rfl)
  · intro slot other
    exact (Registry.holder?_leave ..).trans (if_neg other)

end Course

end PatchLint
