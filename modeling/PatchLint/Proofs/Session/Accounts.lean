import Mathlib.Data.List.Nodup
import PatchLint.Proofs.Session.Effects

/-!
# The books of running checks

A session knows its running checks by number only: which of them holds a slot,
and which of them it has told to stop.  `Session.Accounts` says how these books
agree with the checks that run.  A slot is held by a running check that competes
for it and was prepared in the present generation, and a running check was told
to stop exactly when it does not hold its slot.  So the two ways in which a check
may learn that it was superseded, the order to stop and the loss of its slot,
always agree.

Every operation keeps the books (`Course.Effect.accounts`,
`Course.accounts_run`).
-/

namespace PatchLint

variable {σ : Type}

/-- The books of a session agree with the checks that are running. -/
structure Session.Accounts (s : Session) (running : List Running) : Prop where
  /-- Numbers are given out in turn. -/
  numbered : ∀ r ∈ running, r.id < s.nextId
  /-- No number is given out twice. -/
  distinct : (running.map Running.id).Nodup
  /-- Whoever holds a slot runs, and competes for that slot. -/
  held : ∀ e ∈ s.registry.entries, ∃ r ∈ running, r.target.slot = e.1 ∧ r.id = e.2
  /-- Only checks that were started are told to stop. -/
  past : ∀ id ∈ s.stopped, id < s.nextId
  /-- A running check was told to stop exactly when it lost its slot. -/
  stopped : ∀ r ∈ running, r.id ∈ s.stopped ↔ ¬ s.holds r
  /-- A check was prepared in this generation or an earlier one. -/
  prepared : ∀ r ∈ running, r.generation ≤ s.generation
  /-- Whoever holds a slot was prepared in this generation. -/
  current : ∀ r ∈ running, s.holds r → r.generation = s.generation

namespace Session

theorem holds_iff {s : Session} {r : Running} :
    s.holds r ↔ s.registry.holder? r.target.slot = some r.id := by
  simp [holds]

/-- Nobody holds a slot in a new generation. -/
theorem not_holds_stopAll (s : Session) (r : Running) : ¬ s.stopAll.holds r := by
  intro h
  cases holds_iff.1 h

/-! ## Ending a check -/

/-- The other checks hold their slots as before when a check leaves its own. -/
theorem holds_leave {s s' : Session} {check r : Running} (held : s.holds check)
    (other : check.id ≠ r.id)
    (registry : s'.registry = s.registry.leave check.target.slot) :
    s'.holds r ↔ s.holds r := by
  rw [holds_iff, holds_iff, registry, Registry.holder?_leave]
  split
  · next same =>
    have := holds_iff.1 held
    rw [same] at this
    simp [this, other]
  · exact Iff.rfl

/-! ## Keeping the books -/

namespace Accounts

variable {s : Session} {running : List Running}

/-- A new session, in which nothing runs. -/
theorem new (layout? : Option Layout) : (Session.new layout?).Accounts [] where
  numbered := by simp
  distinct := List.nodup_nil
  held := by
    intro e he
    cases he
  past := by
    intro id h
    cases h
  stopped := by simp
  prepared := by simp
  current := by simp

/-- A number names one check. -/
theorem eq_of_id (h : s.Accounts running) {a b : Running} (ha : a ∈ running) (hb : b ∈ running)
    (same : a.id = b.id) : a = b :=
  List.inj_on_of_nodup_map h.distinct ha hb same

/-- The check that holds a slot. -/
theorem exists_of_holder? (h : s.Accounts running) {slot : Slot} {id : Nat}
    (held : s.registry.holder? slot = some id) :
    ∃ r ∈ running, r.target.slot = slot ∧ r.id = id :=
  h.held _ (Registry.holder?_eq_some_iff.1 held)

/-- The next number is not in use. -/
theorem ne_nextId (h : s.Accounts running) {r : Running} (hr : r ∈ running) :
    r.id ≠ s.nextId := Nat.ne_of_lt (h.numbered r hr)

/-- Every check is told to stop, and nobody holds a slot. -/
theorem stopAll (h : s.Accounts running) : s.stopAll.Accounts running where
  numbered := h.numbered
  distinct := h.distinct
  held := by
    intro e he
    cases he
  past := by
    intro id k
    rcases List.mem_append.1 k with held | before
    · obtain ⟨e, he, rfl⟩ := List.mem_map.1 held
      obtain ⟨r, hr, -, same⟩ := h.held e he
      exact same ▸ h.numbered r hr
    · exact h.past id before
  stopped := by
    intro r hr
    refine ⟨fun _ => not_holds_stopAll s r, fun _ => ?_⟩
    by_cases k : s.holds r
    · have entry := Registry.holder?_eq_some_iff.1 (holds_iff.1 k)
      exact List.mem_append_left _ (List.mem_map.2 ⟨_, entry, rfl⟩)
    · exact List.mem_append_right _ ((h.stopped r hr).2 k)
  prepared := by
    intro r hr
    exact Nat.le_succ_of_le (h.prepared r hr)
  current := by
    intro r _ k
    exact absurd k (not_holds_stopAll s r)

/-- Whoever holds a slot is the check that competes for it under that number. -/
theorem holder?_iff (h : s.Accounts running) {r : Running} (hr : r ∈ running) (slot : Slot) :
    s.registry.holder? slot = some r.id ↔ s.holds r ∧ r.target.slot = slot := by
  constructor
  · intro held
    obtain ⟨q, hq, hslot, same⟩ := h.exists_of_holder? held
    obtain rfl := h.eq_of_id hq hr same
    exact ⟨holds_iff.2 (hslot ▸ held), hslot⟩
  · rintro ⟨held, rfl⟩
    exact holds_iff.1 held

/-- Noticing that a check was told to stop and noticing that it lost its slot is
the same. -/
theorem lost_iff (h : s.Accounts running) {r : Running} (hr : r ∈ running) :
    (r.id ∈ s.stopped ∨ ¬ s.holds r) ↔ ¬ s.holds r := by
  rw [h.stopped r hr, or_self]

/-- A running check lands at its end if it holds its slot.  Otherwise it was told to
stop, and its end changes nothing. -/
theorem finish_eq (h : s.Accounts running) {r : Running} (hr : r ∈ running) :
    s.finish r =
      if s.holds r then (landed r, s.land r, complaintLog r ++ landedLog r)
      else (.superseded, s, []) := by
  by_cases held : s.holds r
  · have goesOn : r.id ∉ s.stopped := fun told => (h.stopped r hr).1 told held
    simp [Session.finish, goesOn, held]
  · have told : r.id ∈ s.stopped := (h.stopped r hr).2 held
    simp [Session.finish, told, held]

/-- A running check whose output cannot be read gives up its slot if it holds it.
Otherwise it was told to stop, and its end changes nothing. -/
theorem lose_eq (h : s.Accounts running) {r : Running} (hr : r ∈ running) (fault : HostFault) :
    s.lose r fault =
      if s.holds r then
        (.error fault, { s with registry := s.registry.leave r.target.slot },
          [.error (unreadable fault)])
      else (.ok .superseded, s, []) := by
  by_cases held : s.holds r
  · have goesOn : r.id ∉ s.stopped := fun told => (h.stopped r hr).1 told held
    simp [Session.lose, Session.release, goesOn, held]
  · have told : r.id ∈ s.stopped := (h.stopped r hr).2 held
    simp [Session.lose, told, held]

/-- The next number holds no slot. -/
theorem holder?_ne_nextId (h : s.Accounts running) (slot : Slot) :
    s.registry.holder? slot ≠ some s.nextId := by
  intro held
  obtain ⟨r, hr, -, same⟩ := h.exists_of_holder? held
  exact h.ne_nextId hr same

/-- A check holds its slot after it was entered exactly when it is of this
generation. -/
theorem holds_enter_self (h : s.Accounts running) (p : Prepared) (output : Output) :
    (s.enter p output).2.holds (s.enter p output).1 ↔ p.generation = s.generation := by
  rw [holds_iff, registry_enter, enter_fst]
  split
  · next current => simp [Registry.holder?_enter, current]
  · next stale => simp [h.holder?_ne_nextId, stale]

/-- The other checks hold their slots as before, unless the new one took theirs. -/
theorem holds_enter (h : s.Accounts running) (p : Prepared) (output : Output) {r : Running}
    (hr : r ∈ running) :
    (s.enter p output).2.holds r ↔
      s.holds r ∧ ¬ (p.generation = s.generation ∧ p.target.slot = r.target.slot) := by
  rw [holds_iff, holds_iff, registry_enter]
  split
  · next current =>
    have older : s.nextId ≠ r.id := Ne.symm (h.ne_nextId hr)
    by_cases same : p.target.slot = r.target.slot
    · simp [Registry.holder?_enter, same, older, current]
    · simp [Registry.holder?_enter, same]
  · next stale => simp [stale]

/-- A check that is entered is told to stop at once, or the check that held its
slot is. -/
theorem enter (h : s.Accounts running) (p : Prepared) (output : Output)
    (earlier : p.generation ≤ s.generation) :
    (s.enter p output).2.Accounts ((s.enter p output).1 :: running) where
  numbered := by
    intro r hr
    rw [nextId_enter]
    rcases List.mem_cons.1 hr with rfl | hr
    · simp
    · exact Nat.lt_succ_of_lt (h.numbered r hr)
  distinct := by
    refine List.nodup_cons.2 ⟨?_, h.distinct⟩
    intro known
    obtain ⟨r, hr, same⟩ := List.mem_map.1 known
    exact h.ne_nextId hr (by simpa using same)
  held := by
    intro e he
    rw [registry_enter] at he
    split at he
    · rcases Registry.mem_entries_enter.1 he with rfl | ⟨he, -⟩
      · exact ⟨_, List.mem_cons_self, by simp⟩
      · obtain ⟨r, hr, k⟩ := h.held e he
        exact ⟨r, List.mem_cons_of_mem _ hr, k⟩
    · obtain ⟨r, hr, k⟩ := h.held e he
      exact ⟨r, List.mem_cons_of_mem _ hr, k⟩
  past := by
    intro id hid
    rw [nextId_enter]
    rw [stopped_enter] at hid
    rcases List.mem_append.1 hid with told | before
    · split at told
      · obtain ⟨r, hr, -, rfl⟩ := h.exists_of_holder? (Option.mem_toList.1 told)
        exact Nat.lt_succ_of_lt (h.numbered r hr)
      · obtain rfl := List.mem_singleton.1 told
        exact Nat.lt_succ_self _
    · exact Nat.lt_succ_of_lt (h.past id before)
  stopped := by
    intro r hr
    rw [stopped_enter, List.mem_append]
    rcases List.mem_cons.1 hr with rfl | hr
    -- A new number is among the stopped ones only if it is put there right now.
    · have unknown : s.nextId ∉ s.stopped := fun k => Nat.lt_irrefl _ (h.past _ k)
      rw [h.holds_enter_self, enter_fst]
      split
      · next current => simp [unknown, h.holder?_ne_nextId, current]
      · next stale => simp [stale]
    · rw [h.holds_enter p output hr, h.stopped r hr]
      split
      · next current =>
        rw [Option.mem_toList, h.holder?_iff hr]
        by_cases k : s.holds r <;> simp [k, current, eq_comm]
      · next stale => simp [h.ne_nextId hr, stale]
  prepared := by
    intro r hr
    rw [generation_enter]
    rcases List.mem_cons.1 hr with rfl | hr
    · simpa using earlier
    · exact h.prepared r hr
  current := by
    intro r hr held
    rw [generation_enter]
    rcases List.mem_cons.1 hr with rfl | hr
    · simpa using (h.holds_enter_self p output).1 held
    · exact h.current r hr ((h.holds_enter p output hr).1 held).1

/-- The books depend on nothing but the registry and its counters. -/
theorem congr {s' : Session} (h : s.Accounts running) (registry : s'.registry = s.registry)
    (nextId : s'.nextId = s.nextId) (generation : s'.generation = s.generation)
    (stopped : s'.stopped = s.stopped) : s'.Accounts running := by
  have holds : ∀ r, s'.holds r = s.holds r := by
    intro r
    simp only [Session.holds, registry]
  constructor
  · simpa only [nextId] using h.numbered
  · exact h.distinct
  · simpa only [registry] using h.held
  · simpa only [nextId, stopped] using h.past
  · simpa only [stopped, holds] using h.stopped
  · simpa only [generation] using h.prepared
  · simpa only [holds, generation] using h.current

/-- The books of a session whose diagnostics of a file were dropped. -/
theorem drop (h : s.Accounts running) (t : Target) : (s.drop t).Accounts running :=
  h.congr (registry_drop s t) (nextId_drop s t) (generation_drop s t) (stopped_drop s t)

/-- The books do not mind a number that is passed over. -/
theorem skip (h : s.Accounts running) :
    ({ s with nextId := s.nextId + 1 } : Session).Accounts running where
  numbered := fun r hr => Nat.lt_succ_of_lt (h.numbered r hr)
  distinct := h.distinct
  held := h.held
  past := fun id told => Nat.lt_succ_of_lt (h.past id told)
  stopped := h.stopped
  prepared := h.prepared
  current := h.current

/-- The check that holds a slot is told to stop, and nobody holds the slot. -/
theorem interrupt (h : s.Accounts running) (slot : Slot) :
    ({ s with
      registry := s.registry.leave slot
      stopped := (s.registry.holder? slot).toList ++ s.stopped } : Session).Accounts running where
  numbered := h.numbered
  distinct := h.distinct
  held := fun e he => h.held e (Registry.mem_entries_leave.1 he).1
  past := by
    intro id told
    rcases List.mem_append.1 told with held | before
    · obtain ⟨r, hr, -, rfl⟩ := h.exists_of_holder? (Option.mem_toList.1 held)
      exact h.numbered r hr
    · exact h.past id before
  stopped := by
    intro r hr
    rw [List.mem_append, Option.mem_toList, h.holder?_iff hr, h.stopped r hr]
    simp only [Session.holds, Registry.holder?_leave]
    by_cases own : slot = r.target.slot
    · simp [own, em]
    · simp [own, Ne.symm own]
  prepared := h.prepared
  current := by
    intro r hr held
    rw [holds_iff, Registry.holder?_leave] at held
    split at held
    · cases held
    · exact h.current r hr (holds_iff.2 held)

/-- A check that lost its slot runs no longer. -/
theorem without (h : s.Accounts running) {check : Running} (hc : check ∈ running)
    (lost : ¬ s.holds check) : s.Accounts (running.filter fun r => r.id ≠ check.id) where
  numbered := fun r hr => h.numbered r (List.mem_of_mem_filter hr)
  distinct := h.distinct.sublist (List.filter_sublist.map _)
  held := by
    intro e he
    obtain ⟨r, hr, hslot, hid⟩ := h.held e he
    refine ⟨r, List.mem_filter.2 ⟨hr, ?_⟩, hslot, hid⟩
    have held : s.registry.holder? e.1 = some r.id :=
      Registry.holder?_eq_some_iff.2 (hid ▸ he)
    simp only [decide_eq_true_eq]
    intro same
    obtain rfl := h.eq_of_id hr hc same
    exact lost ((h.holder?_iff hr _).1 held).1
  past := h.past
  stopped := fun r hr => h.stopped r (List.mem_of_mem_filter hr)
  prepared := fun r hr => h.prepared r (List.mem_of_mem_filter hr)
  current := fun r hr => h.current r (List.mem_of_mem_filter hr)

/-- A check that held its slot leaves it and runs no longer. -/
theorem leave (h : s.Accounts running) {check : Running} (hc : check ∈ running)
    (held : s.holds check) {s' : Session}
    (registry : s'.registry = s.registry.leave check.target.slot)
    (nextId : s'.nextId = s.nextId) (generation : s'.generation = s.generation)
    (stopped : s'.stopped = s.stopped) :
    s'.Accounts (running.filter fun r => r.id ≠ check.id) := by
  have mem : ∀ r, r ∈ running.filter (fun r => r.id ≠ check.id) → r ∈ running ∧ r.id ≠ check.id := by
    intro r hr
    simpa using hr
  constructor
  · intro r hr
    rw [nextId]
    exact h.numbered r (mem r hr).1
  · exact h.distinct.sublist (List.filter_sublist.map _)
  · intro e he
    rw [registry] at he
    obtain ⟨he, hslot⟩ := Registry.mem_entries_leave.1 he
    obtain ⟨r, hr, hs, hid⟩ := h.held e he
    refine ⟨r, List.mem_filter.2 ⟨hr, ?_⟩, hs, hid⟩
    simp only [decide_eq_true_eq]
    intro same
    obtain rfl := h.eq_of_id hr hc same
    exact hslot hs.symm
  · rw [nextId, stopped]
    exact h.past
  · intro r hr
    rw [stopped, holds_leave held (mem r hr).2.symm registry]
    exact h.stopped r (mem r hr).1
  · intro r hr
    rw [generation]
    exact h.prepared r (mem r hr).1
  · intro r hr k
    rw [generation]
    exact h.current r (mem r hr).1 ((holds_leave held (mem r hr).2.symm registry).1 k)

end Accounts

/-! ## Checking with nothing in between -/

/-- A check that is entered right after it was prepared holds its slot. -/
theorem Accounts.enter_plan {s : Session} {running : List Running} (books : s.Accounts running)
    (t : Target) (output : Output) :
    let entered := (s.drop t).enter (s.plan t) output
    entered.2.Accounts (entered.1 :: running) ∧ entered.2.holds entered.1 :=
  have current := (generation_drop s t).symm
  ⟨(books.drop t).enter _ output (Nat.le_of_eq current),
    ((books.drop t).holds_enter_self (s.plan t) output).2 current⟩

theorem check_refused (host : Host σ) {s : Session} {t : Target}
    {result : Except CheckFault Outcome} (refused : s.prepare t = .error result)
    (scene : Scene σ) : ((s.check host t).run scene).1 = (result, s) := by
  simp only [check, Work.run_bind, start_refused host refused, Work.run_pure]

/-- A check that was prepared lands once its checker has started, if nothing gets in
its way. -/
theorem check_prepared (host : Host σ) {s : Session} {running : List Running}
    (books : s.Accounts running) {t : Target} {p : Prepared} (prepared : s.prepare t = .ok p)
    (scene : Scene σ) :
    ((s.check host t).run scene).1 =
      match (host.start (p.resolved.launch p.target) scene.host).1 with
      | .error fault => (.error (.notStarted p.resolved.config.executable fault), s.drop t)
      | .ok output =>
          let entered := (s.drop t).enter p output
          (.ok (landed entered.1), entered.2.land entered.1) := by
  obtain ⟨-, rfl⟩ := prepare_eq_ok prepared
  simp only [check, Work.run_bind, start_prepared host prepared, spawn_run]
  rcases host.start ((s.plan t).resolved.launch (s.plan t).target) scene.host with ⟨result, state⟩
  cases result with
  | error fault => rfl
  | ok output =>
    obtain ⟨entered, held⟩ := books.enter_plan t output
    have finish := entered.finish_eq List.mem_cons_self
    rw [if_pos held] at finish
    simp only [Work.run_bind, Work.run_say, Work.run_pure, finish]

/-- A check that was prepared starts its checker, and nothing else. -/
theorem host_check (host : Host σ) {s : Session} {t : Target} {p : Prepared}
    (prepared : s.prepare t = .ok p) (scene : Scene σ) :
    ((s.check host t).run scene).2.host =
      (host.start (p.resolved.launch p.target) scene.host).2 := by
  simp only [check, Work.run_bind, start_prepared host prepared, spawn_run]
  rcases host.start (p.resolved.launch p.target) scene.host with ⟨result, state⟩
  cases result with
  | error fault => rfl
  | ok output => rfl

/-- A check that nothing gets in the way of keeps the books, and does not run any more. -/
theorem Accounts.check (host : Host σ) {s : Session} {running : List Running}
    (books : s.Accounts running) (t : Target) (scene : Scene σ) :
    ((s.check host t).run scene).1.2.Accounts running := by
  cases prepared : s.prepare t with
  | error result =>
    rw [check_refused host prepared]
    exact books
  | ok p =>
    rw [check_prepared host books prepared]
    obtain ⟨-, rfl⟩ := prepare_eq_ok prepared
    split
    · exact books.drop t
    · next output _ =>
      have number : ((s.drop t).enter (s.plan t) output).1.id = s.nextId := by simp
      obtain ⟨entered, held⟩ := books.enter_plan t output
      generalize (s.drop t).enter (s.plan t) output = e at number entered held
      have others : (e.1 :: running).filter (fun r => r.id ≠ e.1.id) = running := by
        rw [List.filter_cons_of_neg (by simp), number]
        exact List.filter_eq_self.2 fun r hr => decide_eq_true (books.ne_nextId hr)
      have left : (e.2.land e.1).Accounts _ := entered.leave List.mem_cons_self held rfl rfl rfl rfl
      rwa [others] at left

end Session

namespace Course

/-- The books agree with the running checks after every operation. -/
theorem Effect.accounts {c : Course σ} {o : Operation σ} {reply : Reply}
    {s : Session} {running : List Running} (effect : Effect c o reply s running)
    (h : c.session.Accounts c.running) : s.Accounts running := by
  cases effect with
  | idle => exact h
  | adopted ok _ => exact h.stopAll.congr rfl rfl rfl rfl
  | invalidated => exact h.congr rfl rfl rfl rfl
  | toggled => exact h.congr rfl rfl rfl rfl
  | notStarted => exact h.drop _
  | started output prepared =>
    obtain ⟨-, rfl⟩ := Session.prepare_eq_ok prepared
    exact (h.drop _).enter _ output (by simp [Session.plan])
  | landed running _ held => exact h.leave running held rfl rfl rfl rfl
  | superseded running lost => exact h.without running ((h.lost_iff running).1 lost)
  | lost running held => exact h.leave running held rfl rfl rfl rfl
  | abandoned running lost => exact h.without running ((h.lost_iff running).1 lost)
  | clearedFile => exact h.congr rfl rfl rfl rfl
  | clearedAll => exact h.congr rfl rfl rfl rfl
  | taken => exact h.congr rfl rfl rfl rfl
  | disposed => exact h.stopAll.congr rfl rfl rfl rfl

/-- Operations one after the other keep the books. -/
theorem accounts_run (host : Host σ) {c : Course σ} (h : c.session.Accounts c.running)
    (os : List (Operation σ)) : (c.run host os).session.Accounts (c.run host os).running := by
  induction os generalizing c with
  | nil => exact h
  | cons o os ih => exact ih ((effect_step host c o).accounts h)

/-- A running check is known by its number. -/
theorem running?_of_mem {c : Course σ} (h : c.session.Accounts c.running) {r : Running}
    (hr : r ∈ c.running) : c.running? r.id = some r := by
  cases known : c.running? r.id with
  | none => exact absurd rfl (running?_eq_none known hr)
  | some q =>
    obtain ⟨hq, same⟩ := running?_eq_some known
    rw [h.eq_of_id hq hr same]

/-- The end of a running check: it lands if it holds its slot, and only leaves
otherwise. -/
theorem step_finish (host : Host σ) {c : Course σ} (h : c.session.Accounts c.running)
    {r : Running} (hr : r ∈ c.running) :
    c.step host (.finish r.id) =
      if c.session.holds r then
        (.finished (Session.landed r), ((c.withSession (c.session.land r)).say
          (Session.complaintLog r ++ Session.landedLog r)).without r)
      else (.finished .superseded, c.without r) := by
  simp only [step, running?_of_mem h hr, finish, h.finish_eq hr]
  split
  · rfl
  · simp [say, withSession]

/-- A running check whose output cannot be read leaves its slot if it holds it. -/
theorem step_lose (host : Host σ) {c : Course σ} (h : c.session.Accounts c.running)
    {r : Running} (hr : r ∈ c.running) (fault : HostFault) :
    c.step host (.lose r.id fault) =
      if c.session.holds r then
        (.lost (.error fault), ((c.withSession
          { c.session with registry := c.session.registry.leave r.target.slot }).say
            [.error (unreadable fault)]).without r)
      else (.lost (.ok .superseded), c.without r) := by
  simp only [step, running?_of_mem h hr, lose, h.lose_eq hr fault]
  split
  · rfl
  · simp [say, withSession]

/-- The books of a session agree with its running checks, whatever has happened
to it. -/
theorem accounts_of_new (host : Host σ) (state : σ) (layout? : Option Layout)
    (os : List (Operation σ)) :
    let c := (new state layout?).run host os
    c.session.Accounts c.running :=
  accounts_run host (c := new state layout?) (Session.Accounts.new layout?) os

end Course

end PatchLint
