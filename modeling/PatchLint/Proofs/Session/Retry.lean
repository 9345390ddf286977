import PatchLint.Proofs.Session.Provenance
import PatchLint.Proofs.Session.Takeover

/-!
# Trying the last reload again

A reload drops all diagnostics and takes the slots of all running checks, so
trying the last one again looks expensive.  It is not: a session that would try
again holds nothing.  It lost its configuration to a reload or a disposal, which
left no diagnostics, no slot and a new generation, and without a configuration
nothing new is prepared.  `Session.Idle` says so of every session that
`Session.Retries`; each stage preserves it (`Staged.idle_step`).

What is left to do is to read off that trying again changes neither the store nor
the registry, and takes no landing away from a check (`Staged.ensure_keeps`).
-/

namespace PatchLint

variable {σ : Type}

namespace Session

def Retries (s : Session) : Prop := s.configured = false ∧ s.inputs.isSome

/-- The session has no diagnostics and no slot that is held, and every check that
runs or waits is of an earlier generation. -/
structure Idle (s : Session) (running : List Running) (waiting : List Prepared) : Prop where
  store : s.store.entries = ∅
  registry : s.registry = .empty
  running : ∀ r ∈ running, r.generation < s.generation
  waiting : ∀ p ∈ waiting, p.generation < s.generation

namespace Idle

variable {s : Session} {running running' : List Running} {waiting waiting' : List Prepared}

theorem mono (h : s.Idle running waiting) (ran : running' ⊆ running)
    (waited : waiting' ⊆ waiting) : s.Idle running' waiting' where
  store := h.store
  registry := h.registry
  running := fun r hr => h.running r (ran hr)
  waiting := fun p hp => h.waiting p (waited hp)

theorem stopAll (earlier : ∀ r ∈ running, r.generation ≤ s.generation)
    (waited : ∀ p ∈ waiting, p.generation ≤ s.generation) : s.stopAll.Idle running waiting where
  store := rfl
  registry := rfl
  running := fun r hr => Nat.lt_succ_of_le (earlier r hr)
  waiting := fun p hp => Nat.lt_succ_of_le (waited p hp)

theorem congr {s' : Session} (h : s.Idle running waiting)
    (store : s'.store.entries = s.store.entries) (registry : s'.registry = s.registry)
    (generation : s'.generation = s.generation) : s'.Idle running waiting where
  store := store.trans h.store
  registry := registry.trans h.registry
  running := by
    rw [generation]
    exact h.running
  waiting := by
    rw [generation]
    exact h.waiting

theorem not_holds (h : s.Idle running waiting) (r : Running) : ¬ s.holds r := by
  intro held
  rw [holds_iff, h.registry] at held
  cases held

theorem clearFile (h : s.Idle running waiting) (p : Path) :
    (s.clearFile p).Idle running waiting := by
  have absent : s.store.entries.contains p = false := by
    rw [h.store]
    rfl
  have same : s.clearFile p = s := by simp [Session.clearFile, Store.delete, absent]
  rw [same]
  exact h

/-- A check that waited for its checker is of an earlier generation, so it gets no
slot. -/
theorem enter (h : s.Idle running waiting) {p : Prepared} (waits : p ∈ waiting)
    (output : Output) :
    (s.enter p output).2.Idle ((s.enter p output).1 :: running) (waiting.erase p) := by
  have stale : p.generation ≠ s.generation := Nat.ne_of_lt (h.waiting p waits)
  have kept : (s.enter p output).2.Idle running (waiting.erase p) :=
    (h.mono (List.Subset.refl _) List.erase_subset).congr
      (by rw [store_enter]) (by rw [registry_enter, if_neg stale]) (generation_enter s p output)
  refine ⟨kept.store, kept.registry, ?_, kept.waiting⟩
  intro r hr
  rcases List.mem_cons.1 hr with rfl | hr
  · rw [generation_enter, enter_fst]
    exact h.waiting p waits
  · exact kept.running r hr

theorem clear_store (h : s.Idle running waiting) : s.store.clear = s.store := by
  have entries := h.store
  cases store : s.store with
  | mk held touched =>
    rw [store] at entries
    cases entries
    rfl

end Idle

end Session

/-- A session that would try again is idle after every operation if it was before. -/
theorem Course.Effect.idle_of_retries {c : Course σ} {o : Operation σ} {reply : Reply}
    {s : Session} {running : List Running} (effect : c.Effect o reply s running)
    {waiting : List Prepared} (h : c.session.Retries → c.session.Idle c.running waiting)
    (books : c.session.Accounts c.running)
    (waited : ∀ p ∈ waiting, p.generation ≤ c.session.generation) (retries : s.Retries) :
    s.Idle running waiting := by
  have fewer : ∀ check : Running, (c.running.filter fun r => r.id ≠ check.id) ⊆ c.running :=
    fun _ => List.filter_subset_self _
  cases effect with
  | idle => exact h retries
  | adopted ok _ => exact (Session.Idle.stopAll books.prepared waited).congr rfl rfl rfl
  | invalidated => cases retries.2
  | toggled => exact (h retries).congr rfl rfl rfl
  | notStarted prepared =>
    -- What was prepared was prepared in a configured session, which does not try again.
    have configured := (Session.prepare_eq_ok prepared).1
    have off := retries.1
    rw [Session.configured_drop, configured] at off
    cases off
  | started output prepared =>
    have configured := (Session.prepare_eq_ok prepared).1
    have off := retries.1
    rw [Session.configured_enter, Session.configured_drop, configured] at off
    cases off
  | landed _ _ held => exact absurd held ((h retries).not_holds _)
  | superseded => exact (h retries).mono (fewer _) (List.Subset.refl _)
  | lost _ held => exact absurd held ((h retries).not_holds _)
  | abandoned => exact (h retries).mono (fewer _) (List.Subset.refl _)
  | clearedFile => exact (h retries).clearFile _
  | clearedAll => exact (h retries).congr (h retries).store.symm rfl rfl
  | taken => exact (h retries).congr rfl rfl rfl
  | disposed => exact (Session.Idle.stopAll books.prepared waited).congr rfl rfl rfl

namespace Staged

/-! ## Idle sessions -/

/-- A session that would try again is idle after a stage if it was before. -/
theorem Effect.idle_of_retries {s : Staged σ} {o : Stage σ} {reply : Reply} {session : Session}
    {running : List Running} {waiting : List Prepared}
    (effect : Effect s o reply session running waiting) (unsettled : ∀ snapshot, o ≠ .settle snapshot)
    (h : s.course.session.Retries → s.course.session.Idle s.course.running s.waiting)
    (books : s.Accounts) (retries : session.Retries) : session.Idle running waiting := by
  cases effect with
  | whole effect => exact effect.idle_of_retries h books.running books.waiting retries
  | idle => exact h retries
  | prepared prepared =>
    have configured := (Session.prepare_eq_ok prepared).1
    have off := retries.1
    rw [Session.configured_drop, configured] at off
    cases off
  | spawned output waits =>
    rw [Session.Retries, Session.configured_enter, Session.inputs_enter] at retries
    exact (h retries).enter waits output
  | notSpawned => exact (h retries).mono (List.Subset.refl _) List.erase_subset
  | adopted =>
    exact (Session.Idle.stopAll books.running.prepared books.waiting).congr rfl rfl rfl
  | settled => exact absurd rfl (unsettled _)

theorem idle_step (host : Host σ) {s : Staged σ} (books : s.Accounts)
    (h : s.course.session.Retries → s.course.session.Idle s.course.running s.waiting)
    (o : Stage σ) (retries : (s.step host o).2.course.session.Retries) :
    (s.step host o).2.course.session.Idle (s.step host o).2.course.running
      (s.step host o).2.waiting := by
  by_cases settles : ∃ snapshot, o = .settle snapshot
  · obtain ⟨snapshot, rfl⟩ := settles
    -- The gate only ever configures a session, so one that would try again now would
    -- have done so before.
    have left : (s.step host (.settle snapshot)).2.course.session = _ :=
      Session.settle_session host snapshot s.course.session s.course.scene
    rw [left] at retries ⊢
    obtain ⟨off, inputs⟩ := retries
    have before : s.course.session.Retries := ⟨(Bool.or_eq_false_iff.1 off).1, inputs⟩
    exact (h before).congr rfl rfl rfl
  · exact (effect_step host s o).idle_of_retries (not_exists.1 settles) h books retries

/-- A session that would try its last reload again is idle, whatever has happened
to it. -/
theorem idle_of_new (host : Host σ) (state : σ) (layout? : Option Layout) (os : List (Stage σ)) :
    let s := (new state layout?).run host os
    s.course.session.Retries → s.course.session.Idle s.course.running s.waiting := by
  induction os using List.reverseRecOn with
  | nil =>
    intro s retries
    cases retries.2
  | append_singleton os o ih =>
    rw [run_concat]
    exact idle_step host (accounts_of_new host state layout? os) ih o

/-! ## Landing -/

/-- The check runs, and its findings are written when its checker ends. -/
def Lands (host : Host σ) (s : Staged σ) (check : Running) : Prop :=
  check ∈ s.course.running ∧
    (s.step host (.whole (.finish check.id))).1 = .finished (Session.landed check)

theorem generation_le_step (host : Host σ) (s : Staged σ) (o : Stage σ) :
    s.course.session.generation ≤ (s.step host o).2.course.session.generation := by
  have effect := effect_step host s o
  by_cases renews : s.Renews o
  · rw [(effect.renewed renews).1]
    exact Nat.le_succ _
  · exact Nat.le_of_eq (effect.within renews).1.symm

theorem generation_le_run (host : Host σ) (s : Staged σ) (os : List (Stage σ)) :
    s.course.session.generation ≤ (s.run host os).course.session.generation := by
  induction os generalizing s with
  | nil => exact Nat.le_refl _
  | cons o os ih => exact Nat.le_trans (generation_le_step host s o) (ih (s.step host o).2)

theorem Lands.current {host : Host σ} {s : Staged σ} (books : s.Accounts) {check : Running}
    (h : s.Lands host check) : check.generation = s.course.session.generation := by
  obtain ⟨runs, lands⟩ := h
  -- A check that does not hold its slot is superseded, and one that does is current.
  rcases Course.finish_cases host books.running runs with ⟨held, -⟩ | ⟨-, superseded, -⟩
  · exact books.running.current check runs held
  · cases superseded.symm.trans lands

/-! ## Trying again -/

theorem ensure_of_not_retries (host : Host σ) {s : Staged σ} (h : ¬ s.course.session.Retries) :
    (s.step host (.whole .ensure)).2 = s := by
  have idle : ∃ answer, (s.course.session.ensure host).run s.course.scene =
      ((answer, s.course.session), s.course.scene) := by
    cases configured : s.course.session.configured with
    | true => exact ⟨_, Session.ensure_configured host configured _⟩
    | false =>
      cases inputs : s.course.session.inputs with
      | none => exact ⟨_, Session.ensure_without_inputs host configured inputs _⟩
      | some given => exact absurd ⟨configured, by simp [inputs]⟩ h
  obtain ⟨answer, ran⟩ := idle
  simp only [step, Course.step, Course.work, ran]

theorem ensure_of_retries (host : Host σ) {s : Staged σ} (h : s.course.session.Retries) :
    ∃ settings folders ok, (s.step host (.whole .ensure)).2.course.session =
      { s.course.session.adopt settings folders with configured := ok } := by
  obtain ⟨⟨settings, folders⟩, inputs⟩ := Option.isSome_iff_exists.1 h.2
  obtain ⟨session, -, -⟩ := Session.ensure_again host h.1 inputs s.course.scene
  exact ⟨settings, folders, _, session.trans (Session.reload_run ..)⟩

/-- Trying the last reload again never costs anything.  A session that is not
configured and has something to try again holds no diagnostics and no slot.  So
whether it succeeds or not, trying again leaves the store and the registry as they
are, stops no check, and a check that runs or waits and would land after some
stages lands after them all the same. -/
theorem ensure_keeps (host : Host σ) (state : σ) (layout? : Option Layout)
    (os : List (Stage σ)) :
    let s := (new state layout?).run host os
    let tried := (s.step host (.whole .ensure)).2
    (s.course.session.configured = false → s.course.session.inputs.isSome →
      s.course.session.store.keys = [] ∧ s.course.session.registry = .empty) ∧
    tried.course.session.store = s.course.session.store ∧
    tried.course.session.registry = s.course.session.registry ∧
    tried.course.session.stopped = s.course.session.stopped ∧
    ∀ check, check ∈ s.course.running ∨ check.toPrepared ∈ s.waiting →
      ∀ more, (s.run host more).Lands host check → (tried.run host more).Lands host check := by
  intro s tried
  have idle := idle_of_new host state layout? os
  change s.course.session.Retries → s.course.session.Idle s.course.running s.waiting at idle
  refine ⟨?_, ?_⟩
  · intro off inputs
    have h := idle ⟨off, inputs⟩
    exact ⟨congrArg PathMap.keys h.store, h.registry⟩
  · by_cases retries : s.course.session.Retries
    · have h := idle retries
      obtain ⟨settings, folders, ok, left⟩ := ensure_of_retries host retries
      change tried.course.session = _ at left
      rw [left]
      refine ⟨h.clear_store, h.registry.symm, ?_, ?_⟩
      · show s.course.session.registry.ids ++ s.course.session.stopped = _
        rw [h.registry]
        rfl
      -- A check that lands later is of the generation of that moment, which is no
      -- earlier than this one; but all that runs or waits now is.
      · intro check present more lands
        have books := accounts_of_new host state layout? (os ++ more)
        have earlier : check.generation < s.course.session.generation := by
          rcases present with runs | waits
          · exact h.running check runs
          · exact h.waiting check.toPrepared waits
        rw [run_append] at books
        have current : check.generation = (s.run host more).course.session.generation :=
          lands.current books
        have later := generation_le_run host s more
        omega
    · have same : tried = s := ensure_of_not_retries host retries
      rw [same]
      exact ⟨rfl, rfl, rfl, fun _ _ _ lands => lands⟩

/-- A pattern that cannot be read leaves a session to try again, with a check
running, and nothing to lose by it. -/
theorem unreadable_pattern_leaves_nothing :
    let host : Host Unit := .uniform .sample
    let os := [.whole (.reload {} []), .whole (.start (.file (.ofString "/a.c"))),
      .whole (.finish 0), .whole (.start (.file (.ofString "/b.c"))),
      .whole (.reload { exclude := ["["] } [])]
    let s := (new () none).run host os
    let tried := (s.step host (.whole .ensure)).2
    s.course.running.length = 1 ∧ s.course.session.store.keys = [] ∧
      s.course.session.registry = .empty ∧ tried.course.session.store = s.course.session.store := by
  intro host os s tried
  obtain ⟨nothing, same, -⟩ := ensure_keeps host () none os
  obtain ⟨keys, registry⟩ := nothing (by decide +kernel) (by decide +kernel)
  exact ⟨by decide +kernel, keys, registry, same⟩

end Staged

end PatchLint
