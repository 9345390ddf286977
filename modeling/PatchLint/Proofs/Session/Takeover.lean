import PatchLint.Proofs.Session.Accounts

/-!
# The latest check lands

A running check keeps its slot until an operation takes it: a check that is
started for the same slot, or a new generation (`Course.holds_run`).  Since a
check lands exactly when it holds its slot at its end, its outcome is settled by
what has happened in between and by nothing else
(`Course.completed_iff_not_displaced`).
-/

namespace PatchLint

variable {σ : Type}

namespace Course

/-! ## Slots of running checks -/

/-- A session with the same registry has the same holders. -/
theorem holds_of_registry {s s' : Session} (same : s'.registry = s.registry) (r : Running) :
    s'.holds r ↔ s.holds r := by
  simp only [Session.holds, same]

/-- A check that is started takes the slot it competes for, and no other. -/
theorem Effect.holds_start {c : Course σ} {t : Target} {reply : Reply}
    {s : Session} {running : List Running} (effect : Effect c (.start t) reply s running)
    (h : c.session.Accounts c.running) {r : Running} (hr : r ∈ c.running) :
    r ∈ running ∧ (s.holds r ↔ c.session.holds r ∧
      ¬ (t.slot = r.target.slot ∧ ∃ check, reply = .started (.running check))) := by
  cases effect with
  | idle _ starts _ =>
    exact ⟨hr, by simp [starts]⟩
  | adopted _ adopts => exact adopts.elim
  | notStarted =>
    exact ⟨hr, by simp [holds_of_registry (Session.registry_drop _ _)]⟩
  | started output prepared =>
    obtain ⟨-, rfl⟩ := Session.prepare_eq_ok prepared
    refine ⟨List.mem_cons_of_mem _ hr, ?_⟩
    rw [(h.drop t).holds_enter _ output hr, holds_of_registry (Session.registry_drop _ _)]
    simp [Session.plan]

/-- An operation that starts nothing takes slots only when it opens a new
generation. -/
theorem Effect.holds_other {c : Course σ} {o : Operation σ} {reply : Reply}
    {s : Session} {running : List Running} (effect : Effect c o reply s running)
    {r : Running} (hr : r ∈ c.running)
    (starts : ∀ t, o ≠ .start t) (goesOn : ¬ Ends r.id o) :
    r ∈ running ∧ (s.holds r ↔ c.session.holds r ∧ ¬ c.Renews o) := by
  have stays : ∀ check : Running, check.id ≠ r.id →
      r ∈ c.running.filter fun q => q.id ≠ check.id := by
    intro check other
    exact List.mem_filter.2 ⟨hr, by simpa using Ne.symm other⟩
  have lost : ¬ c.session.stopAll.holds r := Session.not_holds_stopAll _ _
  cases effect with
  | idle renews _ _ => exact ⟨hr, by simp [renews]⟩
  | adopted ok adopts =>
    exact ⟨hr, fun k => absurd k lost, fun k => absurd adopts.renews k.2⟩
  | invalidated => exact ⟨hr, (and_iff_left not_false).symm⟩
  | toggled => exact ⟨hr, (and_iff_left not_false).symm⟩
  | notStarted => exact absurd rfl (starts _)
  | started => exact absurd rfl (starts _)
  | landed running _ held =>
    exact ⟨stays _ goesOn, (Session.holds_leave held goesOn rfl).trans (and_iff_left not_false).symm⟩
  | superseded running lost => exact ⟨stays _ goesOn, (and_iff_left not_false).symm⟩
  | lost running held =>
    exact ⟨stays _ goesOn, (Session.holds_leave held goesOn rfl).trans (and_iff_left not_false).symm⟩
  | abandoned running lost => exact ⟨stays _ goesOn, (and_iff_left not_false).symm⟩
  | clearedFile => exact ⟨hr, (and_iff_left not_false).symm⟩
  | clearedAll => exact ⟨hr, (and_iff_left not_false).symm⟩
  | taken => exact ⟨hr, (and_iff_left not_false).symm⟩
  | disposed => exact ⟨hr, fun k => absurd k lost, fun k => absurd trivial k.2⟩

/-- A running check keeps its slot until another operation takes it. -/
theorem holds_step {host : Host σ} {c : Course σ} (h : c.session.Accounts c.running)
    {r : Running} (hr : r ∈ c.running) {o : Operation σ} (goesOn : ¬ Ends r.id o) :
    r ∈ (c.step host o).2.running ∧
      ((c.step host o).2.session.holds r ↔
        c.session.holds r ∧ ¬ c.Displaces host r.target.slot o) := by
  have effect := effect_step host c o
  cases o with
  | start t => simpa [Displaces, Renews, Enters] using effect.holds_start h hr
  | _ => simpa [Displaces, Enters] using effect.holds_other hr (by simp) goesOn

/-- A running check holds its slot after some operations exactly when none of
them has taken it. -/
theorem holds_run (host : Host σ) {c : Course σ} (h : c.session.Accounts c.running)
    {r : Running} (hr : r ∈ c.running) {os : List (Operation σ)}
    (goesOn : ∀ o ∈ os, ¬ Ends r.id o) :
    r ∈ (c.run host os).running ∧
      ((c.run host os).session.holds r ↔
        c.session.holds r ∧ ∀ m ∈ c.history host os, ¬ m.1.Displaces host r.target.slot m.2) := by
  induction os generalizing c with
  | nil => simp [run, history, hr]
  | cons o os ih =>
    obtain ⟨stays, step⟩ := holds_step h hr (goesOn o List.mem_cons_self)
    obtain ⟨still, rest⟩ := ih ((effect_step host c o).accounts h) stays
      fun o' ho' => goesOn o' (List.mem_cons_of_mem _ ho')
    refine ⟨still, rest.trans ?_⟩
    rw [step, history, List.forall_mem_cons, and_assoc]

/-! ## The outcome of a check -/

/-- A check that is started runs, and holds its slot. -/
theorem holds_of_started {host : Host σ} {c : Course σ} (h : c.session.Accounts c.running)
    {t : Target} {check : Running}
    (started : (c.step host (.start t)).1 = .started (.running check)) :
    check.target = t ∧ check ∈ (c.step host (.start t)).2.running ∧
      (c.step host (.start t)).2.session.holds check := by
  have effect := effect_step host c (.start t)
  rw [started] at effect
  generalize (c.step host (.start t)).2.session = s at effect ⊢
  generalize (c.step host (.start t)).2.running = running at effect ⊢
  cases effect with
  | idle _ starts _ => exact absurd rfl (starts check)
  | adopted _ adopts => exact adopts.elim
  | started output prepared =>
    obtain ⟨-, rfl⟩ := Session.prepare_eq_ok prepared
    refine ⟨by simp [Session.plan], List.mem_cons_self, ?_⟩
    rw [(h.drop t).holds_enter_self]
    simp [Session.plan]

/-- A running check completes at its end if it holds its slot; otherwise it is
superseded, and leaves everything as it is. -/
theorem finish_cases (host : Host σ) {c : Course σ} (h : c.session.Accounts c.running)
    {check : Running} (hc : check ∈ c.running) :
    let ended := c.step host (.finish check.id)
    (c.session.holds check ∧ ended.1 = .finished (Session.landed check) ∧
      ended.2.session = c.session.land check) ∨
    (¬ c.session.holds check ∧ ended.1 = .finished .superseded ∧
      ended.2.session = c.session) := by
  intro ended
  have step : ended = _ := step_finish host h hc
  by_cases held : c.session.holds check
  · rw [if_pos held] at step
    exact .inl ⟨held, congrArg Prod.fst step, congrArg (fun r => r.2.session) step⟩
  · rw [if_neg held] at step
    exact .inr ⟨held, congrArg Prod.fst step, congrArg (fun r => r.2.session) step⟩

/-- The end of a running check changes the diagnostics only if it lands. -/
theorem store_of_end (host : Host σ) {c : Course σ} (h : c.session.Accounts c.running)
    {check : Running} (hc : check ∈ c.running) :
    let ended := c.step host (.finish check.id)
    ((∃ findings files, ended.1 = .finished (.completed findings files) ∧
        ended.2.session.store = (c.session.land check).store) ∨
      (ended.1 = .finished .superseded ∧ ended.2.session.store = c.session.store)) ∧
    ∀ fault, (c.step host (.lose check.id fault)).2.session.store = c.session.store := by
  intro ended
  refine ⟨?_, ?_⟩
  · rcases finish_cases host h hc with ⟨-, completed, landed⟩ | ⟨-, superseded, same⟩
    · exact .inl ⟨_, _, completed, congrArg Session.store landed⟩
    · exact .inr ⟨superseded, congrArg Session.store same⟩
  · intro fault
    rw [step_lose host h hc]
    split <;> rfl

/-- A running check that holds its slot lands, unless the slot is taken from it. -/
theorem lands_unless_displaced (host : Host σ) {c : Course σ}
    (h : c.session.Accounts c.running) {r : Running} (hr : r ∈ c.running)
    (held : c.session.holds r) {os : List (Operation σ)} (goesOn : ∀ o ∈ os, ¬ Ends r.id o)
    (kept : ∀ m ∈ c.history host os, ¬ m.1.Displaces host r.target.slot m.2) :
    ((c.run host os).step host (.finish r.id)).1 = .finished (Session.landed r) := by
  obtain ⟨stays, holds⟩ := holds_run host h hr goesOn
  rcases finish_cases host (accounts_run host h os) stays with ⟨-, landed, -⟩ | ⟨lost, -⟩
  · exact landed
  · exact absurd (holds.2 ⟨held, kept⟩) lost

/-- A check completes exactly when, from its start to its end, no other check was
started for its slot, nothing was reloaded and the session was not ended.
Otherwise it is superseded, and its end changes nothing. -/
theorem completed_iff_not_displaced (host : Host σ) (state : σ) (layout? : Option Layout)
    (before during : List (Operation σ)) (t : Target) (check : Running)
    (started : (((new state layout?).run host before).step host (.start t)).1 =
      .started (.running check))
    (runs : ∀ o ∈ during, ¬ Ends check.id o) :
    let start := (((new state layout?).run host before).step host (.start t)).2
    let present := start.run host during
    let ended := present.step host (.finish check.id)
    let kept := ∀ m ∈ start.history host during, ¬ m.1.Displaces host t.slot m.2
    ((∃ findings files, ended.1 = .finished (.completed findings files)) ↔ kept) ∧
      (¬ kept → ended.1 = .finished .superseded ∧
        ended.2.session.store = present.session.store ∧
        ended.2.session.registry = present.session.registry) := by
  intro start present ended kept
  have books := accounts_of_new host state layout? before
  obtain ⟨rfl, running, held⟩ := holds_of_started books started
  -- Right after its start the check holds its slot, so losing it and being
  -- displaced come to the same.
  have later := (effect_step host _ (.start check.target)).accounts books
  obtain ⟨stays, holds⟩ := holds_run host later running runs
  have holds : present.session.holds check ↔ kept := holds.trans (and_iff_right held)
  have present_books := accounts_run host later during
  rcases finish_cases host present_books stays with ⟨held, completed, -⟩ | ⟨lost, superseded, same⟩
  · have k : kept := holds.1 held
    exact ⟨⟨fun _ => k, fun _ => ⟨_, _, completed⟩⟩, absurd k⟩
  · have k : ¬ kept := mt holds.2 lost
    refine ⟨⟨?_, fun k' => absurd k' k⟩, fun _ => ⟨superseded, ?_, ?_⟩⟩
    · rintro ⟨findings, files, completed⟩
      cases superseded.symm.trans completed
    · exact congrArg Session.store same
    · exact congrArg Session.registry same

/-- Two spellings of a path are one slot: a check of a file is superseded by a
later check of the same file. -/
theorem superseded_by_respelled :
    let checker : Host Unit := .uniform .sample
    let reloaded := (new () none).run checker [.reload {} []]
    let first : Target := .file (.ofString "/a.c")
    let second : Target := .file (.ofString "//a.c")
    ∃ check, (reloaded.step checker (.start first)).1 = .started (.running check) ∧
      (((reloaded.step checker (.start first)).2.run checker [.start second]).step checker
        (.finish check.id)).1 = .finished .superseded := by
  intro checker reloaded first second
  have configured : reloaded.session.configured = true := by decide +kernel
  obtain ⟨check, started⟩ :
      ∃ check, (reloaded.step checker (.start first)).1 = .started (.running check) :=
    exists_started .sample configured (by decide +kernel)
  refine ⟨check, started, ?_⟩
  have outcome := completed_iff_not_displaced checker () none [.reload {} []] [.start second]
    first check started (by simp [Ends])
  refine (outcome.2 fun kept => ?_).1
  have taken := exists_started .sample (c := (reloaded.step checker (.start first)).2) (t := second)
    (by decide +kernel) (by decide +kernel)
  exact kept _ List.mem_cons_self (.inr ⟨by decide +kernel, taken⟩)

end Course

end PatchLint
