import PatchLint.Proofs.Session.Stages
import PatchLint.Proofs.Session.Takeover
import PatchLint.Proofs.Since

/-!
# Checks in flight

The registry knows a check by its slot and its number.  This module says who is in it
from what has happened alone: a check is in flight from the moment it gets its slot until
it ends, its slot is taken, or a generation is opened (`Staged.InFlight`).  The start of a
check gives it its slot.  Only a check that was prepared first and spawned later, in
another generation, never gets one; it is stopped at once.

One stage leaves the checks in flight that were so before, apart from those it ends or
displaces, and adds the one it starts (`Staged.registered_step`).  So the registry is
exact after any run, and empty once every check has ended (`Staged.registry_exact`).
-/

namespace PatchLint

variable {σ : Type}

/-- A session in which no slot is held says that nothing is in flight. -/
theorem Session.summary_of_empty {s : Session} (empty : s.registry.entries = []) :
    s.summary = "CheckpatchContext \x7b configured: " ++ Log.truth s.configured ++
      ", diagnostics: " ++ Text.numeral s.store.total ++ ", in_flight: 0, .. \x7d" := by
  have counted : Text.numeral s.registry.size = "0" := by
    rw [Registry.size, empty]
    decide +kernel
  have last : ∀ front : String,
      front ++ ", in_flight: " ++ "0" ++ ", .. \x7d" = front ++ ", in_flight: 0, .. \x7d" := by
    intro front
    simp [String.append_assoc]
  unfold summary
  simp only [counted]
  exact last _

namespace Session.Accounts

variable {s : Session} {running : List Running}

/-- The entries of the registry are the running checks that hold their slots. -/
theorem mem_entries_iff (h : s.Accounts running) {slot : Slot} {id : Nat} :
    (slot, id) ∈ s.registry.entries ↔
      ∃ r, r ∈ running ∧ s.holds r ∧ r.target.slot = slot ∧ r.id = id := by
  constructor
  · intro entry
    obtain ⟨r, hr, rfl, rfl⟩ := h.held _ entry
    exact ⟨r, hr, holds_iff.2 (Registry.holder?_eq_some_iff.2 entry), rfl, rfl⟩
  · rintro ⟨r, -, held, rfl, rfl⟩
    exact Registry.holder?_eq_some_iff.1 (holds_iff.1 held)

/-- No number holds two slots. -/
theorem nodup_ids (h : s.Accounts running) : s.registry.ids.Nodup := by
  have slots : (s.registry.entries.map Prod.fst).Nodup := List.pairwise_map.2 s.registry.single
  refine List.Nodup.map_on ?_ slots.of_map
  intro a ha b hb same
  obtain ⟨r, hr, hslot, hid⟩ := h.held a ha
  obtain ⟨q, hq, hslot', hid'⟩ := h.held b hb
  obtain rfl := h.eq_of_id hr hq (hid.trans (same.trans hid'.symm))
  exact Prod.ext (hslot.symm.trans hslot') same

end Session.Accounts

namespace Course

/-- Nothing but the start of a check starts a checker. -/
theorem exists_start_of_started {host : Host σ} {c : Course σ} {o : Operation σ} {check : Running}
    (started : (c.step host o).1 = .started (.running check)) : ∃ t, o = .start t := by
  cases o with
  | start t => exact ⟨t, rfl⟩
  | finish id =>
    cases known : c.running? id with
    | none => simp [step, known] at started
    | some check => simp [step, known] at started
  | lose id fault =>
    cases known : c.running? id with
    | none => simp [step, known] at started
    | some check => simp [step, known] at started
  | _ => cases started

/-- A check that is started gets the next number. -/
theorem id_of_started {host : Host σ} {c : Course σ} {t : Target} {check : Running}
    (started : (c.step host (.start t)).1 = .started (.running check)) :
    check.id = c.session.nextId := by
  have effect := effect_start host c t
  rw [started] at effect
  generalize (c.step host (.start t)).2.session = s at effect
  generalize (c.step host (.start t)).2.running = running at effect
  cases effect with
  | idle _ starts _ => exact absurd rfl (starts check)
  | adopted _ adopts => exact adopts.elim
  | started output prepared => simp

theorem Effect.nextId_le {c : Course σ} {o : Operation σ} {reply : Reply} {s : Session}
    {running : List Running} (effect : Effect c o reply s running) :
    c.session.nextId ≤ s.nextId := by
  cases effect with
  | notStarted => simp
  | started => simp
  | _ => exact Nat.le_refl _

/-- A check runs after an operation if it was started right then, or if it ran before and
the operation is not its end. -/
theorem mem_running_step (host : Host σ) (c : Course σ) (o : Operation σ) (r : Running) :
    r ∈ (c.step host o).2.running ↔
      (c.step host o).1 = .started (.running r) ∨ r ∈ c.running ∧ ¬ Ends r.id o := by
  have effect := effect_step host c o
  have starts : (c.step host o).1 = .started (.running r) → ∃ t, o = .start t :=
    exists_start_of_started
  generalize (c.step host o).1 = reply at effect starts ⊢
  generalize (c.step host o).2.session = s at effect
  generalize (c.step host o).2.running = running at effect ⊢
  cases effect with
  | idle _ starts goesOn =>
    have goesOn : r ∈ c.running → ¬ Ends r.id o := goesOn r
    simpa [starts r] using goesOn
  | adopted ok adopts =>
    have silent : reply ≠ .started (.running r) := by
      intro started
      obtain ⟨t, rfl⟩ := starts started
      exact adopts.elim
    have goesOn : ¬ Ends r.id o := by
      cases o with
      | finish id => exact adopts.elim
      | lose id fault => exact adopts.elim
      | _ => exact not_false
    simp [silent, goesOn]
  | started output prepared => simp [Ends, eq_comm]
  | landed => simp [Ends, eq_comm (a := r.id)]
  | superseded => simp [Ends, eq_comm (a := r.id)]
  | lost => simp [Ends, eq_comm (a := r.id)]
  | abandoned => simp [Ends, eq_comm (a := r.id)]
  | _ => simp [Ends]

end Course

namespace Staged

/-! ## Histories -/

/-- The stage starts the checker of a check. -/
def Spawns (host : Host σ) (s : Staged σ) (check : Running) (o : Stage σ) : Prop :=
  (s.step host o).1 = .started (.running check)

/-- The stage starts the checker of a check and gives the check its slot.  A check that
was prepared before gets none if a generation was opened since. -/
def Enters (host : Host σ) (s : Staged σ) (check : Running) : Stage σ → Prop
  | .spawn p => s.Spawns host check (.spawn p) ∧ p.generation = s.course.session.generation
  | o => s.Spawns host check o

/-- The stage is the end of a check. -/
def Ends (id : Nat) : Stage σ → Prop
  | .whole o => Course.Ends id o
  | _ => False

/-- The stage takes a slot from the check that holds it. -/
def Displaces (host : Host σ) (s : Staged σ) (slot : Slot) (o : Stage σ) : Prop :=
  s.Renews o ∨ ∃ check, s.Enters host check o ∧ check.target.slot = slot

/-- The check was spawned at some moment of a history, and has not ended since. -/
def Unfinished (host : Host σ) (past : List (Staged σ × Stage σ)) (check : Running) : Prop :=
  ∃ before m after, past = before ++ m :: after ∧ m.1.Spawns host check m.2 ∧
    ∀ n ∈ after, ¬ Ends check.id n.2

/-- The check got its slot at some moment of a history, and since then it has not ended
and nothing has taken the slot from it. -/
def InFlight (host : Host σ) (past : List (Staged σ × Stage σ)) (check : Running) : Prop :=
  ∃ before m after, past = before ++ m :: after ∧ m.1.Enters host check m.2 ∧
    ∀ n ∈ after, ¬ Ends check.id n.2 ∧ ¬ n.1.Displaces host check.target.slot n.2

/-! ## Spawning -/

/-- A check that waited is entered when its checker starts.  Otherwise nothing changes
about running checks and slots. -/
theorem spawn_cases (host : Host σ) (s : Staged σ) (p : Prepared) :
    let spawned := s.step host (.spawn p)
    (∃ output, spawned.1 = .started (.running (s.course.session.enter p output).1) ∧
        spawned.2.course.session = (s.course.session.enter p output).2 ∧
        spawned.2.course.running =
          (s.course.session.enter p output).1 :: s.course.running) ∨
      ((∀ check, ¬ s.Spawns host check (.spawn p)) ∧
        spawned.2.course.session = s.course.session ∧
        spawned.2.course.running = s.course.running) := by
  intro spawned
  by_cases waits : p ∈ s.waiting
  · have step : spawned = (.started (s.course.spawn host p).1,
        ⟨(s.course.spawn host p).2, s.waiting.erase p⟩) := by
      simp only [spawned, Staged.step, waits, if_true]
    rcases Course.spawn_cases host s.course p with
      ⟨output, state, -, started⟩ | ⟨fault, state, log, -, failed⟩
    · rw [started] at step
      rw [step]
      exact .inl ⟨output, rfl, rfl, rfl⟩
    · rw [failed] at step
      refine .inr ⟨fun check spawns => ?_, by rw [step], by rw [step]⟩
      cases (congrArg Prod.fst step).symm.trans spawns
  · have step : spawned = (.done, s) := by
      simp only [spawned, Staged.step, waits, if_false]
    refine .inr ⟨fun check spawns => ?_, by rw [step], by rw [step]⟩
    cases (congrArg Prod.fst step).symm.trans spawns

theorem not_spawns_prepare (host : Host σ) (s : Staged σ) (check : Running) (t : Target) :
    ¬ s.Spawns host check (.prepare t) := by
  intro spawns
  rw [Spawns, step] at spawns
  cases prepared : s.course.session.prepare t with
  | error result =>
    rw [prepared] at spawns
    cases spawns
  | ok p =>
    rw [prepared] at spawns
    cases spawns

/-- Preparing a check changes nothing about running checks and slots. -/
theorem prepare_keeps (host : Host σ) (s : Staged σ) (t : Target) :
    (s.step host (.prepare t)).2.course.running = s.course.running ∧
      (s.step host (.prepare t)).2.course.session.registry = s.course.session.registry := by
  rw [step]
  cases s.course.session.prepare t with
  | error result => exact ⟨rfl, rfl⟩
  | ok p => exact ⟨rfl, Session.registry_drop s.course.session t⟩

/-- Only the start of a check and its second stage start a checker. -/
theorem Spawns.cases {host : Host σ} {s : Staged σ} {check : Running} {o : Stage σ}
    (spawns : s.Spawns host check o) :
    (∃ t, o = .whole (.start t)) ∨
      ∃ p output, o = .spawn p ∧ check = (s.course.session.enter p output).1 ∧
        (s.step host o).2.course.session = (s.course.session.enter p output).2 := by
  cases o with
  | whole o =>
    obtain ⟨t, rfl⟩ := Course.exists_start_of_started spawns
    exact .inl ⟨t, rfl⟩
  | prepare t => exact absurd spawns (s.not_spawns_prepare host check t)
  | spawn p =>
    rcases s.spawn_cases host p with ⟨output, reply, session, -⟩ | ⟨silent, -⟩
    · cases reply.symm.trans spawns
      exact .inr ⟨p, output, rfl, rfl, session⟩
    · exact absurd spawns (silent check)
  | adopt settings folders => cases spawns
  | settle snapshot => cases spawns

/-- A check runs after a stage if its checker was started right then, or if it ran before
and the stage is not its end. -/
theorem mem_running_step (host : Host σ) (s : Staged σ) (o : Stage σ) (r : Running) :
    r ∈ (s.step host o).2.course.running ↔
      s.Spawns host r o ∨ r ∈ s.course.running ∧ ¬ Ends r.id o := by
  have quiet : (s.step host o).2.course.running = s.course.running → ¬ s.Spawns host r o →
      ¬ Ends r.id o → (r ∈ (s.step host o).2.course.running ↔
        s.Spawns host r o ∨ r ∈ s.course.running ∧ ¬ Ends r.id o) := by
    intro same silent goesOn
    simp [same, silent, goesOn]
  cases o with
  | whole o => exact s.course.mem_running_step host o r
  | prepare t => exact quiet (s.prepare_keeps host t).1 (s.not_spawns_prepare host r t) not_false
  | spawn p =>
    rcases s.spawn_cases host p with ⟨output, reply, -, running⟩ | ⟨silent, -, running⟩
    · rw [running, Spawns, reply]
      simp [Ends, eq_comm]
    · exact quiet running (silent r) not_false
  | adopt settings folders => exact quiet rfl (fun spawns => by cases spawns) not_false
  | settle snapshot => exact quiet rfl (fun spawns => by cases spawns) not_false

/-- An operation takes a slot as a stage exactly when it takes it as an operation. -/
theorem displaces_whole_iff {host : Host σ} {s : Staged σ} (books : s.Accounts) {slot : Slot}
    {o : Operation σ} : s.Displaces host slot (.whole o) ↔ s.course.Displaces host slot o := by
  refine or_congr_right ?_
  constructor
  · rintro ⟨check, spawns, rfl⟩
    obtain ⟨t, rfl⟩ := Course.exists_start_of_started spawns
    obtain ⟨rfl, -, -⟩ := Course.holds_of_started books.running spawns
    exact ⟨rfl, check, spawns⟩
  · intro enters
    cases o with
    | start t =>
      obtain ⟨rfl, check, spawns⟩ := enters
      obtain ⟨target, -, -⟩ := Course.holds_of_started books.running spawns
      exact ⟨check, spawns, by rw [target]⟩
    | _ => exact enters.elim

/-- A check that runs on holds its slot as before, unless the stage takes it. -/
theorem holds_step {host : Host σ} {s : Staged σ} (books : s.Accounts) {r : Running}
    (hr : r ∈ s.course.running) {o : Stage σ} (goesOn : ¬ Ends r.id o) :
    (s.step host o).2.course.session.holds r ↔
      s.course.session.holds r ∧ ¬ s.Displaces host r.target.slot o := by
  have quiet : (s.step host o).2.course.session.registry = s.course.session.registry →
      ¬ s.Displaces host r.target.slot o →
      ((s.step host o).2.course.session.holds r ↔
        s.course.session.holds r ∧ ¬ s.Displaces host r.target.slot o) := by
    intro same keeps
    rw [Course.holds_of_registry same, and_iff_left keeps]
  cases o with
  | whole o =>
    rw [displaces_whole_iff books]
    exact (Course.holds_step books.running hr goesOn).2
  | prepare t =>
    refine quiet (s.prepare_keeps host t).2 ?_
    rintro (renews | ⟨check, spawns, -⟩)
    · exact renews
    · exact s.not_spawns_prepare host check t spawns
  | spawn p =>
    rcases s.spawn_cases host p with ⟨output, reply, session, -⟩ | ⟨silent, session, -⟩
    · rw [session, books.running.holds_enter p output hr]
      simp [Displaces, Renews, Enters, Spawns, reply]
    · refine quiet (congrArg Session.registry session) ?_
      rintro (renews | ⟨check, ⟨spawns, -⟩, -⟩)
      · exact renews
      · exact silent check spawns
  | adopt settings folders =>
    have lost : ¬ (s.step host (.adopt settings folders)).2.course.session.holds r :=
      Session.not_holds_stopAll s.course.session r
    exact ⟨fun held => absurd held lost, fun h => absurd (.inl trivial) h.2⟩
  | settle snapshot =>
    refine quiet ?_ ?_
    · show ((Session.settle host snapshot s.course.session).run s.course.scene).1.2.registry = _
      rw [Session.settle_session]
    · rintro (renews | ⟨check, spawns, -⟩)
      · exact renews
      · cases spawns

/-- A check that was spawned holds its slot exactly when it has entered it. -/
theorem holds_of_spawns {host : Host σ} {s : Staged σ} (books : s.Accounts) {check : Running}
    {o : Stage σ} (spawns : s.Spawns host check o) :
    (s.step host o).2.course.session.holds check ↔ s.Enters host check o := by
  rcases spawns.cases with ⟨t, rfl⟩ | ⟨p, output, rfl, rfl, session⟩
  · exact iff_of_true (Course.holds_of_started books.running spawns).2.2 spawns
  · rw [session, books.running.holds_enter_self p output]
    exact (and_iff_right spawns).symm

theorem Enters.spawns {host : Host σ} {s : Staged σ} {check : Running} {o : Stage σ}
    (h : s.Enters host check o) : s.Spawns host check o := by
  cases o with
  | spawn p => exact h.1
  | _ => exact h

/-- A check holds a slot after a stage if it has entered it right then, or if it held it
before, the stage is not its end and nothing has taken the slot. -/
theorem registered_step {host : Host σ} {s : Staged σ} (books : s.Accounts) (o : Stage σ)
    (r : Running) :
    (r ∈ (s.step host o).2.course.running ∧ (s.step host o).2.course.session.holds r) ↔
      s.Enters host r o ∨ (r ∈ s.course.running ∧ s.course.session.holds r) ∧
        ¬ Ends r.id o ∧ ¬ s.Displaces host r.target.slot o := by
  rw [mem_running_step]
  constructor
  · rintro ⟨spawns | ⟨runs, goesOn⟩, held⟩
    · exact .inl ((holds_of_spawns books spawns).1 held)
    · obtain ⟨before, keeps⟩ := (holds_step books runs goesOn).1 held
      exact .inr ⟨⟨runs, before⟩, goesOn, keeps⟩
  · rintro (enters | ⟨⟨runs, before⟩, goesOn, keeps⟩)
    · exact ⟨.inl enters.spawns, (holds_of_spawns books enters.spawns).2 enters⟩
    · exact ⟨.inr ⟨runs, goesOn⟩, (holds_step books runs goesOn).2 ⟨before, keeps⟩⟩

/-! ## Numbers -/

theorem Effect.nextId_le {s : Staged σ} {o : Stage σ} {reply : Reply} {session : Session}
    {running : List Running} {waiting : List Prepared}
    (effect : Effect s o reply session running waiting) :
    s.course.session.nextId ≤ session.nextId := by
  cases effect with
  | whole effect => exact effect.nextId_le
  | prepared => simp
  | spawned => simp
  | _ => exact Nat.le_refl _

theorem Spawns.id_eq {host : Host σ} {s : Staged σ} {check : Running} {o : Stage σ}
    (spawns : s.Spawns host check o) : check.id = s.course.session.nextId := by
  rcases spawns.cases with ⟨t, rfl⟩ | ⟨p, output, rfl, rfl, -⟩
  · exact Course.id_of_started spawns
  · simp

/-- Checks that were spawned later have greater numbers, and the next number is greater
still. -/
structure Numbered (host : Host σ) (past : List (Staged σ × Stage σ)) (next : Nat) : Prop where
  below : ∀ m ∈ past, ∀ check, m.1.Spawns host check m.2 → check.id < next
  ascending : past.Pairwise fun m n =>
    ∀ a b, m.1.Spawns host a m.2 → n.1.Spawns host b n.2 → a.id < b.id

theorem Numbered.step {host : Host σ} {past : List (Staged σ × Stage σ)} {s : Staged σ}
    (h : Numbered host past s.course.session.nextId) (books : s.Accounts) (o : Stage σ) :
    Numbered host (past ++ [(s, o)]) (s.step host o).2.course.session.nextId where
  below := by
    intro m mem check spawns
    rcases List.mem_append.1 mem with before | now
    · exact Nat.lt_of_lt_of_le (h.below m before check spawns) (effect_step host s o).nextId_le
    · obtain rfl := List.mem_singleton.1 now
      have later := ((effect_step host s o).accounts books).1
      exact later.numbered check ((mem_running_step ..).2 (.inl spawns))
  ascending := by
    refine List.pairwise_append.2 ⟨h.ascending, List.pairwise_singleton _ _, ?_⟩
    intro m before n now a b earlier spawns
    obtain rfl := List.mem_singleton.1 now
    rw [spawns.id_eq]
    exact h.below m before a earlier

theorem numbered_of_new (host : Host σ) (state : σ) (layout? : Option Layout)
    (os : List (Stage σ)) :
    Numbered host ((new state layout?).history host os)
      ((new state layout?).run host os).course.session.nextId := by
  induction os using List.reverseRecOn with
  | nil => exact ⟨by simp [history], .nil⟩
  | append_singleton os o ih =>
    rw [run_concat, history_concat]
    exact ih.step (accounts_of_new host state layout? os) o

/-! ## The registry -/

theorem unfinished_concat {host : Host σ} {past : List (Staged σ × Stage σ)}
    {m : Staged σ × Stage σ} {check : Running} :
    Unfinished host (past ++ [m]) check ↔
      m.1.Spawns host check m.2 ∨ Unfinished host past check ∧ ¬ Ends check.id m.2 :=
  exists_since_concat

theorem inFlight_concat {host : Host σ} {past : List (Staged σ × Stage σ)}
    {m : Staged σ × Stage σ} {check : Running} :
    InFlight host (past ++ [m]) check ↔
      m.1.Enters host check m.2 ∨ InFlight host past check ∧
        ¬ Ends check.id m.2 ∧ ¬ m.1.Displaces host check.target.slot m.2 :=
  exists_since_concat

section

variable (host : Host σ) (state : σ) (layout? : Option Layout) (os : List (Stage σ))

theorem mem_running_iff (r : Running) :
    r ∈ ((new state layout?).run host os).course.running ↔
      Unfinished host ((new state layout?).history host os) r := by
  induction os using List.reverseRecOn with
  | nil =>
    refine iff_of_false nofun ?_
    rintro ⟨before, m, after, split, -⟩
    simp [history] at split
  | append_singleton os o ih =>
    rw [run_concat, history_concat, mem_running_step, unfinished_concat, ih]

theorem registered_iff (r : Running) :
    (r ∈ ((new state layout?).run host os).course.running ∧
      ((new state layout?).run host os).course.session.holds r) ↔
      InFlight host ((new state layout?).history host os) r := by
  induction os using List.reverseRecOn with
  | nil =>
    refine iff_of_false nofun ?_
    rintro ⟨before, m, after, split, -⟩
    simp [history] at split
  | append_singleton os o ih =>
    have books := accounts_of_new host state layout? os
    rw [run_concat, history_concat, registered_step books, inFlight_concat, ih]

end

/-- Whatever has happened to a session, its registry holds one check for a slot and one
slot for a check, and no number is given out again.  The checks in it are those that were
spawned for their slots, have not ended and have not been displaced; any other check that
has not ended was told to stop.  Nothing is said to be in flight once all have ended. -/
theorem registry_exact (host : Host σ) (state : σ) (layout? : Option Layout)
    (os : List (Stage σ)) :
    let s := ((new state layout?).run host os).course.session
    let past := (new state layout?).history host os
    (s.registry.entries.map Prod.fst).Nodup ∧ s.registry.ids.Nodup ∧
    (past.Pairwise fun m n =>
      ∀ a b, m.1.Spawns host a m.2 → n.1.Spawns host b n.2 → a.id < b.id) ∧
    (∀ slot id, (slot, id) ∈ s.registry.entries ↔
      ∃ check, InFlight host past check ∧ check.target.slot = slot ∧ check.id = id) ∧
    (∀ check, Unfinished host past check →
      (check.id ∈ s.stopped ↔ (check.target.slot, check.id) ∉ s.registry.entries)) ∧
    ((∀ check, ¬ Unfinished host past check) →
      s.summary = "CheckpatchContext \x7b configured: " ++ Log.truth s.configured ++
        ", diagnostics: " ++ Text.numeral s.store.total ++ ", in_flight: 0, .. \x7d") := by
  intro s past
  have books := (accounts_of_new host state layout? os).running
  have slots : (s.registry.entries.map Prod.fst).Nodup := List.pairwise_map.2 s.registry.single
  have registered := registered_iff host state layout? os
  have runs := mem_running_iff host state layout? os
  refine ⟨slots, books.nodup_ids, (numbered_of_new host state layout? os).ascending, ?_, ?_, ?_⟩
  · intro slot id
    rw [books.mem_entries_iff]
    refine exists_congr fun check => ?_
    rw [← and_assoc, ← registered]
  · intro check unfinished
    rw [books.stopped check ((runs check).2 unfinished), Session.holds_iff,
      Registry.holder?_eq_some_iff]
  · intro finished
    have none : s.registry.entries = [] := by
      refine List.eq_nil_iff_forall_not_mem.2 fun e mem => ?_
      obtain ⟨check, hc, -⟩ := books.held e mem
      exact finished check ((runs check).1 hc)
    exact Session.summary_of_empty none

/-- A check that was prepared before a reload and spawned after it takes no slot, not even
from a check of the same file under another spelling. -/
theorem stale_check_takes_no_slot :
    let host : Host Unit := .uniform .sample
    let reloaded := (new () none).run host [.whole (.reload {} [])]
    let t : Target := .file (.ofString "/a.c")
    let os := [.whole (.reload {} []), .prepare t, .whole (.reload {} []),
      .whole (.start (.file (.ofString "//a.c"))), .spawn (reloaded.course.session.plan t)]
    let s := ((new () none).run host os).course.session
    s.registry.entries = [(t.slot, 0)] ∧ s.stopped = [1] ∧
      ∃ check, InFlight host ((new () none).history host os) check ∧
        check.target.slot = t.slot ∧ check.id = 0 := by
  intro host reloaded t os s
  have entries : s.registry.entries = [(t.slot, 0)] := by decide +kernel
  have stopped : s.stopped = [1] := by decide +kernel
  obtain ⟨-, -, -, registered, -⟩ := registry_exact host () none os
  refine ⟨entries, stopped, (registered t.slot 0).1 ?_⟩
  rw [entries]
  exact List.mem_cons_self

end Staged

end PatchLint
