import PatchLint.Proofs.Config.Scopes
import PatchLint.Proofs.Report
import PatchLint.Proofs.Session.Configured
import PatchLint.Proofs.Session.Stages
import PatchLint.Proofs.Since
import PatchLint.Proofs.Store

/-!
# Where diagnostics come from

The store is written by checks that land, and emptied whenever a generation is
opened.  A check that lands holds its slot, and whoever holds a slot was prepared
in the present generation.  So every record in the store was reported by a check
that was prepared after the last reload or disposal, and has the severity of a
scope of the present snapshot (`Staged.records_of_generation`).

What is said of the past is said of a history: the moments so far, each with the
state it found.  `Fresh` and `Landed` pick out the checks that were prepared, and
that have landed, since a generation was opened last.
-/

namespace PatchLint

variable {σ : Type}

/-! ## Writing the store -/

/-- The check reports the records for a path. -/
def Running.Reports (check : Running) (p : Path) (rs : List Record) : Prop :=
  ∃ g ∈ check.report.groups, (check.target.keyOf g.file).Same p ∧ g.records = rs

/-- A check reports with the severity it was prepared with. -/
theorem Running.Reports.level {check : Running} {p : Path} {rs : List Record}
    (h : check.Reports p rs) {r : Record} (hr : r ∈ rs) :
    r.level = check.resolved.config.level := by
  obtain ⟨g, hg, -, rfl⟩ := h
  exact Report.level_of_ofOutput hg hr

theorem Session.find?_of_drop {s : Session} {t : Target} {p : Path} {rs : List Record}
    (h : (s.drop t).store.find? p = some rs) : s.store.find? p = some rs := by
  cases t with
  | file path => exact Store.find?_of_delete h
  | commit repository hash => exact h

/-- What is stored after an operation was stored before, in the same generation,
or was reported by a check that has landed just now. -/
theorem Course.Effect.stored {c : Course σ} {o : Operation σ} {reply : Reply} {s : Session}
    {running : List Running} (effect : c.Effect o reply s running) {p : Path} {rs : List Record}
    (h : s.store.find? p = some rs) :
    (c.session.store.find? p = some rs ∧ ¬ c.Renews o) ∨
      ∃ check ∈ c.running, c.session.holds check ∧ o = .finish check.id ∧
        reply = .finished (Session.landed check) ∧ check.Reports p rs := by
  cases effect with
  | idle within _ _ => exact .inl ⟨h, within⟩
  | adopted => cases h
  | disposed => cases h
  | notStarted => exact .inl ⟨Session.find?_of_drop h, not_false⟩
  | started output =>
    rw [Session.store_enter] at h
    exact .inl ⟨Session.find?_of_drop h, not_false⟩
  | landed running _ held =>
    rcases Store.find?_writeGroups h with reported | before
    · exact .inr ⟨_, running, held, rfl, rfl, reported⟩
    · exact .inl ⟨Store.find?_of_makeRoom before, not_false⟩
  | clearedFile => exact .inl ⟨Store.find?_of_delete h, not_false⟩
  | clearedAll => cases h
  | _ => exact .inl ⟨h, not_false⟩

namespace Staged

/-! ## Histories -/

/-- The check was prepared at some moment of a history, and no moment since has
opened a generation. -/
def Fresh (past : List (Staged σ × Stage σ)) (p : Prepared) : Prop :=
  ∃ before begun after, past = before ++ begun :: after ∧ begun.1.Prepares p begun.2 ∧
    ∀ m ∈ after, ¬ m.1.Renews m.2

/-- The check was prepared at some moment of a history, no moment since has opened
a generation, and at one of them the check has landed. -/
def Landed (host : Host σ) (past : List (Staged σ × Stage σ)) (check : Running) : Prop :=
  ∃ before begun after, past = before ++ begun :: after ∧
    begun.1.Prepares check.toPrepared begun.2 ∧ (∀ m ∈ after, ¬ m.1.Renews m.2) ∧
    ∃ m ∈ after, m.2 = .whole (.finish check.id) ∧
      (m.1.step host m.2).1 = .finished (Session.landed check)

theorem Landed.fresh {host : Host σ} {past : List (Staged σ × Stage σ)} {check : Running}
    (h : Landed host past check) : Fresh past check.toPrepared := by
  obtain ⟨before, begun, after, split, prepares, within, -⟩ := h
  exact ⟨before, begun, after, split, prepares, within⟩

/-- A check is fresh after one more moment if it was prepared then, or was fresh
before and no generation was opened. -/
theorem fresh_concat {past : List (Staged σ × Stage σ)} {m : Staged σ × Stage σ} {p : Prepared} :
    Fresh (past ++ [m]) p ↔ m.1.Prepares p m.2 ∨ Fresh past p ∧ ¬ m.1.Renews m.2 :=
  exists_since_concat

theorem Landed.concat {host : Host σ} {past : List (Staged σ × Stage σ)} {check : Running}
    (h : Landed host past check) {m : Staged σ × Stage σ} (keeps : ¬ m.1.Renews m.2) :
    Landed host (past ++ [m]) check := by
  obtain ⟨before, begun, after, rfl, prepares, within, n, mem, finish⟩ := h
  refine ⟨before, begun, after ++ [m], by simp, prepares, ?_, n, List.mem_append_left _ mem, finish⟩
  exact List.forall_mem_append.2 ⟨within, by simpa using keeps⟩

/-- A fresh check that lands has landed. -/
theorem Fresh.land {host : Host σ} {past : List (Staged σ × Stage σ)} {check : Running}
    (h : Fresh past check.toPrepared) {s : Staged σ}
    (landed : (s.step host (.whole (.finish check.id))).1 = .finished (Session.landed check)) :
    Landed host (past ++ [(s, .whole (.finish check.id))]) check := by
  obtain ⟨before, begun, after, rfl, prepares, within⟩ := h
  refine ⟨before, begun, after ++ [(s, .whole (.finish check.id))], by simp, prepares, ?_,
    _, List.mem_append_right _ List.mem_cons_self, rfl, landed⟩
  exact List.forall_mem_append.2 ⟨within, by simp [Renews, Course.Renews]⟩

/-! ## Stages and generations -/

theorem prepare_of_prepares {s : Staged σ} {p : Prepared} {o : Stage σ} (h : s.Prepares p o) :
    ∃ t, s.course.session.prepare t = .ok p := by
  cases o with
  | whole o =>
    cases o with
    | start t => exact ⟨t, h⟩
    | _ => exact h.elim
  | prepare t => exact ⟨t, h⟩
  | _ => exact h.elim

/-- Within a generation the configuration changes in its run mode only. -/
theorem Effect.within {s : Staged σ} {o : Stage σ} {reply : Reply} {session : Session}
    {running : List Running} {waiting : List Prepared}
    (effect : Effect s o reply session running waiting) (within : ¬ s.Renews o) :
    session.generation = s.course.session.generation ∧
      ∃ mode, session.snapshot = s.course.session.snapshot.withRunMode mode := by
  cases effect with
  | whole effect =>
    obtain ⟨generation, -, snapshot⟩ := effect.within within
    exact ⟨generation, snapshot⟩
  | prepared => exact ⟨by simp, _, by simp; rfl⟩
  | spawned => exact ⟨by simp, _, by simp; rfl⟩
  | adopted => exact absurd trivial within
  | _ => exact ⟨rfl, _, rfl⟩

/-- A new generation is the next one. -/
theorem Effect.renewed {s : Staged σ} {o : Stage σ} {reply : Reply} {session : Session}
    {running : List Running} {waiting : List Prepared}
    (effect : Effect s o reply session running waiting) (renews : s.Renews o) :
    session.generation = s.course.session.generation + 1 ∧ running = s.course.running ∧
      waiting = s.waiting := by
  cases effect with
  | whole effect =>
    cases effect with
    | idle within _ _ => exact absurd renews within
    | adopted => exact ⟨rfl, rfl, rfl⟩
    | disposed => exact ⟨rfl, rfl, rfl⟩
    | _ => exact renews.elim
  | idle within _ => exact absurd renews within
  | adopted => exact ⟨rfl, rfl, rfl⟩
  | _ => exact renews.elim

/-- A check that waits has waited before or was prepared just now. -/
theorem Effect.waited {s : Staged σ} {o : Stage σ} {reply : Reply} {session : Session}
    {running : List Running} {waiting : List Prepared}
    (effect : Effect s o reply session running waiting) {p : Prepared} (hp : p ∈ waiting) :
    s.Prepares p o ∨ p ∈ s.waiting := by
  cases effect with
  | prepared prepared =>
    rcases List.mem_cons.1 hp with rfl | hp
    · exact .inl prepared
    · exact .inr hp
  | spawned => exact .inr (List.mem_of_mem_erase hp)
  | notSpawned => exact .inr (List.mem_of_mem_erase hp)
  | _ => exact .inr hp

/-- A check that runs has run or waited before, or was prepared just now. -/
theorem Effect.ran {s : Staged σ} {o : Stage σ} {reply : Reply} {session : Session}
    {running : List Running} {waiting : List Prepared}
    (effect : Effect s o reply session running waiting) {r : Running} (hr : r ∈ running) :
    s.Prepares r.toPrepared o ∨ r.toPrepared ∈ s.waiting ∨ r ∈ s.course.running := by
  cases effect with
  | whole effect =>
    cases effect with
    | started output prepared =>
      rcases List.mem_cons.1 hr with rfl | hr
      · rw [Session.enter_fst]
        exact .inl prepared
      · exact .inr (.inr hr)
    | landed => exact .inr (.inr (List.mem_filter.1 hr).1)
    | superseded => exact .inr (.inr (List.mem_filter.1 hr).1)
    | lost => exact .inr (.inr (List.mem_filter.1 hr).1)
    | abandoned => exact .inr (.inr (List.mem_filter.1 hr).1)
    | _ => exact .inr (.inr hr)
  | spawned output waits =>
    rcases List.mem_cons.1 hr with rfl | hr
    · rw [Session.enter_fst]
      exact .inr (.inl waits)
    · exact .inr (.inr hr)
  | _ => exact .inr (.inr hr)

/-- What is stored after a stage was stored before, in the same generation, or was
reported by a check that has landed just now. -/
theorem Effect.stored {s : Staged σ} {o : Stage σ} {reply : Reply} {session : Session}
    {running : List Running} {waiting : List Prepared}
    (effect : Effect s o reply session running waiting) {p : Path} {rs : List Record}
    (h : session.store.find? p = some rs) :
    (s.course.session.store.find? p = some rs ∧ ¬ s.Renews o) ∨
      ∃ check ∈ s.course.running, s.course.session.holds check ∧ o = .whole (.finish check.id) ∧
        reply = .finished (Session.landed check) ∧ check.Reports p rs := by
  cases effect with
  | whole effect =>
    rcases effect.stored h with before | ⟨check, running, held, rfl, answer, reported⟩
    · exact .inl before
    · exact .inr ⟨check, running, held, rfl, answer, reported⟩
  | idle within _ => exact .inl ⟨h, within⟩
  | prepared => exact .inl ⟨Session.find?_of_drop h, not_false⟩
  | spawned =>
    rw [Session.store_enter] at h
    exact .inl ⟨h, not_false⟩
  | adopted => cases h
  | _ => exact .inl ⟨h, not_false⟩

/-! ## The source of every record -/

/-- All that is of the present generation is fresh, whatever is fresh has the
configuration of a present scope, and whatever is stored was reported by a check
that has landed in this generation. -/
structure Sourced (host : Host σ) (past : List (Staged σ × Stage σ)) (s : Staged σ) : Prop where
  waiting : ∀ p ∈ s.waiting, p.generation = s.course.session.generation → Fresh past p
  running : ∀ r ∈ s.course.running, r.generation = s.course.session.generation →
    Fresh past r.toPrepared
  resolved : ∀ p, Fresh past p → ∃ scope ∈ s.course.session.snapshot.scopes,
    p.resolved = s.course.session.snapshot.resolveScope scope
  stored : ∀ p rs, s.course.session.store.find? p = some rs →
    ∃ check, Landed host past check ∧ check.Reports p rs

/-- A new session has nothing stored. -/
theorem Sourced.new (host : Host σ) (state : σ) (layout? : Option Layout) :
    Sourced host [] (new state layout?) where
  waiting := by
    intro p hp
    cases hp
  running := by
    intro r hr
    cases hr
  resolved := by
    rintro p ⟨before, begun, after, split, -⟩
    simp at split
  stored := by
    intro p rs h
    cases h

/-- Nothing is left of the past in a new generation. -/
theorem Sourced.renew {host : Host σ} {past : List (Staged σ × Stage σ)} {s : Staged σ}
    (books : s.Accounts) {o : Stage σ} (renews : s.Renews o) :
    Sourced host (past ++ [(s, o)]) (s.step host o).2 := by
  have effect := s.effect_step host o
  obtain ⟨generation, running, waiting⟩ := effect.renewed renews
  constructor
  -- What waits or runs was prepared before, so it is not of the new generation.
  · intro p hp current
    rw [waiting] at hp
    have earlier := books.waiting p hp
    omega
  · intro r hr current
    rw [running] at hr
    have earlier := books.running.prepared r hr
    omega
  -- No stage both opens a generation and prepares a check.
  · intro p fresh
    rcases fresh_concat.1 fresh with prepares | ⟨-, within⟩
    · cases o with
      | whole o => cases o <;> first | exact prepares.elim | exact renews.elim
      | adopt => exact prepares.elim
      | _ => exact renews.elim
    · exact absurd renews within
  · intro p rs h
    rcases effect.stored h with ⟨-, within⟩ | ⟨check, -, -, rfl, -⟩
    · exact absurd renews within
    · exact renews.elim

/-- Within a generation the checks stay fresh, and those that land leave what they
report. -/
theorem Sourced.within {host : Host σ} {past : List (Staged σ × Stage σ)} {s : Staged σ}
    (h : Sourced host past s) (books : s.Accounts) {o : Stage σ} (within : ¬ s.Renews o) :
    Sourced host (past ++ [(s, o)]) (s.step host o).2 := by
  have effect := s.effect_step host o
  obtain ⟨generation, mode, snapshot⟩ := effect.within within
  have grow : ∀ {p}, s.Prepares p o ∨ Fresh past p → Fresh (past ++ [(s, o)]) p := by
    rintro p (prepares | fresh)
    · exact fresh_concat.2 (.inl prepares)
    · exact fresh_concat.2 (.inr ⟨fresh, within⟩)
  constructor
  · intro p hp current
    rw [generation] at current
    rcases effect.waited hp with prepares | waits
    · exact grow (.inl prepares)
    · exact grow (.inr (h.waiting p waits current))
  · intro r hr current
    rw [generation] at current
    rcases effect.ran hr with prepares | waits | runs
    · exact grow (.inl prepares)
    · exact grow (.inr (h.waiting _ waits current))
    · exact grow (.inr (h.running r runs current))
  · intro p fresh
    rw [snapshot]
    simp only [Snapshot.scopes_withRunMode, Snapshot.resolveScope_withRunMode]
    rcases fresh_concat.1 fresh with prepares | ⟨fresh, -⟩
    · obtain ⟨t, prepared⟩ := prepare_of_prepares prepares
      obtain ⟨-, rfl⟩ := Session.prepare_eq_ok prepared
      exact s.course.session.resolve_eq_scope t
    · exact h.resolved p fresh
  · intro p rs stored
    rcases effect.stored stored with ⟨before, -⟩ | ⟨check, runs, held, rfl, answer, reported⟩
    · obtain ⟨check, landed, reported⟩ := h.stored p rs before
      exact ⟨check, landed.concat within, reported⟩
    · have fresh := h.running check runs (books.running.current check runs held)
      exact ⟨check, fresh.land answer, reported⟩

/-- The past accounts for the present, whatever has happened to a session. -/
theorem sourced_of_new (host : Host σ) (state : σ) (layout? : Option Layout)
    (os : List (Stage σ)) :
    Sourced host ((new state layout?).history host os) ((new state layout?).run host os) := by
  induction os using List.reverseRecOn with
  | nil => exact .new host state layout?
  | append_singleton os o ih =>
    rw [run_concat, history_concat]
    have books := accounts_of_new host state layout? os
    by_cases renews : ((new state layout?).run host os).Renews o
    · exact .renew books renews
    · exact ih.within books renews

/-- Every record in the store was reported by a check that was prepared, and has
landed, since the last reload or disposal, and it is shown with the severity of a
scope of the present snapshot. -/
theorem records_of_generation (host : Host σ) (state : σ) (layout? : Option Layout)
    (os : List (Stage σ)) {p : Path} {rs : List Record}
    (stored : ((new state layout?).run host os).course.session.store.find? p = some rs)
    {r : Record} (mem : r ∈ rs) :
    let snapshot := ((new state layout?).run host os).course.session.snapshot
    ∃ check before begun after,
      (new state layout?).history host os = before ++ begun :: after ∧
      begun.1.Prepares check.toPrepared begun.2 ∧
      (∀ m ∈ after, ¬ m.1.Renews m.2) ∧
      (∃ m ∈ after, m.2 = .whole (.finish check.id) ∧
        (m.1.step host m.2).1 = .finished (Session.landed check)) ∧
      check.Reports p rs ∧
      ∃ scope ∈ snapshot.scopes, r.level = (snapshot.resolveScope scope).config.level := by
  intro snapshot
  have sourced := sourced_of_new host state layout? os
  obtain ⟨check, landed, reported⟩ := sourced.stored p rs stored
  obtain ⟨scope, known, resolved⟩ := sourced.resolved _ landed.fresh
  obtain ⟨before, begun, after, split, prepares, within, finished⟩ := landed
  refine ⟨check, before, begun, after, split, prepares, within, finished, reported, scope, known, ?_⟩
  rw [reported.level mem, resolved]

/-- A check that is prepared before the run mode is toggled, and spawned after it,
leaves a record. -/
theorem sample_is_landed :
    let host : Host Unit := .uniform .sample
    let reloaded := (new () none).run host [.whole (.reload {} [])]
    let t : Target := .file (.ofString "/a.c")
    let os := [.whole (.reload {} []), .prepare t, .whole .toggle,
      .spawn (reloaded.course.session.plan t), .whole (.finish 0)]
    ((new () none).run host os).course.session.store.find? (.ofString "/a.c") = some [.sample] ∧
      ∃ check, Landed host ((new () none).history host os) check ∧
        check.Reports (.ofString "/a.c") [.sample] := by
  intro host reloaded t os
  have stored : ((new () none).run host os).course.session.store.find? (.ofString "/a.c") =
      some [.sample] := by
    decide +kernel
  obtain ⟨check, before, begun, after, split, prepares, within, finished, reported, -⟩ :=
    records_of_generation host () none os stored List.mem_cons_self
  exact ⟨stored, check, ⟨before, begun, after, split, prepares, within, finished⟩, reported⟩

end Staged

end PatchLint
