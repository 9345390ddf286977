import PatchLint.Proofs.Session.Alike
import PatchLint.Proofs.Session.Configured
import PatchLint.Proofs.Session.Landing
import PatchLint.Proofs.Session.Takeover

/-!
# Checks of files

A check of a file drops the diagnostics of the file at its start, and writes at its end,
if it lands, to the file and to the files that its findings name.  It touches nothing
else, whichever way it ends, and between the two it does nothing to the diagnostics
(`Course.file_check_confined`).
-/

namespace PatchLint

variable {σ : Type}

/-! ## Landing -/

namespace Running

/-- A finding of a check of a file names a file. -/
def Names (check : Running) (q : Path) : Prop :=
  ∃ r ∈ check.records, (Path.ofString r.file).Same q

instance (check : Running) (q : Path) : Decidable (check.Names q) :=
  inferInstanceAs (Decidable (∃ r ∈ _, _))

/-- The second store is the first with the findings of a check of a file written. -/
structure Rewrites (check : Running) (p : Path) (before after : Store) : Prop where
  /-- What is neither the file nor named stays. -/
  others : ∀ q, ¬ p.Same q → ¬ check.Names q → after.find? q = before.find? q
  /-- The file has no entry unless it is named. -/
  own : ¬ check.Names p → after.find? p = none
  /-- What the file holds, and what the files that are named hold, the check has found. -/
  found : ∀ q rs, p.Same q ∨ check.Names q → after.find? q = some rs →
    rs ≠ [] ∧ ∀ r ∈ rs, r ∈ check.records ∧ (Path.ofString r.file).Same q

variable {check : Running} {p : Path}

theorem exists_key_iff_names (target : check.target = .file p) {q : Path} :
    (∃ k ∈ check.keys, k.Same q) ↔ check.Names q := by
  rw [exists_key_iff]
  simp only [keyOf, target]
  rfl

/-- A file that is not named holds what it held, and the checked file nothing. -/
theorem find?_land_of_not_names (target : check.target = .file p) (s : Session) {q : Path}
    (other : ¬ check.Names q) :
    (s.land check).store.find? q = if p.Same q then none else s.store.find? q := by
  rw [check.find?_land_of_not_key s (mt (exists_key_iff_names target).1 other), target]
  exact Store.find?_delete s.store p q

theorem rewrites_land (target : check.target = .file p) (s : Session) :
    Rewrites check p s.store (s.land check).store where
  others := by
    intro q differ other
    rw [find?_land_of_not_names target s other, if_neg differ]
  own := by
    intro other
    rw [find?_land_of_not_names target s other, if_pos .rfl]
  found := by
    intro q rs covered held
    by_cases named : check.Names q
    · obtain ⟨r, hr, own, written⟩ := check.find?_land s ((exists_key_iff_names target).2 named)
      cases held.symm.trans written
      refine ⟨List.ne_nil_of_mem (List.mem_filter.2 ⟨hr, decide_eq_true rfl⟩), ?_⟩
      intro a ha
      obtain ⟨mem, same⟩ := List.mem_filter.1 ha
      rw [keyOf, target, ← of_decide_eq_true same] at own
      exact ⟨mem, own⟩
    · rw [find?_land_of_not_names target s named, if_pos (covered.resolve_right named)] at held
      cases held

end Running

namespace Course

/-! ## Starting -/

/-- A check of a file is refused and only the log tells of it, or the diagnostics of the
file are dropped.  Then its checker does not start and nothing else has changed, or it is
entered and makes no difference but in its number and its slot. -/
theorem start_file_cases (host : Host σ) {c : Course σ} (books : c.session.Accounts c.running)
    (p : Path) (known : c.session.configured = true →
      ∃ excluded, c.session.isExcluded (.file p) = .ok excluded) :
    let t := Target.file p
    let started := c.step host (.start t)
    let dropped := c.session.clearFile p
    (∃ result, started.1 = .started (.ended result) ∧
      (((result = .error .notConfigured ∨ result = .ok .excluded) ∧ ∃ log, started.2 = c.say log) ∨
        ((∃ checker cause, result = .error (.notStarted checker cause)) ∧
          started.2.session = dropped ∧ started.2.running = c.running))) ∨
    (∃ check, started.1 = .started (.running check) ∧ check.toPrepared = c.session.plan t ∧
      (host.start ((c.session.resolve t).launch t) c.scene.host).1 = .ok check.output ∧
      started.2.session.store = dropped.store ∧
      Alike (fun _ => True) check.id started.2
        ((c.withSession dropped).passing started.2.scene)) := by
  intro t started dropped
  have refused : ∀ result, c.session.prepare t = .error result →
      started = (.started (.ended result), c.say (c.session.prepareLog t)) := by
    intro result unprepared
    simp only [started, step_start, start_refused host unprepared]
  cases configured : c.session.configured with
  | false =>
    have unprepared : c.session.prepare t = .error (.error .notConfigured) := by
      simp [Session.prepare, configured]
    rw [refused _ unprepared]
    exact .inl ⟨_, rfl, .inl ⟨.inl rfl, _, rfl⟩⟩
  | true =>
    obtain ⟨excluded, known⟩ := known configured
    cases excluded with
    | true =>
      have unprepared : c.session.prepare t = .error (.ok .excluded) := by
        simp [Session.prepare, configured, known, t]
      rw [refused _ unprepared]
      exact .inl ⟨_, rfl, .inl ⟨.inr rfl, _, rfl⟩⟩
    | false =>
      have prepared : c.session.prepare t = .ok (c.session.plan t) := by
        simp [Session.prepare, configured, known, t]
      cases launched : host.start ((c.session.resolve t).launch t) c.scene.host with
      | mk result state =>
        cases result with
        | error fault =>
          have ended : started = _ := step_start_notStarted host prepared launched
          rw [ended]
          exact .inl ⟨_, rfl, .inr ⟨⟨_, _, rfl⟩, rfl, rfl⟩⟩
        | ok output =>
          have entered : started = _ := step_start_running host prepared launched
          rw [entered]
          have cleared : dropped.Accounts c.running := books.drop t
          have passing := alike_passing (c := c.withSession dropped) cleared
            (p := c.session.plan t) rfl output ⟨state, c.scene.log ++ c.session.prepareLog t⟩
          refine .inr ⟨_, rfl, ?_, ?_, Session.store_enter .., passing⟩
          · rw [Session.enter_fst]
          · rw [Session.enter_fst]

/-! ## From start to end -/

/-- A check of a file touches the file and the files its findings name, and nothing else.

If it ends at once, either it was refused or the file is excluded, and but for the log
nothing has changed; or its checker did not start, and the diagnostics of the file are
dropped and nothing else has changed.  Every running check that could land still can,
those of the same file included.

Otherwise it runs, and the diagnostics of the file are dropped.  If it completes, it
writes what it has found; if it is superseded, or its output cannot be read, its end does
nothing to the diagnostics.  Until then they are what they would be if the file had been
cleared and no check had been asked for, as long as no check ends from which it took its
slot. -/
theorem file_check_confined (host : Host σ) (state : σ) (layout? : Option Layout)
    (before during : List (Operation σ)) (p : Path) :
    let t := Target.file p
    let c := (new state layout?).run host before
    let started := c.step host (.start t)
    let dropped := c.session.clearFile p
    (∀ result, started.1 = .started (.ended result) →
      (((result = .error .notConfigured ∨ result = .ok .excluded) ∧
          ∃ log, started.2 = c.say log) ∨
        ((∃ checker cause, result = .error (.notStarted checker cause)) ∧
          started.2.session = dropped ∧ started.2.running = c.running)) ∧
      ∀ r ∈ c.running, c.session.holds r → (∀ o ∈ during, ¬ Ends r.id o) →
        (∀ m ∈ started.2.history host during, ¬ m.1.Displaces host r.target.slot m.2) →
        ((started.2.run host during).step host (.finish r.id)).1 =
          .finished (Session.landed r)) ∧
    (∀ q, dropped.store.find? q = if p.Same q then none else c.session.store.find? q) ∧
    ∀ check, started.1 = .started (.running check) → (∀ o ∈ during, ¬ Ends check.id o) →
      let present := started.2.run host during
      let ended := present.step host (.finish check.id)
      (check.toPrepared = c.session.plan t ∧
        (host.start ((c.session.resolve t).launch t) c.scene.host).1 = .ok check.output) ∧
      started.2.session.store = dropped.store ∧
      ((∃ findings files, ended.1 = .finished (.completed findings files) ∧
          check.Rewrites p present.session.store ended.2.session.store) ∨
        (ended.1 = .finished .superseded ∧ ended.2.session.store = present.session.store)) ∧
      (∀ fault, (present.step host (.lose check.id fault)).2.session.store =
        present.session.store) ∧
      ((∀ m ∈ started.2.history host during, ∀ r ∈ m.1.running, Ends r.id m.2 →
          m.1.session.registry.holder? r.target.slot ≠ some check.id) →
        present.session.store =
          (((c.withSession dropped).passing started.2.scene).run host during).session.store) := by
  intro t c started dropped
  have books : c.session.Accounts c.running := accounts_of_new host state layout? before
  have later : started.2.session.Accounts started.2.running :=
    (effect_step host c (.start t)).accounts books
  have drops := fun q => Store.find?_delete c.session.store p q
  rcases start_file_cases host books p (exists_isExcluded host state layout? before t) with
    ⟨result, answer, left⟩ | ⟨check, answer, prepared, launched, stored, passing⟩
  · refine ⟨?_, drops, ?_⟩
    · intro other ended
      cases answer.symm.trans ended
      have same : started.2.running = c.running ∧
          started.2.session.registry = c.session.registry := by
        rcases left with ⟨-, log, same⟩ | ⟨-, session, running⟩
        · rw [show started.2 = _ from same]
          exact ⟨rfl, rfl⟩
        · refine ⟨running, ?_⟩
          rw [show started.2.session = dropped from session]
          rfl
      refine ⟨left, ?_⟩
      intro r hr held goesOn kept
      exact lands_unless_displaced host later (same.1.symm ▸ hr)
        ((holds_of_registry same.2 r).2 held) goesOn kept
    · intro check runs
      cases answer.symm.trans runs
  · refine ⟨?_, drops, ?_⟩
    · intro result ended
      cases answer.symm.trans ended
    · intro check runs goesOn present ended
      cases answer.symm.trans runs
      obtain ⟨target, running, -⟩ := holds_of_started books runs
      obtain ⟨stays, -⟩ := holds_run host later running goesOn
      obtain ⟨outcome, unreadable⟩ := store_of_end host (accounts_run host later during) stays
      refine ⟨⟨prepared, launched⟩, stored, outcome.imp_left ?_, unreadable, ?_⟩
      · rintro ⟨findings, files, completed, landed⟩
        refine ⟨findings, files, completed, ?_⟩
        rw [landed]
        exact Running.rewrites_land target present.session
      · intro apart
        refine (passing.run host goesOn ?_).session.store.symm
        intro m hm r hr ends _
        exact apart m hm r hr ends

/-- A check of another file lands a finding in a file while that is being checked.  The
finding is gone when its check has completed. -/
theorem landed_meanwhile_is_dropped :
    let output (name : Option String) : Output :=
      if name = some "/b.c" then .sample
      else ⟨Text.Utf8.encode "total: 0 errors, 0 warnings, 1 lines checked\n", [], 0⟩
    let checker : Host Unit :=
      { Host.uniform .sample with start := fun l s => (.ok (output l.args.getLast?), s) }
    let a := Path.ofString "/a.c"
    let before := [.reload {} [], .start (.file (.ofString "/b.c"))]
    let c := (new () none).run checker before
    let present := (c.step checker (.start (.file a))).2.run checker [.finish 0]
    present.session.store.find? a = some [.sample] ∧
      ∃ check, (c.step checker (.start (.file a))).1 = .started (.running check) ∧
        (present.step checker (.finish check.id)).2.session.store.find? a = none := by
  intro output checker a before c present
  have configured : c.session.configured = true := by decide +kernel
  have included : c.session.isExcluded (.file a) = .ok false := by decide +kernel
  have prepared : c.session.prepare (.file a) = .ok (c.session.plan (.file a)) := by
    simp [Session.prepare, configured, included]
  let check : Running := ⟨c.session.plan (.file a), 1, output none⟩
  have running : (c.step checker (.start (.file a))).1 = .started (.running check) := by
    have entered : ((c.session.drop (.file a)).enter (c.session.plan (.file a)) (output none)).1 =
        check := by decide +kernel
    have launched : checker.start ((c.session.plan (.file a)).resolved.launch
        (c.session.plan (.file a)).target) c.scene.host = (.ok (output none), ()) := by
      decide +kernel
    rw [step_start_running checker prepared launched, entered]
  refine ⟨by decide +kernel, check, running, ?_⟩
  have confined := (file_check_confined checker () none before [.finish 0] a).2.2 check running
    (by simp [Ends, check])
  simp only [c, present] at confined ⊢
  obtain ⟨-, -, outcome, -⟩ := confined
  rcases outcome with ⟨_, _, -, rewrites⟩ | ⟨-, same⟩
  · exact rewrites.own (by decide +kernel)
  · have kept := congrArg (fun store => store.find? a) same
    exact absurd kept (by decide +kernel)

end Course

end PatchLint
