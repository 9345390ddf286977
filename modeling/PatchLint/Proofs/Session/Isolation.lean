import PatchLint.Proofs.Session.Alike
import PatchLint.Proofs.Session.Configured
import PatchLint.Proofs.Session.Landing
import PatchLint.Proofs.Session.Takeover

/-!
# Checks of commits

A check of a commit replaces the diagnostics when it lands, all of them and at once
(`Running.replaces_land`).  Until then, and for good if it never lands, the
diagnostics are what they would be without it.  Its start leaves them alone, and so
does its end; all that it does to the other checks is to stop the check of a commit
that was started before it and has not ended (`Course.commit_isolated`).  That, and what
a checker remembers of having been started, can be told from the diagnostics later on
(`Course.superseded_commit_leaves_traces`).
-/

namespace PatchLint

variable {σ : Type}

/-! ## Landing -/

/-- The second store holds what a check of a commit has found and nothing else, and
the change from the first to the second is noted. -/
structure Replaces (check : Running) (repository : Path) (before after : Store) : Prop where
  /-- The keys are the paths of the files that are named. -/
  keys : ∀ p, (∃ k ∈ after.keys, k.Same p) ↔
    ∃ r ∈ check.records, (repository.join (.ofString r.file)).Same p
  /-- Every record was found by the check. -/
  found : ∀ p rs, after.find? p = some rs →
    rs ≠ [] ∧ ∀ r ∈ rs, r ∈ check.records ∧ (repository.join (.ofString r.file)).Same p
  /-- Every key that was removed or written is among the changes. -/
  noted : ∀ p, (∃ k ∈ before.keys ++ after.keys, k.Same p) →
    ∃ c ∈ after.changes, c.path.Same p ∧ c.records = after.get p

namespace Running

variable {check : Running} {repository : Path} {hash : String}

theorem store_land (target : check.target = .commit repository hash) (s : Session) :
    (s.land check).store = s.store.clear.writeGroups check.target check.report.groups := by
  have room : s.store.makeRoom check.target = s.store.clear := by
    rw [target]
    rfl
  exact congrArg (Store.writeGroups _ _) room

/-- What is held after a check of a commit has landed was found by the check. -/
theorem found_of_land (target : check.target = .commit repository hash) {s : Session} {p : Path}
    {rs : List Record} (held : (s.land check).store.find? p = some rs) :
    rs ≠ [] ∧ ∀ r ∈ rs, r ∈ check.records ∧ (repository.join (.ofString r.file)).Same p := by
  rw [store_land target] at held
  rcases Store.find?_writeGroups held with ⟨g, hg, own, rfl⟩ | before
  · refine ⟨check.grouped.written g hg, ?_⟩
    intro r hr
    rw [check.grouped.records g hg] at hr
    obtain ⟨mem, named⟩ := List.mem_filter.1 hr
    rw [target, ← of_decide_eq_true named] at own
    exact ⟨mem, own⟩
  · cases before

/-- A file that is held before or after a check of a commit has landed is touched. -/
theorem touched_of_land (target : check.target = .commit repository hash) {s : Session} {p : Path}
    (held : s.store.find? p ≠ none ∨ (s.land check).store.find? p ≠ none) :
    (s.land check).store.touched.find? p ≠ none := by
  rw [store_land target] at held ⊢
  intro untouched
  obtain ⟨cleared, later⟩ := Store.notes_writeGroups _ _ _ p untouched
  obtain ⟨-, earlier⟩ := Store.notes_clear s.store p cleared
  rcases held with before | after
  · exact before earlier.symm
  · exact after later

/-- A check of a commit that lands replaces all diagnostics by what it has found. -/
theorem replaces_land (target : check.target = .commit repository hash) (s : Session) :
    Replaces check repository s.store (s.land check).store where
  keys := by
    intro p
    have keyOf : ∀ r, check.keyOf r = repository.join (.ofString r.file) := by
      intro r
      rw [Running.keyOf, target]
      rfl
    constructor
    · intro key
      obtain ⟨rs, held⟩ := Option.ne_none_iff_exists'.1 (PathMap.find?_ne_none_iff.2 key)
      obtain ⟨some, all⟩ := found_of_land target held
      obtain ⟨r, mem⟩ := List.exists_mem_of_ne_nil rs some
      exact ⟨r, all r mem⟩
    · rintro ⟨r, mem, own⟩
      have key := check.exists_key_iff.2 ⟨r, mem, (keyOf r).symm ▸ own⟩
      obtain ⟨q, -, -, held⟩ := check.find?_land s key
      refine PathMap.find?_ne_none_iff.1 ?_
      rw [← Store.find?, held]
      exact Option.some_ne_none _
  found := fun p rs held => found_of_land target held
  noted := by
    rintro p ⟨k, hk, same⟩
    refine Store.exists_change (touched_of_land target ?_)
    rcases List.mem_append.1 hk with before | after
    · exact .inl (PathMap.find?_ne_none_iff.2 ⟨k, before, same⟩)
    · exact .inr (PathMap.find?_ne_none_iff.2 ⟨k, after, same⟩)

end Running

/-- The host on which programs leave the outputs of a list in turn, and which has no
files. -/
def Host.inTurn : Host (List Output) where
  start _ outputs := (.ok outputs.headI, outputs.tail)
  read _ _ := .error .notFound
  isFile _ _ := false

namespace Course

/-! ## Starting -/

/-- A check of a commit ends at once with the session as it is, or it is entered and
makes no difference but in its number and its slot. -/
theorem start_commit_cases (host : Host σ) {c : Course σ} (books : c.session.Accounts c.running)
    (repository : Path) (hash : String) :
    let t := Target.commit repository hash
    let started := c.step host (.start t)
    (∃ result, started.1 = .started (.ended result) ∧ started.2.session = c.session ∧
      (result = .error .notConfigured ∨
        ∃ checker cause, result = .error (.notStarted checker cause))) ∨
    (∃ check, started.1 = .started (.running check) ∧ check.toPrepared = c.session.plan t ∧
      (host.start ((c.session.resolve t).launch t) c.scene.host).1 = .ok check.output ∧
      started.2.session.store = c.session.store ∧
      Alike (fun _ => True) check.id started.2 (c.passing started.2.scene) ∧
      Alike (· = none) check.id started.2
        ((c.interrupted .commit).passing started.2.scene)) := by
  intro t started
  cases configured : c.session.configured with
  | false =>
    have refused : started = _ := start_of_not_configured host configured t
    rw [refused]
    exact .inl ⟨_, rfl, rfl, .inl rfl⟩
  | true =>
    have prepared : c.session.prepare t = .ok (c.session.plan t) := by
      simp [Session.prepare, configured, Session.isExcluded, t]
    cases launched : host.start ((c.session.resolve t).launch t) c.scene.host with
    | mk result state =>
      cases result with
      | ok output =>
        have entered : started = _ := step_start_running host prepared launched
        rw [entered]
        let scene : Scene σ := ⟨state, c.scene.log ++ c.session.prepareLog t⟩
        have passing := alike_passing books (p := c.session.plan t) rfl output scene
        have interrupted := alike_interrupted books (p := c.session.plan t) rfl output scene
        refine .inr ⟨_, rfl, ?_, ?_, Session.store_enter .., passing, interrupted⟩
        · rw [Session.enter_fst]
        · rw [Session.enter_fst]
      | error fault =>
        have ended : started = _ := step_start_notStarted host prepared launched
        rw [ended]
        exact .inl ⟨_, rfl, rfl, .inr ⟨_, _, rfl⟩⟩

/-! ## In isolation -/

/-- A check of a commit replaces the diagnostics or leaves them alone.

If it ends at once, it was refused or its checker did not start, and the session is as
it was.  Otherwise it runs, and the diagnostics are as they were.  If it completes, it
replaces them by what it has found; if it is superseded, or its output cannot be read,
its end does nothing to them.  Until then they are, with their changes, what they would
be if it had not been asked for, as long as no check ends from which it took its slot:
that is an earlier check of a commit, which would have landed.  And whatever ends, they
are what they would be if it had not been asked for and that earlier check had been
stopped. -/
theorem commit_isolated (host : Host σ) (state : σ) (layout? : Option Layout)
    (before during : List (Operation σ)) (repository : Path) (hash : String) :
    let t := Target.commit repository hash
    let c := (new state layout?).run host before
    let started := c.step host (.start t)
    (∀ result, started.1 = .started (.ended result) → started.2.session = c.session ∧
      (result = .error .notConfigured ∨
        ∃ checker cause, result = .error (.notStarted checker cause))) ∧
    ∀ check, started.1 = .started (.running check) → (∀ o ∈ during, ¬ Ends check.id o) →
      let present := started.2.run host during
      let ended := present.step host (.finish check.id)
      (check.toPrepared = c.session.plan t ∧
        (host.start ((c.session.resolve t).launch t) c.scene.host).1 = .ok check.output) ∧
      started.2.session.store = c.session.store ∧
      ((∃ findings files, ended.1 = .finished (.completed findings files) ∧
          Replaces check repository present.session.store ended.2.session.store) ∨
        (ended.1 = .finished .superseded ∧ ended.2.session.store = present.session.store)) ∧
      (∀ fault, (present.step host (.lose check.id fault)).2.session.store =
        present.session.store) ∧
      ((∀ m ∈ started.2.history host during, ∀ r ∈ m.1.running, Ends r.id m.2 →
          m.1.session.registry.holder? r.target.slot ≠ some check.id) →
        present.session.store = ((c.passing started.2.scene).run host during).session.store) ∧
      present.session.store =
        (((c.interrupted .commit).passing started.2.scene).run host during).session.store := by
  intro t c started
  have books : c.session.Accounts c.running := accounts_of_new host state layout? before
  rcases start_commit_cases host books repository hash with
    ⟨result, answer, same, cause⟩ |
      ⟨check, answer, prepared, launched, stored, passing, interrupted⟩
  · refine ⟨?_, ?_⟩
    · intro other ended
      cases answer.symm.trans ended
      exact ⟨same, cause⟩
    · intro check runs
      cases answer.symm.trans runs
  · refine ⟨?_, ?_⟩
    · intro result ended
      cases answer.symm.trans ended
    · intro check runs goesOn present ended
      cases answer.symm.trans runs
      obtain ⟨target, running, -⟩ := holds_of_started books runs
      obtain ⟨stays, -⟩ := holds_run host passing.books running goesOn
      obtain ⟨outcome, unreadable⟩ :=
        store_of_end host (accounts_run host passing.books during) stays
      refine ⟨⟨prepared, launched⟩, stored, outcome.imp_left ?_, unreadable, ?_, ?_⟩
      · rintro ⟨findings, files, completed, landed⟩
        refine ⟨findings, files, completed, ?_⟩
        rw [landed]
        exact Running.replaces_land target present.session
      · intro apart
        refine (passing.run host goesOn ?_).session.store.symm
        intro m hm r hr ends _
        exact apart m hm r hr ends
      · refine (interrupted.run host goesOn ?_).session.store.symm
        intro m _ r _ _ nobody
        cases nobody

/-- A check of a commit lands while a check of a file is running, and the file that had
diagnostics is among the changes with none.  If a check of another commit is started
instead, nothing tells that there was the first. -/
theorem commit_check_replaces :
    let output : Output := ⟨Text.Utf8.encode
      "b.c:1: ERROR:X: one\ntotal: 1 errors, 0 warnings, 1 lines checked\n", [], 0⟩
    let checker : Host Unit := .uniform output
    let before := [.reload {} [], .start (.file (.ofString "b.c")), .finish 0]
    let c := (new () none).run checker before
    let t := Target.commit (.ofString "/r") "1f"
    let file := Operation.start (.file (.ofString "c.c"))
    let other := Operation.start (.commit (.ofString "/q") "2e")
    ∃ check, (c.step checker (.start t)).1 = .started (.running check) ∧
      let landed := (((c.step checker (.start t)).2.run checker [file]).step checker
        (.finish check.id)).2.session.store
      (∃ k ∈ landed.keys, k.Same (.ofString "/r/b.c")) ∧
        (∃ ch ∈ landed.changes, ch.path.Same (.ofString "b.c") ∧ ch.records = []) ∧
        ((c.step checker (.start t)).2.run checker [other]).session.store =
          ((c.passing (c.step checker (.start t)).2.scene).run checker [other]).session.store := by
  intro output checker before c t file other
  have configured : c.session.configured = true := by decide +kernel
  have prepared : c.session.prepare t = .ok (c.session.plan t) := by
    simp [Session.prepare, configured, Session.isExcluded, t]
  let check : Running := ⟨c.session.plan t, 1, output⟩
  have running : (c.step checker (.start t)).1 = .started (.running check) := by
    have entered : ((c.session.drop t).enter (c.session.plan t) output).1 = check := by
      decide +kernel
    rw [step_start_running checker prepared rfl, entered]
  have isolated := fun during => commit_isolated checker () none before during (.ofString "/r") "1f"
  have first := (isolated [file]).2 check running (by simp [file, Ends])
  have second := (isolated [other]).2 check running (by simp [other, Ends])
  refine ⟨check, running, ?_⟩
  simp only [c, t] at first second ⊢
  obtain ⟨-, -, ⟨-, -, -, replaces⟩ | ⟨-, same⟩, -⟩ := first
  · obtain ⟨-, -, -, -, alone, -⟩ := second
    refine ⟨(replaces.keys _).2 (by decide +kernel), ?_, alone ?_⟩
    · obtain ⟨ch, mem, same, records⟩ := replaces.noted (.ofString "b.c") (by decide +kernel)
      exact ⟨ch, mem, same, records.trans (by decide +kernel)⟩
    · intro m hm r _ ends
      obtain rfl := List.mem_singleton.1 hm
      exact ends.elim
  · have held := congrArg (fun store => store.find? (.ofString "b.c")) same
    exact absurd held (by decide +kernel)

/-! ## Traces -/

/-- A running check that has lost its slot is superseded. -/
theorem superseded_of_lost (host : Host σ) {c : Course σ} (h : c.session.Accounts c.running)
    {id : Nat} (lost : ∃ r ∈ c.running, r.id = id ∧ ¬ c.session.holds r) :
    (c.step host (.finish id)).1 = .finished .superseded := by
  obtain ⟨r, runs, rfl, gone⟩ := lost
  rcases finish_cases host h runs with ⟨held, -⟩ | ⟨-, superseded, -⟩
  · exact absurd held gone
  · exact superseded

/-- A superseded check of a commit leaves two traces.  The check that was started before it
was stopped by it, and would have landed; and the checker, which remembers, has answered
it in place of the check that was started after it. -/
theorem superseded_commit_leaves_traces :
    let finding (file : String) : Output :=
      ⟨Text.Utf8.encode (file ++ ":1: ERROR:SPACING: space\n"), [], 0⟩
    let c := (new [.sample, finding "a.c", finding "b.c"] none).run .inTurn [.reload {} []]
    let commit (hash : String) := Operation.start (.commit (.ofString "/r") hash)
    -- The check of 2e comes between the start of the check of 1f and its end.
    let stopping := c.run .inTurn [commit "1f", commit "2e", .finish 0, commit "3d"]
    -- The check of 1f gets the output that the check of 2e would get without it.
    let answered := c.run .inTurn [commit "1f", commit "2e", .finish 1]
    ((stopping.step .inTurn (.finish 1)).1 = .finished .superseded ∧
      (stopping.step .inTurn (.finish 1)).2.session.store.keys = [] ∧
      (c.run .inTurn [commit "1f", .finish 0, commit "3d"]).session.store.keys =
        [.ofString "/r/a.c"]) ∧
    (answered.step .inTurn (.finish 0)).1 = .finished .superseded ∧
      (answered.step .inTurn (.finish 0)).2.session.store.keys = [.ofString "/r/b.c"] ∧
      (c.run .inTurn [commit "2e", .finish 0]).session.store.keys = [.ofString "/r/a.c"] := by
  intro finding c commit stopping answered
  have books : c.session.Accounts c.running :=
    accounts_of_new .inTurn [.sample, finding "a.c", finding "b.c"] none [.reload {} []]
  have ran : (∃ r ∈ stopping.running, r.id = 1 ∧ ¬ stopping.session.holds r) ∧
      (stopping.step .inTurn (.finish 1)).2.session.store.keys = [] ∧
      (c.run .inTurn [commit "1f", .finish 0, commit "3d"]).session.store.keys =
        [.ofString "/r/a.c"] ∧
      (∃ r ∈ answered.running, r.id = 0 ∧ ¬ answered.session.holds r) ∧
      (answered.step .inTurn (.finish 0)).2.session.store.keys = [.ofString "/r/b.c"] ∧
      (c.run .inTurn [commit "2e", .finish 0]).session.store.keys = [.ofString "/r/a.c"] := by
    decide +kernel
  obtain ⟨stopped, nothing, landed, replaced, second, first⟩ := ran
  exact ⟨⟨superseded_of_lost .inTurn (accounts_run .inTurn books _) stopped, nothing, landed⟩,
    superseded_of_lost .inTurn (accounts_run .inTurn books _) replaced, second, first⟩

end Course

end PatchLint
