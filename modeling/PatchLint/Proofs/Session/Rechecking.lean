import PatchLint.Proofs.Session.Commuting
import PatchLint.Proofs.Store.Spelling

/-!
# Checking again

A check goes by the configuration and by what its checker prints, and it leaves the
configuration alone.  So a check that is made again comes to the same end if its checker
prints the same.  Then it writes the groups once more that it has written, and the store
holds what it held (`Course.recheck_changes_nothing`).
-/

namespace PatchLint

variable {σ : Type}

/-- What the checker of a check prints, if it starts. -/
def Prepared.printed (host : Host σ) (p : Prepared) (state : σ) : Except HostFault (List UInt8) :=
  (host.start (p.resolved.launch p.target) state).1.map Output.out

/-- A checker that prints the same twice starts both times or fails in the same way. -/
theorem Prepared.starts_alike {host : Host σ} {p : Prepared} {state later : σ}
    (same : p.printed host later = p.printed host state) :
    let start := host.start (p.resolved.launch p.target)
    (∃ fault, (start state).1 = .error fault ∧ (start later).1 = .error fault) ∨
      ∃ output output', (start state).1 = .ok output ∧ (start later).1 = .ok output' ∧
        output'.out = output.out := by
  intro start
  unfold printed at same
  change (start later).1.map _ = (start state).1.map _ at same
  cases first : (start state).1 with
  | error fault =>
    cases second : (start later).1 with
    | error fault' =>
      rw [first, second] at same
      cases same
      exact .inl ⟨fault, rfl, rfl⟩
    | ok output =>
      rw [first, second] at same
      nomatch same
  | ok output =>
    cases second : (start later).1 with
    | error fault =>
      rw [first, second] at same
      nomatch same
    | ok output' =>
      rw [first, second] at same
      exact .inr ⟨output, output', rfl, rfl, Except.ok.inj same⟩

/-! ## What a check goes by -/

namespace Running

variable {a b : Running}

theorem report_congr (plan : b.toPrepared = a.toPrepared) (printed : b.output.out = a.output.out) :
    b.report = a.report := by
  simp only [report, plan, Output.outText, printed]

theorem landed_congr (plan : b.toPrepared = a.toPrepared) (printed : b.output.out = a.output.out) :
    Session.landed b = Session.landed a := by
  simp only [Session.landed, report_congr plan printed, plan]

end Running

namespace Session

@[simp] theorem prepare_land (s : Session) (check : Running) (target : Target) :
    (s.land check).prepare target = s.prepare target := rfl

/-! ## What is written again -/

@[simp] theorem drop_drop (s : Session) (t : Target) : (s.drop t).drop t = s.drop t := by
  cases t with
  | commit repository hash => rfl
  | file path => exact congrArg (fun store => { s with store }) (s.store.delete_delete path)

/-- It makes no difference that a check drops the diagnostics of its file before it
makes room for its own. -/
theorem makeRoom_drop (s : Session) (t : Target) :
    (s.drop t).store.makeRoom t = s.store.makeRoom t := by
  cases t with
  | commit repository hash => rfl
  | file path => exact s.store.delete_delete path

/-- A check that lands where the same check has landed before comes to the same end and
leaves the entries as they are. -/
theorem lands_again (s : Session) (p : Prepared) {output output' : Output}
    (printed : output'.out = output.out) :
    let first := s.enter p output
    let landed := first.2.land first.1
    let second := (landed.drop p.target).enter p output'
    Session.landed second.1 = Session.landed first.1 ∧
      (second.2.land second.1).store.entries = landed.store.entries := by
  intro first landed second
  have target : first.1.target = p.target := by simp only [first, enter_fst]
  have plan : second.1.toPrepared = first.1.toPrepared := by
    simp only [first, second, enter_fst]
  have output : second.1.output.out = first.1.output.out := by
    simpa only [first, second, enter_fst] using printed
  have stored : landed.store =
      (first.2.store.makeRoom p.target).writeGroups p.target first.1.report.groups := by
    rw [← target]
    rfl
  refine ⟨Running.landed_congr plan output, ?_⟩
  show ((second.2.store.makeRoom second.1.target).writeGroups second.1.target
    second.1.report.groups).entries = _
  rw [Running.report_congr plan output, plan, target, store_enter, makeRoom_drop, stored]
  exact Store.entries_rewrite first.2.store p.target first.1.grouped.written

/-- A check of a session is made twice. -/
theorem recheck (host : Host σ) {s : Session} {running : List Running}
    (books : s.Accounts running) (t : Target) (scene later : Scene σ)
    (same : ∀ p, s.prepare t = .ok p → p.printed host later.host = p.printed host scene.host) :
    let once := ((s.check host t).run scene).1
    let twice := ((once.2.check host t).run later).1
    twice.1 = once.1 ∧ twice.2.store.entries = once.2.store.entries := by
  intro once twice
  have again : once.2.Accounts running := books.check host t scene
  cases prepared : s.prepare t with
  | error result =>
    have one : once = (result, s) := check_refused host prepared scene
    have two : twice = (result, s) := by
      simp only [twice, one]
      exact check_refused host prepared later
    rw [two, one]
    exact ⟨rfl, rfl⟩
  | ok p =>
    have one : once = _ := check_prepared host books prepared scene
    have ready : once.2.prepare t = .ok p := by
      rw [one]
      split
      · rw [prepare_drop, prepared]
      · rw [prepare_land, prepare_enter, prepare_drop, prepared]
    have two : twice = _ := check_prepared host again ready later
    rcases Prepared.starts_alike (same p prepared) with
      ⟨fault, first, second⟩ | ⟨output, output', first, second, alike⟩
    · simp only [first] at one
      simp only [second, one, drop_drop] at two
      rw [two, one]
      exact ⟨rfl, rfl⟩
    · simp only [first] at one
      simp only [second, one] at two
      rw [two, one]
      obtain ⟨-, rfl⟩ := prepare_eq_ok prepared
      obtain ⟨outcome, entries⟩ := lands_again (s.drop t) (s.plan t) alike
      exact ⟨congrArg Except.ok outcome, entries⟩

end Session

namespace Course

/-- A check that is made twice, its checker printing the same both times, comes to the
same end both times, and leaves the entries that it leaves when it is made once. -/
theorem recheck_changes_nothing (host : Host σ) (state : σ) (layout? : Option Layout)
    (os : List (Operation σ)) (t : Target) (later : Scene σ)
    (same : let c := (new state layout?).run host os
      ∀ p, c.session.prepare t = .ok p → p.printed host later.host = p.printed host c.scene.host) :
    let c := (new state layout?).run host os
    let once := ((c.session.check host t).run c.scene).1
    let twice := ((once.2.check host t).run later).1
    twice.1 = once.1 ∧ twice.2.store.entries = once.2.store.entries := by
  intro c once twice
  have books : c.session.Accounts c.running := accounts_of_new host state layout? os
  exact Session.recheck host books t c.scene later same

/-- A checker that ends with another status each time spells a file in two ways, and the
later spelling of it is written over the earlier one both times. -/
theorem respelled_file_is_rechecked :
    let text :=
      "/b:1: ERROR:X: p\n/./b:2: ERROR:Y: q\ntotal: 2 errors, 0 warnings, 1 lines checked\n"
    let checker : Host Nat :=
      ⟨fun _ n => (.ok ⟨Text.Utf8.encode text, [], n⟩, n + 1), fun _ _ => .error .notFound,
        fun _ _ => false⟩
    let b := Path.ofString "/b"
    let a := Path.ofString "/a"
    let c := (new 0 none).run checker [.reload {} []]
    let once := (c.session.check checker (.file a)).run c.scene
    let twice := (once.1.2.check checker (.file a)).run once.2
    twice.1.1.toOption = some (.completed 2 [b, .ofString "/./b"]) ∧
      twice.1.2.store.entries.entries.map (fun e => (e.1, e.2.map (·.code))) = [(b, ["Y"])] := by
  intro text checker b a c once twice
  have printed : ∀ p n m, Prepared.printed checker p n = p.printed checker m := fun _ _ _ => rfl
  obtain ⟨outcome, entries⟩ := recheck_changes_nothing checker 0 none [.reload {} []] (.file a)
    once.2 fun p _ => printed p _ _
  simp only [twice, once, c] at outcome entries ⊢
  rw [outcome, entries]
  decide +kernel

end Course

end PatchLint
