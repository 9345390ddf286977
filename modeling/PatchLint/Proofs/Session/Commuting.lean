import Mathlib.Data.List.Induction
import PatchLint.Proofs.Session.Accounts
import PatchLint.Proofs.Session.Configured
import PatchLint.Proofs.Session.Landing

/-!
# Checks of files commute

A check of a file writes to that file alone, if its checker names no other.  So checks
of different files do not meet, and of several checks of one file the last that was
started lands.  Hence the order of starts and ends does not matter, nor how often a file
is checked (`Course.file_checks_commute`).

While some checks are still running, a file that was checked holds its findings, or one
of the running checks holds its slot and will land.  Every start and every end keeps to
this (`Course.Midway`).
-/

namespace PatchLint

variable {σ : Type}

/-- Different names are different paths. -/
theorem Path.ofString_injective : Function.Injective Path.ofString :=
  Function.LeftInverse.injective Path.text_ofString

/-- What a file holds after records were written to it: no records remove its entry. -/
def Store.entryOf (records : List Record) : Option (List Record) :=
  if records = [] then none else some records

/-! ## Landing on one file -/

/-- A check of a file that names no other file writes to that file alone. -/
theorem Running.find?_land_file {check : Running} {p : Path} (target : check.target = .file p)
    (named : ∀ r ∈ check.records, Path.ofString r.file = p) (s : Session) (q : Path) :
    (s.land check).store.find? q =
      if p.Same q then Store.entryOf check.records else s.store.find? q := by
  have keyOf : ∀ r ∈ check.records, check.keyOf r = p := by
    intro r hr
    rw [Running.keyOf, target]
    exact named r hr
  by_cases key : ∃ k ∈ check.keys, k.Same q
  · obtain ⟨r, hr, own, held⟩ := check.find?_land s key
    have same : p.Same q := keyOf r hr ▸ own
    have all : (check.records.filter fun a => a.file = r.file) = check.records := by
      refine List.filter_eq_self.2 fun a ha => decide_eq_true ?_
      exact Path.ofString_injective ((named a ha).trans (named r hr).symm)
    rw [held, all, if_pos same, Store.entryOf, if_neg (List.ne_nil_of_mem hr)]
  · have nothing : p.Same q → check.records = [] := by
      intro same
      by_contra some
      obtain ⟨r, hr⟩ := List.exists_mem_of_ne_nil _ some
      exact key (check.exists_key_iff.2 ⟨r, hr, (keyOf r hr).symm ▸ same⟩)
    have room : (s.store.makeRoom check.target).find? q =
        if p.Same q then none else s.store.find? q := by
      rw [target]
      exact Store.find?_delete s.store p q
    rw [check.find?_land_of_not_key s key, room]
    by_cases same : p.Same q
    · simp [same, Store.entryOf, nothing same]
    · simp [same]

/-! ## Starting and ending checks of files -/

namespace Session

/-- What a check of a file finds when its checker leaves an output. -/
def found (s : Session) (p : Path) (output : Output) : List Record :=
  ((s.plan (.file p)).layout.findings output.outText.toList).map
    (Record.ofFinding (s.resolve (.file p)).config.level)

@[simp] theorem prepare_drop (s : Session) (t target : Target) :
    (s.drop t).prepare target = s.prepare target := by
  cases t <;> rfl

@[simp] theorem prepare_enter (s : Session) (p : Prepared) (output : Output) (target : Target) :
    (s.enter p output).2.prepare target = s.prepare target := by
  by_cases current : p.generation = s.generation
  · simp only [enter, current, ne_eq, not_true, if_false]
    rfl
  · simp only [enter, current, ne_eq, not_false_iff, if_true]
    rfl

end Session

namespace Course

/-- The checkers of some files, different ones, start whatever the host's state is.
What a checker leaves depends on its file alone, and it names the file as it was
passed. -/
structure Steady (host : Host σ) (s : Session) (paths : List Path) (out : Path → Output) :
    Prop where
  apart : paths.Pairwise fun p q => ¬ p.Same q
  starts : ∀ p ∈ paths, ∀ state, ∃ after,
    host.start ((s.resolve (.file p)).launch (.file p)) state = (.ok (out p), after)
  named : ∀ p ∈ paths, ∀ f ∈ (s.plan (.file p)).layout.findings (out p).outText.toList,
    Path.ofString f.file = p

/-- The operations start checks of some files and end checks that were started by them,
in any order, until all of them have ended. -/
structure Interleaves (host : Host σ) (c : Course σ) (paths : List Path)
    (os : List (Operation σ)) : Prop where
  calls : ∀ o ∈ os, (∃ p ∈ paths, o = .start (.file p)) ∨
    ∃ id, c.session.nextId ≤ id ∧ o = .finish id
  ended : ∀ r ∈ (c.run host os).running, r.id < c.session.nextId

/-- A check of the file was asked for, and the file is not excluded. -/
def Checked (c : Course σ) (os : List (Operation σ)) (p : Path) : Prop :=
  .start (.file p) ∈ os ∧ c.session.prepare (.file p) = .ok (c.session.plan (.file p))

/-- A file is given in one spelling. -/
theorem Steady.eq_of_same {host : Host σ} {s : Session} {paths : List Path} {out : Path → Output}
    (h : Steady host s paths out) {p q : Path} (hp : p ∈ paths) (hq : q ∈ paths)
    (same : p.Same q) : p = q := by
  have symmetric : Std.Symm fun p q : Path => ¬ p.Same q :=
    ⟨fun _ _ differ same => differ same.symm⟩
  by_contra differ
  exact h.apart.forall hp hq differ same

theorem checked_concat {c : Course σ} {os : List (Operation σ)} {o : Operation σ} {p : Path} :
    c.Checked (os ++ [o]) p ↔ c.Checked os p ∨ c.Checked [o] p := by
  simp only [Checked, List.mem_append]
  exact or_and_right

theorem not_checked_finish {c : Course σ} {id : Nat} {p : Path} : ¬ c.Checked [.finish id] p := by
  rintro ⟨mem, -⟩
  cases List.mem_singleton.1 mem

/-- Where a course is after some starts and ends of checks of files.  A file that was
checked holds what was found in it, or a check of it is running that holds its slot; the
other files hold what they held. -/
structure Midway (paths : List Path) (out : Path → Output) (c : Course σ)
    (os : List (Operation σ)) (d : Course σ) : Prop where
  books : d.session.Accounts d.running
  later : c.session.nextId ≤ d.session.nextId
  prepares : ∀ t, d.session.prepare t = c.session.prepare t
  running : ∀ r ∈ d.running, c.session.nextId ≤ r.id → ∃ p ∈ paths,
    c.Checked os p ∧ r.toPrepared = c.session.plan (.file p) ∧ r.output = out p
  checked : ∀ p ∈ paths, c.Checked os p →
    d.session.store.find? p = Store.entryOf (c.session.found p (out p)) ∨
      ∃ r ∈ d.running, c.session.nextId ≤ r.id ∧ r.target = .file p ∧ d.session.holds r
  kept : ∀ q, (∀ p ∈ paths, c.Checked os p → ¬ p.Same q) →
    d.session.store.find? q = c.session.store.find? q

namespace Midway

variable {paths : List Path} {out : Path → Output} {c d : Course σ} {os : List (Operation σ)}

theorem nil (books : c.session.Accounts c.running) : Midway paths out c [] c where
  books := books
  later := Nat.le_refl _
  prepares := fun _ => rfl
  running := by
    intro r hr new
    exact absurd (books.numbered r hr) (Nat.not_lt.2 new)
  checked := by
    rintro p - ⟨mem, -⟩
    cases mem
  kept := fun _ _ => rfl

/-- Where a course is depends on the files that were checked. -/
theorem congr (h : Midway paths out c os d) {os' : List (Operation σ)}
    (same : ∀ p, c.Checked os' p ↔ c.Checked os p) : Midway paths out c os' d := by
  refine ⟨h.books, h.later, h.prepares, ?_, ?_, ?_⟩
  all_goals simp only [same]
  exacts [h.running, h.checked, h.kept]

/-- Nothing happens to an excluded file. -/
theorem start_refused (h : Midway paths out c os d) (host : Host σ) {p : Path}
    {result : Except CheckFault Outcome} (refused : c.session.prepare (.file p) = .error result) :
    Midway paths out c (os ++ [.start (.file p)]) (d.step host (.start (.file p))).2 := by
  have noted : Midway paths out c os (d.say (d.session.prepareLog (.file p))) :=
    ⟨h.books, h.later, h.prepares, h.running, h.checked, h.kept⟩
  rw [step_start, Course.start_refused host ((h.prepares _).trans refused)]
  refine noted.congr fun q => ⟨?_, fun checked => checked_concat.2 (.inl checked)⟩
  intro checked
  rcases checked_concat.1 checked with before | ⟨mem, included⟩
  · exact before
  · cases List.mem_singleton.1 mem
    cases refused.symm.trans included

/-- A check of a file that is started takes the slot of its file, and of no other. -/
theorem start (h : Midway paths out c os d) {host : Host σ}
    (steady : Steady host c.session paths out) {p : Path} (hp : p ∈ paths)
    (included : c.session.prepare (.file p) = .ok (c.session.plan (.file p))) :
    Midway paths out c (os ++ [.start (.file p)]) (d.step host (.start (.file p))).2 := by
  have prepared := (h.prepares (.file p)).trans included
  have current : (c.session.plan (.file p)).generation = d.session.generation := by
    rw [(Session.prepare_eq_ok prepared).2]
    rfl
  have now : c.Checked (os ++ [.start (.file p)]) p :=
    checked_concat.2 (.inr ⟨List.mem_singleton_self _, included⟩)
  have books := h.books.drop (.file p)
  obtain ⟨after, launched⟩ := steady.starts p hp d.scene.host
  have kept : (d.step host (.start (.file p))).2.session.Accounts _ :=
    (effect_step host d (.start (.file p))).accounts h.books
  rw [step_start_running host prepared launched] at kept ⊢
  have store : ∀ q,
      ((d.session.drop (.file p)).enter (c.session.plan (.file p)) (out p)).2.store.find? q =
        if p.Same q then none else d.session.store.find? q := by
    intro q
    rw [Session.store_enter]
    exact Store.find?_delete d.session.store p q
  refine ⟨kept, ?_, ?_, ?_, ?_, ?_⟩
  · have later := h.later
    simp only [Session.nextId_enter, Session.nextId_drop]
    omega
  · intro t
    simpa using h.prepares t
  · intro r hr new
    rcases List.mem_cons.1 hr with rfl | hr
    · exact ⟨p, hp, now, by simp, by simp⟩
    · obtain ⟨q, hq, checked, rest⟩ := h.running r hr new
      exact ⟨q, hq, checked_concat.2 (.inl checked), rest⟩
  · intro q hq checked
    by_cases same : p = q
    · subst same
      refine .inr ⟨_, List.mem_cons_self, by simpa using h.later, by simp [Session.plan], ?_⟩
      exact (books.holds_enter_self _ _).2 (by simpa using current)
    · have differ : ¬ p.Same q := mt (steady.eq_of_same hp hq) same
      have before : c.Checked os q := by
        rcases checked_concat.1 checked with before | ⟨mem, -⟩
        · exact before
        · cases List.mem_singleton.1 mem
          exact absurd rfl same
      rcases h.checked q hq before with found | ⟨r, hr, new, target, held⟩
      · left
        rw [store, if_neg differ]
        exact found
      · refine .inr ⟨r, List.mem_cons_of_mem _ hr, new, target, ?_⟩
        refine (books.holds_enter _ _ hr).2 ⟨?_, ?_⟩
        · simpa [Session.holds] using held
        · rintro ⟨-, slot⟩
          rw [target] at slot
          exact differ (Slot.file.inj slot)
  · intro q others
    rw [store, if_neg (others p hp now)]
    exact h.kept q fun p hp checked => others p hp (checked_concat.2 (.inl checked))

/-- Where a course is does not depend on a check that ends without landing. -/
theorem without (h : Midway paths out c os d) {r : Running} (hr : r ∈ d.running)
    (lost : ¬ d.session.holds r) : Midway paths out c os (d.without r) where
  books := h.books.without hr lost
  later := h.later
  prepares := h.prepares
  running := fun a ha => h.running a (List.mem_of_mem_filter ha)
  checked := by
    intro p hp checked
    rcases h.checked p hp checked with found | ⟨a, ha, new, target, held⟩
    · exact .inl found
    · refine .inr ⟨a, List.mem_filter.2 ⟨ha, decide_eq_true ?_⟩, new, target, held⟩
      intro same
      exact lost (h.books.eq_of_id ha hr same ▸ held)
  kept := h.kept

/-- A check that holds its slot lands, and its file holds what it has found. -/
theorem land (h : Midway paths out c os d) {host : Host σ}
    (steady : Steady host c.session paths out) {r : Running} (hr : r ∈ d.running)
    (new : c.session.nextId ≤ r.id) (held : d.session.holds r) (log : Log) :
    Midway paths out c os (((d.withSession (d.session.land r)).say log).without r) := by
  obtain ⟨p, hp, checked, prepared, output⟩ := h.running r hr new
  have target : r.target = .file p := congrArg Prepared.target prepared
  have records : r.records = c.session.found p (out p) := by
    simp only [Running.records, Session.found, prepared, output]
    rfl
  have named : ∀ a ∈ r.records, Path.ofString a.file = p := by
    rw [records]
    intro a ha
    obtain ⟨f, hf, rfl⟩ := List.mem_map.1 ha
    exact steady.named p hp f hf
  have store := Running.find?_land_file target named d.session
  refine ⟨h.books.leave hr held rfl rfl rfl rfl, h.later, h.prepares, ?_, ?_, ?_⟩
  · exact fun a ha => h.running a (List.mem_of_mem_filter ha)
  · intro q hq other
    by_cases same : p = q
    · subst same
      exact .inl ((store p).trans (by rw [if_pos .rfl, records]))
    · have differ : ¬ p.Same q := mt (steady.eq_of_same hp hq) same
      rcases h.checked q hq other with found | ⟨a, ha, later, own, holds⟩
      · exact .inl ((store q).trans (by rw [if_neg differ, found]))
      · have apart : r.id ≠ a.id := by
          intro number
          rw [h.books.eq_of_id hr ha number, own] at target
          exact same (Target.file.inj target).symm
        refine .inr ⟨a, List.mem_filter.2 ⟨ha, decide_eq_true apart.symm⟩, later, own, ?_⟩
        exact (Session.holds_leave held apart rfl).2 holds
  · intro q others
    exact (store q).trans (by rw [if_neg (others p hp checked), h.kept q others])

/-- A check that ends lands if it holds its slot.  If it does not, nothing happens. -/
theorem finish (h : Midway paths out c os d) {host : Host σ}
    (steady : Steady host c.session paths out) {id : Nat} (new : c.session.nextId ≤ id) :
    Midway paths out c (os ++ [.finish id]) (d.step host (.finish id)).2 := by
  suffices ended : Midway paths out c os (d.step host (.finish id)).2 from
    ended.congr fun p => by rw [checked_concat, or_iff_left not_checked_finish]
  cases known : d.running? id with
  | none =>
    have idle : d.step host (.finish id) = (.done, d) := by simp only [step, known]
    rw [idle]
    exact h
  | some r =>
    obtain ⟨hr, rfl⟩ := running?_eq_some known
    rw [step_finish host h.books hr]
    by_cases held : d.session.holds r
    · rw [if_pos held]
      exact h.land steady hr new held _
    · rw [if_neg held]
      exact h.without hr held

/-- Starts and ends of checks of files, one after the other. -/
theorem run (books : c.session.Accounts c.running) {host : Host σ}
    (steady : Steady host c.session paths out)
    (calls : ∀ o ∈ os, (∃ p ∈ paths, o = .start (.file p)) ∨
      ∃ id, c.session.nextId ≤ id ∧ o = .finish id) :
    Midway paths out c os (c.run host os) := by
  induction os using List.reverseRecOn with
  | nil => exact .nil books
  | append_singleton os o ih =>
    obtain ⟨calls, last⟩ := List.forall_mem_append.1 calls
    have h := ih calls
    rw [run_concat]
    rcases last o (List.mem_singleton_self o) with ⟨p, hp, rfl⟩ | ⟨id, new, rfl⟩
    · cases prepared : c.session.prepare (.file p) with
      | error result => exact h.start_refused host prepared
      | ok plan =>
        obtain ⟨-, rfl⟩ := Session.prepare_eq_ok prepared
        exact h.start steady hp prepared
    · exact h.finish steady new

end Midway

/-! ## In any order -/

/-- What the files hold after checks that have all ended. -/
theorem Midway.settled {paths : List Path} {out : Path → Output} {host : Host σ} {c : Course σ}
    {os : List (Operation σ)} (h : Midway paths out c os (c.run host os))
    (steady : Steady host c.session paths out) (all : Interleaves host c paths os)
    (configured : c.session.configured = true) {p : Path} (called : .start (.file p) ∈ os)
    {excluded : Bool} (known : c.session.isExcluded (.file p) = .ok excluded) :
    (c.run host os).session.store.find? p =
      if excluded then c.session.store.find? p
      else Store.entryOf (c.session.found p (out p)) := by
  have hp : p ∈ paths := by
    rcases all.calls _ called with ⟨q, hq, same⟩ | ⟨id, -, same⟩
    · cases same
      exact hq
    · cases same
  cases excluded with
  | true =>
    refine h.kept p ?_
    rintro q hq ⟨-, included⟩ same
    rw [steady.eq_of_same hq hp same] at included
    simp [Session.prepare, configured, known] at included
  | false =>
    have included : c.session.prepare (.file p) = .ok (c.session.plan (.file p)) := by
      simp [Session.prepare, configured, known]
    rcases h.checked p hp ⟨called, included⟩ with found | ⟨r, hr, new, -⟩
    · exact found
    · exact absurd (all.ended r hr) (Nat.not_lt.2 new)

/-- Checks of files commute.  However their starts and ends come one after the other,
once all of them have ended, a file that was not checked holds what it held, a file that
is excluded does too, and any other holds what was found in it.  So two ways to check
the same files, each any number of times, end with the same diagnostics. -/
theorem file_checks_commute (host : Host σ) (state : σ) (layout? : Option Layout)
    (before : List (Operation σ)) (paths : List Path) (out : Path → Output)
    (calls : List (Operation σ)) :
    let c := (new state layout?).run host before
    c.session.configured = true → Steady host c.session paths out →
    Interleaves host c paths calls →
    let after := (c.run host calls).session.store
    (∀ q, (∀ p, .start (.file p) ∈ calls → ¬ p.Same q) →
      after.find? q = c.session.store.find? q) ∧
    (∀ p, .start (.file p) ∈ calls → ∃ excluded, c.session.isExcluded (.file p) = .ok excluded ∧
      after.find? p = if excluded then c.session.store.find? p
        else Store.entryOf (c.session.found p (out p))) ∧
    ∀ others, Interleaves host c paths others →
      (∀ p, .start (.file p) ∈ others ↔ .start (.file p) ∈ calls) →
      ∀ q, (c.run host others).session.store.find? q = after.find? q := by
  intro c configured steady interleaves after
  have books : c.session.Accounts c.running := accounts_of_new host state layout? before
  have excluded := fun t => exists_isExcluded host state layout? before t configured
  have midway : ∀ {os}, Interleaves host c paths os → Midway paths out c os (c.run host os) :=
    fun all => .run books steady all.calls
  refine ⟨?_, ?_, ?_⟩
  · intro q apart
    exact (midway interleaves).kept q fun p _ checked => apart p checked.1
  · intro p called
    obtain ⟨excluded, known⟩ := excluded (.file p)
    exact ⟨excluded, known, (midway interleaves).settled steady interleaves configured called known⟩
  · intro others also same q
    by_cases called : ∃ p, .start (.file p) ∈ calls ∧ p.Same q
    · obtain ⟨p, called, own⟩ := called
      obtain ⟨excluded, known⟩ := excluded (.file p)
      have first := (midway interleaves).settled steady interleaves configured called known
      have second := (midway also).settled steady also configured ((same p).2 called) known
      have spelled : ∀ s : Store, s.find? q = s.find? p :=
        fun s => (PathMap.find?_congr s.entries own).symm
      rw [spelled, spelled, second]
      exact first.symm
    · have apart : ∀ p, .start (.file p) ∈ calls → ¬ p.Same q :=
        fun p mem own => called ⟨p, mem, own⟩
      have first := (midway interleaves).kept q fun p _ checked => apart p checked.1
      have second := (midway also).kept q fun p _ checked => apart p ((same p).1 checked.1)
      exact second.trans first.symm

/-- A file is checked twice at once, and its header is excluded: the first check is
superseded and ends last, and the file holds what was found in it. -/
theorem checked_twice_and_excluded :
    let answer (name : Option String) : Output :=
      if name = some "/a.c" then .sample
      else ⟨Text.Utf8.encode "total: 0 errors, 0 warnings, 1 lines checked\n", [], 0⟩
    let checker : Host Unit :=
      { Host.uniform .sample with start := fun l s => (.ok (answer l.args.getLast?), s) }
    let a := Path.ofString "/a.c"
    let h := Path.ofString "/a.h"
    let before := [.reload { exclude := ["*.h"] } []]
    let c := (new () none).run checker before
    let calls := [.start (.file a), .start (.file h), .start (.file a), .finish 1, .finish 0]
    (c.run checker calls).session.store.find? a = some [.sample] ∧
      (c.run checker calls).session.store.find? h = none := by
  intro answer checker a h before c calls
  have configured : c.session.configured = true := by decide +kernel
  let out (p : Path) : Output := answer (some (Path.slashed p.text))
  have steady : Steady checker c.session [a, h] out := by
    refine ⟨by decide +kernel, ?_, by decide +kernel⟩
    intro p _ state
    exact ⟨state, by simp [checker, out, Resolved.launch, checkArgs, Target.modeArgs]⟩
  have interleaves : Interleaves checker c [a, h] calls := by
    refine ⟨?_, by decide +kernel⟩
    have new : c.session.nextId = 0 := by decide +kernel
    simp [calls, new]
  obtain ⟨-, checked, -⟩ := file_checks_commute checker () none before [a, h] out calls
    configured steady interleaves
  have included : c.session.isExcluded (.file a) = .ok false := by decide +kernel
  have left : c.session.isExcluded (.file h) = .ok true := by decide +kernel
  simp only [c] at checked included left ⊢
  refine ⟨?_, ?_⟩
  · obtain ⟨excluded, known, held⟩ := checked a (by simp [calls])
    obtain rfl := Except.ok.inj (known.symm.trans included)
    exact held.trans (by decide +kernel)
  · obtain ⟨excluded, known, held⟩ := checked h (by simp [calls])
    obtain rfl := Except.ok.inj (known.symm.trans left)
    exact held.trans (by decide +kernel)

end Course

end PatchLint
