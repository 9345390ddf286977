import PatchLint.Proofs.Config.Layering
import PatchLint.Proofs.Server.Responses
import PatchLint.Proofs.Session.Accounts

/-!
# What the user chooses

The repository and the commit of a check are named by the editor or picked out of what
version control lists.  `Picks` says how one of the listed things is picked: without a
question if there are too few of them, and else by the title that the editor answers
with.  `Chosen` adds that what is named is not asked for, and `TargetChosen` puts
repository and commit together.

Main statement: the commit that is checked is the one that was chosen, in the repository
that was chosen, and nothing is checked if the choice was abandoned
(`checks_what_was_chosen`).

The repository decides which configuration the checker is run with, and its working
directory is a matter of the configuration.  It is the repository only if that is a
workspace folder and its files are to be checked from there
(`Snapshot.cwd_resolveRepository`); else the checker runs in the first workspace folder,
whatever was chosen (`chosen_repository_is_not_entered`).
-/

namespace PatchLint

variable {σ : Type}

/-- Where a commit of a repository is checked: inside the repository if that is a workspace
folder that has a checker of its own or is to be the working directory, and inside the
first workspace folder otherwise. -/
def Snapshot.placeOf (s : Snapshot) (repository : Path) : Option Path :=
  match s.folderForRepository repository with
  | some folder =>
      let r := s.resolveRepository repository
      if r.origins.executable = .folder ∨ r.config.useFolderAsCwd then some folder
      else s.rootFolder
  | none => s.rootFolder

theorem Snapshot.cwd_resolveRepository (s : Snapshot) (repository : Path) :
    (s.resolveRepository repository).cwd = s.placeOf repository := by
  simp only [placeOf]
  cases owner : s.folderForRepository repository with
  | none =>
    have same : s.resolveRepository repository = s.resolveKnown none {} := by
      simp only [resolveRepository, owner, resolve]
    rw [same]
    exact (cwd_resolveKnown_root s (by simp)).1
  | some folder =>
    have known : (s.folders.find? fun f => f.1.Same folder).isSome := by
      obtain ⟨entry, mem, root⟩ := List.mem_map.1 (List.mem_of_find?_eq_some owner)
      rw [List.find?_isSome]
      exact ⟨entry, mem, by simp [root]⟩
    obtain ⟨entry, found⟩ := Option.isSome_iff_exists.1 known
    have same : s.resolveRepository repository = s.resolveKnown (some folder) entry.2 := by
      simp only [resolveRepository, owner, resolve, overrideFor?, found, Option.map_some]
    have named : (Origin.of entry.2.executable = .folder) ↔ entry.2.executable.isSome := by
      cases entry.2.executable <;> simp [Origin.of]
    rw [same]
    show (s.resolveKnown (some folder) entry.2).cwd =
      if Origin.of entry.2.executable = .folder ∨ (s.effective entry.2).useFolderAsCwd = true
        then some folder else s.rootFolder
    simp only [named]
    split
    · next wanted => exact (cwd_resolveKnown_own s folder wanted).1
    · next otherwise => exact (cwd_resolveKnown_root s fun h => otherwise h.2).1

/-- What is started to check a commit of a repository. -/
def Snapshot.commitLaunch (s : Snapshot) (repository : Path) (hash : String) : Launch :=
  let config := (s.resolveRepository repository).config
  { program := config.executable
    args := config.args ++ reportArgs ++ ["-g", hash]
    cwd := s.placeOf repository }

/-- In a configured session a check of a commit starts its checker, and nothing else. -/
theorem Session.host_check_commit (host : Host σ) {s : Session} (configured : s.configured = true)
    (repository : Path) (hash : String) (scene : Scene (σ × List Launch)) :
    ((s.check host.recorded (.commit repository hash)).run scene).2.host =
      ((host.start (s.snapshot.commitLaunch repository hash) scene.host.1).2,
        scene.host.2 ++ [s.snapshot.commitLaunch repository hash]) := by
  have launch : (s.resolve (.commit repository hash)).launch (.commit repository hash) =
      s.snapshot.commitLaunch repository hash := by
    simp only [Resolved.launch, Snapshot.commitLaunch, ← Snapshot.cwd_resolveRepository]
    rfl
  have prepared : s.prepare (.commit repository hash) = .ok (s.plan (.commit repository hash)) := by
    simp only [prepare, configured, if_true]
    rfl
  rw [← launch]
  exact host_check host.recorded prepared scene

namespace Server

open Dialogue

/-! ## Questions -/

/-- A question to the editor and the titles to choose from. -/
structure Question where
  text : String
  titles : List String
deriving DecidableEq, Repr

def Sent.question? : Sent → Option Question
  | .ask _ text titles => some ⟨text, titles⟩
  | _ => none

/-- The questions among messages, in order. -/
def questions (sent : List Sent) : List Question := sent.filterMap Sent.question?

@[simp] theorem questions_append (sent more : List Sent) :
    questions (sent ++ more) = questions sent ++ questions more := by
  simp [questions]

/-- Publishing asks nothing. -/
theorem questions_published (s : Store) : questions (published s) = [] := by
  refine List.filterMap_eq_nil_iff.2 fun m hm => ?_
  obtain ⟨c, -, sent⟩ := List.mem_filterMap.1 hm
  obtain ⟨uri, -, rfl⟩ := Option.map_eq_some_iff.1 sent
  rfl

theorem questions_publish (e : Exchange σ) :
    questions (publish.run e).2.sent = questions e.sent := by
  rw [publish_run, questions_append]
  split
  · rw [questions_published, List.append_nil]
  · exact List.append_nil _

theorem questions_notice (t : Target) (result : Except CheckFault Outcome) :
    questions (notice t result) = [] := by
  cases t with
  | file path =>
    simp only [notice, fileNotice]
    split <;> rfl
  | commit repository hash =>
    simp only [notice, commitNotice]
    split <;> rfl

/-- The answer to the next question. -/
def nextAnswer (answers : List Answer) : Answer := answers.head?.getD (.result .null)

/-! ## Picking -/

variable {α β : Type}

/-- How one of the things that version control lists is picked, and what is asked for
that.  Only if there are enough of them the editor is asked, and it is offered their
titles in the order of the listing.  The first thing whose title it answers with is
picked.  Nothing is picked if it answers anything else. -/
inductive Picks (text : String) (title : α → String) (enough : Nat)
    (listed : Except VersionFault (List α)) (answer : Answer) :
    Option α → List Question → Prop where
  | failed {fault} : listed = .error fault → Picks text title enough listed answer none []
  | few {xs : List α} : listed = .ok xs → xs.length < enough →
      Picks text title enough listed answer xs.head? []
  | chosen {xs : List α} {x : α} {i : Nat} : listed = .ok xs → enough ≤ xs.length → xs[i]? = some x →
      answer.decode decodeChosen = .ok (some (title x)) →
      (∀ j y, xs[j]? = some y → title y = title x → i ≤ j) →
      Picks text title enough listed answer (some x) [⟨text, xs.map title⟩]
  | abandoned {xs : List α} : listed = .ok xs → enough ≤ xs.length →
      (∀ x ∈ xs, answer.decode decodeChosen ≠ .ok (some (title x))) →
      Picks text title enough listed answer none [⟨text, xs.map title⟩]

/-- What the editor has named, or else a value of what is picked. -/
inductive Chosen (named : Option β) (value : α → β) (text : String) (title : α → String)
    (enough : Nat) (list : Work σ (Except VersionFault (List α))) (scene : Scene σ)
    (answer : Answer) : Option β → List Question → Scene σ → Prop where
  | named {b} : named = some b →
      Chosen named value text title enough list scene answer (some b) [] scene
  | picked {picked asked} : named = none →
      Picks text title enough (list.run scene).1 answer picked asked →
      Chosen named value text title enough list scene answer (picked.map value) asked
        (list.run scene).2

/-- How the repository of a request is chosen: the editor is asked if there are two or
more. -/
abbrev RepositoryChosen (versions : VersionControl σ) (folders : List Path) (r : CommitRequest)
    (scene : Scene σ) (answers : List Answer) : Option Path → List Question → Scene σ → Prop :=
  Chosen r.repository id "Select a repository" Path.text 2 (versions.repositories folders) scene
    (nextAnswer answers)

/-- How the commit of a request is chosen: the editor is asked if there are any. -/
abbrev CommitChosen (versions : VersionControl σ) (repository : Path) (r : CommitRequest)
    (scene : Scene σ) (answers : List Answer) : Option String → List Question → Scene σ → Prop :=
  Chosen r.hash Commit.hash "Select a commit to check" Commit.label 1
    (versions.log repository VersionControl.maxCommits) scene (nextAnswer answers)

/-- How the target of a request to check a commit is chosen: the repository and the full hash of the
commit, or nothing; what was asked; and how version control has left the host. -/
inductive TargetChosen (versions : VersionControl σ) (folders : List Path) (r : CommitRequest)
    (scene : Scene σ) (answers : List Answer) :
    Option (Path × String) → List Question → Scene σ → Prop where
  | noRepository {asked after} :
      RepositoryChosen versions folders r scene answers none asked after →
      TargetChosen versions folders r scene answers none asked after
  | noCommit {repository asked middle more after} :
      RepositoryChosen versions folders r scene answers (some repository) asked middle →
      CommitChosen versions repository r middle (answers.drop asked.length) none more after →
      TargetChosen versions folders r scene answers none (asked ++ more) after
  | chosen {repository hash asked middle more after} :
      RepositoryChosen versions folders r scene answers (some repository) asked middle →
      CommitChosen versions repository r middle (answers.drop asked.length) (some hash) more
        after →
      TargetChosen versions folders r scene answers (some (repository, hash)) (asked ++ more) after

/-! ## Asking -/

/-- Questions were asked and version control was at work, and nothing else has happened.
If something was found the log is that of the work. -/
structure Asked (e : Exchange σ) (asked : List Question) (after : Scene σ) (found : Bool)
    (e' : Exchange σ) : Prop where
  session : e'.server.session = e.server.session
  documents : e'.server.documents = e.server.documents
  questions : questions e'.sent = questions e.sent ++ asked
  answers : e'.answers = e.answers.drop asked.length
  host : e'.scene.host = after.host
  scene : found = true → e'.scene = after

namespace Asked

variable {e e₁ e₂ : Exchange σ} {asked more : List Question} {middle after : Scene σ}
  {found : Bool}

theorem trans (h : Asked e asked middle true e₁) (k : Asked e₁ more after found e₂) :
    Asked e (asked ++ more) after found e₂ where
  session := k.session.trans h.session
  documents := k.documents.trans h.documents
  questions := by rw [k.questions, h.questions, List.append_assoc]
  answers := by rw [k.answers, h.answers, List.drop_drop, List.length_append]
  host := k.host
  scene := k.scene

/-- Questions that come after version control was at work. -/
theorem rebase (h : Asked { e with scene := middle } asked after found e₁) :
    Asked e asked after found e₁ :=
  ⟨h.session, h.documents, h.questions, h.answers, h.host, h.scene⟩

end Asked

/-- The exchange after a question and its answer. -/
def afterAsking (e : Exchange σ) (text : String) (titles : List String) : Exchange σ :=
  { e with
    sent := e.sent ++ [.ask e.server.nextQuestion text titles]
    answers := e.answers.tail
    server := { e.server with nextQuestion := e.server.nextQuestion + 1 } }

theorem asked_afterAsking (e : Exchange σ) (text : String) (titles : List String)
    (found : Bool) : Asked e [⟨text, titles⟩] e.scene found (afterAsking e text titles) where
  session := rfl
  documents := rfl
  questions := questions_append e.sent _
  answers := List.drop_one.symm
  host := rfl
  scene := fun _ => rfl

/-- Titles are chosen from by asking once, and the log tells of an answer that is an
error. -/
theorem choose_run (text : String) (titles : List String) (e : Exchange σ) :
    (choose text titles).run e =
      match (nextAnswer e.answers).decode decodeChosen with
      | .ok (some title) => (titles.findIdx? fun t => t = title, afterAsking e text titles)
      | .ok none => (none, afterAsking e text titles)
      | .error fault => (none, ((say [.error ("Selection request failed: " ++ fault)]).run
          (afterAsking e text titles)).2) := by
  have asking : (choose text titles).run e =
      (match (nextAnswer e.answers).decode decodeChosen with
      | .ok (some title) => pure (titles.findIdx? fun t => t = title)
      | .ok none => pure none
      | .error fault => do
          say [.error ("Selection request failed: " ++ fault)]
          return none : Dialogue σ (Option Nat)).run (afterAsking e text titles) := rfl
  rw [asking]
  split <;> rfl

/-- The first thing with the title that was answered is picked. -/
theorem Picks.of_title (text : String) (title : α → String) {xs : List α} {enough : Nat}
    (many : enough ≤ xs.length) {answer : Answer} {t : String}
    (reply : answer.decode decodeChosen = .ok (some t)) :
    Picks text title enough (.ok xs) answer
      (((xs.map title).findIdx? fun u => u = t).bind fun i => xs[i]?) [⟨text, xs.map title⟩] := by
  cases place : (xs.map title).findIdx? fun u => u = t with
  | none =>
    refine .abandoned rfl many fun x hx => ?_
    have others := List.findIdx?_eq_none_iff.1 place (title x) (List.mem_map_of_mem hx)
    simpa [reply, eq_comm] using others
  | some i =>
    obtain ⟨inside, same, first⟩ := List.findIdx?_eq_some_iff_getElem.1 place
    rw [List.length_map] at inside
    simp only [List.getElem_map, decide_eq_true_eq] at same first
    have here : xs[i]? = some xs[i] := List.getElem?_eq_getElem inside
    rw [Option.bind_some, here]
    refine .chosen rfl many here (by rw [reply, same]) fun j y there titled => ?_
    by_contra earlier
    obtain ⟨bound, rfl⟩ := List.getElem?_eq_some_iff.1 there
    exact first j (Nat.lt_of_not_le earlier) (titled.trans same)

/-- One of several things is picked by one question. -/
theorem pick_picks (text : String) (title : α → String) {xs : List α} {enough : Nat}
    (many : enough ≤ xs.length) (e : Exchange σ) :
    let asking := (pick text title xs).run e
    Picks text title enough (.ok xs) (nextAnswer e.answers) asking.1 [⟨text, xs.map title⟩] ∧
      Asked e [⟨text, xs.map title⟩] e.scene asking.1.isSome asking.2 := by
  have run : (pick text title xs).run e =
      (((choose text (xs.map title)).run e).1.bind fun i => xs[i]?,
        ((choose text (xs.map title)).run e).2) := rfl
  rw [run, choose_run]
  have asked := asked_afterAsking e text (xs.map title)
  cases reply : (nextAnswer e.answers).decode decodeChosen with
  | error fault =>
    refine ⟨.abandoned rfl many fun x _ => by simp [reply], ?_⟩
    exact { asked false with scene := nofun }
  | ok answered =>
    cases answered with
    | none => exact ⟨.abandoned rfl many fun x _ => by simp [reply], asked false⟩
    | some t => exact ⟨.of_title text title many reply, asked _⟩

/-! ## The two choices -/

/-- What is named is not asked for. -/
theorem namedOr_chosen (named : Option β) {value : α → β} {text : String}
    {title : α → String} {enough : Nat} {list : Work σ (Except VersionFault (List α))}
    {picking : Dialogue σ (Option β)} {e : Exchange σ}
    (picks : ∃ picked asked,
      Picks text title enough (list.run e.scene).1 (nextAnswer e.answers) picked asked ∧
        (picking.run e).1 = picked.map value ∧
        Asked e asked (list.run e.scene).2 picked.isSome (picking.run e).2) :
    let choosing := (namedOr named picking).run e
    ∃ asked after, Chosen named value text title enough list e.scene (nextAnswer e.answers)
        choosing.1 asked after ∧
      Asked e asked after choosing.1.isSome choosing.2 := by
  intro choosing
  cases named with
  | some b =>
    refine ⟨[], e.scene, .named rfl, ?_⟩
    exact ⟨rfl, rfl, (List.append_nil _).symm, rfl, rfl, fun _ => rfl⟩
  | none =>
    obtain ⟨picked, asked, pick, result, after⟩ := picks
    have same : choosing = picking.run e := rfl
    rw [same, result]
    refine ⟨asked, _, .picked rfl pick, ?_⟩
    rwa [Option.isSome_map]

/-- Work of version control and a text for the user. -/
theorem asked_show (e : Exchange σ) (line : LogLine) (after : Scene σ) (found : Bool) :
    Asked e [] after found ((send (.show line)).run { e with scene := after }).2 where
  session := rfl
  documents := rfl
  questions := questions_append e.sent _
  answers := rfl
  host := rfl
  scene := fun _ => rfl

theorem pickRepository_picks (env : Surroundings σ) (e : Exchange σ) :
    ∃ picked asked,
      Picks "Select a repository" Path.text 2
          ((env.versions.repositories e.server.folders).run e.scene).1 (nextAnswer e.answers)
          picked asked ∧
        ((pickRepository env).run e).1 = picked.map id ∧
        Asked e asked ((env.versions.repositories e.server.folders).run e.scene).2
          picked.isSome ((pickRepository env).run e).2 := by
  simp only [pickRepository, run_bind, run_server, run_work]
  generalize (env.versions.repositories e.server.folders).run e.scene = listing
  obtain ⟨listed, after⟩ := listing
  cases listed with
  | error fault => exact ⟨none, [], .failed rfl, rfl, asked_show e _ after _⟩
  | ok roots =>
    match roots with
    | [] => exact ⟨none, [], .few rfl (by simp), rfl, asked_show e _ after _⟩
    | [root] =>
      refine ⟨some root, [], .few rfl (by simp), rfl, ?_⟩
      exact ⟨rfl, rfl, (List.append_nil _).symm, rfl, rfl, fun _ => rfl⟩
    | root :: next :: others =>
      have several : 2 ≤ (root :: next :: others).length := by simp
      obtain ⟨picks, asked⟩ :=
        pick_picks "Select a repository" Path.text several { e with scene := after }
      refine ⟨_, _, picks, ?_, asked.rebase⟩
      rw [Option.map_id]
      rfl

theorem pickCommit_picks (env : Surroundings σ) (repository : Path) (e : Exchange σ) :
    let picking : Dialogue σ (Option String) := do
      return (← pickCommit env repository).map Commit.hash
    ∃ picked asked,
      Picks "Select a commit to check" Commit.label 1
          ((env.versions.log repository VersionControl.maxCommits).run e.scene).1
          (nextAnswer e.answers) picked asked ∧
        (picking.run e).1 = picked.map Commit.hash ∧
        Asked e asked ((env.versions.log repository VersionControl.maxCommits).run e.scene).2
          picked.isSome (picking.run e).2 := by
  simp only [pickCommit, run_bind, run_work, run_pure]
  generalize (env.versions.log repository VersionControl.maxCommits).run e.scene = listing
  obtain ⟨listed, after⟩ := listing
  cases listed with
  | error fault => exact ⟨none, [], .failed rfl, rfl, asked_show e _ after _⟩
  | ok commits =>
    match commits with
    | [] => exact ⟨none, [], .few rfl (by simp), rfl, asked_show e _ after _⟩
    | commit :: others =>
      have atLeastOne : 1 ≤ (commit :: others).length := by simp
      obtain ⟨picks, asked⟩ :=
        pick_picks "Select a commit to check" Commit.label atLeastOne { e with scene := after }
      exact ⟨_, _, picks, rfl, asked.rebase⟩

/-- The commit is chosen after the repository, out of those of the repository. -/
theorem pickTarget_chosen (env : Surroundings σ) (r : CommitRequest) (e : Exchange σ) :
    let choosing := (pickTarget env r).run e
    ∃ asked after,
      TargetChosen env.versions e.server.folders r e.scene e.answers choosing.1 asked after ∧
        Asked e asked after choosing.1.isSome choosing.2 := by
  obtain ⟨asked, middle, chosen, asking⟩ :=
    namedOr_chosen r.repository (pickRepository_picks env e)
  simp only [pickTarget, run_bind]
  cases first : (namedOr r.repository (pickRepository env)).run e with
  | mk found e₁ =>
  rw [first] at chosen asking
  cases found with
  | none => exact ⟨asked, middle, .noRepository chosen, asking⟩
  | some repository =>
    obtain ⟨more, after, commit, last⟩ :=
      namedOr_chosen r.hash (pickCommit_picks env repository e₁)
    rw [asking.scene rfl, asking.answers] at commit
    simp only [run_bind, run_pure]
    cases second : (namedOr r.hash (do
      return (← pickCommit env repository).map Commit.hash)).run e₁ with
    | mk hash e₂ =>
    rw [second] at commit last
    cases hash with
    | none => exact ⟨asked ++ more, after, .noCommit chosen commit, asking.trans last⟩
    | some hash => exact ⟨asked ++ more, after, .chosen chosen commit, asking.trans last⟩

theorem commitTarget_run (env : Surroundings σ) (r : CommitRequest) (e : Exchange σ) :
    (commitTarget env r).run e = match (pickTarget env r).run e with
      | (none, e') => (none, e')
      | (some (repository, hash), e') => (some (.commit repository hash),
          { e' with
            scene := { e'.scene with log := e'.scene.log ++
              [.info ("Checking commit " ++ hash ++ " of " ++ repository.text)] } }) := by
  simp only [commitTarget, run_bind]
  cases (pickTarget env r).run e with
  | mk picked e' => cases picked <;> rfl

/-- The target of an attempt is what was chosen. -/
theorem commitTarget_chosen (env : Surroundings σ) (r : CommitRequest) (e : Exchange σ) :
    let settling := (commitTarget env r).run e
    ∃ picked asked after,
      TargetChosen env.versions e.server.folders r e.scene e.answers picked asked after ∧
        settling.1 = picked.map (fun chosen => .commit chosen.1 chosen.2) ∧
        Asked e asked after false settling.2 := by
  obtain ⟨asked, after, chosen, asking⟩ := pickTarget_chosen env r e
  simp only [commitTarget_run]
  cases picking : (pickTarget env r).run e with
  | mk picked e' =>
  rw [picking] at chosen asking
  refine ⟨picked, asked, after, chosen, ?_⟩
  cases picked with
  | none => exact ⟨rfl, asking⟩
  | some picked => exact ⟨rfl, { asking with scene := nofun }⟩

/-! ## Checking -/

/-- A configured session is not tried again, and its changes are published. -/
theorem ensure_configured_run (env : Surroundings σ) {e : Exchange σ}
    (configured : e.server.session.configured = true) :
    (ensure env).run e = (true, (publish.run e).2) := by
  simp only [ensure, run_bind, run_onSession, Session.ensure_configured env.host configured]
  rfl

/-- A check of a commit in a configured session starts its checker and asks nothing. -/
theorem checkTarget_commit (host : Host σ) (versions : VersionControl (σ × List Launch))
    (repository : Path) (hash : String) {e : Exchange (σ × List Launch)}
    (configured : e.server.session.configured = true) :
    let checked := ((checkTarget ⟨host.recorded, versions⟩ (.commit repository hash)).run e).2
    let check := e.server.session.snapshot.commitLaunch repository hash
    questions checked.sent = questions e.sent ∧
      checked.scene.host = ((host.start check e.scene.host.1).2, e.scene.host.2 ++ [check]) := by
  rw [checkTarget_run]
  exact ⟨questions_publish _, Session.host_check_commit host configured repository hash e.scene⟩

/-- What has come of a choice: nothing but questions if it was abandoned, and else a
check of what was chosen. -/
structure ChecksChoice (host : Host σ) (e : Exchange (σ × List Launch)) (asked : List Question)
    (after : Scene (σ × List Launch)) (picked : Option (Path × String))
    (outcome : Option Outcome) (e' : Exchange (σ × List Launch)) : Prop where
  questions : questions e'.sent = questions e.sent ++ asked
  abandoned : picked = none → e'.scene.host = after.host ∧
    e'.server.session = e.server.session.taken ∧ outcome = none
  checked : ∀ repository hash, picked = some (repository, hash) →
    let check := e.server.session.snapshot.commitLaunch repository hash
    e'.scene.host = ((host.start check after.host.1).2, after.host.2 ++ [check])

/-- An attempt in a configured session checks what was chosen, if anything was. -/
theorem Attempt.exists_chosen {host : Host σ} {versions : VersionControl (σ × List Launch)}
    {r : CommitRequest} {e e' : Exchange (σ × List Launch)}
    {ending : Option (Target × Except CheckFault Outcome)}
    (h : Attempt ⟨host.recorded, versions⟩ (commitTarget ⟨host.recorded, versions⟩ r) e ending e')
    (configured : e.server.session.configured = true) :
    ∃ picked asked after,
      TargetChosen versions e.server.folders r e.scene e.answers picked asked after ∧
        ChecksChoice host e asked after picked (outcome? ending) e' := by
  have ready := ensure_configured_run ⟨host.recorded, versions⟩ configured
  obtain ⟨picked, asked, after, chosen, target, settling⟩ :=
    commitTarget_chosen ⟨host.recorded, versions⟩ r (publish.run e).2
  refine ⟨picked, asked, after, chosen, ?_⟩
  cases h with
  | unconfigured retried => cases ready.symm.trans retried
  | unsettled retried settled =>
    cases ready.symm.trans retried
    rw [settled] at target settling
    obtain rfl : picked = none := by simpa using target.symm
    refine ⟨settling.questions.trans (by rw [questions_publish]), fun _ => ?_, nofun⟩
    exact ⟨settling.host, settling.session, rfl⟩
  | @checked e₁ e₂ e₃ t result retried settled checked =>
    cases ready.symm.trans retried
    rw [settled] at target settling
    obtain ⟨⟨repository, hash⟩, rfl, rfl⟩ := Option.map_eq_some_iff.1 target.symm
    have session : e₂.server.session = e.server.session.taken := settling.session
    have made := checkTarget_commit host versions repository hash
      (e := e₂) (by rw [session]; exact configured)
    rw [checked, session, settling.host] at made
    refine ⟨?_, nofun, ?_⟩
    · rw [questions_append, questions_notice, List.append_nil, made.1, ← questions_publish e]
      exact settling.questions
    · rintro _ _ ⟨⟩
      exact made.2

/-- In a configured session a request to check a commit asks for what it does not name, as
far as there is something to choose from.  If a commit of a repository was chosen, then the
checker that is configured for the repository is started once, with the full hash of the
commit, in the directory that is configured for the repository.  Otherwise no checker is
started, the diagnostics stay, and the result is `null`. -/
theorem checks_what_was_chosen (host : Host σ) (versions : VersionControl (σ × List Launch))
    {m : Message} {id : Json} {arguments : List Json}
    (h : m.Executes id ⟨Command.checkCommit.name, arguments⟩)
    {e : Exchange (σ × List Launch)} (started : e.server.phase = .started)
    (configured : e.server.session.configured = true) :
    let s := e.server.session
    let answered := (handle ⟨host.recorded, versions⟩ m).run e
    ∃ picked asked after,
      TargetChosen versions e.server.folders (commitArgument arguments) e.scene e.answers picked
        asked after ∧
      questions answered.2.sent = questions e.sent ++ asked ∧
      match picked with
      | none =>
          answered.2.scene.host = after.host ∧ answered.2.server.session = s.taken ∧
            answered.1 = some ⟨id, .ok .null⟩
      | some (repository, hash) =>
          let check := s.snapshot.commitLaunch repository hash
          answered.2.scene.host = ((host.start check after.host.1).2, after.host.2 ++ [check]) := by
  intro s answered
  have other : Command.checkCommit.name ≠ Command.checkFile.name := by decide
  have usable : ¬ Execution.Unusable ⟨Command.checkCommit.name, arguments⟩ := by
    rintro (unknown | ⟨file, -⟩)
    · exact unknown (List.mem_map_of_mem (show Command.checkCommit ∈ Command.all by decide))
    · exact other file
  obtain ⟨ending, e', checks, ran⟩ :=
    exists_checks ⟨host.recorded, versions⟩ h started usable (.inr rfl)
  cases checks with
  | elsewhere file => exact absurd file other
  | file file => exact absurd file other
  | commit _ attempt =>
    obtain ⟨picked, asked, after, chosen, made⟩ := attempt.exists_chosen configured
    obtain ⟨phase, left⟩ := exists_respond_run id (checkResult (outcome? ending)) e'
    have answer := (respond_checkResult id (outcome? ending) e').1
    rw [← ran] at left answer
    change answered.2 = _ at left
    rw [left]
    refine ⟨picked, asked, after, chosen, made.questions, ?_⟩
    cases picked with
    | none =>
      obtain ⟨host, kept, nothing⟩ := made.abandoned rfl
      rw [nothing] at answer
      exact ⟨host, kept, answer⟩
    | some target => exact made.checked target.1 target.2 rfl

/-! ## A sample -/

/-- Two repositories with one commit. -/
def sampleListing : Surroundings (Unit × List Launch) where
  host := (Host.uniform .sample).recorded
  versions := .listing (.ok [.ofString "/a", .ofString "/b"])
    (.ok [⟨"0123456789abcdef", "one"⟩])

/-- A started session in which the two repositories are the workspace folders.  The editor
will choose the second repository and the commit. -/
def sampleChoice : Exchange (Unit × List Launch) :=
  let folder (uri : String) : Json := .object [("uri", .str uri), ("name", .str "")]
  let title (text : String) : Answer := .result (.object [("title", .str text)])
  ((Conversation.new ((), [])).run sampleListing [.message
    ⟨"initialize", some (.nat 1), some (.object [("capabilities", .object []),
      ("workspaceFolders", .arr [folder "file:///a", folder "file:///b"])])⟩ []]).next
    [title "/b", title "0123456789ab one"]

/-- The answer that an editor gives with a title is the title. -/
theorem decode_title (text : String) :
    (Answer.result (.object [("title", .str text)])).decode decodeChosen = .ok (some text) := by
  have members : Json.object [("title", .str text)] = .obj [("title", .str text)] := rfl
  simp [members, Answer.decode, decodeChosen, Json.decodeOptional, Json.decodeObject,
    Json.decodeMembers, Json.decodeString, Json.missingFields, Json.member?, Json.Decoding.result]
  rfl

/-- What was chosen is checked. -/
theorem second_repository_is_checked :
    let e := sampleChoice
    let m := sampleRequest "checkpatch.checkCommit" []
    let answered := (handle sampleListing m).run e
    m.Executes (.nat 2) ⟨"checkpatch.checkCommit", []⟩ ∧ e.server.phase = .started ∧
      e.server.session.configured = true ∧
      ∃ repository hash asked after,
        TargetChosen sampleListing.versions e.server.folders {} e.scene e.answers
          (some (repository, hash)) asked after ∧
        questions answered.2.sent = questions e.sent ++ asked ∧
        answered.2.scene.host.2 =
          after.host.2 ++ [e.server.session.snapshot.commitLaunch repository hash] := by
  intro e m answered
  have executes : m.Executes (.nat 2) ⟨"checkpatch.checkCommit", []⟩ := sampleRequest_executes _ _
  have ready : e.server.phase = .started ∧ e.server.session.configured = true ∧
      answered.2.server.session.nextId ≠ e.server.session.nextId := by
    decide +kernel
  obtain ⟨started, configured, numbered⟩ := ready
  clear_value e
  obtain ⟨picked, asked, after, chosen, questions, checked⟩ :=
    checks_what_was_chosen (Host.uniform .sample) sampleListing.versions executes started configured
  refine ⟨executes, started, configured, ?_⟩
  cases picked with
  | none => exact absurd (congrArg Session.nextId checked.2.1) numbered
  | some target =>
    exact ⟨target.1, target.2, asked, after, chosen, questions, congrArg Prod.snd checked⟩

/-- The editor chooses the second workspace folder, and the checker is started in the
first one. -/
theorem chosen_repository_is_not_entered :
    let e := sampleChoice
    let m := sampleRequest "checkpatch.checkCommit" []
    let answered := (handle sampleListing m).run e
    m.Executes (.nat 2) ⟨"checkpatch.checkCommit", []⟩ ∧ e.server.phase = .started ∧
      e.server.session.configured = true ∧
      e.answers.map (Answer.decode decodeChosen) =
        [.ok (some "/b"), .ok (some "0123456789ab one")] ∧
      questions answered.2.sent =
        [⟨"Select a repository", ["/a", "/b"]⟩,
          ⟨"Select a commit to check", ["0123456789ab one"]⟩] ∧
      (answered.2.scene.host.2.drop e.scene.host.2.length).map (fun l => (l.args.drop 2, l.cwd)) =
        [(["-g", "0123456789abcdef"], some (.ofString "/a"))] := by
  intro e m answered
  have ready : e.server.phase = .started ∧ e.server.session.configured = true := by
    decide +kernel
  have answers : e.answers.map (Answer.decode decodeChosen) =
      [.ok (some "/b"), .ok (some "0123456789ab one")] := by
    have given : e.answers = [.result (.object [("title", .str "/b")]),
        .result (.object [("title", .str "0123456789ab one")])] := rfl
    rw [given, List.map_cons, List.map_cons, List.map_nil, decode_title, decode_title]
  refine ⟨sampleRequest_executes _ _, ready.1, ready.2, answers, ?_⟩
  decide +kernel

end Server

end PatchLint
