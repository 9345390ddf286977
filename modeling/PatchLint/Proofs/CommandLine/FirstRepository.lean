import PatchLint.Proofs.CommandLine.Listing
import PatchLint.Proofs.Repository.Search
import PatchLint.Proofs.Warnings

/-!
# The repository that a command acts on

A request that names no repository is about one that git reports for the workspace
folders.  `CommandLine.Resolves` says how that is settled: git is asked about each folder
in turn, and the first repository that it reports is taken, whichever folder it was
reported for.  Both commands that need a repository act on the one that was settled, and
fail without checking or listing anything if none was (`CommandLine.acts_on_first_found`).

A folder for which git fails is passed over without a word.  So the repository is that
of the first folder only if git reports one there
(`CommandLine.first_folder_passed_over`).
-/

namespace PatchLint

variable {σ : Type}

namespace ConfigFile

/-- Workspace folders are loaded at the roots that were given, in order. -/
theorem roots_folders {host : Host σ} {state : σ} {roots : List Path}
    {loaded : List WorkspaceFolder} (h : (folders host state roots).result.1 = .ok loaded) :
    loaded.map WorkspaceFolder.root = roots := by
  suffices all : ∀ log log', (folders host state roots).run.run log = (.ok loaded, log') →
      loaded.map WorkspaceFolder.root = roots from all [] _ (Prod.ext h rfl)
  clear h
  induction roots generalizing loaded with
  | nil =>
    intro log log' h
    cases h
    rfl
  | cons root roots ih =>
    intro log log' h
    rw [folders, List.mapM_cons] at h
    obtain ⟨first, middle, made, h⟩ := run_bind_eq_ok h
    obtain ⟨override, middle', -, made⟩ := run_bind_eq_ok made
    cases made
    obtain ⟨rest, last, others, h⟩ := run_bind_eq_ok h
    cases h
    rw [List.map_cons, ih _ _ others]

end ConfigFile

namespace CommandLine

/-- How the repository of a request that names none is settled: the one that is acted
on or what is wrong, what git was started with, and where that leaves the host. -/
inductive Resolves (place : Place σ) (r : Request) (state : σ) :
    Except RunFault Path → List Launch → σ → Prop where
  | unloaded {fault} :
      (ConfigFile.folders place.host state (rootsOf place r)).result.1 = .error fault →
      Resolves place r state (.error (.config fault)) [] state
  | refused {loaded fault asked last} :
      (ConfigFile.folders place.host state (rootsOf place r)).result.1 = .ok loaded →
      Git.Searched place.host state (rootsOf place r) (.error fault) asked last →
      Resolves place r state (.error (.versions (.notStarted fault))) asked last
  | nowhere {loaded roots asked last} :
      (ConfigFile.folders place.host state (rootsOf place r)).result.1 = .ok loaded →
      Git.Searched place.host state (rootsOf place r) (.ok roots) asked last →
      (∀ found ∈ roots, found = none) →
      Resolves place r state (.error .noRepository) asked last
  | found {loaded before root after asked last} :
      (ConfigFile.folders place.host state (rootsOf place r)).result.1 = .ok loaded →
      Git.Searched place.host state (rootsOf place r) (.ok (before ++ some root :: after)) asked
        last →
      (∀ found ∈ before, found = none) →
      Resolves place r state (.ok root) asked last

theorem foldersOf_recorded (place : Place σ) (r : Request) (scene : Scene (σ × List Launch)) :
    ∃ log, (foldersOf place.recorded r).run scene =
      ((ConfigFile.folders place.host scene.host.1 (rootsOf place r)).result.1,
        ⟨scene.host, log⟩) := ⟨_, rfl⟩

theorem repositoryOf_recorded (place : Place σ) (r : Request) (scene : Scene (σ × List Launch)) :
    let settled := (repositoryOf place.recorded r none).run scene
    ∃ asked last, settled.2.host = (last, scene.host.2 ++ asked) ∧
      Resolves place r scene.host.1 settled.1 asked last := by
  obtain ⟨log, loading⟩ := foldersOf_recorded place r scene
  simp only [repositoryOf, Work.run_bind, loading]
  cases loaded : (ConfigFile.folders place.host scene.host.1 (rootsOf place r)).result.1 with
  | error fault => exact ⟨[], scene.host.1, by rw [List.append_nil]; rfl, .unloaded loaded⟩
  | ok folders =>
    obtain ⟨answer, asked, last, memory, searched, result⟩ :=
      Git.repositoriesFrom_recorded place.host [] (rootsOf place r) ⟨scene.host, log⟩
    simp only [Work.run_bind, ConfigFile.roots_folders loaded, VersionControl.git]
    change ((Git.repositoriesFrom place.recorded.host [] _).run _).2.host = _ at memory
    change ((Git.repositoriesFrom place.recorded.host [] _).run _).1 = _ at result
    refine ⟨asked, last, ?_⟩
    generalize (Git.repositoriesFrom place.recorded.host [] (rootsOf place r)).run
      ⟨scene.host, log⟩ = search at memory result ⊢
    obtain ⟨found, after⟩ := search
    cases answer with
    | error fault =>
      cases result
      exact ⟨memory, .refused loaded searched⟩
    | ok roots =>
      have first := Git.head?_foldl_addPath roots.reduceOption
      cases result
      generalize roots.reduceOption.foldl Git.addPath [] = found at first ⊢
      cases found with
      | nil =>
        have none : ∀ answered ∈ roots, answered = none := by
          have nothing : roots.reduceOption = [] := List.head?_eq_none_iff.1 first.symm
          exact List.filterMap_eq_nil_iff.1 nothing
        exact ⟨memory, .nowhere loaded searched none⟩
      | cons root others =>
        obtain ⟨before, after, rfl, none⟩ := Git.exists_first first.symm
        exact ⟨memory, .found loaded searched none⟩

/-! ## The two commands -/

theorem run_parsed (place : Place σ) {args : List String} {r : Request}
    (parsed : Request.ofArguments args = .ok r) (scene : Scene σ) :
    let ended := (run place args).run scene
    let performed := (perform place r).run scene
    ended.2.host = performed.2.host ∧ ended.1 = match performed.1 with
      | .ok finished => finished
      | .error _ => failed := by
  intro ended performed
  cases result : performed.1 with
  | error fault =>
    have ran : ended = _ := run_of_error parsed (Prod.ext result rfl)
    rw [ran]
    exact ⟨rfl, rfl⟩
  | ok finished =>
    have ran : ended = _ := run_of_ok parsed (Prod.ext result rfl)
    rw [ran]
    exact ⟨rfl, rfl⟩

/-- What comes before git is asked when a commit is checked. -/
theorem configured_recorded (place : Place σ) (r : Request) (scene : Scene (σ × List Launch)) :
    let loading := (configured place.recorded r).run scene
    ∃ probes, loading.2.host.2 = scene.host.2 ++ probes ∧
      ∀ l ∈ probes, ∃ (s : Snapshot) (scope : Scope), l = s.probeOf scope := by
  rcases configured_cases place.recorded r scene with
    ⟨fault, -, unchanged⟩ | ⟨settings, folders, given, same, left, -⟩
  · exact ⟨[], by rw [unchanged, List.append_nil], nofun⟩
  · obtain ⟨failed, started, memory, gated, -⟩ :=
      Session.reload_recorded place.host .new settings folders given
    refine ⟨started, ?_, fun l hl => ?_⟩
    · rw [left, ← same]
      exact memory
    · obtain ⟨scope, -, rfl⟩ := List.mem_map.1 (gated.started_prefix.subset hl)
      exact ⟨_, scope, rfl⟩

/-- A run on a host with a memory has listed commits of the repository that was settled,
or it has failed with status 2 and listed none. -/
def ListsSettled (place : Place σ) (r : Request) (max : Nat) (before : σ × List Launch)
    (ended : Finished × Scene (σ × List Launch)) : Prop :=
  ∃ answer asked last, Resolves place r before.1 answer asked last ∧
    match answer with
    | .error _ => ended.1 = ⟨2, ""⟩ ∧ ended.2.host = (last, before.2 ++ asked)
    | .ok root =>
        let listing := Git.launch root (Git.logArgs max)
        let listed := place.host.start listing last
        ended.2.host = (listed.2, before.2 ++ asked ++ [listing]) ∧
        ended.1 = match Git.printed (Git.logArgs max) listed.1 with
          | .error _ => ⟨2, ""⟩
          | .ok text =>
              ⟨0, String.join ((Commit.ofListing text).map fun c => Listing.line c.label)⟩

/-- A run on a host with a memory has checked a commit of the repository that was
settled, or it has failed with status 2 and checked none. -/
def ChecksSettled (place : Place σ) (r : Request) (s : Session) (hash : String)
    (before : σ × List Launch) (ended : Finished × Scene (σ × List Launch)) : Prop :=
  ∃ answer asked last, Resolves place r before.1 answer asked last ∧
    match answer with
    | .error _ => ended.1 = ⟨2, ""⟩ ∧ ended.2.host = (last, before.2 ++ asked)
    | .ok root =>
        let check := (s.resolve (.commit root hash)).launch (.commit root hash)
        ended.2.host = ((place.host.start check last).2, before.2 ++ asked ++ [check])

theorem lists_settled {place : Place σ} {args : List String} {r : Request}
    (parsed : Request.ofArguments args = .ok r) {max : Nat} (job : r.job = .commits none max)
    (scene : Scene (σ × List Launch)) :
    ListsSettled place r max scene.host ((run place.recorded args).run scene) := by
  generalize same : (run place.recorded args).run scene = ended
  obtain ⟨asked, last, memory, resolves⟩ := repositoryOf_recorded place r scene
  obtain ⟨host, result⟩ := run_parsed place.recorded parsed scene
  rw [same] at host result
  simp only [perform, job, runCommits, Work.run_bind] at host result
  generalize (repositoryOf place.recorded r none).run scene = settled at *
  obtain ⟨answer, after⟩ := settled
  refine ⟨answer, asked, last, resolves, ?_⟩
  cases answer with
  | error fault => exact ⟨result, host.trans memory⟩
  | ok root =>
    change after.host = _ at memory
    simp only [Work.run_bind, VersionControl.git, Git.log, Git.run, Work.run_start, Work.run_pure,
      Place.recorded, Host.recorded] at host result
    rw [memory] at host result
    refine ⟨host, ?_⟩
    rw [result]
    cases Git.printed (Git.logArgs max)
      (place.host.start (Git.launch root (Git.logArgs max)) last).1 <;> rfl

theorem checks_settled {place : Place σ} {args : List String} {r : Request}
    (parsed : Request.ofArguments args = .ok r) {hash : String} {format : Format}
    (job : r.job = .commit hash none format) (scene : Scene (σ × List Launch)) :
    let ended := (run place.recorded args).run scene
    let loading := (configured place.recorded r).run scene
    match loading.1 with
    | .error _ => ended.1 = ⟨2, ""⟩ ∧ ended.2.host = loading.2.host
    | .ok s => ChecksSettled place r s hash loading.2.host ended := by
  intro ended
  obtain ⟨host, result⟩ := run_parsed place.recorded parsed scene
  change ended.2.host = _ at host
  change ended.1 = _ at result
  simp only [perform, job, runCommit, Work.run_bind] at host result
  have ready : ∀ s, ((configured place.recorded r).run scene).1 = .ok s → s.configured = true :=
    fun _ done => (configured_eq_ok done).2.2
  generalize (configured place.recorded r).run scene = loading at host result ready ⊢
  obtain ⟨configuration, before⟩ := loading
  dsimp only
  cases configuration with
  | error fault => exact ⟨result, host⟩
  | ok s =>
    obtain ⟨asked, last, memory, resolves⟩ := repositoryOf_recorded place r before
    simp only [Work.run_bind] at host result
    generalize (repositoryOf place.recorded r none).run before = settled at *
    obtain ⟨answer, after⟩ := settled
    refine ⟨answer, asked, last, resolves, ?_⟩
    cases answer with
    | error fault => exact ⟨result, host.trans memory⟩
    | ok root =>
      have prepared : s.prepare (.commit root hash) = .ok (s.plan (.commit root hash)) := by
        simp [Session.prepare, ready s rfl, Session.isExcluded]
      change after.host = _ at memory
      refine host.trans ((Session.host_check place.recorded.host prepared after).trans ?_)
      rw [memory]
      rfl

/-! ## The first folder -/

/-- The repository that is settled is the one that git reports for the first folder, if
git reports one for it. -/
theorem Resolves.reported_first {place : Place σ} {r : Request} {state last : σ} {root : Path}
    {asked : List Launch} (h : Resolves place r state (.ok root) asked last) {first : Path}
    {rest : List Path} (folders : rootsOf place r = first :: rest) :
    Git.reported place.host state first = some root ∨
      Git.reported place.host state first = none := by
  cases h with
  | @found _ before _ _ _ _ _ searched none =>
    cases searched with
    | through answers =>
      rw [folders] at answers
      cases before with
      | nil => exact .inl answers.reported
      | cons found before => exact .inr (answers.reported.trans (none found List.mem_cons_self))

/-- Without a named repository, commits are listed and a commit is checked in the first
repository that git reports for any workspace folder; if git reports none, if it does
not start for one of the folders or if their files cannot be loaded, the command fails
with status 2, having started nothing but probes and questions to git.  The repository
that is acted on is that of the first folder exactly when git reports one there. -/
theorem acts_on_first_found (place : Place σ) (args : List String) (r : Request)
    (parsed : Request.ofArguments args = .ok r) (scene : Scene (σ × List Launch)) :
    let ended := (run place.recorded args).run scene
    (∀ max, r.job = .commits none max → ListsSettled place r max scene.host ended) ∧
    (∀ hash format, r.job = .commit hash none format →
      let loading := (configured place.recorded r).run scene
      (∃ probes, loading.2.host.2 = scene.host.2 ++ probes ∧
        ∀ l ∈ probes, ∃ (s : Snapshot) (scope : Scope), l = s.probeOf scope) ∧
      match loading.1 with
      | .error _ => ended.1 = ⟨2, ""⟩ ∧ ended.2.host = loading.2.host
      | .ok s => ChecksSettled place r s hash loading.2.host ended) ∧
    ∀ state root asked last first rest, rootsOf place r = first :: rest →
      Resolves place r state (.ok root) asked last →
      (Git.reported place.host state first = some root ↔
        Git.reported place.host state first ≠ none) := by
  intro ended
  refine ⟨fun max job => lists_settled parsed job scene, fun hash format job =>
    ⟨configured_recorded place r scene, checks_settled parsed job scene⟩, ?_⟩
  intro state root asked last first rest folders resolves
  constructor
  · intro own none
    rw [none] at own
    nomatch own
  · exact (resolves.reported_first folders).resolve_right

/-- Git reports a repository for either of two folders, and the first one's commit is
listed. -/
theorem first_folder_is_listed :
    let host : Host Unit :=
      { start := fun l s =>
          let answer := if l.args = Git.rootArgs then (l.cwd.elim "" Path.text) else "12\u001fone"
          (.ok ⟨Text.Utf8.encode answer, [], 0⟩, s)
        read := fun _ _ => .error .notFound
        isFile := fun _ _ => false }
    let place : Place Unit := ⟨host, .ofString "/"⟩
    let args := ["--folder", "/a", "--folder", "/b", "commits"]
    let r : Request := ⟨none, ["/a", "/b"], .commits none 8⟩
    let a := Path.ofString "/a"
    let ended := (run place.recorded args).run ⟨((), []), []⟩
    Request.ofArguments args = .ok r ∧ ∃ asked last, Resolves place r () (.ok a) asked last ∧
      ended.2.host.2 = asked ++ [Git.launch a (Git.logArgs 8)] ∧ ended.1.status = 0 := by
  intro host place args r a ended
  have parsed : Request.ofArguments args = .ok r := by decide +kernel
  have succeeds : ended.1.status = 0 := by decide +kernel
  have reported : Git.reported place.host () a = some a := by decide +kernel
  obtain ⟨lists, -, first⟩ := acts_on_first_found place args r parsed ⟨((), []), []⟩
  obtain ⟨answer, asked, last, resolves, acted⟩ : ListsSettled place r 8 ((), []) ended :=
    lists 8 rfl
  clear_value ended
  refine ⟨parsed, asked, last, ?_⟩
  cases answer with
  | error fault =>
    have status : ended.1 = ⟨2, ""⟩ := acted.1
    rw [status] at succeeds
    nomatch succeeds
  | ok root =>
    have own := (first () root asked last a [.ofString "/b"] (by decide +kernel) resolves).2
      (by rw [reported]; exact Option.some_ne_none a)
    obtain rfl : a = root := Option.some.inj (reported.symm.trans own)
    exact ⟨resolves, congrArg Prod.snd acted.1, succeeds⟩

/-- Git fails in the first folder and reports a repository for the second one.  The
second one's commit is listed, and all seems well. -/
theorem first_folder_passed_over :
    let a := Path.ofString "/a"
    let b := Path.ofString "/b"
    let host : Host Unit :=
      { start := fun l s =>
          let answer := if l.args = Git.rootArgs then "/b\n" else "12\u001fone"
          (.ok ⟨Text.Utf8.encode answer, [], if l.cwd = some a then 128 else 0⟩, s)
        read := fun _ _ => .error .notFound
        isFile := fun _ _ => false }
    let place : Place Unit := ⟨host, .ofString "/"⟩
    let ended :=
      (run place.recorded ["--folder", "/a", "--folder", "/b", "commits"]).run ⟨((), []), []⟩
    Git.reported place.host () a = none ∧ ended.1 = ⟨0, "12 one\n"⟩ ∧
      ended.2.host.2 = Git.questions [a, b] ++ [Git.launch b (Git.logArgs 8)] := by
  decide +kernel

end CommandLine

end PatchLint
