import Mathlib.Data.List.Induction
import Mathlib.Data.List.ReduceOption
import PatchLint.Repository.Git

/-!
# Searching for repositories

Git is asked about one folder after the other, in order, and its answers may depend on
what it was asked before.  `Git.Searched` says how that ends: every folder has an answer,
or git did not start for one of them and was not asked about those behind it.  The
repositories of the folders are the different ones among the answers
(`Git.repositoriesFrom_recorded`), and the first of them is the first answer that names
one (`Git.head?_foldl_addPath`).

Main statement: each different root that git has printed is listed once, in the order in
which they appear first (`Git.repositories_listed`).
-/

namespace PatchLint

variable {σ : Type}

namespace Git

/-- The root that git has printed, if it has found a repository. -/
def rootOf (output : Output) : Option Path :=
  if output.succeeded then some (.ofString (Text.trimmed output.outText)) else none

/-- What git reports for a folder. -/
def reported (host : Host σ) (state : σ) (folder : Path) : Option Path :=
  match (host.start (launch folder rootArgs) state).1 with
  | .ok output => rootOf output
  | .error _ => none

/-- What git is started with to ask for the repositories of folders. -/
def questions (folders : List Path) : List Launch :=
  folders.map fun folder => launch folder rootArgs

/-- Git answers for folders one after the other. -/
inductive Answers (host : Host σ) : σ → List Path → List (Option Path) → σ → Prop where
  | nil {state} : Answers host state [] [] state
  | cons {state next last folder output rest roots} :
      host.start (launch folder rootArgs) state = (.ok output, next) →
      Answers host next rest roots last →
      Answers host state (folder :: rest) (rootOf output :: roots) last

/-- The first answer is what git reports for the first folder. -/
theorem Answers.reported {host : Host σ} {state last : σ} {folder : Path} {rest : List Path}
    {found : Option Path} {roots : List (Option Path)}
    (h : Answers host state (folder :: rest) (found :: roots) last) :
    reported host state folder = found := by
  cases h with
  | cons answered _ => rw [Git.reported, answered]

/-- How a search over folders ends: git has answered for all of them, or for those in
front of one that it does not start for.  It was started for each of these in order, and
not besides. -/
inductive Searched (host : Host σ) (first : σ) (folders : List Path) :
    Except HostFault (List (Option Path)) → List Launch → σ → Prop where
  | through {roots last} : Answers host first folders roots last →
      Searched host first folders (.ok roots) (questions folders) last
  | refused {before folder after roots middle fault last} : folders = before ++ folder :: after →
      Answers host first before roots middle →
      host.start (launch folder rootArgs) middle = (.error fault, last) →
      Searched host first folders (.error fault) (questions (before ++ [folder])) last

/-- Git answers for a folder in front of the others. -/
theorem Searched.cons {host : Host σ} {first next last : σ} {folder : Path} {rest : List Path}
    {output : Output} (answered : host.start (launch folder rootArgs) first = (.ok output, next))
    {answer : Except HostFault (List (Option Path))} {asked : List Launch}
    (h : Searched host next rest answer asked last) :
    Searched host first (folder :: rest) (answer.map (rootOf output :: ·))
      (launch folder rootArgs :: asked) last := by
  cases h with
  | through answers => exact .through (.cons answered answers)
  | @refused before last _ _ _ _ _ split answers fails =>
    have split : folder :: rest = (folder :: before) ++ last :: _ := congrArg (folder :: ·) split
    exact .refused split (.cons answered answers) fails

/-- One folder is asked about, and what git reports is added to what was found. -/
theorem repositoriesFrom_cons (host : Host σ) (found : List Path) (folder : Path)
    (rest : List Path) (scene : Scene σ) :
    (repositoriesFrom host found (folder :: rest)).run scene =
      match host.start (launch folder rootArgs) scene.host with
      | (.ok output, next) =>
          (repositoriesFrom host ((rootOf output).elim found (addPath found)) rest).run
            { scene with host := next }
      | (.error fault, next) => (.error (.notStarted fault), { scene with host := next }) := by
  simp only [repositoriesFrom, run, Work.run_bind, Work.run_start, Work.run_pure]
  rcases host.start (launch folder rootArgs) scene.host with ⟨result, next⟩
  cases result with
  | error fault => rfl
  | ok output =>
    by_cases succeeded : output.succeeded
    · simp only [printed, rootOf, if_pos succeeded, Option.elim]
    · simp only [printed, rootOf, if_neg succeeded, Option.elim]

/-- The repositories of folders are the different ones that git reports, in the order in
which it reports them first. -/
theorem repositoriesFrom_recorded (host : Host σ) (found folders : List Path)
    (scene : Scene (σ × List Launch)) :
    let search := (repositoriesFrom host.recorded found folders).run scene
    ∃ answer asked last, search.2.host = (last, scene.host.2 ++ asked) ∧
      Searched host scene.host.1 folders answer asked last ∧
      search.1 = match answer with
        | .ok roots => .ok (roots.reduceOption.foldl addPath found)
        | .error fault => .error (.notStarted fault) := by
  induction folders generalizing found scene with
  | nil => exact ⟨.ok [], [], scene.host.1, by rw [List.append_nil]; rfl, .through .nil, rfl⟩
  | cons folder rest ih =>
    rw [repositoriesFrom_cons]
    have start : host.recorded.start (launch folder rootArgs) scene.host =
        ((host.start (launch folder rootArgs) scene.host.1).1,
          ((host.start (launch folder rootArgs) scene.host.1).2,
            scene.host.2 ++ [launch folder rootArgs])) := rfl
    rw [start]
    cases answered : host.start (launch folder rootArgs) scene.host.1 with
    | mk result next =>
    cases result with
    | error fault =>
      exact ⟨.error fault, [launch folder rootArgs], next, rfl,
        .refused (List.nil_append _).symm .nil answered, rfl⟩
    | ok output =>
      obtain ⟨answer, asked, last, memory, searched, result⟩ :=
        ih ((rootOf output).elim found (addPath found))
          { scene with host := (next, scene.host.2 ++ [launch folder rootArgs]) }
      refine ⟨_, _, last, ?_, searched.cons answered, ?_⟩
      · simpa using memory
      · simp only [result]
        cases answer with
        | error fault => rfl
        | ok roots => cases rootOf output <;> rfl

/-! ## The first one -/

theorem exists_addPath_cons (p : Path) (found : List Path) (q : Path) :
    ∃ more, addPath (p :: found) q = p :: more := by
  unfold addPath
  split
  · exact ⟨found, rfl⟩
  · exact ⟨found ++ [q], rfl⟩

/-- What was found first stays in front. -/
theorem head?_foldl_addPath (roots : List Path) : (roots.foldl addPath []).head? = roots.head? := by
  have stays : ∀ (roots : List Path) (p : Path) (found : List Path),
      (roots.foldl addPath (p :: found)).head? = some p := by
    intro roots
    induction roots with
    | nil => exact fun _ _ => rfl
    | cons q roots ih =>
      intro p found
      obtain ⟨more, kept⟩ := exists_addPath_cons p found q
      rw [List.foldl_cons, kept, ih]
  cases roots with
  | nil => rfl
  | cons p roots => exact stays roots p []

/-- The first repository that git reports for any folder. -/
theorem exists_first {roots : List (Option Path)} {root : Path}
    (first : roots.reduceOption.head? = some root) :
    ∃ before after, roots = before ++ some root :: after ∧ ∀ found ∈ before, found = none := by
  obtain ⟨rest, split⟩ := List.head?_eq_some_iff.1 first
  obtain ⟨before, a, after, rfl, none, same, -⟩ := List.filterMap_eq_cons_iff.1 split
  exact ⟨before, after, by rw [show a = some root from same], none⟩

/-! ## Each once -/

/-- The different paths among roots, in the order in which they appear first.  Two
spellings of a path are one path, and the first one is listed. -/
structure FirstAppearances (roots listed : List Path) : Prop where
  complete : ∀ p ∈ roots, ∃ q ∈ listed, q.Same p
  once : listed.Pairwise fun p q => ¬ p.Same q
  /-- A listed path is a root, and the roots before it are listed before it. -/
  inOrder : ∀ before p after, listed = before ++ p :: after →
    ∃ earlier later, roots = earlier ++ p :: later ∧ ∀ q ∈ earlier, ∃ r ∈ before, r.Same q

theorem mem_addPath {found : List Path} {p q : Path} (h : q ∈ found) : q ∈ addPath found p := by
  unfold addPath
  split
  · exact h
  · exact List.mem_append_left _ h

/-- One more root is listed unless it is there in some spelling. -/
theorem FirstAppearances.concat {roots listed : List Path} (h : FirstAppearances roots listed)
    (p : Path) : FirstAppearances (roots ++ [p]) (addPath listed p) := by
  have earlierRoots : ∀ before q after, listed = before ++ q :: after →
      ∃ earlier later, roots ++ [p] = earlier ++ q :: later ∧
        ∀ r ∈ earlier, ∃ t ∈ before, t.Same r := by
    intro before q after split
    obtain ⟨earlier, later, rfl, listed⟩ := h.inOrder before q after split
    exact ⟨earlier, later ++ [p], by simp, listed⟩
  by_cases known : ∃ q ∈ listed, q.Same p
  · have same : addPath listed p = listed := if_pos (by simpa using known)
    rw [same]
    refine ⟨?_, h.once, earlierRoots⟩
    intro q hq
    rcases List.mem_append.1 hq with hq | hq
    · exact h.complete q hq
    · rwa [List.mem_singleton.1 hq]
  · have more : addPath listed p = listed ++ [p] := if_neg (by simpa using known)
    refine ⟨?_, ?_, ?_⟩
    · intro q hq
      rcases List.mem_append.1 hq with hq | hq
      · obtain ⟨r, hr, same⟩ := h.complete q hq
        exact ⟨r, mem_addPath hr, same⟩
      · obtain rfl := List.mem_singleton.1 hq
        exact ⟨q, by simp [more], .rfl⟩
    · rw [more, List.pairwise_append]
      refine ⟨h.once, List.pairwise_singleton _ _, ?_⟩
      intro q hq r hr same
      exact known ⟨q, hq, List.mem_singleton.1 hr ▸ same⟩
    · intro before q after split
      rw [more] at split
      -- The new root is the last one, or the split is one of what was listed before.
      rcases after.eq_nil_or_concat' with rfl | ⟨after, last, rfl⟩
      · obtain ⟨rfl, one⟩ := List.append_inj' split rfl
        obtain rfl : p = q := List.singleton_inj.1 one
        exact ⟨roots, [], rfl, h.complete⟩
      · rw [← List.cons_append, ← List.append_assoc] at split
        exact earlierRoots before q after (List.append_inj' split rfl).1

example : ([.ofString "/a", .ofString "/b", .ofString "//a/"].foldl addPath []) =
    [.ofString "/a", .ofString "/b"] := by decide +kernel

end Git

end PatchLint
