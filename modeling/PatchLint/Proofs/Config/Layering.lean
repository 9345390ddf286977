import PatchLint.Proofs.Config.Scopes

/-!
# Layered resolution

What the configuration of a scope is made of, said of the settings and the workspace
folders and not of a snapshot of them.  A scope has an owner, the first workspace folder
with its root, or it has none (`Owner`).  Each value is the owner's, if the owner has
one, and else the common one, whatever the other values are (`Layered`).  A relative
path of a checker starts from the root of the folder that names it, the common one from
the first folder's (`Anchored`, `OwnChecker`).

Resolving gives each scope its layers (`Snapshot.resolve_layered`).  The path of the common
checker is kept as it is, but a folder's own is kept as a text; when no text spells the
root of the folder, that is another path (`Snapshot.mended_checker_is_elsewhere`).
-/

namespace PatchLint

/-! ## Owners and layers -/

/-- The workspace folder that a scope belongs to: the first one with its root. -/
inductive Owner (folders : List WorkspaceFolder) :
    Option Path → Option WorkspaceFolder → Prop where
  | common : Owner folders none none
  | unknown {path : Path} (absent : ∀ f ∈ folders, ¬ f.root.Same path) :
      Owner folders (some path) none
  | first {path : Path} {before after : List WorkspaceFolder} {f : WorkspaceFolder}
      (split : folders = before ++ f :: after) (same : f.root.Same path)
      (others : ∀ g ∈ before, ¬ g.root.Same path) : Owner folders (some path) (some f)

/-- What an owner overrides.  Without an owner nothing is overridden. -/
def overridesOf (owner : Option WorkspaceFolder) : FolderOverride :=
  (owner.bind WorkspaceFolder.override?).getD {}

/-- A value and where it comes from: what is overridden, and else the common value. -/
inductive Layered {α : Type} (common : α) : Option α → α → Origin → Prop where
  | own {value : α} : Layered common (some value) value .folder
  | common : Layered common none common .common

/-- A path read from a root.  An absolute one is kept as it is, and so is any if there
is no root. -/
inductive Anchored (root : Option Path) (path : Path) : Path → Prop where
  | absolute (h : path.isAbsolute) : Anchored root path path
  | relative {r : Path} (given : root = some r) (h : path.isRelative) :
      Anchored root path (r.join path)
  | bare (none : root = none) (h : path.isRelative) : Anchored root path path

/-- The checker that an owner names, read from its root.  The path is kept as a text,
which is another path only if no text spells the root. -/
inductive OwnChecker : Option WorkspaceFolder → Option Path → Prop where
  | none {owner : Option WorkspaceFolder} (h : (overridesOf owner).executable = .none) :
      OwnChecker owner .none
  | spelled {f : WorkspaceFolder} {text root : String} {path : Path}
      (h : (overridesOf (some f)).executable = some text) (spelling : f.root = .ofString root)
      (anchored : Anchored (some f.root) (.ofString text) path) : OwnChecker (some f) (some path)
  | mended {f : WorkspaceFolder} {text : String} {path : Path}
      (h : (overridesOf (some f)).executable = some text)
      (unspelled : ∀ root, f.root ≠ .ofString root)
      (anchored : Anchored (some f.root) (.ofString text) path) :
      OwnChecker (some f) (some (.ofString path.text))

/-- The layers of the configuration that a scope is resolved to. -/
structure Layering (settings : Settings) (folders : List WorkspaceFolder) (scope : Option Path)
    (owner : Option WorkspaceFolder) (r : Resolved) : Prop where
  folder : r.folder = if owner.isSome then scope else none
  executable : ∃ common own,
    Anchored (folders.head?.map WorkspaceFolder.root) (.ofString settings.executable) common ∧
      OwnChecker owner own ∧ Layered common own r.config.executable r.origins.executable
  args : Layered settings.args (overridesOf owner).args r.config.args r.origins.args
  exclude : Layered settings.exclude (overridesOf owner).exclude r.config.exclude r.origins.exclude
  useFolderAsCwd : Layered settings.useFolderAsCwd (overridesOf owner).useFolderAsCwd
    r.config.useFolderAsCwd r.origins.useFolderAsCwd
  level : Layered settings.level (overridesOf owner).level r.config.level r.origins.level
  /-- The checker runs in the owner if the owner names it or the settings ask for it. -/
  inOwner : owner.isSome → (overridesOf owner).executable.isSome ∨ r.config.useFolderAsCwd →
    r.cwd = scope ∧ r.rootFallback = false
  /-- It runs in the first folder otherwise, if there is one. -/
  inFirst : ¬ (owner.isSome ∧
      ((overridesOf owner).executable.isSome ∨ r.config.useFolderAsCwd)) →
    r.cwd = folders.head?.map WorkspaceFolder.root ∧ r.rootFallback = folders.head?.isSome

theorem layered_getD {α : Type} (common : α) (own : Option α) :
    Layered common own (own.getD common) (.of own) := by
  cases own with
  | none => exact .common
  | some value => exact .own

namespace Snapshot

/-! ## Paths of checkers -/

/-- A path read from a root as a snapshot does it. -/
theorem anchored_of_root (root path : Path) :
    Anchored (some root) path (if path.isRelative then root.join path else path) := by
  by_cases h : path.isRelative
  · rw [if_pos h]
    exact .relative rfl h
  · rw [if_neg h]
    exact .absolute (by simpa [Path.isRelative] using h)

theorem anchored_commonExecutable (settings : Settings) (folders : List WorkspaceFolder) :
    Anchored (folders.head?.map WorkspaceFolder.root) (.ofString settings.executable)
      (commonExecutable settings folders) := by
  cases folders with
  | nil =>
    cases h : (Path.ofString settings.executable).isAbsolute with
    | true => exact .absolute h
    | false => exact .bare rfl (by simp [Path.isRelative, h])
  | cons first rest => exact anchored_of_root first.root _

/-- What a text spells, read from a root that a text spells, is spelled by its text. -/
theorem ofString_text_of_anchored {root text : String} {path : Path}
    (h : Anchored (some (.ofString root)) (.ofString text) path) :
    Path.ofString path.text = path := by
  cases h with
  | absolute _ => rw [Path.text_ofString]
  | relative given _ =>
    obtain rfl := Option.some.inj given
    obtain ⟨joined, spelled⟩ := Path.exists_join_ofString root text
    rw [spelled, Path.text_ofString]
  | bare none _ => cases none

theorem ownChecker_of_anchored {f : WorkspaceFolder} {text : String} {path : Path}
    (h : (overridesOf (some f)).executable = some text)
    (anchored : Anchored (some f.root) (.ofString text) path) :
    OwnChecker (some f) (some (.ofString path.text)) := by
  by_cases spelled : ∃ root, f.root = .ofString root
  · obtain ⟨root, spelling⟩ := spelled
    rw [ofString_text_of_anchored (spelling ▸ anchored)]
    exact .spelled h spelling anchored
  · exact .mended h (not_exists.1 spelled) anchored

/-- A folder's layer is what the folder overrides, the path of its checker settled. -/
theorem layer_eq (f : WorkspaceFolder) :
    layer f = { overridesOf (some f) with
      executable := (overridesOf (some f)).executable.map fun text =>
        (if (Path.ofString text).isRelative then f.root.join (.ofString text)
          else .ofString text).text } := by
  simp only [layer, overridesOf, Option.bind_some]
  obtain ⟨executable, args, exclude, useFolderAsCwd, level⟩ := f.override?.getD {}
  cases executable with
  | none => rfl
  | some text => by_cases relative : (Path.ofString text).isRelative <;> simp [relative]

theorem ownChecker_layer (f : WorkspaceFolder) :
    OwnChecker (some f) ((layer f).executable.map Path.ofString) := by
  rw [layer_eq]
  cases named : (overridesOf (some f)).executable with
  | none => exact .none named
  | some text => exact ownChecker_of_anchored named (anchored_of_root f.root (.ofString text))

/-! ## Resolving -/

theorem owner_find? (folders : List WorkspaceFolder) (path : Path) :
    Owner folders (some path) (folders.find? fun f => f.root.Same path) := by
  cases found : folders.find? fun f => f.root.Same path with
  | none =>
    refine .unknown fun f hf same => ?_
    exact List.find?_eq_none.1 found f hf (decide_eq_true same)
  | some f =>
    obtain ⟨same, before, after, split, others⟩ := List.find?_eq_some_iff_append.1 found
    refine .first split (of_decide_eq_true same) fun g hg same => ?_
    simpa [same] using others g hg

theorem overrideFor?_build (settings : Settings) (folders : List WorkspaceFolder) (path : Path) :
    (build settings folders).overrideFor? path =
      (folders.find? fun f => f.root.Same path).map layer := by
  simp [overrideFor?, build, List.find?_map, Function.comp_def]

/-- A scope is resolved with what its owner overrides. -/
theorem exists_owner (settings : Settings) (folders : List WorkspaceFolder) (scope : Option Path) :
    ∃ owner path, Owner folders scope owner ∧
      path.isSome = (overridesOf owner).executable.isSome ∧
      OwnChecker owner (path.map Path.ofString) ∧
      (build settings folders).resolve scope =
        (build settings folders).resolveKnown (if owner.isSome then scope else none)
          { overridesOf owner with executable := path } := by
  cases scope with
  | none => exact ⟨none, none, .common, rfl, .none rfl, rfl⟩
  | some place =>
    have owned := owner_find? folders place
    have layer := overrideFor?_build settings folders place
    cases found : folders.find? fun f => f.root.Same place with
    | none =>
      rw [found] at owned layer
      refine ⟨none, none, owned, rfl, .none rfl, ?_⟩
      simp only [resolve, layer]
      rfl
    | some f =>
      rw [found] at owned layer
      refine ⟨some f, (Snapshot.layer f).executable, owned, ?_, ownChecker_layer f, ?_⟩
      · rw [layer_eq, Option.isSome_map]
      · simp only [resolve, layer, Option.map_some]
        rw [layer_eq]
        rfl

theorem rootFolder_build (settings : Settings) (folders : List WorkspaceFolder) :
    (build settings folders).rootFolder = folders.head?.map WorkspaceFolder.root := by
  rw [rootFolder, roots_build, List.head?_map]

/-- In a folder that names the checker, or asks for it, the checker runs in the folder. -/
theorem cwd_resolveKnown_own (s : Snapshot) (folder : Path) {own : FolderOverride}
    (wanted : own.executable.isSome ∨ (s.effective own).useFolderAsCwd) :
    (s.resolveKnown (some folder) own).cwd = some folder ∧
      (s.resolveKnown (some folder) own).rootFallback = false := by
  simp only [← Bool.or_eq_true] at wanted
  simp [resolveKnown, wanted]

/-- Otherwise the checker runs in the first folder. -/
theorem cwd_resolveKnown_root (s : Snapshot) {folder : Option Path} {own : FolderOverride}
    (otherwise : ¬ (folder.isSome ∧ (own.executable.isSome ∨ (s.effective own).useFolderAsCwd))) :
    (s.resolveKnown folder own).cwd = s.rootFolder ∧
      (s.resolveKnown folder own).rootFallback = s.rootFolder.isSome := by
  cases folder with
  | none => simp [resolveKnown]
  | some folder =>
    simp only [← Bool.or_eq_true, Option.isSome_some, true_and] at otherwise
    simp [resolveKnown, otherwise]

/-- What an owner overrides and the common configuration make up the layers of what is
resolved. -/
theorem layering_resolveKnown (settings : Settings) (folders : List WorkspaceFolder)
    (scope : Option Path) {owner : Option WorkspaceFolder} {path : Option String}
    (known : owner.isSome → scope.isSome)
    (given : path.isSome = (overridesOf owner).executable.isSome)
    (checker : OwnChecker owner (path.map Path.ofString)) :
    Layering settings folders scope owner
      ((build settings folders).resolveKnown (if owner.isSome then scope else none)
        { overridesOf owner with executable := path }) where
  folder := rfl
  executable := by
    refine ⟨commonExecutable settings folders, path.map Path.ofString,
      anchored_commonExecutable settings folders, checker, ?_⟩
    have layered := layered_getD (commonExecutable settings folders) (path.map Path.ofString)
    rwa [Origin.of, Option.isSome_map] at layered
  args := layered_getD _ _
  exclude := layered_getD _ _
  useFolderAsCwd := layered_getD _ _
  level := layered_getD _ _
  inOwner := by
    intro owned wanted
    obtain ⟨place, rfl⟩ := Option.isSome_iff_exists.1 (known owned)
    rw [← given] at wanted
    rw [if_pos owned] at wanted ⊢
    exact cwd_resolveKnown_own _ place wanted
  inFirst := by
    intro otherwise
    rw [← given] at otherwise
    have fallback : folders.head?.isSome = (build settings folders).rootFolder.isSome := by
      rw [rootFolder_build, Option.isSome_map]
    rw [fallback, ← rootFolder_build settings folders]
    apply cwd_resolveKnown_root
    rintro ⟨inFolder, wanted⟩
    cases owner with
    | none => cases inFolder
    | some f => exact otherwise ⟨rfl, wanted⟩

end Snapshot

/-! ## Absolute paths -/

/-- A path read from an absolute root is absolute. -/
theorem Anchored.isAbsolute {root path p : Path} (h : Anchored (some root) path p)
    (absolute : root.isAbsolute) : p.isAbsolute := by
  cases h with
  | absolute h => exact h
  | relative given h =>
    obtain rfl := Option.some.inj given
    exact Path.isAbsolute_join absolute _
  | bare none _ => cases none

/-- The owner of a scope is a workspace folder, and the scope is its root. -/
theorem Owner.mem_and_same {folders : List WorkspaceFolder} {scope : Option Path}
    {f : WorkspaceFolder} (h : Owner folders scope (some f)) :
    f ∈ folders ∧ ∃ path, scope = some path ∧ f.root.Same path := by
  cases h with
  | first split same others =>
    subst split
    exact ⟨List.mem_append_right _ List.mem_cons_self, _, rfl, same⟩

theorem OwnChecker.isAbsolute {f : WorkspaceFolder} {p : Path}
    (h : OwnChecker (some f) (some p)) (absolute : f.root.isAbsolute) : p.isAbsolute := by
  cases h with
  | spelled _ _ anchored => exact anchored.isAbsolute absolute
  | mended _ _ anchored => exact Path.isAbsolute_ofString_text (anchored.isAbsolute absolute)

namespace Layering

variable {settings : Settings} {folders : List WorkspaceFolder} {scope : Option Path}
  {owner : Option WorkspaceFolder} {r : Resolved}

/-- With absolute roots the checker has an absolute path. -/
theorem isAbsolute_executable (h : Layering settings folders scope owner r)
    (owned : Owner folders scope owner) (some : folders ≠ [])
    (absolute : ∀ f ∈ folders, f.root.isAbsolute) : r.config.executable.isAbsolute := by
  obtain ⟨common, own, anchored, checker, layered⟩ := h.executable
  obtain ⟨first, rest, rfl⟩ := List.exists_cons_of_ne_nil some
  generalize r.config.executable = path, r.origins.executable = origin at layered
  cases layered with
  | common => exact anchored.isAbsolute (absolute first List.mem_cons_self)
  | own =>
    cases owner with
    | none => cases checker
    | some f => exact checker.isAbsolute (absolute f owned.mem_and_same.1)

/-- With absolute roots the checker runs in a folder with an absolute path. -/
theorem exists_isAbsolute_cwd (h : Layering settings folders scope owner r)
    (owned : Owner folders scope owner) (some : folders ≠ [])
    (absolute : ∀ f ∈ folders, f.root.isAbsolute) : ∃ cwd, r.cwd = .some cwd ∧ cwd.isAbsolute := by
  obtain ⟨first, rest, rfl⟩ := List.exists_cons_of_ne_nil some
  by_cases inOwner :
      owner.isSome ∧ ((overridesOf owner).executable.isSome ∨ r.config.useFolderAsCwd)
  · obtain ⟨f, rfl⟩ := Option.isSome_iff_exists.1 inOwner.1
    obtain ⟨mem, path, rfl, same⟩ := owned.mem_and_same
    refine ⟨path, (h.inOwner inOwner.1 inOwner.2).1, ?_⟩
    rw [← same.isAbsolute_eq]
    exact absolute f mem
  · exact ⟨first.root, (h.inFirst inOwner).1, absolute first List.mem_cons_self⟩

end Layering

namespace Snapshot

/-- Each scope is resolved to its layers.  If there are workspace folders, and all their
roots are absolute, then the checker has an absolute path and runs in a folder with one. -/
theorem resolve_layered (settings : Settings) (folders : List WorkspaceFolder)
    (scope : Option Path) :
    let r := (build settings folders).resolve scope
    (∃ owner, Owner folders scope owner ∧ Layering settings folders scope owner r) ∧
    (folders ≠ [] → (∀ f ∈ folders, f.root.isAbsolute) →
      r.config.executable.isAbsolute ∧ ∃ cwd, r.cwd = some cwd ∧ cwd.isAbsolute) := by
  intro r
  obtain ⟨owner, path, owned, given, checker, resolved⟩ := exists_owner settings folders scope
  have known : owner.isSome → scope.isSome := by
    intro some
    obtain ⟨f, rfl⟩ := Option.isSome_iff_exists.1 some
    obtain ⟨-, place, rfl, -⟩ := owned.mem_and_same
    rfl
  have layers : Layering settings folders scope owner r := by
    change r = _ at resolved
    rw [resolved]
    exact layering_resolveKnown settings folders scope known given checker
  refine ⟨⟨owner, owned, layers⟩, fun some absolute => ⟨?_, ?_⟩⟩
  · exact layers.isAbsolute_executable owned some absolute
  · exact layers.exists_isAbsolute_cwd owned some absolute

/-- The last two folders are one folder in two spellings, and the first of them names a
checker. -/
theorem first_spelling_is_layered :
    let folders : List WorkspaceFolder :=
      [⟨.ofString "/ws/a", none⟩,
        ⟨.ofString "/ws/b", some { executable := some "tools/checkpatch.pl" }⟩,
        ⟨.ofString "/ws/./b/", some { args := some ["--strict"] }⟩]
    let r := (build { level := .hint } folders).resolve (some (.ofString "/ws//b"))
    folders ≠ [] ∧ (∀ f ∈ folders, f.root.isAbsolute) ∧
    r.config.executable = .ofString "/ws/b/tools/checkpatch.pl" ∧ r.config.args = [] ∧
    r.origins.executable = .folder ∧ r.config.level = .hint ∧ r.origins.level = .common ∧
    r.cwd = some (.ofString "/ws//b") ∧ r.rootFallback = false ∧
    (∃ owner, Owner folders (some (.ofString "/ws//b")) owner ∧
      Layering { level := .hint } folders (some (.ofString "/ws//b")) owner r) ∧
    r.config.executable.isAbsolute ∧ ∃ cwd, r.cwd = some cwd ∧ cwd.isAbsolute := by
  intro folders r
  have some : folders ≠ [] := nofun
  have absolute : ∀ f ∈ folders, f.root.isAbsolute := by decide +kernel
  have values : r.config.executable = .ofString "/ws/b/tools/checkpatch.pl" ∧
      r.config.args = [] ∧ r.origins.executable = .folder ∧ r.config.level = .hint ∧
      r.origins.level = .common ∧ r.cwd = .some (.ofString "/ws//b") ∧ r.rootFallback = false := by
    decide +kernel
  obtain ⟨executable, args, named, level, inherited, cwd, own⟩ := values
  obtain ⟨layers, settled⟩ :=
    resolve_layered { level := .hint } folders (.some (.ofString "/ws//b"))
  exact ⟨some, absolute, executable, args, named, level, inherited, cwd, own, layers,
    settled some absolute⟩

/-- The root of a folder is no text, and the checker that the folder names is looked for
in another folder. -/
theorem mended_checker_is_elsewhere :
    let root : Path := ⟨(Path.ofString "/ws/").bytes ++ [0xFF]⟩
    let folders : List WorkspaceFolder := [⟨root, some { executable := some "checkpatch.pl" }⟩]
    let r := (build {} folders).resolve (some root)
    r.folder = some root ∧ r.origins.executable = .folder ∧
    r.config.executable = .ofString "/ws/\ufffd/checkpatch.pl" ∧
    ¬ r.config.executable.Same (root.join (.ofString "checkpatch.pl")) := by
  decide +kernel

end Snapshot

end PatchLint
