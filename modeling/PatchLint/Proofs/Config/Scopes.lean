import PatchLint.Config.Snapshot

/-!
# Targets and scopes

A reload validates scopes, and a check looks its target up in the workspace
folders.  The two ways to a configuration agree: whatever a target belongs to is
one of the scopes (`Snapshot.resolveFile_eq_scope`,
`Snapshot.resolveRepository_eq_scope`).  The run mode has no part in it.
-/

namespace PatchLint

namespace Snapshot

/-! ## The run mode -/

@[simp] theorem withRunMode_withRunMode (s : Snapshot) (mode other : RunMode) :
    (s.withRunMode mode).withRunMode other = s.withRunMode other := rfl

@[simp] theorem scopes_withRunMode (s : Snapshot) (mode : RunMode) :
    (s.withRunMode mode).scopes = s.scopes := rfl

@[simp] theorem resolveScope_withRunMode (s : Snapshot) (mode : RunMode) (scope : Scope) :
    (s.withRunMode mode).resolveScope scope = s.resolveScope scope := by
  cases scope <;> rfl

/-! ## Folders of targets -/

/-- The roots of a snapshot are those of the folders it was built from. -/
theorem roots_build (settings : Settings) (folders : List WorkspaceFolder) :
    (build settings folders).roots = folders.map WorkspaceFolder.root := by
  simp [roots, build, Function.comp_def]

/-- The deepest of some folders is one of them. -/
theorem mem_of_foldl_deeper {ps : List Path} {found : Option Path} {p : Path}
    (h : ps.foldl deeper found = some p) : found = some p ∨ p ∈ ps := by
  induction ps generalizing found with
  | nil => exact .inl h
  | cons q qs ih =>
    rcases ih h with first | rest
    · cases found with
      | none =>
        cases first
        exact .inr List.mem_cons_self
      | some best =>
        simp only [deeper] at first
        split at first
        · exact .inl first
        · cases first
          exact .inr List.mem_cons_self
    · exact .inr (List.mem_cons_of_mem _ rest)

/-- The folder of a file is one of the roots. -/
theorem mem_roots_of_folderForFile {s : Snapshot} {file root : Path}
    (h : s.folderForFile file = some root) : root ∈ s.roots := by
  rcases mem_of_foldl_deeper h with none | mem
  · cases none
  · exact (List.mem_filter.1 mem).1

/-- The folder of a repository is one of the roots. -/
theorem mem_roots_of_folderForRepository {s : Snapshot} {repository root : Path}
    (h : s.folderForRepository repository = some root) : root ∈ s.roots :=
  List.mem_of_find?_eq_some h

/-! ## Scopes of targets -/

/-- A root is resolved as its scope is, and so is no folder at all. -/
theorem exists_scope_of_folder (s : Snapshot) {folder : Option Path}
    (known : ∀ root, folder = some root → root ∈ s.roots) :
    ∃ scope ∈ s.scopes, s.resolve folder = s.resolveScope scope := by
  cases folder with
  | none => exact ⟨.common, List.mem_cons_self, rfl⟩
  | some root =>
    have mem : Scope.folder root ∈ s.roots.map Scope.folder :=
      List.mem_map_of_mem (known root rfl)
    exact ⟨.folder root, List.mem_cons_of_mem _ mem, rfl⟩

/-- A file is checked with the configuration of a scope. -/
theorem resolveFile_eq_scope (s : Snapshot) (file : Path) :
    ∃ scope ∈ s.scopes, s.resolveFile file = s.resolveScope scope :=
  s.exists_scope_of_folder fun _ => mem_roots_of_folderForFile

/-- The commits of a repository are checked with the configuration of a scope. -/
theorem resolveRepository_eq_scope (s : Snapshot) (repository : Path) :
    ∃ scope ∈ s.scopes, s.resolveRepository repository = s.resolveScope scope :=
  s.exists_scope_of_folder fun _ => mem_roots_of_folderForRepository

end Snapshot

end PatchLint
