import PatchLint.Proofs.Config.Scopes

/-!
# The folder that owns a file

Workspace folders may be nested, and the deepest that holds a file owns it
(`Snapshot.deepest_folder_owns`).  The folders that hold one file form a chain, since
their components all come first in the file's.  So the deepest lies in every other one,
and it is the same file whatever the order of the folders is, and however often or in
which spelling they are listed (`Deepest.same`).
-/

namespace PatchLint

/-- A root holds a file and lies in every other root that does. -/
structure Deepest (roots : List Path) (file root : Path) : Prop where
  mem : root ∈ roots
  holds : root.components <+: file.components
  inside : ∀ other ∈ roots, other.components <+: file.components →
    other.components <+: root.components

/-- Each root of one list is a root of the other, up to spelling. -/
def Covers (roots others : List Path) : Prop := ∀ p ∈ others, ∃ q ∈ roots, q.Same p

/-- A root that lies in the deepest of other roots. -/
theorem Deepest.prefix_of_covers {roots others : List Path} {file root other : Path}
    (h : Deepest roots file root) (k : Deepest others file other) (covers : Covers roots others) :
    other.components <+: root.components := by
  obtain ⟨q, mem, same⟩ := covers other k.mem
  have spelled : q.components = other.components := same
  rw [← spelled]
  exact h.inside q mem (spelled ▸ k.holds)

/-- The deepest root depends on the roots only up to spelling. -/
theorem Deepest.same {roots others : List Path} {file root other : Path}
    (h : Deepest roots file root) (k : Deepest others file other)
    (covers : Covers roots others) (covered : Covers others roots) : root.Same other :=
  List.IsPrefix.eq_of_length_le (k.prefix_of_covers h covered)
    (h.prefix_of_covers k covers).length_le

namespace Snapshot

/-! ## The deepest of some folders -/

/-- The chosen folder is at least as deep as those it was chosen from. -/
theorem depth_le_of_foldl_deeper {ps : List Path} {found : Option Path} {p : Path}
    (h : ps.foldl deeper found = some p) :
    (∀ q, found = some q → q.depth ≤ p.depth) ∧ ∀ q ∈ ps, q.depth ≤ p.depth := by
  induction ps generalizing found with
  | nil =>
    refine ⟨?_, List.forall_mem_nil _⟩
    rintro q rfl
    cases h
    exact Nat.le_refl _
  | cons first rest ih =>
    obtain ⟨best, others⟩ := ih h
    have chosen : first.depth ≤ p.depth ∧ ∀ q, found = some q → q.depth ≤ p.depth := by
      cases found with
      | none => exact ⟨best first rfl, nofun⟩
      | some old =>
        simp only [deeper] at best
        split at best
        · next less =>
          have deep := best old rfl
          refine ⟨by omega, ?_⟩
          rintro q ⟨⟩
          exact deep
        · next more =>
          have deep := best first rfl
          refine ⟨deep, ?_⟩
          rintro q ⟨⟩
          omega
    exact ⟨chosen.2, List.forall_mem_cons.2 ⟨chosen.1, others⟩⟩

theorem foldl_deeper_eq_none_iff {ps : List Path} {found : Option Path} :
    ps.foldl deeper found = none ↔ found = none ∧ ps = [] := by
  induction ps generalizing found with
  | nil => simp
  | cons first rest ih =>
    have chosen : (deeper found first).isSome := by
      cases found with
      | none => rfl
      | some old =>
        rw [deeper]
        split <;> rfl
    rw [List.foldl_cons, ih]
    simp [Option.isSome_iff_ne_none.1 chosen]

/-! ## The folder of a file -/

theorem folderForFile_eq_none_iff {s : Snapshot} {file : Path} :
    s.folderForFile file = none ↔ ∀ root ∈ s.roots, ¬ root.components <+: file.components := by
  rw [folderForFile, foldl_deeper_eq_none_iff, List.filter_eq_nil_iff]
  simp [Path.isWithin_iff]

/-- The folder of a file is the deepest that holds it. -/
theorem deepest_of_folderForFile {s : Snapshot} {file root : Path}
    (h : s.folderForFile file = some root) : Deepest s.roots file root := by
  have held : root ∈ s.roots.filter fun root => file.isWithin root := by
    rcases mem_of_foldl_deeper h with none | mem
    · cases none
    · exact mem
  have holds : root.components <+: file.components := Path.isWithin_iff.1 (List.mem_filter.1 held).2
  refine ⟨(List.mem_filter.1 held).1, holds, ?_⟩
  intro other mem within
  have depth : other.depth ≤ root.depth :=
    (depth_le_of_foldl_deeper h).2 other (List.mem_filter.2 ⟨mem, Path.isWithin_iff.2 within⟩)
  exact List.prefix_of_prefix_length_le within holds depth

theorem folderForFile_eq_none_of_covers {s t : Snapshot} {file : Path}
    (covers : Covers s.roots t.roots) (h : s.folderForFile file = none) :
    t.folderForFile file = none := by
  rw [folderForFile_eq_none_iff] at h ⊢
  intro root mem
  obtain ⟨q, hq, same⟩ := covers root mem
  have spelled : q.components = root.components := same
  rw [← spelled]
  exact h q hq

/-- Up to spelling the folder of a file depends on the set of the roots only. -/
theorem folderForFile_congr {s t : Snapshot} (covers : Covers s.roots t.roots)
    (covered : Covers t.roots s.roots) (file : Path) :
    Option.Rel Path.Same (s.folderForFile file) (t.folderForFile file) := by
  cases hs : s.folderForFile file with
  | none =>
    rw [folderForFile_eq_none_of_covers covers hs]
    exact .none
  | some root =>
    cases ht : t.folderForFile file with
    | none =>
      rw [folderForFile_eq_none_of_covers covered ht] at hs
      cases hs
    | some other =>
      exact .some
        ((deepest_of_folderForFile hs).same (deepest_of_folderForFile ht) covers covered)

/-- A folder that does not hold the file has no part in the choice. -/
theorem folderForFile_of_not_holds {s t : Snapshot} {before after : List Path} {root file : Path}
    (hs : s.roots = before ++ root :: after) (ht : t.roots = before ++ after)
    (outside : ¬ root.components <+: file.components) :
    s.folderForFile file = t.folderForFile file := by
  rw [← Path.isWithin_iff] at outside
  simp [folderForFile, hs, ht, outside]

/-- A file has no folder exactly when no root holds it; else its folder is a root that
holds it and that lies in every other root that does.  Up to spelling it is the same for
all lists with the same roots, in any order, spelling and number, and a folder that does
not hold the file makes no difference.  Repeated slashes and inner dots do not count. -/
theorem deepest_folder_owns (settings : Settings) (folders : List WorkspaceFolder)
    (file : Path) :
    let owner := fun fs => (build settings fs).folderForFile file
    let roots := fun fs : List WorkspaceFolder => fs.map WorkspaceFolder.root
    (owner folders = none ↔ ∀ root ∈ roots folders, ¬ root.components <+: file.components) ∧
    (∀ root, owner folders = some root →
      root ∈ roots folders ∧ root.components <+: file.components ∧
        ∀ other ∈ roots folders, other.components <+: file.components →
          other.components <+: root.components) ∧
    (∀ others : List WorkspaceFolder,
      (∀ p ∈ roots others, ∃ q ∈ roots folders, q.Same p) →
      (∀ p ∈ roots folders, ∃ q ∈ roots others, q.Same p) →
      Option.Rel Path.Same (owner folders) (owner others)) ∧
    (∀ before f after, folders = before ++ after → ¬ f.root.components <+: file.components →
      owner (before ++ f :: after) = owner folders) ∧
    (∀ a b, Path.Same ⟨a ++ Path.slash :: Path.slash :: b⟩ ⟨a ++ Path.slash :: b⟩) ∧
    (∀ a b, Path.Same ⟨a ++ Path.slash :: Path.dot :: Path.slash :: b⟩ ⟨a ++ Path.slash :: b⟩) := by
  intro owner roots
  refine ⟨?_, ?_, ?_, ?_, Path.same_of_two_slashes, Path.same_of_inner_dot⟩
  · rw [folderForFile_eq_none_iff, roots_build]
  · intro root owned
    obtain ⟨mem, holds, inside⟩ := deepest_of_folderForFile owned
    rw [roots_build] at mem inside
    exact ⟨mem, holds, inside⟩
  · intro others covers covered
    refine folderForFile_congr ?_ ?_ file
    · rw [roots_build, roots_build]
      exact covers
    · rw [roots_build, roots_build]
      exact covered
  · rintro before f after rfl outside
    have added : (build settings (before ++ f :: after)).roots =
        roots before ++ f.root :: roots after := by
      rw [roots_build, List.map_append, List.map_cons]
    have given : (build settings (before ++ after)).roots = roots before ++ roots after := by
      rw [roots_build, List.map_append]
    exact folderForFile_of_not_holds added given outside

/-- The nested folder owns the file, also when the folders are listed in another order
and spelling, and one of them twice.  A longer name is another folder. -/
theorem nested_folder_owns :
    let listed := fun roots : List String =>
      roots.map fun root => ({ root := .ofString root } : WorkspaceFolder)
    let folders := listed ["/ws/linux", "/ws/linux/drivers", "/ws/uboot"]
    let others := listed ["/ws/./linux/drivers", "/ws/uboot", "/ws//linux", "/ws/linux/"]
    let file := Path.ofString "/ws/linux/drivers/net/foo.c"
    (∀ p ∈ others.map WorkspaceFolder.root, ∃ q ∈ folders.map WorkspaceFolder.root, q.Same p) ∧
    (∀ p ∈ folders.map WorkspaceFolder.root, ∃ q ∈ others.map WorkspaceFolder.root, q.Same p) ∧
    (build {} folders).folderForFile file = some (.ofString "/ws/linux/drivers") ∧
    Option.Rel Path.Same ((build {} folders).folderForFile file)
      ((build {} others).folderForFile file) ∧
    (build {} folders).folderForFile (.ofString "/ws/linuxish/a.c") = none := by
  intro listed folders others file
  obtain ⟨-, -, unordered, -⟩ := deepest_folder_owns {} folders file
  obtain ⟨nowhere, -⟩ := deepest_folder_owns {} folders (.ofString "/ws/linuxish/a.c")
  have covers : ∀ p ∈ others.map WorkspaceFolder.root,
      ∃ q ∈ folders.map WorkspaceFolder.root, q.Same p := by decide +kernel
  have covered : ∀ p ∈ folders.map WorkspaceFolder.root,
      ∃ q ∈ others.map WorkspaceFolder.root, q.Same p := by decide +kernel
  have outside : ∀ root ∈ folders.map WorkspaceFolder.root,
      ¬ root.components <+: (Path.ofString "/ws/linuxish/a.c").components := by decide +kernel
  exact ⟨covers, covered, by decide +kernel, unordered others covers covered, nowhere.2 outside⟩

end Snapshot

end PatchLint
