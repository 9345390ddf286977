import PatchLint.Text.Quoted

/-!
# Paths

A path is the bytes it was spelled with, and the spelling is kept.  What a path
*names* is its list of components: repeated slashes, a slash at the end and a
dot between slashes do not count.  Two paths are the same file when their
components agree (`Path.Same`), a folder holds a path when its components come
first (`Path.isWithin`), and paths are ordered component by component
(`Path.compare`).

Main statements: the order finds two paths equal exactly when they are the same
(`compare_eq_iff_same`), two slashes are one and an inner dot is none
(`same_of_two_slashes`, `same_of_inner_dot`), and joining to an absolute path forgets
the folder (`join_of_isAbsolute`).
-/

namespace PatchLint

/-- A path as it is spelled. -/
structure Path where
  /-- The bytes of the spelling. -/
  bytes : List UInt8
deriving DecidableEq, Repr, Inhabited

/-- A step of a path. -/
inductive Component where
  /-- The slash at the start of an absolute path. -/
  | root
  /-- A dot at the start of a relative path. -/
  | here
  /-- Two dots. -/
  | up
  /-- Any other name. -/
  | name (bytes : List UInt8)
deriving DecidableEq, Repr, Inhabited

namespace Component

/-- A number before the bytes orders components of different kinds. -/
def key : Component → List UInt8
  | .root => [0]
  | .here => [1]
  | .up => [2]
  | .name bytes => 3 :: bytes

/-- The key tells components apart. -/
theorem key_inj {a b : Component} : a.key = b.key ↔ a = b := by
  cases a <;> cases b <;> simp [key]

end Component

namespace Path

def slash : UInt8 := 0x2F

def dot : UInt8 := 0x2E

/-- The path that a string spells. -/
def ofString (s : String) : Path := ⟨Text.Utf8.encode s⟩

/-- The path as a text, broken pieces replaced. -/
def text (p : Path) : String := Text.Utf8.lossy p.bytes

/-- Whether a text spells the path, so that nothing of it is lost in its text. -/
def isText (p : Path) : Bool := ofString p.text = p

/-- The path between quotes. -/
def quoted (p : Path) : String := Text.quotedBytes p.bytes

/-- A path that starts with a slash. -/
def isAbsolute (p : Path) : Bool := p.bytes.head? = some slash

/-- A path that does not start with a slash. -/
def isRelative (p : Path) : Bool := !p.isAbsolute

/-- The bytes between slashes.  There is always at least one segment. -/
def segmentsOf : List UInt8 → List (List UInt8)
  | [] => [[]]
  | b :: bs =>
      if b = slash then [] :: segmentsOf bs
      else match segmentsOf bs with
        | [] => [[b]]
        | s :: ss => (b :: s) :: ss

/-- What a segment contributes anywhere but at the start of a relative path. -/
def componentOf (segment : List UInt8) : Option Component :=
  if segment = [] ∨ segment = [dot] then none
  else if segment = [dot, dot] then some .up
  else some (.name segment)

/-- The components of a path.  Only a relative path keeps a dot, and only as
its first segment. -/
def components (p : Path) : List Component :=
  let segments := segmentsOf p.bytes
  let start := if p.isAbsolute then [.root]
    else if segments.head? = some [dot] then [.here]
    else []
  start ++ segments.filterMap componentOf

/-- Two spellings of one path. -/
def Same (p q : Path) : Prop := p.components = q.components

instance (p q : Path) : Decidable (p.Same q) :=
  inferInstanceAs (Decidable (p.components = q.components))

/-- The path lies in a folder: the folder's components come first. -/
def isWithin (p folder : Path) : Bool := folder.components.isPrefixOf p.components

/-- The number of components. -/
def depth (p : Path) : Nat := p.components.length

/-- The order of paths, component by component; a beginning comes first. -/
def compare (p q : Path) : Ordering :=
  Ord.compare (p.components.map Component.key) (q.components.map Component.key)

/-- A path read from inside a folder.  The slash between is left out when the
folder already ends in one, or is empty. -/
def join (folder p : Path) : Path :=
  if p.isAbsolute then p
  else if folder.bytes = [] ∨ folder.bytes.getLast? = some slash then ⟨folder.bytes ++ p.bytes⟩
  else ⟨folder.bytes ++ slash :: p.bytes⟩

/-- The text with every backslash turned into a slash. -/
def slashed (s : String) : String :=
  String.ofList (s.toList.map fun c => if c = '\\' then '/' else c)

/-! ## Laws -/

@[simp] theorem Same.rfl {p : Path} : p.Same p := Eq.refl _

theorem Same.symm {p q : Path} (h : p.Same q) : q.Same p := Eq.symm h

theorem Same.trans {p q r : Path} (h : p.Same q) (k : q.Same r) : p.Same r := Eq.trans h k

/-- The order finds two paths equal exactly when they are the same. -/
theorem compare_eq_iff_same {p q : Path} : p.compare q = .eq ↔ p.Same q := by
  rw [compare, Std.LawfulEqOrd.compare_eq_iff_eq, Same]
  exact List.map_inj_right fun _ _ => Component.key_inj.1

/-- The order is turned round when the paths are. -/
theorem compare_swap (p q : Path) : (p.compare q).swap = q.compare p := by
  rw [compare, compare, ← Std.OrientedOrd.eq_swap]

/-- A path lies in a folder exactly when the folder's components come first. -/
theorem isWithin_iff {p folder : Path} :
    p.isWithin folder = true ↔ folder.components <+: p.components :=
  List.isPrefixOf_iff_prefix

theorem segmentsOf_ne_nil (bs : List UInt8) : segmentsOf bs ≠ [] := by
  cases bs with
  | nil => exact List.cons_ne_nil _ _
  | cons b bs =>
    rw [segmentsOf]
    split
    · exact List.cons_ne_nil _ _
    · split <;> exact List.cons_ne_nil _ _

/-- A slash ends a segment. -/
theorem segmentsOf_append_slash (a b : List UInt8) :
    segmentsOf (a ++ slash :: b) = segmentsOf a ++ segmentsOf b := by
  induction a with
  | nil => simp [segmentsOf]
  | cons c a ih =>
    rw [List.cons_append, segmentsOf, segmentsOf, ih]
    split
    · rfl
    · obtain ⟨first, rest, split⟩ := List.exists_cons_of_ne_nil (segmentsOf_ne_nil a)
      rw [split]
      rfl

/-- What follows a slash adds its segments to the components. -/
theorem components_append_slash (a b : List UInt8) :
    components ⟨a ++ slash :: b⟩ =
      components ⟨a ++ [slash]⟩ ++ (segmentsOf b).filterMap componentOf := by
  have absolute : (⟨a ++ slash :: b⟩ : Path).isAbsolute = (⟨a ++ [slash]⟩ : Path).isAbsolute := by
    cases a <;> rfl
  have first : ∀ segments, (segmentsOf a ++ segments).head? = (segmentsOf a).head? := by
    intro segments
    rw [List.head?_append, Option.or_of_isSome (List.isSome_head?.2 (segmentsOf_ne_nil a))]
  have nothing : (segmentsOf []).filterMap componentOf = [] := rfl
  simp only [components, absolute, segmentsOf_append_slash, first, List.filterMap_append, nothing,
    List.append_nil, List.append_assoc]

/-- Two slashes count as one. -/
theorem same_of_two_slashes (a b : List UInt8) :
    Same ⟨a ++ slash :: slash :: b⟩ ⟨a ++ slash :: b⟩ := by
  have segments : segmentsOf (slash :: b) = [] :: segmentsOf b := segmentsOf_append_slash [] b
  rw [Same, components_append_slash a (slash :: b), segments, components_append_slash a b]
  rfl

/-- A dot between slashes does not count. -/
theorem same_of_inner_dot (a b : List UInt8) :
    Same ⟨a ++ slash :: dot :: slash :: b⟩ ⟨a ++ slash :: b⟩ := by
  have segments : segmentsOf (dot :: slash :: b) = [dot] :: segmentsOf b :=
    segmentsOf_append_slash [dot] b
  rw [Same, components_append_slash a (dot :: slash :: b), segments, components_append_slash a b]
  rfl

/-- Joining to an absolute path forgets the folder. -/
theorem join_of_isAbsolute {folder p : Path} (h : p.isAbsolute) : folder.join p = p := by
  simp [join, h]

/-- A path is absolute exactly when its first component is the root. -/
theorem isAbsolute_iff_head? (p : Path) :
    p.isAbsolute = true ↔ p.components.head? = some .root := by
  unfold components
  by_cases h : p.isAbsolute
  · simp [h]
  · simp only [h, Bool.false_eq_true, if_false, false_iff]
    split
    · simp
    · intro k
      rw [List.nil_append, List.head?_filterMap] at k
      obtain ⟨s, _, hs⟩ := List.exists_of_findSome?_eq_some k
      unfold componentOf at hs
      split at hs
      · cases hs
      · split at hs <;> cases hs

/-- Two spellings of one path are both absolute or both relative. -/
theorem Same.isAbsolute_eq {p q : Path} (h : p.Same q) : p.isAbsolute = q.isAbsolute := by
  rw [Bool.eq_iff_iff, isAbsolute_iff_head?, isAbsolute_iff_head?, show p.components = _ from h]

/-- A path read from inside an absolute folder is absolute. -/
theorem isAbsolute_join {folder : Path} (h : folder.isAbsolute) (p : Path) :
    (folder.join p).isAbsolute := by
  by_cases absolute : p.isAbsolute
  · rwa [join_of_isAbsolute absolute]
  · obtain ⟨bytes⟩ := folder
    cases bytes with
    | nil => cases h
    | cons b bs =>
      rw [join, if_neg absolute]
      split <;> exact h

/-- A path that a string spells has that text. -/
@[simp] theorem text_ofString (s : String) : (ofString s).text = s := Text.Utf8.lossy_encode s

/-- A text spells the path that a string spells. -/
@[simp] theorem isText_ofString (s : String) : (ofString s).isText = true := by simp [isText]

/-- What strings spell is joined to what a string spells. -/
theorem exists_join_ofString (folder s : String) :
    ∃ joined, (ofString folder).join (ofString s) = ofString joined := by
  have together : ∀ a b : String, Text.Utf8.encode (a ++ b) =
      Text.Utf8.encode a ++ Text.Utf8.encode b := by
    intro a b
    simp [Text.Utf8.encode, Text.Utf8.encodeChars]
  by_cases absolute : (ofString s).isAbsolute
  · exact ⟨s, join_of_isAbsolute absolute⟩
  rw [join, if_neg absolute]
  by_cases closed : (ofString folder).bytes = [] ∨ (ofString folder).bytes.getLast? = some slash
  · exact ⟨folder ++ s, (if_pos closed).trans (congrArg Path.mk (together folder s).symm)⟩
  · refine ⟨folder ++ ("/" ++ s), (if_neg closed).trans (congrArg Path.mk ?_)⟩
    rw [together, together]
    rfl

/-- The text of an absolute path spells an absolute path. -/
theorem isAbsolute_ofString_text {p : Path} (h : p.isAbsolute) : (ofString p.text).isAbsolute := by
  obtain ⟨bytes⟩ := p
  cases bytes with
  | nil => cases h
  | cons b bs =>
    obtain rfl : b = slash := by simpa [isAbsolute] using h
    have text : (⟨slash :: bs⟩ : Path).text.toList =
        '/' :: (Text.Utf8.readFrom none bs).map Text.Utf8.Piece.shown := by
      rw [text, Text.Utf8.lossy, String.toList_ofList]
      rfl
    rw [ofString, Text.Utf8.encode, text]
    rfl

example : (ofString "/a//b/./c/").components =
    [.root, .name [0x61], .name [0x62], .name [0x63]] := by decide +kernel
example : (ofString "./a/../b").components = [.here, .name [0x61], .up, .name [0x62]] := by
  decide +kernel
example : (ofString "/ws/linuxish").isWithin (ofString "/ws/linux") = false := by decide +kernel

end Path

end PatchLint
