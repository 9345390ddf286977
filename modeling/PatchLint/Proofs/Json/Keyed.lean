import Mathlib.Data.String.Basic
import PatchLint.Json.Commented

/-!
# The keys of an object

A value that is an object has its members in the order of their keys, each key once
(`Json.Keyed`).  The reader of texts keeps to this with every token, as it puts a member
where its key belongs, so it holds of every value that is read (`Json.keyed_of_ofText`).
-/

namespace PatchLint

namespace Json

/-- Members in the order of their keys, each key once. -/
def Ascending (members : List (String × Json)) : Prop := members.Pairwise fun a b => a.1 < b.1

/-- The members of the value are in the order of their keys, if it is an object. -/
def Keyed : Json → Prop
  | .obj members => Ascending members
  | _ => True

/-- No key is there twice. -/
theorem Ascending.nodup {members : List (String × Json)} (h : Ascending members) :
    (members.map Prod.fst).Nodup :=
  List.pairwise_map.2 (h.imp ne_of_lt)

/-! ## Inserting -/

theorem key_of_mem_insertMember {key : String} {value : Json} {members : List (String × Json)}
    {m : String × Json} (mem : m ∈ insertMember key value members) :
    m.1 = key ∨ ∃ old ∈ members, m.1 = old.1 := by
  induction members with
  | nil =>
    cases List.mem_singleton.1 mem
    exact .inl rfl
  | cons first rest ih =>
    unfold insertMember at mem
    split at mem
    · rcases List.mem_cons.1 mem with rfl | old
      · exact .inl rfl
      · exact .inr ⟨m, old, rfl⟩
    · split at mem
      · rcases List.mem_cons.1 mem with rfl | old
        · exact .inl rfl
        · exact .inr ⟨m, List.mem_cons_of_mem _ old, rfl⟩
      · rcases List.mem_cons.1 mem with rfl | later
        · exact .inr ⟨_, List.mem_cons_self, rfl⟩
        · refine (ih later).imp_right ?_
          rintro ⟨old, hold, same⟩
          exact ⟨old, List.mem_cons_of_mem _ hold, same⟩

theorem Ascending.insertMember {members : List (String × Json)} (h : Ascending members)
    (key : String) (value : Json) : Ascending (insertMember key value members) := by
  induction members with
  | nil => exact List.pairwise_singleton ..
  | cons first rest ih =>
    obtain ⟨before, others⟩ := List.pairwise_cons.1 h
    unfold Json.insertMember
    split
    · next lt =>
      refine List.pairwise_cons.2 ⟨?_, h⟩
      intro m hm
      rcases List.mem_cons.1 hm with rfl | later
      · exact lt
      · exact lt.trans (before m later)
    · next notBefore =>
      split
      · next same => exact List.pairwise_cons.2 ⟨fun m hm => same ▸ before m hm, others⟩
      · next differ =>
        refine List.pairwise_cons.2 ⟨?_, ih others⟩
        intro m hm
        rcases key_of_mem_insertMember hm with own | ⟨old, hold, same⟩
        · exact own ▸ lt_of_le_of_ne (not_lt.1 notBefore) (Ne.symm differ)
        · exact same ▸ before old hold

/-! ## Reading -/

/-- A number is no object. -/
theorem keyed_ofNumeral (text : List Char) : (ofNumeral text).Keyed := by
  have float : ∀ {negative parts v}, floatOf? negative parts = some v → v.Keyed := by
    intro negative parts v made
    obtain ⟨x, -, rfl⟩ := Option.map_eq_some_iff.1 made
    trivial
  have decimal : ∀ {negative cs v}, decimal? negative cs = some v → v.Keyed := by
    intro negative cs v made
    simp only [decimal?] at made
    split at made
    · split at made
      · split at made
        · cases made
          trivial
        · exact float made
      · split at made
        · cases made
          trivial
        · exact float made
    · exact float made
  have hexadecimal : ∀ {negative ds v}, hexadecimal? negative ds = some v → v.Keyed := by
    intro negative ds v made
    obtain ⟨n, -, rfl⟩ := Option.map_eq_some_iff.1 made
    trivial
  have value : ∀ {made? : Option Json}, (∀ v, made? = some v → v.Keyed) →
      (made?.getD (.str (String.ofList text))).Keyed := by
    intro made? all
    cases made? with
    | none => trivial
    | some v => exact all v rfl
  refine value fun v made => ?_
  split at made
  · split at made
    · exact hexadecimal made
    · exact decimal made
  · exact decimal made

/-- The members that an open container has so far are in order. -/
def Frame.Keyed : Frame → Prop
  | .array _ _ => True
  | .object _ members => Ascending members
  | .member _ members _ => Ascending members

theorem Frame.keyed_array (offset : Nat) (items : List Json) : (Frame.array offset items).Keyed :=
  trivial

namespace State

/-- The members of all open objects are in order, and so are those of the value if there
is one already. -/
def Keyed : State → Prop
  | .value stack => ∀ f ∈ stack, f.Keyed
  | .afterItem stack _ _ => ∀ f ∈ stack, f.Keyed
  | .key stack _ members => (∀ f ∈ stack, f.Keyed) ∧ Ascending members
  | .afterMember stack _ members => (∀ f ∈ stack, f.Keyed) ∧ Ascending members
  | .colon stack _ members _ => (∀ f ∈ stack, f.Keyed) ∧ Ascending members
  | .done v => v.Keyed

theorem keyed_complete {v : Json} (value : v.Keyed) {stack : List Frame}
    (opened : ∀ f ∈ stack, f.Keyed) : (complete v stack).Keyed := by
  cases stack with
  | nil => exact value
  | cons frame stack =>
    obtain ⟨own, others⟩ := List.forall_mem_cons.1 opened
    cases frame with
    | array offset items => exact others
    | object offset members => exact ⟨others, own⟩
    | member offset members key => exact ⟨others, Ascending.insertMember own key v⟩

theorem keyed_beginValue {stack : List Frame} (opened : ∀ f ∈ stack, f.Keyed) {t : Placed}
    {s : State} (read : beginValue stack t = .ok s) : s.Keyed := by
  obtain ⟨token, offset⟩ := t
  cases token with
  | openBrace =>
    cases read
    exact ⟨opened, List.Pairwise.nil⟩
  | openBracket =>
    cases read
    exact List.forall_mem_cons.2 ⟨Frame.keyed_array offset [], opened⟩
  | null =>
    cases read
    exact keyed_complete (v := .null) trivial opened
  | bool b =>
    cases read
    exact keyed_complete (v := .bool b) trivial opened
  | str chars =>
    cases read
    exact keyed_complete (v := .str (String.ofList chars)) trivial opened
  | number chars =>
    cases read
    exact keyed_complete (keyed_ofNumeral chars) opened
  | _ => cases read

theorem keyed_item {stack : List Frame} (opened : ∀ f ∈ stack, f.Keyed) {offset : Nat}
    {items : List Json} {t : Placed} {s : State} (read : item stack offset items t = .ok s) :
    s.Keyed := by
  unfold item at read
  split at read
  · cases read
    exact keyed_complete (v := .arr items) trivial opened
  · exact keyed_beginValue (List.forall_mem_cons.2 ⟨Frame.keyed_array offset items, opened⟩) read

theorem keyed_keyOrEnd {stack : List Frame} (opened : ∀ f ∈ stack, f.Keyed) {offset : Nat}
    {members : List (String × Json)} (ascending : Ascending members) {t : Placed} {s : State}
    (read : keyOrEnd stack offset members t = .ok s) : s.Keyed := by
  obtain ⟨token, place⟩ := t
  cases token with
  | closeBrace =>
    cases read
    exact keyed_complete (v := .obj members) ascending opened
  | str chars | word chars | number chars =>
    cases read
    exact ⟨opened, ascending⟩
  | _ => cases read

/-- Every token keeps the members in order. -/
theorem keyed_step {s s' : State} (h : s.Keyed) {t : Placed} (read : s.step t = .ok s') :
    s'.Keyed := by
  cases s with
  | value stack =>
    cases stack with
    | nil => exact keyed_beginValue h read
    | cons frame stack =>
      cases frame with
      | array offset items => exact keyed_item (List.forall_mem_cons.1 h).2 read
      | object offset members => exact keyed_beginValue h read
      | member offset members key => exact keyed_beginValue h read
  | afterItem stack offset items =>
    simp only [step] at read
    split at read
    · cases read
      exact List.forall_mem_cons.2 ⟨Frame.keyed_array offset items, h⟩
    · exact keyed_item h read
  | key stack offset members => exact keyed_keyOrEnd h.1 h.2 read
  | afterMember stack offset members =>
    simp only [step] at read
    split at read
    · cases read
      exact h
    · exact keyed_keyOrEnd h.1 h.2 read
  | colon stack offset members key =>
    simp only [step] at read
    split at read
    · cases read
      exact List.forall_mem_cons.2 ⟨h.2, h.1⟩
    · cases read
  | done v => cases read

theorem keyed_run {s s' : State} (h : s.Keyed) {tokens : List Placed}
    (read : tokens.foldlM step s = .ok s') : s'.Keyed := by
  induction tokens generalizing s with
  | nil =>
    cases read
    exact h
  | cons t tokens ih =>
    rw [List.foldlM_cons] at read
    cases first : s.step t with
    | error fault =>
      rw [first] at read
      cases read
    | ok next =>
      rw [first] at read
      exact ih (keyed_step h first) read

end State

/-- A value that was read is keyed. -/
theorem keyed_of_ofText {text : List Char} {v : Json} (read : ofText text = .ok (some v)) :
    v.Keyed := by
  unfold ofText ofTokens at read
  cases run : (Tokens.ofText text).items.foldlM State.step (.value []) with
  | error fault =>
    rw [run] at read
    cases read
  | ok s =>
    have start : (State.value []).Keyed := fun f mem => absurd mem List.not_mem_nil
    have keyed : s.Keyed := State.keyed_run start run
    rw [run] at read
    cases ending : (Tokens.ofText text).ending with
    | error fault =>
      rw [ending] at read
      cases read
    | ok length =>
      rw [ending] at read
      cases s with
      | done w =>
        cases read
        exact keyed
      | value stack =>
        rcases stack with _ | ⟨⟨⟩ | ⟨⟩ | ⟨⟩, stack⟩ <;> cases read
      | _ => cases read

end Json

end PatchLint
