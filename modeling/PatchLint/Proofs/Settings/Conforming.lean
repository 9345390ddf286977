import PatchLint.Config.File
import PatchLint.Proofs.Warnings

/-!
# Values that conform to the schema

The schema, the settings and the overrides each say in their own way which keys there
are and what their values may be.  They fit together because a value conforms exactly
when it is made of entries (`Schema.check_eq_ok_iff`), and because an entry can be put
into settings and into an override alike (`Settings.gives_decode`,
`FolderOverride.gives_decode`).
-/

namespace PatchLint

open Json

/-! ## Values -/

theorem gives_decodeString (s : String) : Gives (decodeString (.str s)) s := gives_pure s

theorem gives_decodeStrings (ss : List String) : Gives (decodeStrings (.strings ss)) ss := by
  show Gives ((ss.map Json.str).mapM decodeString) ss
  induction ss with
  | nil => exact gives_pure []
  | cons s ss ih =>
    rw [List.map_cons, List.mapM_cons]
    exact (gives_decodeString s).bind (ih.bind (gives_pure _))

theorem gives_decodeLevel (name : String) :
    Gives (decodeLevel (.str name)) (Level.ofName name) := by
  refine (gives_decodeString name).bind ?_
  unfold Level.ofName
  cases Level.ofName? name with
  | some l => exact gives_pure l
  | none => exact Gives.bind (a := ()) (fun log => ⟨_, rfl⟩) (gives_pure _)

theorem gives_decodeChoice {α : Type} {choices : List α} {name : α → String} {c : α}
    (found : (choices.find? fun d => name d = name c) = some c) :
    Gives (decodeChoice choices name (.str (name c))) c := by
  simp only [decodeChoice, choiceNamed, found]
  exact gives_pure c

theorem gives_decodeRunMode (m : RunMode) : Gives (decodeRunMode (.str m.name)) m :=
  gives_decodeChoice (by cases m <;> decide)

theorem gives_decodeLayout (l : Layout) : Gives (decodeLayout (.str l.name)) l :=
  gives_decodeChoice (by cases l <;> decide)

theorem gives_decodeOptional {α : Type} {decode : Json → Decoding α} {v : Json} {a : α}
    (h : Gives (decode v) a) (some : v.isNull = false) :
    Gives (decodeOptional decode v) (.some a) := by
  cases v with
  | null => cases some
  | _ => exact h.map Option.some

/-! ## Entries -/

/-- A member of a configuration file. -/
inductive Entry where
  /-- The place of the schema, which editors look for. -/
  | schema (place : String)
  | executable (path : String)
  | args (ss : List String)
  | exclude (ss : List String)
  | useFolderAsCwd (b : Bool)
  | level (name : String)
  | runMode (m : RunMode)
  | layout (l : Layout)

namespace Entry

def key : Entry → String
  | .schema _ => "$schema"
  | .executable _ => Settings.Key.executable
  | .args _ => Settings.Key.args
  | .exclude _ => Settings.Key.exclude
  | .useFolderAsCwd _ => Settings.Key.useFolderAsCwd
  | .level _ => Settings.Key.level
  | .runMode _ => Settings.Key.runMode
  | .layout _ => Settings.Key.layout

def value : Entry → Json
  | .schema place => .str place
  | .executable path => .str path
  | .args ss => .strings ss
  | .exclude ss => .strings ss
  | .useFolderAsCwd b => .bool b
  | .level name => .str name
  | .runMode m => .str m.name
  | .layout l => .str l.name

def member (e : Entry) : String × Json := (e.key, e.value)

end Entry

/-- The settings with an entry put in. -/
def Settings.put (s : Settings) : Entry → Settings
  | .schema _ => s
  | .executable path => { s with executable := path }
  | .args ss => { s with args := ss }
  | .exclude ss => { s with exclude := ss }
  | .useFolderAsCwd b => { s with useFolderAsCwd := b }
  | .level name => { s with level := .ofName name }
  | .runMode m => { s with runMode := m }
  | .layout l => { s with layout := l }

/-- The override with an entry put in, if it is for a folder to set. -/
def FolderOverride.put (o : FolderOverride) : Entry → FolderOverride
  | .executable path => { o with executable := path }
  | .args ss => { o with args := ss }
  | .exclude ss => { o with exclude := ss }
  | .useFolderAsCwd b => { o with useFolderAsCwd := b }
  | .level name => { o with level := Level.ofName name }
  | _ => o

/-! ## The schema -/

namespace Schema

theorem checkString_eq_ok_iff {place : String} {v : Json} :
    checkString place v = .ok () ↔ ∃ s, v = .str s := by
  cases v <;> simp [checkString]

theorem checkStrings_eq_ok_iff {place : String} {n : Nat} {vs : List Json} :
    checkStrings place n vs = .ok () ↔ ∃ ss : List String, vs = ss.map .str := by
  induction vs generalizing n with
  | nil => exact ⟨fun _ => ⟨[], rfl⟩, fun _ => rfl⟩
  | cons v vs ih =>
    unfold checkStrings
    constructor
    · intro ok
      split at ok
      · next first =>
        obtain ⟨s, rfl⟩ := checkString_eq_ok_iff.1 first
        obtain ⟨ss, rfl⟩ := ih.1 ok
        exact ⟨s :: ss, rfl⟩
      · cases ok
    · rintro ⟨ss, same⟩
      obtain ⟨s, ss, rfl, rfl, rfl⟩ := List.map_eq_cons_iff.1 same.symm
      exact ih.2 ⟨ss, rfl⟩

/-- The values that a shape allows. -/
def Shape.Allows : Shape → Json → Prop
  | .string, v => ∃ s, v = .str s
  | .boolean, v => ∃ b, v = .bool b
  | .strings, v => ∃ ss, v = .strings ss
  | .oneOf choices, v => ∃ s ∈ choices, v = .str s

theorem Shape.check_eq_ok_iff {shape : Shape} {place : String} {v : Json} :
    shape.check place v = .ok () ↔ shape.Allows v := by
  cases shape with
  | string => exact checkString_eq_ok_iff
  | boolean => cases v <;> simp [check, Allows]
  | strings =>
    cases v with
    | arr items => simp [check, Allows, Json.strings, checkStrings_eq_ok_iff]
    | _ => simp [check, Allows, Json.strings]
  | oneOf choices => cases v <;> simp [check, Allows]

theorem exists_entry {p : String × Shape} (property : p ∈ properties) {v : Json}
    (allowed : p.2.Allows v) : ∃ e : Entry, e.member = (p.1, v) := by
  simp only [properties, List.mem_cons, List.not_mem_nil, or_false] at property
  rcases property with rfl | rfl | rfl | rfl | rfl | rfl | rfl | rfl
  · obtain ⟨place, rfl⟩ := allowed
    exact ⟨.schema place, rfl⟩
  · obtain ⟨path, rfl⟩ := allowed
    exact ⟨.executable path, rfl⟩
  · obtain ⟨ss, rfl⟩ := allowed
    exact ⟨.args ss, rfl⟩
  · obtain ⟨ss, rfl⟩ := allowed
    exact ⟨.exclude ss, rfl⟩
  · obtain ⟨b, rfl⟩ := allowed
    exact ⟨.useFolderAsCwd b, rfl⟩
  · obtain ⟨name, rfl⟩ := allowed
    exact ⟨.level name, rfl⟩
  · obtain ⟨s, choice, rfl⟩ := allowed
    simp only [List.mem_cons, List.not_mem_nil, or_false] at choice
    rcases choice with rfl | rfl
    · exact ⟨.runMode .manual, rfl⟩
    · exact ⟨.runMode .onSave, rfl⟩
  · obtain ⟨s, choice, rfl⟩ := allowed
    simp only [List.mem_cons, List.not_mem_nil, or_false] at choice
    rcases choice with rfl | rfl | rfl
    · exact ⟨.layout .auto, rfl⟩
    · exact ⟨.layout .singleLine, rfl⟩
    · exact ⟨.layout .twoLine, rfl⟩

/-- The shape that the schema has for an entry. -/
def shapeOf : Entry → Shape
  | .schema _ => .string
  | .executable _ => .string
  | .args _ => .strings
  | .exclude _ => .strings
  | .useFolderAsCwd _ => .boolean
  | .level _ => .string
  | .runMode _ => .oneOf ["manual", "onSave"]
  | .layout _ => .oneOf ["auto", "singleLine", "twoLine"]

theorem find?_properties (e : Entry) :
    (properties.find? fun p => p.1 = e.key) = some (e.key, shapeOf e) := by
  cases e <;> rfl

theorem allows_value (e : Entry) : (shapeOf e).Allows e.value := by
  cases e with
  | runMode m => exact ⟨m.name, by cases m <;> decide, rfl⟩
  | layout l => exact ⟨l.name, by cases l <;> decide, rfl⟩
  | _ => exact ⟨_, rfl⟩

theorem checkMembers_eq_ok_iff {members : List (String × Json)} :
    checkMembers members = .ok () ↔ ∃ es : List Entry, members = es.map Entry.member := by
  induction members with
  | nil => exact ⟨fun _ => ⟨[], rfl⟩, fun _ => rfl⟩
  | cons m members ih =>
    obtain ⟨key, v⟩ := m
    unfold checkMembers
    constructor
    · intro ok
      split at ok
      · cases ok
      · next p found =>
        have own : p.1 = key := by simpa using List.find?_some found
        split at ok
        · next allowed =>
          obtain ⟨e, member⟩ := exists_entry (List.mem_of_find?_eq_some found)
            (Shape.check_eq_ok_iff.1 allowed)
          obtain ⟨es, rfl⟩ := ih.1 ok
          refine ⟨e :: es, ?_⟩
          rw [List.map_cons, member, own]
        · cases ok
    · rintro ⟨es, same⟩
      obtain ⟨e, es, rfl, member, rfl⟩ := List.map_eq_cons_iff.1 same.symm
      cases member
      rw [find?_properties]
      have allowed : (shapeOf e).check ("/" ++ e.key) e.value = .ok () :=
        Shape.check_eq_ok_iff.2 (allows_value e)
      simp only [allowed]
      exact ih.2 ⟨es, rfl⟩

/-- A value conforms to the schema exactly when it is made of entries. -/
theorem check_eq_ok_iff {v : Json} :
    check v = .ok () ↔ ∃ es : List Entry, v = .obj (es.map Entry.member) := by
  cases v with
  | obj members => simp [check, checkMembers_eq_ok_iff]
  | _ => simp [check]

end Schema

/-! ## Decoding entries -/

theorem gives_decodeMembers {ρ : Type} {fields : List (FieldRule ρ)} {put : ρ → Entry → ρ}
    (optional : ∀ f ∈ fields, f.absence ≠ .nowhere)
    (each : ∀ r (e : Entry), Gives (match fields.find? fun f => f.key = e.key with
      | some f => f.set e.value r
      | none => pure r) (put r e)) (blank : ρ) (es : List Entry) :
    Gives (decodeMembers fields blank (es.map Entry.member)) (es.foldl put blank) := by
  have complete : missingFields fields (es.map Entry.member) = [] := by
    refine List.filter_eq_nil_iff.2 fun f hf => ?_
    simp [optional f hf]
  unfold decodeMembers
  rw [List.foldlM_map, complete]
  exact (gives_foldlM each es blank).bind (gives_pure _)

namespace Settings

theorem gives_decode (es : List Entry) :
    Gives (decode (.obj (es.map Entry.member))) (es.foldl put {}) := by
  have optional : ∀ f ∈ fields, f.absence ≠ .nowhere := by simp [fields]
  refine gives_decodeMembers optional (fun s e => ?_) {} es
  cases e with
  | schema place => exact gives_pure s
  | executable path => exact (gives_decodeString path).bind (gives_pure _)
  | args ss => exact (gives_decodeStrings ss).bind (gives_pure _)
  | exclude ss => exact (gives_decodeStrings ss).bind (gives_pure _)
  | useFolderAsCwd b => exact gives_pure _
  | level name => exact (gives_decodeLevel name).bind (gives_pure _)
  | runMode m => exact (gives_decodeRunMode m).bind (gives_pure _)
  | layout l => exact (gives_decodeLayout l).bind (gives_pure _)

end Settings

namespace FolderOverride

theorem gives_decode (es : List Entry) :
    Gives (decode (.obj (es.map Entry.member))) (es.foldl put {}) := by
  have optional : ∀ f ∈ fields, f.absence ≠ .nowhere := by simp [fields]
  refine gives_decodeMembers optional (fun o e => ?_) {} es
  cases e with
  | executable path =>
    exact (gives_decodeOptional (gives_decodeString path) rfl).bind (gives_pure _)
  | args ss => exact (gives_decodeOptional (gives_decodeStrings ss) rfl).bind (gives_pure _)
  | exclude ss => exact (gives_decodeOptional (gives_decodeStrings ss) rfl).bind (gives_pure _)
  | useFolderAsCwd b => exact gives_pure _
  | level name => exact (gives_decodeOptional (gives_decodeLevel name) rfl).bind (gives_pure _)
  | schema place => exact gives_pure o
  | runMode m => exact gives_pure o
  | layout l => exact gives_pure o

end FolderOverride

end PatchLint
