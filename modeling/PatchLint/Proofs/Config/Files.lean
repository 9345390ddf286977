import PatchLint.Proofs.Json.Keyed
import PatchLint.Proofs.Settings.Conforming

/-!
# What a configuration file says

A value that conforms to the schema is made of entries, and an entry goes into settings
and into an override.  As no key is there twice, what ends up in a field is what the one
entry with its key holds (`Part.read_foldl`), so both are what the value describes
(`Describes`).  Loading a file checks the schema before it decodes; hence it can only
fail where its value would come from (`ConfigFile.schema_fits_settings`).
-/

namespace PatchLint

open Json

/-! ## Parts of a configuration -/

/-- A part of a configuration: the key of the entries that hold it, and how it is
written there. -/
structure Part (α : Type) where
  key : String
  write : α → Json
  /-- The part that an entry holds. -/
  of : Entry → Option α
  spec : ∀ e, match of e with
    | some a => e.member = (key, write a)
    | none => e.key ≠ key

namespace Part

variable {α β ρ : Type}

theorem member_of_eq_some (p : Part α) {e : Entry} {a : α} (own : p.of e = some a) :
    e.member = (p.key, p.write a) := by
  have spec := p.spec e
  rwa [own] at spec

theorem key_ne_of_eq_none (p : Part α) {e : Entry} (none : p.of e = none) : e.key ≠ p.key := by
  have spec := p.spec e
  rwa [none] at spec

/-- What entries say about a part. -/
def find? (p : Part α) (es : List Entry) : Option α := es.findSome? p.of

theorem member?_map (p : Part α) (es : List Entry) :
    member? p.key (es.map Entry.member) = (p.find? es).map p.write := by
  induction es with
  | nil => rfl
  | cons e es ih =>
    cases own : p.of e with
    | none =>
      have key : e.member.1 ≠ p.key := p.key_ne_of_eq_none own
      simpa [find?, own, member?, key] using ih
    | some a => simp [find?, own, member?, p.member_of_eq_some own]

theorem find?_eq_none {p : Part α} {es : List Entry} (absent : p.key ∉ es.map Entry.key) :
    p.find? es = none := by
  refine List.findSome?_eq_none_iff.2 fun e he => ?_
  cases own : p.of e with
  | none => rfl
  | some a =>
    have key : e.key = p.key := congrArg Prod.fst (p.member_of_eq_some own)
    exact absurd (List.mem_map.2 ⟨e, he, key⟩) absent

/-- What a record holds after entries were put in is what the entries say, and what it
held before if they say nothing. -/
theorem read_foldl (p : Part α) {put : ρ → Entry → ρ} {read : ρ → β} {f : α → β}
    (reads : ∀ r e, read (put r e) = ((p.of e).map f).getD (read r)) {es : List Entry}
    (once : (es.map Entry.key).Nodup) (r : ρ) :
    read (es.foldl put r) = ((p.find? es).map f).getD (read r) := by
  induction es generalizing r with
  | nil => rfl
  | cons e es ih =>
    obtain ⟨fresh, once⟩ := List.nodup_cons.1 once
    rw [List.foldl_cons, ih once, reads]
    cases own : p.of e with
    | none => simp [find?, own]
    | some a =>
      have key : e.key = p.key := congrArg Prod.fst (p.member_of_eq_some own)
      rw [find?_eq_none (key ▸ fresh)]
      simp [find?, own]

/-! ## The parts -/

def executable : Part String where
  key := Settings.Key.executable
  write := .str
  of e := match e with
    | .executable path => some path
    | _ => none
  spec e := by
    cases e with
    | executable => rfl
    | _ => exact ne_of_beq_false rfl

def args : Part (List String) where
  key := Settings.Key.args
  write := .strings
  of e := match e with
    | .args ss => some ss
    | _ => none
  spec e := by
    cases e with
    | args => rfl
    | _ => exact ne_of_beq_false rfl

def exclude : Part (List String) where
  key := Settings.Key.exclude
  write := .strings
  of e := match e with
    | .exclude ss => some ss
    | _ => none
  spec e := by
    cases e with
    | exclude => rfl
    | _ => exact ne_of_beq_false rfl

def useFolderAsCwd : Part Bool where
  key := Settings.Key.useFolderAsCwd
  write := .bool
  of e := match e with
    | .useFolderAsCwd b => some b
    | _ => none
  spec e := by
    cases e with
    | useFolderAsCwd => rfl
    | _ => exact ne_of_beq_false rfl

/-- The severity, as it is spelled. -/
def level : Part String where
  key := Settings.Key.level
  write := .str
  of e := match e with
    | .level name => some name
    | _ => none
  spec e := by
    cases e with
    | level => rfl
    | _ => exact ne_of_beq_false rfl

def runMode : Part RunMode where
  key := Settings.Key.runMode
  write := fun m => .str m.name
  of e := match e with
    | .runMode m => some m
    | _ => none
  spec e := by
    cases e with
    | runMode => rfl
    | _ => exact ne_of_beq_false rfl

def layout : Part Layout where
  key := Settings.Key.layout
  write := fun l => .str l.name
  of e := match e with
    | .layout l => some l
    | _ => none
  spec e := by
    cases e with
    | layout => rfl
    | _ => exact ne_of_beq_false rfl

end Part

/-! ## What a value says -/

/-- Settings and an override that say what a value says.  What the value does not say is
left at its default in the settings and unset in the override; a severity that is not
known means information. -/
structure Describes (v : Json) (s : Settings) (o : FolderOverride) : Prop where
  executable : v.get? Settings.Key.executable = o.executable.map .str ∧
    s.executable = o.executable.getD ({} : Settings).executable
  args : v.get? Settings.Key.args = o.args.map .strings ∧
    s.args = o.args.getD ({} : Settings).args
  exclude : v.get? Settings.Key.exclude = o.exclude.map .strings ∧
    s.exclude = o.exclude.getD ({} : Settings).exclude
  useFolderAsCwd : v.get? Settings.Key.useFolderAsCwd = o.useFolderAsCwd.map .bool ∧
    s.useFolderAsCwd = o.useFolderAsCwd.getD ({} : Settings).useFolderAsCwd
  level : ∃ name : Option String, v.get? Settings.Key.level = name.map .str ∧
    o.level = name.map Level.ofName ∧ s.level = o.level.getD ({} : Settings).level
  unknownLevel : ∀ name, v.get? Settings.Key.level = some (.str name) →
    (∀ l : Level, l.name ≠ name) → s.level = .information ∧ o.level = some .information
  runMode : ∃ mode : Option RunMode,
    v.get? Settings.Key.runMode = mode.map (fun m => .str m.name) ∧
      s.runMode = mode.getD ({} : Settings).runMode
  layout : ∃ layout : Option Layout,
    v.get? Settings.Key.layout = layout.map (fun l => .str l.name) ∧
      s.layout = layout.getD ({} : Settings).layout

variable {es : List Entry}

theorem Part.read_settings {α β : Type} (p : Part α) (once : (es.map Entry.key).Nodup)
    (f : α → β) (read : Settings → β)
    (reads : ∀ s e, read (s.put e) = ((p.of e).map f).getD (read s)) :
    read (es.foldl Settings.put {}) = ((p.find? es).map f).getD (read {}) :=
  p.read_foldl reads once {}

theorem Part.read_override {α β : Type} (p : Part α) (once : (es.map Entry.key).Nodup)
    {f : α → β} {read : FolderOverride → Option β}
    (reads : ∀ o e, read (o.put e) = ((p.of e).map f).or (read o)) (unset : read {} = none) :
    read (es.foldl FolderOverride.put {}) = (p.find? es).map f := by
  have set : ∀ o e, read (o.put e) = ((p.of e).map (some ∘ f)).getD (read o) := by
    intro o e
    rw [reads]
    cases p.of e <;> rfl
  rw [p.read_foldl set once {}, unset]
  cases p.find? es <;> rfl

/-- A part that is for a folder to set as well. -/
theorem Part.described {α : Type} (p : Part α) (once : (es.map Entry.key).Nodup)
    (setting : Settings → α) (override : FolderOverride → Option α)
    (settings : ∀ s e, setting (s.put e) = (p.of e).getD (setting s))
    (overrides : ∀ o e, override (o.put e) = (p.of e).or (override o))
    (unset : override {} = none) :
    let o := es.foldl FolderOverride.put {}
    (Json.obj (es.map Entry.member)).get? p.key = (override o).map p.write ∧
      setting (es.foldl Settings.put {}) = (override o).getD (setting {}) := by
  intro o
  have changed : override o = (p.find? es).map id :=
    p.read_override once (by simpa using overrides) unset
  have set := p.read_settings once id setting (by simpa using settings)
  rw [Option.map_id_apply] at changed set
  rw [changed]
  exact ⟨p.member?_map es, set⟩

/-- What decoding makes of entries describes them. -/
theorem describes_foldl (once : (es.map Entry.key).Nodup) :
    Describes (.obj (es.map Entry.member)) (es.foldl Settings.put {})
      (es.foldl FolderOverride.put {}) := by
  have level : (es.foldl FolderOverride.put {}).level = (Part.level.find? es).map Level.ofName :=
    Part.level.read_override once (by rintro o ⟨⟩ <;> rfl) rfl
  have levels := Part.level.read_settings once Level.ofName Settings.level
    (by rintro s ⟨⟩ <;> rfl)
  constructor
  case executable =>
    exact Part.executable.described once Settings.executable FolderOverride.executable
      (by rintro s ⟨⟩ <;> rfl) (by rintro o ⟨⟩ <;> rfl) rfl
  case args =>
    exact Part.args.described once Settings.args FolderOverride.args
      (by rintro s ⟨⟩ <;> rfl) (by rintro o ⟨⟩ <;> rfl) rfl
  case exclude =>
    exact Part.exclude.described once Settings.exclude FolderOverride.exclude
      (by rintro s ⟨⟩ <;> rfl) (by rintro o ⟨⟩ <;> rfl) rfl
  case useFolderAsCwd =>
    exact Part.useFolderAsCwd.described once Settings.useFolderAsCwd
      FolderOverride.useFolderAsCwd (by rintro s ⟨⟩ <;> rfl) (by rintro o ⟨⟩ <;> rfl) rfl
  case level => exact ⟨_, Part.level.member?_map es, level, level ▸ levels⟩
  case unknownLevel =>
    intro name shown unknown
    have spelled : Part.level.find? es = some name := by
      have written := (Part.level.member?_map es).symm.trans shown
      obtain ⟨other, said, same⟩ := Option.map_eq_some_iff.1 written
      cases same
      exact said
    have means : Level.ofName name = .information := by
      have none : Level.ofName? name = none := by
        simpa [Level.ofName?] using fun l _ => unknown l
      rw [Level.ofName, none]
      rfl
    rw [levels, level, spelled, Option.map_some, means]
    exact ⟨rfl, rfl⟩
  case runMode =>
    refine ⟨_, Part.runMode.member?_map es, ?_⟩
    have set := Part.runMode.read_settings once id Settings.runMode
      (by rintro s ⟨⟩ <;> rfl)
    rwa [Option.map_id_apply] at set
  case layout =>
    refine ⟨_, Part.layout.member?_map es, ?_⟩
    have set := Part.layout.read_settings once id Settings.layout
      (by rintro s ⟨⟩ <;> rfl)
    rwa [Option.map_id_apply] at set

/-! ## Values -/

theorem Entry.member?_eq_none {key : String} (strange : ∀ e : Entry, e.key ≠ key)
    (es : List Entry) : Json.member? key (es.map Entry.member) = none := by
  induction es with
  | nil => rfl
  | cons e es ih =>
    have other : e.member.1 ≠ key := strange e
    simpa [member?, other] using ih

/-- Decoding passes over the schema's check: settings and an override that are made of a
value describe it. -/
theorem decodes_of_conforms {v : Json} (keyed : v.Keyed) (conforms : Schema.check v = .ok ()) :
    ∃ s o, Gives (Settings.decode v) s ∧ Gives (FolderOverride.decode v) o ∧
      Settings.ofHost v = Settings.decode v ∧ Describes v s o := by
  obtain ⟨es, rfl⟩ := Schema.check_eq_ok_iff.1 conforms
  have once : (es.map Entry.key).Nodup := by
    have keys : (es.map Entry.member).map Prod.fst = es.map Entry.key := List.map_map ..
    exact keys ▸ Ascending.nodup keyed
  refine ⟨_, _, Settings.gives_decode es, FolderOverride.gives_decode es, ?_,
    describes_foldl once⟩
  have bare : (Json.obj (es.map Entry.member)).get? Settings.Key.enclosing = none := by
    have key : ∀ e : Entry, e.key ≠ Settings.Key.enclosing := by
      rintro ⟨⟩ <;> exact ne_of_beq_false rfl
    exact Entry.member?_eq_none key es
  simp only [Settings.ofHost, bare, Option.getD_none, isNull, Bool.false_eq_true, if_false]

/-! ## Files -/

/-- The file was not read, is no text, is no commented JSON or does not conform to the
schema. -/
def FileFault.BeforeDecoding : FileFault → Prop
  | .unread _ => True
  | .notText => True
  | .invalid (.syntaxError _) => True
  | .invalid (.violation _) => True
  | .invalid (.misfit _) => False
  | .misfit _ => False

theorem configValue_cases (text : List Char) :
    (∃ v, configValue text = .ok v ∧ v.Keyed ∧ Schema.check v = .ok ()) ∨
      ∃ reason, configValue text = .error reason ∧ (FileFault.invalid reason).BeforeDecoding := by
  unfold configValue
  cases read : Json.ofText text with
  | error mistake => exact .inr ⟨_, rfl, trivial⟩
  | ok found =>
    have keyed : (found.getD (.obj [])).Keyed := by
      cases found with
      | none => exact List.Pairwise.nil
      | some v => exact keyed_of_ofText read
    simp only
    cases conforms : Schema.check (found.getD (.obj [])) with
    | error violation => exact .inr ⟨_, rfl, trivial⟩
    | ok u => exact .inl ⟨_, rfl, keyed, conforms⟩

namespace ConfigFile

variable {σ : Type}

theorem value_cases (host : Host σ) (state : σ) (path : Path) :
    (∃ v, value host state path = .ok v ∧ v.Keyed ∧ Schema.check v = .ok ()) ∨
      ∃ fault, value host state path = .error fault ∧ fault.BeforeDecoding := by
  unfold value
  cases host.read path state with
  | error fault => exact .inr ⟨_, rfl, trivial⟩
  | ok bytes =>
    simp only [valueOf]
    cases Text.Utf8.text? bytes with
    | none => exact .inr ⟨_, rfl, trivial⟩
    | some text =>
      rcases configValue_cases text.toList with ⟨v, made, keyed, conforms⟩ | ⟨reason, made, before⟩
      · simp only [made]
        exact .inl ⟨v, rfl, keyed, conforms⟩
      · simp only [made]
        exact .inr ⟨_, rfl, before⟩

variable {host : Host σ} {state : σ} {path : Path} {α : Type}

theorem load_of_error {fault : FileFault} (failed : value host state path = .error fault)
    (remarks : Json → Log) (decode : Json → Decoding α) :
    (load host state path remarks decode).result = (.error (.file path fault), []) := by
  simp only [load, failed]
  rfl

theorem gives_load {v : Json} (made : value host state path = .ok v) (remarks : Json → Log)
    {decode : Json → Decoding α} {a : α} (h : Gives (decode v) a) :
    Gives (load host state path remarks decode) a := by
  simp only [load, made]
  exact (gives_forM (fun line log => ⟨_, rfl⟩) _).bind (h.adapt _)

/-- The settings in a file are those that its value would be if a host sent it. -/
theorem hostSettings_eq_settings {v : Json} (made : value host state path = .ok v) {s : Settings}
    (h : Gives (Settings.decode v) s) (bare : Settings.ofHost v = Settings.decode v) :
    (Loading.hostSettings v).result = (settings host state path).result := by
  obtain ⟨log, run⟩ := h []
  have sent : (Loading.hostSettings v).result = (.ok s, log) := by
    rw [Loading.hostSettings, bare]
    exact run_adapt_of_ok run _
  have loaded : (settings host state path).result = (.ok s, log) := by
    simp only [settings, load, made]
    exact run_adapt_of_ok run _
  rw [sent, loaded]

/-- A value that conforms to the schema decodes, as settings and as an override, and both
are what the value describes.  So loading a file fails only where its value would come
from, in the same way for settings and for an override, and otherwise gives what the
value describes; the settings are those that a host would get across with the value. -/
theorem schema_fits_settings (host : Host σ) (state : σ) (path : Path) :
    (∀ v : Json, v.Keyed → Schema.check v = .ok () →
      ∃ s o, (Settings.decode v).result.1 = .ok s ∧ (FolderOverride.decode v).result.1 = .ok o ∧
        (Settings.ofHost v).result = (Settings.decode v).result ∧ Describes v s o) ∧
    match value host state path with
    | .error fault => fault.BeforeDecoding ∧
        (settings host state path).result.1 = .error (.file path fault) ∧
        (override host state path).result.1 = .error (.file path fault)
    | .ok v => v.Keyed ∧ Schema.check v = .ok () ∧
        ∃ s o, (settings host state path).result.1 = .ok s ∧
          (override host state path).result.1 = .ok o ∧
          (Loading.hostSettings v).result = (settings host state path).result ∧
          Describes v s o := by
  refine ⟨?_, ?_⟩
  · intro v keyed conforms
    obtain ⟨s, o, set, changed, bare, describes⟩ := decodes_of_conforms keyed conforms
    exact ⟨s, o, set.result, changed.result, by rw [bare], describes⟩
  · rcases value_cases host state path with ⟨v, made, keyed, conforms⟩ | ⟨fault, failed, before⟩
    · obtain ⟨s, o, set, changed, bare, describes⟩ := decodes_of_conforms keyed conforms
      rw [made]
      exact ⟨keyed, conforms, s, o, (gives_load made _ set).result,
        (gives_load made _ changed).result, hostSettings_eq_settings made set bare, describes⟩
    · rw [failed]
      exact ⟨before, congrArg Prod.fst (load_of_error failed _ _),
        congrArg Prod.fst (load_of_error failed _ _)⟩

/-- A folder's file with a severity that is not known and a key that is not for a folder
to set. -/
theorem unknown_level_is_information :
    let v : Json := .obj [(Settings.Key.level, .str "Loud"), (Settings.Key.runMode, .str "onSave")]
    ∃ s o, (Settings.decode v).result.1 = .ok s ∧ (FolderOverride.decode v).result.1 = .ok o ∧
      s.level = .information ∧ o.level = some .information ∧ s.runMode = .onSave ∧
      s.args = [] ∧ o.args = none := by
  intro v
  have keyed : v.Keyed := List.pairwise_pair.2 (by decide)
  obtain ⟨s, o, set, changed, -, describes⟩ :=
    (schema_fits_settings (Host.uniform ⟨[], [], 0⟩) () (.ofString "/w/.cplint.json")).1 v keyed rfl
  obtain ⟨level, overLevel⟩ := describes.unknownLevel "Loud" rfl (by rintro ⟨⟩ <;> decide)
  obtain ⟨mode, shown, runMode⟩ := describes.runMode
  have onSave : mode = some .onSave := by
    obtain ⟨m, rfl, name⟩ := Option.map_eq_some_iff.1 shown.symm
    cases m with
    | manual => exact absurd (Json.str.inj name) (by decide)
    | onSave => rfl
  have unset : o.args = none := Option.map_eq_none_iff.1 describes.args.1.symm
  refine ⟨s, o, set, changed, level, overLevel, ?_, ?_, unset⟩
  · rw [runMode, onSave]
    rfl
  · rw [describes.args.2, unset]
    rfl

end ConfigFile

end PatchLint
