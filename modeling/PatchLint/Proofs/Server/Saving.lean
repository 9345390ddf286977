import PatchLint.Proofs.Server.Choices
import PatchLint.Proofs.Server.Heeding
import PatchLint.Proofs.Since

/-!
# What is checked on a save

A save makes the server try a check if the run mode asks for it and the document is a
source.  Whether a document is a source depends on all that the editor has said about it:
how it was opened last, or if it is not open, its name.

An open document is said by the history alone (`OpenAs`), and the server knows no more and
no less (`language?_eq_some_iff`).  This rests on what one message does to the open
documents (`documents_handle`).

Main statement: a save tries a check or does nothing at all, and no message but a save or
the command for a check starts anything else than probes (`checks_on_save`).
-/

namespace PatchLint

namespace Server

open Dialogue

variable {σ α β : Type}

/-! ## Messages about documents -/

/-- The message opens a document under a language. -/
def Message.Opens (m : Message) (u : Uri) (language : String) : Prop :=
  m.method = Method.opened.name ∧ m.id = none ∧
    decodeParams decodeOpened m.params = .ok (some ⟨u, language⟩)

def Message.Closes (m : Message) (u : Uri) : Prop :=
  m.method = Method.closed.name ∧ m.id = none ∧ decodeParams decodeClosed m.params = .ok (some u)

def Message.Saves (m : Message) (u : Uri) : Prop :=
  m.method = Method.saved.name ∧ m.id = none ∧ decodeParams decodeSaved m.params = .ok (some u)

/-! ## Open documents -/

section Documents

variable (host : Host σ) (versions : VersionControl (σ × List Launch))
  (e : Exchange (σ × List Launch))

theorem documents_attempt {env : Surroundings σ} {settle : Dialogue σ (Option Target)}
    {e e' : Exchange σ} {ending : Option (Target × Except CheckFault Outcome)}
    (h : Attempt env settle e ending e')
    (settled : ∀ e, (settle.run e).2.server.documents = e.server.documents) :
    e'.server.documents = e.server.documents := by
  have retry : ((ensure env).run e).2.server.documents = e.server.documents := by
    simp only [ensure, run_bind, run_onSession, publish_run]
    split <;> rfl
  cases h with
  | unconfigured retried => rwa [retried] at retry
  | @unsettled e₁ _ retried unsettled =>
    have kept := settled e₁
    rw [retried] at retry
    rw [unsettled] at kept
    exact kept.trans retry
  | @checked e₁ e₂ e₃ t result retried settles checked =>
    have kept := settled e₁
    have same : ((checkTarget env t).run e₂).2.server.documents = e₂.server.documents := rfl
    rw [retried] at retry
    rw [settles] at kept
    rw [checked] at same
    exact same.trans (kept.trans retry)

theorem documents_checkFile (env : Surroundings σ) (u : Uri) (e : Exchange σ) :
    ((checkFile env u).run e).2.server.documents = e.server.documents := by
  cases place : u.toPath? with
  | none => rw [checkFile_elsewhere env place]
  | some path =>
    obtain ⟨ending, e', attempt, ran⟩ := checkFile_attempt env place e
    rw [ran]
    exact documents_attempt attempt fun _ => rfl

theorem documents_checkCommit (env : Surroundings σ) (r : CommitRequest) (e : Exchange σ) :
    ((checkCommit env r).run e).2.server.documents = e.server.documents := by
  obtain ⟨ending, e', attempt, ran⟩ := checkCommit_attempt env r e
  rw [ran]
  refine documents_attempt attempt fun e => ?_
  obtain ⟨_, _, _, -, -, asking⟩ := commitTarget_chosen env r e
  exact asking.documents

theorem documents_execute (c : Command) (arguments : List Json) :
    ((execute ⟨host.recorded, versions⟩ c arguments).run e).2.server.documents =
      e.server.documents := by
  cases c with
  | checkFile =>
    simp only [execute]
    split
    · rfl
    · exact documents_checkFile ⟨host.recorded, versions⟩ _ e
  | checkCommit => exact documents_checkCommit ⟨host.recorded, versions⟩ _ e
  | toggle => rfl
  | clean => rfl

theorem documents_saved (env : Surroundings σ) (u : Uri) (e : Exchange σ) :
    ((saved env u).run e).2.server.documents = e.server.documents := by
  have run : (saved env u).run e =
      (if checksOnSave e.server u then discard (checkFile env u) else pure () :
        Dialogue σ Unit).run e := rfl
  rw [run]
  split
  · exact documents_checkFile env u e
  · rfl

/-- The editor says something about a document. -/
def Message.Concerns (m : Message) (u : Uri) : Prop := m.Closes u ∨ ∃ language, m.Opens u language

/-- A message that is not heeded, or that says nothing about documents, leaves the same
documents open. -/
theorem documents_handle {m : Message}
    (other : e.server.phase = .started → ∀ u, ¬ m.Concerns u) :
    ((handle ⟨host.recorded, versions⟩ m).run e).2.server.documents = e.server.documents := by
  have pieces := handle_cases ⟨host.recorded, versions⟩ m e
  generalize ((handle ⟨host.recorded, versions⟩ m).run e).2 = e' at pieces ⊢
  cases pieces with
  | passed => rfl
  | greeted h => exact (Harmless.hello host versions h (e.enter .starting)).documents
  | ended => rfl
  | @executed id x c executes known =>
    obtain ⟨phase, same⟩ := exists_respond_run id
      ((execute ⟨host.recorded, versions⟩ c x.arguments).run e).1
      ((execute ⟨host.recorded, versions⟩ c x.arguments).run e).2
    rw [run_bind, same]
    exact documents_execute host versions e c x.arguments
  | @noticed method started name notice =>
    have silent := other started
    let Kept (e' : Exchange (σ × List Launch)) : Prop := e'.server.documents = e.server.documents
    have idle : Kept e := rfl
    show Kept _
    cases method with
    | ready => exact of_notified (P := Kept) idle fun _ _ => (Harmless.ready e).documents
    | opened =>
      refine of_notified (P := Kept) idle fun d decoded => ?_
      cases d with
      | none => rfl
      | some d => exact absurd (.inr ⟨d.language, name, notice, decoded⟩) (silent d.uri)
    | saved =>
      refine of_notified (P := Kept) idle fun u _ => ?_
      cases u with
      | none => rfl
      | some u => exact documents_saved ⟨host.recorded, versions⟩ u e
    | closed =>
      refine of_notified (P := Kept) idle fun u decoded => ?_
      cases u with
      | none => rfl
      | some u => exact absurd (.inl ⟨name, notice, decoded⟩) (silent u)
    | settingsChanged =>
      exact of_notified (P := Kept) idle fun _ _ => (Harmless.settingsChanged host versions _ e).documents
    | filesChanged =>
      exact of_notified (P := Kept) idle fun _ _ => (Harmless.filesChanged host versions _ e).documents
    | _ => rfl

end Documents

/-! ## The history of a document -/

/-- A started session is told something by an event. -/
def Hears (p : Message → Prop) (n : Conversation σ × Event σ) : Prop :=
  n.1.server.phase = .started ∧ ∃ m answers, n.2 = .message m answers ∧ p m

/-- A document was opened under a language, and it was neither closed nor opened again
since then. -/
def OpenAs (history : List (Conversation σ × Event σ)) (u : Uri) (language : String) : Prop :=
  ∃ before n after, history = before ++ n :: after ∧ Hears (fun m => m.Opens u language) n ∧
    ∀ k ∈ after, ¬ Hears (fun m => m.Concerns u) k

theorem openAs_concat {history : List (Conversation σ × Event σ)} {n : Conversation σ × Event σ}
    {u : Uri} {language : String} :
    OpenAs (history ++ [n]) u language ↔ Hears (fun m => m.Opens u language) n ∨
      OpenAs history u language ∧ ¬ Hears (fun m => m.Concerns u) n :=
  exists_since_concat

theorem Message.Closes.not_opens {m : Message} {u : Uri} (h : m.Closes u) (v : Uri)
    (language : String) : ¬ m.Opens v language := by
  intro opens
  exact absurd (h.1.symm.trans opens.1) (by decide)

/-- A message opens one document under one language. -/
theorem Message.Opens.opens_iff {m : Message} {u : Uri} {l : String} (h : m.Opens u l) (v : Uri)
    (k : String) : m.Opens v k ↔ u = v ∧ l = k := by
  constructor
  · intro other
    simpa using h.2.2.symm.trans other.2.2
  · rintro ⟨rfl, rfl⟩
    exact h

theorem Message.Opens.concerns_iff {m : Message} {u : Uri} {l : String} (h : m.Opens u l)
    (v : Uri) : m.Concerns v ↔ u = v := by
  constructor
  · rintro (closes | ⟨k, opens⟩)
    · exact absurd h (closes.not_opens u l)
    · exact ((h.opens_iff v k).1 opens).1
  · rintro rfl
    exact .inr ⟨l, h⟩

theorem Message.Closes.concerns_iff {m : Message} {u : Uri} (h : m.Closes u) (v : Uri) :
    m.Concerns v ↔ u = v := by
  constructor
  · rintro (closes | ⟨k, opens⟩)
    · simpa using h.2.2.symm.trans closes.2.2
    · exact absurd opens (h.not_opens v k)
  · rintro rfl
    exact .inl h

theorem language?_of_opens (env : Surroundings σ) {m : Message} {u : Uri} {l : String}
    (opens : m.Opens u l) {e : Exchange σ} (started : e.server.phase = .started) (v : Uri) :
    ((handle env m).run e).2.server.language? v = if u = v then some l else e.server.language? v := by
  rw [handle_notice env opens.1 opens.2.1 (by decide) started]
  simp only [notify, notified, opens.2.2]
  exact language?_openDocument e.server u v l

theorem language?_of_closes (env : Surroundings σ) {m : Message} {u : Uri} (closes : m.Closes u)
    {e : Exchange σ} (started : e.server.phase = .started) (v : Uri) :
    ((handle env m).run e).2.server.language? v = if u = v then none else e.server.language? v := by
  rw [handle_notice env closes.1 closes.2.1 (by decide) started]
  simp only [notify, notified, closes.2.2]
  rw [← language?_closeDocument e.server u v]
  show ((closed u).run e).2.server.language? v = _
  unfold closed
  split <;> rfl

theorem language?_of_silent (host : Host σ) (versions : VersionControl (σ × List Launch))
    {m : Message} {e : Exchange (σ × List Launch)}
    (silent : e.server.phase = .started → ∀ v, ¬ m.Concerns v) (u : Uri) :
    ((handle ⟨host.recorded, versions⟩ m).run e).2.server.language? u = e.server.language? u := by
  rw [Server.language?, documents_handle host versions e silent]
  rfl

/-- After a message a document is open under a language if it was opened under it right
now, or if it was open before and the message says nothing about it. -/
theorem language?_step (host : Host σ) (versions : VersionControl (σ × List Launch))
    (c : Conversation (σ × List Launch)) (event : Event (σ × List Launch)) (u : Uri)
    (language : String) :
    (c.step ⟨host.recorded, versions⟩ event).2.server.language? u = some language ↔
      Hears (fun m => m.Opens u language) (c, event) ∨
        c.server.language? u = some language ∧ ¬ Hears (fun m => m.Concerns u) (c, event) := by
  cases event with
  | outside change => simp [Hears, Conversation.step]
  | message m answers =>
    have heard : ∀ p : Message → Prop, Hears p (c, .message m answers) ↔
        c.server.phase = .started ∧ p m := by
      simp [Hears]
    have step : (c.step ⟨host.recorded, versions⟩ (.message m answers)).2.server =
        ((handle ⟨host.recorded, versions⟩ m).run (c.next answers)).2.server := rfl
    rw [heard, heard, step]
    by_cases told : c.server.phase = .started ∧ ∃ v, m.Concerns v
    · obtain ⟨started, v, closes | ⟨l, opens⟩⟩ := told
      · rw [language?_of_closes _ closes started, closes.concerns_iff]
        by_cases same : v = u <;> simp [same, closes.not_opens, started]
      · rw [language?_of_opens _ opens started, opens.concerns_iff, opens.opens_iff]
        by_cases same : v = u <;> simp [same, started]
    · have unopened : ¬ (c.server.phase = .started ∧ m.Opens u language) := by
        rintro ⟨started, opens⟩
        exact told ⟨started, u, .inr ⟨language, opens⟩⟩
      have silent : ¬ (c.server.phase = .started ∧ m.Concerns u) := by
        rintro ⟨started, concerns⟩
        exact told ⟨started, u, concerns⟩
      rw [language?_of_silent host versions fun started v concerns => told ⟨started, v, concerns⟩]
      simp [unopened, silent]

/-- The server knows of every document whether it is open, and under which language. -/
theorem language?_eq_some_iff (host : Host σ) (versions : VersionControl (σ × List Launch))
    (state : σ × List Launch) (events : List (Event (σ × List Launch))) (u : Uri)
    (language : String) :
    let env : Surroundings (σ × List Launch) := ⟨host.recorded, versions⟩
    ((Conversation.new state).run env events).server.language? u = some language ↔
      OpenAs ((Conversation.new state).history env events) u language := by
  intro env
  -- The last message about a document decides, so the events are gone through from the
  -- last one back.
  induction events using List.reverseRecOn with
  | nil => simp [OpenAs, Conversation.history, Conversation.run, Conversation.new, Server.language?]
  | append_singleton events event ih =>
    rw [Conversation.run_concat, language?_step, ih, Conversation.history_concat, openAs_concat]

/-! ## Saves -/

/-- Whether a document is a source, by its history. -/
theorem checksOnSave_iff (host : Host σ) (versions : VersionControl (σ × List Launch))
    (state : σ × List Launch) (events : List (Event (σ × List Launch))) (u : Uri) :
    let env : Surroundings (σ × List Launch) := ⟨host.recorded, versions⟩
    let server := ((Conversation.new state).run env events).server
    let history := (Conversation.new state).history env events
    checksOnSave server u = true ↔ server.session.runMode = .onSave ∧
      (OpenAs history u "c" ∨ (¬ ∃ language, OpenAs history u language) ∧
        (u.pathEndsWith ".c" = true ∨ u.pathEndsWith ".h" = true)) := by
  intro env server history
  have known : ∀ l, OpenAs history u l ↔ server.language? u = some l :=
    fun l => (language?_eq_some_iff host versions state events u l).symm
  simp only [checksOnSave, Bool.and_eq_true, decide_eq_true_eq, known]
  refine and_congr_right fun _ => ?_
  cases server.language? u with
  | none => simp [isSource]
  | some language =>
    have named : isSource (some language) u = true ↔ language = "c" := decide_eq_true_iff
    simp [named]

/-- A document that was saved is checked if it is to be, and nothing else happens. -/
theorem handle_saves (env : Surroundings σ) {m : Message} {u : Uri} (saves : m.Saves u)
    {e : Exchange σ} (started : e.server.phase = .started) :
    (handle env m).run e =
      (none, if checksOnSave e.server u then ((checkFile env u).run e).2 else e) := by
  rw [handle_notice env saves.1 saves.2.1 (by decide) started]
  simp only [notify, notified, saves.2.2]
  show (none, ((if checksOnSave e.server u then discard (checkFile env u) else pure () :
    Dialogue σ Unit).run e).2) = _
  split <;> rfl

/-- A notice to a session that has not started or has ended does nothing. -/
theorem handle_saves_unheeded (env : Surroundings σ) {m : Message} {u : Uri} (saves : m.Saves u)
    {e : Exchange σ} (silent : e.server.phase ≠ .started) : (handle env m).run e = (none, e) := by
  by_cases exited : e.server.phase = .exited
  · exact handle_exited env m e exited
  · have refused : ∃ fault, refusal e.server.phase .saved = some fault := by
      cases phase : e.server.phase with
      | started => exact absurd phase silent
      | _ => exact ⟨_, rfl⟩
    obtain ⟨fault, refused⟩ := refused
    rw [handle_run env m exited, saves.1, Method.ofName?_name]
    show (handleKnown env .saved m.id m.params).run e = _
    rw [handleKnown_run, refused, saves.2.1]
    rfl

/-- What is heard and changes nothing leaves the conversation where it was. -/
theorem hear_of_idle {env : Surroundings σ} {c : Conversation σ} {m : Message}
    {answers : List Answer} (idle : (handle env m).run (c.next answers) = (none, c.next answers)) :
    c.hear env m answers = (none, c) := by
  show (((handle env m).run (c.next answers)).1,
    (⟨((handle env m).run (c.next answers)).2.server, ((handle env m).run (c.next answers)).2.scene,
      c.sent ++ ((handle env m).run (c.next answers)).2.sent⟩ : Conversation σ)) = _
  rw [idle]
  show (none, (⟨c.server, c.scene, c.sent ++ []⟩ : Conversation σ)) = _
  rw [List.append_nil]

/-- A save of a document tries a check of its file if the session has started, the run mode
asks for it, the document is a source, and it has a path.  Whether it is a source is a
matter of the language it was opened under last, or of its name if it is not open.
Otherwise a save does nothing at all.  A message that is neither a save nor a command for a
check starts nothing but probes, and no check is given a number. -/
theorem checks_on_save (host : Host σ) (versions : VersionControl (σ × List Launch))
    (state : σ) (events : List (Event (σ × List Launch))) :
    let env : Surroundings (σ × List Launch) := ⟨host.recorded, versions⟩
    let c := (Conversation.new (state, [])).run env events
    let history := (Conversation.new (state, [])).history env events
    (∀ m u answers, m.Saves u →
      let wanted := c.server.phase = .started ∧ c.server.session.runMode = .onSave ∧
        (OpenAs history u "c" ∨ (¬ ∃ language, OpenAs history u language) ∧
          (u.pathEndsWith ".c" = true ∨ u.pathEndsWith ".h" = true))
      (∀ path, wanted → u.toPath? = some path → ∃ ending e',
        Attempt env (fileTarget path) (c.next answers) ending e' ∧
          c.hear env m answers = (none, ⟨e'.server, e'.scene, c.sent ++ e'.sent⟩)) ∧
      (¬ wanted ∨ u.toPath? = none → c.hear env m answers = (none, c))) ∧
    ∀ m answers, ¬ m.AsksForCheck →
      let heard := (c.hear env m answers).2
      heard.server.session.nextId = c.server.session.nextId ∧
        ∃ probes, heard.scene.host.2 = c.scene.host.2 ++ probes ∧ ∀ l ∈ probes, l.IsProbe := by
  intro env c history
  refine ⟨fun m u answers saves => ⟨?_, ?_⟩, fun m answers silent => ?_⟩
  · rintro path ⟨started, source⟩ place
    have checks := (checksOnSave_iff host versions (state, []) events u).2 source
    obtain ⟨ending, e', attempt, ran⟩ := checkFile_attempt env place (c.next answers)
    refine ⟨ending, e', attempt, ?_⟩
    have handled := handle_saves env saves (e := c.next answers) started
    rw [if_pos (show checksOnSave (c.next answers).server u = true from checks), ran] at handled
    exact congrArg (fun r : Option Response × Exchange (σ × List Launch) =>
      (r.1, (⟨r.2.server, r.2.scene, c.sent ++ r.2.sent⟩ : Conversation (σ × List Launch)))) handled
  · intro passed
    by_cases started : c.server.phase = .started
    · refine hear_of_idle ((handle_saves env saves (e := c.next answers) started).trans ?_)
      split
      · next checks =>
        have source := (checksOnSave_iff host versions (state, []) events u).1 checks
        rcases passed with unwanted | elsewhere
        · exact absurd ⟨started, source⟩ unwanted
        · rw [checkFile_elsewhere env elsewhere]
      · rfl
    · exact hear_of_idle (handle_saves_unheeded env saves started)
  · have probed := probed_handle host versions (c.next answers) silent
    exact ⟨probed.numbered, probed.started⟩

/-! ## A sample -/

/-- An editor starts the session and wants saved files to be checked. -/
def sampleStart : List (Event (Unit × List Launch)) :=
  [.message ⟨"initialize", some (.nat 1), some (.object [("capabilities", .object []),
    ("initializationOptions", .object [("checkpatch", .object [("run", .str "onSave")])])])⟩ []]

/-- The notice that a document was saved. -/
def sampleSave (text : String) : Message :=
  ⟨"textDocument/didSave", none,
    some (.object [("textDocument", .object [("uri", .str text)])])⟩

theorem sampleSave_saves {text : String} {u : Uri} (read : Uri.ofText text = .ok u) :
    (sampleSave text).Saves u := by
  refine ⟨rfl, rfl, ?_⟩
  have members : Json.object [("textDocument", .object [("uri", .str text)])] =
      .obj [("textDocument", .obj [("uri", .str text)])] := rfl
  simp only [sampleSave, members]
  simp [decodeParams, decodeSaved, decodeIdentifier, Json.decodeRecord, Json.decodeObject,
    Json.decodeMembers, decodeUri, read, Json.missingFields, Json.member?,
    Json.Decoding.result]
  rfl

/-- A source that was saved is checked. -/
theorem saved_source_is_checked :
    let c := (Conversation.new ((), [])).run sampleListing sampleStart
    let m := sampleSave "file:///a.c"
    let u : Uri := { scheme := "file", host := some (.name ""), path := .segments ["a.c"] }
    let path := Path.ofString "/a.c"
    m.Saves u ∧ c.server.phase = .started ∧ c.server.session.runMode = .onSave ∧
      u.toPath? = some path ∧ ∃ ending e',
        Attempt sampleListing (fileTarget path) (c.next []) ending e' ∧
          c.hear sampleListing m [] = (none, ⟨e'.server, e'.scene, c.sent ++ e'.sent⟩) := by
  intro c m u path
  have saves : m.Saves u := sampleSave_saves rfl
  have place : u.toPath? = some path := by decide
  have ready : c.server.phase = .started ∧ checksOnSave c.server u = true := by
    decide +kernel
  obtain ⟨started, checks⟩ := ready
  have surroundings : (⟨(Host.uniform .sample).recorded, sampleListing.versions⟩ :
      Surroundings (Unit × List Launch)) = sampleListing := rfl
  have source := (checksOnSave_iff (Host.uniform .sample) sampleListing.versions ((), [])
    sampleStart u).1
  have saved := (checks_on_save (Host.uniform .sample) sampleListing.versions () sampleStart).1
    m u [] saves
  have reached : (Conversation.new ((), [])).run sampleListing sampleStart = c := rfl
  simp only [surroundings, reached] at source saved
  clear_value c
  exact ⟨saves, started, (source checks).1, place, saved.1 path ⟨started, source checks⟩ place⟩

/-- A document that is no file is checked as if it were one. -/
theorem other_scheme_is_checked :
    let c := (Conversation.new ((), [])).run sampleListing sampleStart
    let m := sampleSave "git:/a.c"
    let u : Uri := { scheme := "git", path := .segments ["a.c"] }
    let heard := (c.hear sampleListing m []).2
    m.Saves u ∧ u.scheme ≠ Uri.fileScheme ∧
      (heard.scene.host.2.drop c.scene.host.2.length).map Launch.args =
        [["--show-types", "--showfile", "-f", "/a.c"]] := by
  refine ⟨sampleSave_saves rfl, by decide, ?_⟩
  decide +kernel

end Server

end PatchLint
