import PatchLint.Proofs.Server.Dialogue

/-!
# What an editor shows

Whatever the store holds is shown, once the changes are published.  Between the
changes and their publication a weaker statement holds: what is not counted as
touched is shown as it is stored (`Tracks`).  Every dialogue that changes the
store keeps the weaker statement and goes on to publish, which makes up for the
difference (`leads_publish`), so after every message the editor shows the store
(`shown_eq_stored`).

Publications go nowhere before the session has started; there is nothing in the
store then.
-/

namespace PatchLint.Server

open Dialogue

variable {σ α : Type}

/-- In a given phase, what is not touched is shown as it is stored, and nothing is
stored unless the editor listens.  Documents had shown something before. -/
structure Tracks (phase : Phase) (before : String → List Json) (e : Exchange σ) : Prop where
  inPhase : e.server.phase = phase
  heard : phase = .started ∨ e.server.session.store = .empty
  shown : ∀ p uri, Uri.ofPath? p = some uri →
    e.server.session.store.touched.find? p = none →
      shownAfter (before uri.fileText) uri.fileText e.sent =
        (e.server.session.store.get p).map diagnosticJson

/-- Besides, nothing is touched. -/
structure Synced (phase : Phase) (before : String → List Json) (e : Exchange σ) : Prop
    extends Tracks phase before e where
  taken : e.server.session.store.touched = ∅

variable {phase : Phase} {before : String → List Json}

/-! ## Publishing -/

/-- Messages that agree on a document leave it with what they agree on, or with
what it had if none is about it. -/
theorem shownAfter_of_agree {uri : String} {sent : List Sent} {shown : List Json}
    (agree : ∀ m ∈ sent, ∀ ds, m.diagnosticsFor? uri = some ds → ds = shown) (old : List Json) :
    shownAfter old uri sent = shown ∨
      shownAfter old uri sent = old ∧ ∀ m ∈ sent, m.diagnosticsFor? uri = none := by
  induction sent generalizing old with
  | nil => exact .inr ⟨rfl, by simp⟩
  | cons m ms ih =>
    have later := ih fun n hn => agree n (List.mem_cons_of_mem _ hn)
    cases found : m.diagnosticsFor? uri with
    | none =>
      have step : shownAfter old uri (m :: ms) = shownAfter old uri ms := by
        simp [shownAfter, found]
      rw [step]
      rcases later old with all | ⟨kept, none⟩
      · exact .inl all
      · exact .inr ⟨kept, List.forall_mem_cons.2 ⟨found, none⟩⟩
    | some ds =>
      obtain rfl := agree m List.mem_cons_self ds found
      have step : shownAfter old uri (m :: ms) = shownAfter ds uri ms := by
        simp [shownAfter, found]
      rw [step]
      rcases later ds with all | ⟨kept, -⟩
      · exact .inl all
      · exact .inl kept

/-- What is published when the changes of a store are taken. -/
def published (s : Store) : List Sent :=
  s.changes.filterMap fun c => (Uri.ofPath? c.path).map fun uri => Sent.publish uri c.records

/-- A publication about the document of a path has the records of the path. -/
theorem diagnosticsFor?_of_published {s : Store} {p : Path} {uri : Uri}
    (hp : Uri.ofPath? p = some uri) {m : Sent} (hm : m ∈ published s) {ds : List Json}
    (found : m.diagnosticsFor? uri.fileText = some ds) :
    ds = (s.get p).map diagnosticJson := by
  obtain ⟨c, hc, named⟩ := List.mem_filterMap.1 hm
  obtain ⟨q, hq, rfl⟩ := List.mem_map.1 hc
  obtain ⟨other, hother, rfl⟩ := Option.map_eq_some_iff.1 named
  rw [Sent.diagnosticsFor?_publish] at found
  split at found
  · next same =>
    have same : q.Same p := Uri.same_of_fileText hother hp same
    have get : s.get q = s.get p := by
      simp only [Store.get, Store.find?, PathMap.find?_congr s.entries same]
    rw [← Option.some.inj found, get]
  · cases found

/-- A touched path is published. -/
theorem exists_published {s : Store} {p : Path} {uri : Uri} (hp : Uri.ofPath? p = some uri)
    (touched : s.touched.find? p ≠ none) :
    ∃ m ∈ published s, m.diagnosticsFor? uri.fileText ≠ none := by
  obtain ⟨k, hk, same⟩ := PathMap.find?_ne_none_iff.1 touched
  have hk' : Uri.ofPath? k = some uri := (Uri.ofPath?_congr same).trans hp
  refine ⟨.publish uri (s.get k), ?_, ?_⟩
  · exact List.mem_filterMap.2 ⟨⟨k, s.get k⟩, List.mem_map_of_mem hk, by simp [hk']⟩
  · simp [Sent.diagnosticsFor?_publish]

/-- What is shown after the changes of a store were published is what is stored. -/
theorem shownAfter_published {s : Store} {p : Path} {uri : Uri} (hp : Uri.ofPath? p = some uri)
    {old : List Json} (shown : s.touched.find? p = none → old = (s.get p).map diagnosticJson) :
    shownAfter old uri.fileText (published s) = (s.get p).map diagnosticJson := by
  rcases shownAfter_of_agree (fun m hm ds => diagnosticsFor?_of_published hp hm) old with
    all | ⟨kept, none⟩
  · exact all
  · rw [kept]
    cases touched : s.touched.find? p with
    | none => exact shown touched
    -- A touched path was published, so what was shown before does not matter.
    | some mark =>
      have marked : s.touched.find? p ≠ Option.none := by simp [touched]
      obtain ⟨m, hm, found⟩ := exists_published hp marked
      exact absurd (none m hm) found

/-- The changes are taken, and published if the session has started. -/
theorem publish_run (e : Exchange σ) :
    publish.run e = ((),
      { e with
        server := { e.server with session := e.server.session.taken }
        sent := e.sent ++
          if e.server.phase = .started then published e.server.session.store else [] }) := rfl

/-- Publishing shows the store. -/
theorem leads_publish : Leads (Tracks phase before) (Synced phase before)
    (publish : Dialogue σ Unit) := by
  intro e h
  rw [publish_run]
  refine ⟨⟨h.inPhase, ?_, ?_⟩, rfl⟩
  · rcases h.heard with started | empty
    · exact .inl started
    · exact .inr (by simp only [Session.taken, empty]; rfl)
  · intro p uri hp _
    rw [h.inPhase]
    split
    · rw [shownAfter_append]
      exact shownAfter_published hp (h.shown p uri hp)
    -- Nothing is sent before the session has started, but then nothing is stored.
    · next silent =>
      have empty := h.heard.resolve_left silent
      rw [List.append_nil]
      exact h.shown p uri hp (by rw [empty]; rfl)

/-! ## Changing the session -/

/-- Quiet dialogues do not disturb what is tracked. -/
theorem Tracks.sameView {e e' : Exchange σ} (h : Tracks phase before e) (same : SameView e e') :
    Tracks phase before e' where
  inPhase := same.phase.trans h.inPhase
  heard := by
    rw [same.session]
    exact h.heard
  shown := by
    intro p uri hp
    rw [same.session, same.shown]
    exact h.shown p uri hp

theorem Quiet.leads_tracks {d : Dialogue σ α} (h : Quiet d) :
    Leads (Tracks phase before) (Tracks phase before) d :=
  fun e he => he.sameView (h e)

theorem Quiet.leads_synced {d : Dialogue σ α} (h : Quiet d) :
    Leads (Synced phase before) (Synced phase before) d := by
  intro e he
  refine ⟨he.toTracks.sameView (h e), ?_⟩
  rw [(h e).session]
  exact he.taken

/-- A session that notes its changes is still tracked after them, and in a session
that has not started nothing is stored. -/
theorem Tracks.noted {e e' : Exchange σ} (h : Tracks phase before e)
    (inPhase : e'.server.phase = e.server.phase) (sent : e'.sent = e.sent)
    (notes : e.server.session.store.Notes e'.server.session.store)
    (heard : phase = .started ∨ e'.server.session.store = .empty) :
    Tracks phase before e' where
  inPhase := inPhase.trans h.inPhase
  heard := heard
  shown := by
    intro p uri hp untouched
    obtain ⟨untouched, same⟩ := notes p untouched
    rw [sent, h.shown p uri hp untouched]
    simp only [Store.get, same]

/-- A session that was replaced by one with the same store, or one that is cleared,
is still tracked. -/
theorem Tracks.cleared {e e' : Exchange σ} (h : Tracks phase before e)
    (inPhase : e'.server.phase = e.server.phase) (sent : e'.sent = e.sent)
    (store : e'.server.session.store = e.server.session.store ∨
      e'.server.session.store = e.server.session.store.clear) :
    Tracks phase before e' := by
  refine h.noted inPhase sent ?_ ?_
  · rcases store with same | clear
    · rw [same]
      exact .refl _
    · rw [clear]
      exact Store.notes_clear _
  · rcases h.heard with started | empty
    · exact .inl started
    · rw [empty] at store
      exact .inr (store.elim id id)

/-! ## Configuration -/

theorem leads_onSession_reload (host : Host σ) (settings : Settings)
    (folders : List WorkspaceFolder) :
    Leads (Tracks phase before) (Tracks phase before)
      (onSession fun session => session.reload host settings folders) :=
  fun e h => h.cleared rfl rfl (.inr (Session.store_reload host e.server.session settings folders _))

theorem leads_onSession_ensure (host : Host σ) :
    Leads (Tracks phase before) (Tracks phase before)
      (onSession fun session => session.ensure host) :=
  fun e h => h.cleared rfl rfl (Session.store_ensure host e.server.session e.scene)

theorem leads_reloadConfig (env : Surroundings σ) :
    Leads (Tracks phase before) (Tracks phase before) (reloadConfig env) := by
  unfold reloadConfig
  refine .bind Quiet.server.leads_tracks fun s => ?_
  refine .bind Quiet.get.leads_tracks fun e => ?_
  obtain ⟨inputs, warnings⟩ := (loadInputs env.host e.scene.host s.settings s.folders).result
  refine .bind (Quiet.say warnings).leads_tracks fun _ => ?_
  cases inputs with
  | error fault =>
    refine .bind (Quiet.say _).leads_tracks fun _ => ?_
    have invalidated : Leads (Tracks phase before) (Tracks phase before)
        (update fun s => { s with session := s.session.invalidate } : Dialogue σ Unit) :=
      fun e h => h.cleared rfl rfl (.inl rfl)
    exact .bind invalidated fun _ => .pure _
  | ok given =>
    obtain ⟨settings, folders⟩ := given
    exact .bind (Quiet.say _).leads_tracks fun _ => leads_onSession_reload env.host settings folders

theorem leads_reload (env : Surroundings σ) :
    Leads (Tracks phase before) (Synced phase before) (reload env) := by
  unfold reload
  refine .bind (leads_reloadConfig env) fun result => ?_
  refine .bind leads_publish fun _ => ?_
  cases result with
  | ok _ => exact (Quiet.logLine _).leads_synced
  | error fault => exact (Quiet.showLine _).leads_synced

theorem leads_ensure (env : Surroundings σ) :
    Leads (Tracks phase before) (Synced phase before) (ensure env) := by
  unfold ensure
  refine .bind (leads_onSession_ensure env.host) fun result => ?_
  refine .bind leads_publish fun _ => ?_
  cases result with
  | ok _ => exact .pure _
  | error fault => exact .bind (Quiet.showLine _).leads_synced fun _ => .pure _

/-! ## Checks -/

theorem leads_checkTarget (env : Surroundings σ) (t : Target) :
    Leads (Tracks .started before) (Synced .started before) (checkTarget env t) := by
  unfold checkTarget
  have checked : Leads (Tracks .started before) (Tracks .started before)
      (onSession fun session => session.check env.host t) := by
    intro e h
    exact h.noted rfl rfl (Session.notes_check env.host e.server.session t e.scene) (.inl rfl)
  exact .bind checked fun _ => .bind leads_publish fun _ => .pure _

theorem quiet_fileNotice (path : Path) (result : Except CheckFault Outcome) :
    Quiet ((fileNotice path result).forM send : Dialogue σ Unit) := by
  refine Quiet.forM_send ?_
  intro m hm
  unfold fileNotice at hm
  split at hm
  · obtain rfl := List.mem_singleton.1 hm
    trivial
  · cases hm
  · obtain rfl := List.mem_singleton.1 hm
    trivial

theorem leads_checkFile (env : Surroundings σ) (uri : Uri) :
    Leads (Synced .started before) (Synced .started before) (checkFile env uri) := by
  unfold checkFile
  cases uri.toPath? with
  | none => exact .pure _
  | some path =>
    refine .bind ((leads_ensure env).weaken fun _ h => h.toTracks) fun configured => ?_
    cases configured with
    | false => exact .pure _
    | true =>
      refine .bind ((leads_checkTarget env (.file path)).weaken fun _ h => h.toTracks) fun result => ?_
      exact .bind (quiet_fileNotice path result).leads_synced fun _ => .pure _

/-! ## Choices -/

theorem quiet_choose (question : String) (titles : List String) :
    Quiet (choose question titles : Dialogue σ (Option Nat)) := by
  unfold choose
  refine .bind (.ask fun _ => trivial) fun answer => ?_
  split
  · exact .pure _
  · exact .pure _
  · exact .bind (.say _) fun _ => .pure _

theorem quiet_pick (question : String) (title : α → String) (xs : List α) :
    Quiet (pick question title xs : Dialogue σ (Option α)) :=
  .bind (quiet_choose question (xs.map title)) fun _ => .pure _

theorem quiet_pickRepository (env : Surroundings σ) : Quiet (pickRepository env) := by
  unfold pickRepository
  refine .bind .server fun s => .bind (.work _) fun found => ?_
  split
  · exact .bind (.showLine _) fun _ => .pure _
  · exact .bind (.showLine _) fun _ => .pure _
  · exact .pure _
  · exact quiet_pick _ _ _

theorem quiet_pickCommit (env : Surroundings σ) (repository : Path) :
    Quiet (pickCommit env repository) := by
  unfold pickCommit
  refine .bind (.work _) fun found => ?_
  split
  · exact .bind (.showLine _) fun _ => .pure _
  · exact .bind (.showLine _) fun _ => .pure _
  · exact quiet_pick _ _ _

theorem quiet_namedOr (named : Option α) {pick : Dialogue σ (Option α)} (h : Quiet pick) :
    Quiet (namedOr named pick) := by
  cases named with
  | none => exact h
  | some a => exact .pure _

theorem quiet_pickTarget (env : Surroundings σ) (r : CommitRequest) :
    Quiet (pickTarget env r) := by
  unfold pickTarget
  refine .bind (quiet_namedOr _ (quiet_pickRepository env)) fun chosen => ?_
  cases chosen with
  | none => exact .pure _
  | some repository =>
    have hash : Quiet (do return (← pickCommit env repository).map Commit.hash) :=
      .bind (quiet_pickCommit env repository) fun _ => .pure _
    exact .bind (quiet_namedOr _ hash) fun _ => .pure _

theorem quiet_commitNotice (result : Except CheckFault Outcome) :
    Quiet ((commitNotice result).forM send : Dialogue σ Unit) := by
  refine Quiet.forM_send ?_
  intro m hm
  unfold commitNotice at hm
  split at hm
  · obtain rfl := List.mem_singleton.1 hm
    trivial
  · obtain rfl := List.mem_singleton.1 hm
    trivial
  · cases hm
  · obtain rfl := List.mem_singleton.1 hm
    trivial

theorem leads_checkCommit (env : Surroundings σ) (r : CommitRequest) :
    Leads (Synced .started before) (Synced .started before) (checkCommit env r) := by
  unfold checkCommit
  refine .bind ((leads_ensure env).weaken fun _ h => h.toTracks) fun configured => ?_
  cases configured with
  | false => exact .pure _
  | true =>
    refine .bind (quiet_pickTarget env r).leads_synced fun target => ?_
    cases target with
    | none => exact .pure _
    | some target =>
      obtain ⟨repository, hash⟩ := target
      refine .bind (Quiet.say _).leads_synced fun _ => ?_
      refine .bind ((leads_checkTarget env _).weaken fun _ h => h.toTracks) fun result => ?_
      exact .bind (quiet_commitNotice result).leads_synced fun _ => .pure _

/-! ## Commands -/

theorem leads_toggleRunMode :
    Leads (Synced phase before) (Synced phase before) (toggleRunMode : Dialogue σ RunMode) := by
  unfold toggleRunMode
  refine .bind_server fun s => ?_
  have toggled : Leads (fun e => Synced phase before e ∧ e.server = s) (Synced phase before)
      (update fun t => { t with session := s.session.toggle } : Dialogue σ Unit) := by
    rintro e ⟨h, rfl⟩
    exact ⟨h.toTracks.cleared rfl rfl (.inl rfl), h.taken⟩
  exact .bind toggled fun _ => .bind (Quiet.say _).leads_synced fun _ => .pure _

theorem leads_execute (env : Surroundings σ) (c : Command) (arguments : List Json) :
    Leads (Synced .started before) (Synced .started before) (execute env c arguments) := by
  unfold execute
  cases c with
  | checkFile =>
    cases documentArgument? arguments with
    | none => exact .pure _
    | some uri => exact .bind (leads_checkFile env uri) fun _ => .pure _
  | checkCommit => exact .bind (leads_checkCommit env _) fun _ => .pure _
  | toggle =>
    refine .bind leads_toggleRunMode fun mode => ?_
    exact .bind (Quiet.showLine _).leads_synced fun _ => .pure _
  | clean =>
    refine .bind (Quiet.say _).leads_synced fun _ => ?_
    have cleared : Leads (Synced .started before) (Tracks .started before)
        (update fun s => { s with session := s.session.clearAll } : Dialogue σ Unit) :=
      fun e h => h.toTracks.cleared rfl rfl (.inr rfl)
    exact .bind cleared fun _ => .bind leads_publish fun _ => .pure _

/-! ## Notices -/

theorem leads_saved (env : Surroundings σ) (uri : Uri) :
    Leads (Synced .started before) (Synced .started before) (saved env uri) := by
  unfold saved
  refine .bind Quiet.server.leads_synced fun s => ?_
  split
  · exact .bind (leads_checkFile env uri) fun _ => .pure _
  · exact .pure _

theorem leads_closed (uri : Uri) :
    Leads (Synced .started before) (Synced .started before) (closed uri : Dialogue σ Unit) := by
  unfold closed
  have forgotten : Quiet (update fun s => s.closeDocument uri : Dialogue σ Unit) :=
    .update (fun _ => rfl) fun _ => rfl
  refine .bind forgotten.leads_synced fun _ => ?_
  cases uri.toPath? with
  | none => exact leads_publish.weaken fun _ h => h.toTracks
  | some path =>
    have dropped : Leads (Synced .started before) (Tracks .started before)
        (update fun s => { s with session := s.session.clearFile path } : Dialogue σ Unit) :=
      fun e h => h.noted rfl rfl (Store.notes_delete _ path) (.inl rfl)
    exact .bind dropped fun _ => leads_publish

theorem leads_settingsChanged (env : Surroundings σ) (settings : Json) :
    Leads (Synced phase before) (Synced phase before) (settingsChanged env settings) := by
  unfold settingsChanged
  refine .bind (Quiet.say _).leads_synced fun _ => ?_
  have kept : Quiet (update fun s => { s with settings } : Dialogue σ Unit) :=
    .update (fun _ => rfl) fun _ => rfl
  refine .bind kept.leads_synced fun _ => ?_
  exact (leads_reload env).weaken fun _ h => h.toTracks

theorem leads_filesChanged (env : Surroundings σ) (files : List Uri) :
    Leads (Synced phase before) (Synced phase before) (filesChanged env files) := by
  unfold filesChanged
  split
  · refine .bind (Quiet.say _).leads_synced fun _ => ?_
    exact (leads_reload env).weaken fun _ h => h.toTracks
  · exact .pure _

theorem quiet_ready : Quiet (ready : Dialogue σ Unit) := by
  unfold ready
  refine .bind (.logLine _) fun _ => .bind .server fun s => ?_
  split
  · unfold watchFiles
    refine .bind (.ask fun _ => trivial) fun answer => ?_
    split
    · exact .say _
    · exact .pure _
  · exact .pure _

/-- A notice that does not decode does nothing. -/
theorem leads_notified {P : Exchange σ → Prop} (decode : Json → Json.Decoding α)
    (params : Option Json) {act : α → Dialogue σ Unit} (h : ∀ a, Leads P P (act a)) :
    Leads P P (notified decode params act) := by
  unfold notified
  split
  · exact h _
  · exact .pure _

theorem leads_notify (env : Surroundings σ) (m : Method) (params : Option Json) :
    Leads (Synced .started before) (Synced .started before) (notify env m params) := by
  have optional : ∀ {act : Uri → Dialogue σ Unit} (uri : Option Uri),
      (∀ u, Leads (Synced .started before) (Synced .started before) (act u)) →
        Leads (Synced .started before) (Synced .started before) (uri.forM act) := by
    intro act uri h
    cases uri with
    | none => exact .pure _
    | some u => exact h u
  have isReady : Leads (Synced .started before) (Synced .started before)
      (ready : Dialogue σ Unit) := quiet_ready.leads_synced
  unfold notify
  cases m with
  | ready => exact leads_notified _ _ fun _ => isReady
  | opened =>
    refine leads_notified _ _ fun d => ?_
    cases d with
    | none => exact .pure _
    | some d =>
      have noted : Quiet (update fun s => s.openDocument d.uri d.language : Dialogue σ Unit) :=
        .update (fun _ => rfl) fun _ => rfl
      exact noted.leads_synced
  | saved => exact leads_notified _ _ fun uri => optional uri (leads_saved env)
  | closed => exact leads_notified _ _ fun uri => optional uri leads_closed
  | settingsChanged => exact leads_notified _ _ (leads_settingsChanged env)
  | filesChanged => exact leads_notified _ _ (leads_filesChanged env)
  | _ => exact .pure _

/-! ## Requests -/

/-- What is said of a phase in which nothing is stored, or of the started one, goes
over to the next phase when it may. -/
theorem Synced.enter {e : Exchange σ} (h : Synced phase before e) {next : Phase}
    (heard : next = .started ∨ e.server.session.store = .empty) :
    Synced next before { e with server := { e.server with phase := next } } :=
  ⟨⟨rfl, heard, h.shown⟩, h.taken⟩

theorem leads_hello (env : Surroundings σ) (h : Hello) :
    Leads (Synced phase before) (Synced phase before) (hello env h) := by
  unfold hello
  refine .bind (Quiet.say _).leads_synced fun _ => ?_
  have told : Quiet (update fun s =>
      { s with
        folders := h.roots
        settings := h.settings.getD s.settings
        watches := h.watches } : Dialogue σ Unit) :=
    .update (fun _ => rfl) fun _ => rfl
  refine .bind told.leads_synced fun _ => ?_
  exact .bind ((leads_reload env).weaken fun _ h => h.toTracks) fun _ => .pure _

theorem leads_requestHello (env : Surroundings σ) (params : Option Json) :
    Leads (Synced .fresh before) (fun e => Synced .fresh before e ∨ Synced .started before e)
      (requestHello env params) := by
  unfold requestHello
  cases decodeParams Hello.decode params with
  | error fault => exact (Leads.pure _).imp fun _ h => .inl h
  | ok h =>
    have starting : Leads (Synced .fresh before) (Synced .starting before)
        (update fun s => { s with phase := .starting } : Dialogue σ Unit) :=
      fun e h => h.enter (.inr (h.heard.resolve_left (by decide)))
    have started : Leads (Synced .starting before) (Synced .started before)
        (update fun s => { s with phase := .started } : Dialogue σ Unit) :=
      fun e h => h.enter (.inl rfl)
    refine .bind starting fun _ => .bind (leads_hello env h) fun result => ?_
    exact .bind (started.imp fun _ h => .inr h) fun _ => .pure _

theorem leads_requestExecute (env : Surroundings σ) (params : Option Json) :
    Leads (Synced .started before) (Synced .started before) (requestExecute env params) := by
  unfold requestExecute
  cases decodeParams Execution.decode params with
  | error fault => exact .pure _
  | ok e =>
    dsimp only
    cases Command.ofName? e.command with
    | some c => exact leads_execute env c e.arguments
    | none => exact .pure _

theorem leads_request (env : Surroundings σ) {m : Method} (params : Option Json)
    (later : m ≠ .hello) (goesOn : m ≠ .shutdown) :
    Leads (Synced .started before) (Synced .started before) (request env m params) := by
  unfold request
  cases m with
  | hello => exact absurd rfl later
  | shutdown => exact absurd rfl goesOn
  | execute => exact leads_requestExecute env params
  | _ => exact .pure _

/-! ## Messages -/

/-- All is over, and what was stored is shown. -/
structure Over (before : String → List Json) (e : Exchange σ) : Prop where
  exited : e.server.phase = .exited
  taken : e.server.session.store.touched = ∅
  shown : ∀ p uri, Uri.ofPath? p = some uri →
    shownAfter (before uri.fileText) uri.fileText e.sent =
      (e.server.session.store.get p).map diagnosticJson

/-- Between messages the session has not started, or it has, or all is over; what
is stored is shown. -/
def Settled (before : String → List Json) (e : Exchange σ) : Prop :=
  Synced .fresh before e ∨ Synced .started before e ∨ Over before e

theorem Synced.shown_get {e : Exchange σ} (h : Synced phase before e) {p : Path} {uri : Uri}
    (hp : Uri.ofPath? p = some uri) :
    shownAfter (before uri.fileText) uri.fileText e.sent =
      (e.server.session.store.get p).map diagnosticJson := by
  refine h.shown p uri hp ?_
  rw [h.taken]
  rfl

theorem Synced.exit {e : Exchange σ} (h : Synced phase before e) :
    Over before { e with server := { e.server with phase := .exited } } :=
  ⟨rfl, h.taken, fun _ _ hp => h.shown_get hp⟩

/-- An answer leaves the editor showing the store, and a server that breaks down over it
is one that has exited. -/
theorem leads_respond (id : Json) (result : Except RequestFault Json) :
    Leads (Synced phase before) (fun e => Synced phase before e ∨ Over before e)
      (respond id result : Dialogue σ (Option Response)) := by
  unfold respond
  split
  · have exited : Leads (Synced phase before) (fun e => Synced phase before e ∨ Over before e)
        (update fun s => { s with phase := .exited } : Dialogue σ Unit) :=
      fun e h => .inr h.exit
    exact .bind exited fun _ => .pure _
  · exact (Leads.pure _).imp fun _ h => .inl h

theorem handleKnown_of_fresh (env : Surroundings σ) (m : Method) (id params : Option Json) :
    Leads (Synced .fresh before) (Settled before) (handleKnown env m id params) := by
  intro e h
  rw [handleKnown_run, h.inPhase]
  by_cases first : m = .hello
  · subst first
    have heeded : refusal .fresh .hello = none := rfl
    rw [heeded]
    cases id with
    | none => exact .inl h
    | some id =>
      refine Leads.bind (leads_requestHello env params) (fun result => ?_) e h
      rintro e (fresh | started)
      · exact (leads_respond id result e fresh)|>.imp_right .inr
      · exact .inr (leads_respond id result e started)
  · have refused : refusal .fresh m = some .notStarted := by
      cases m <;> first | rfl | exact absurd rfl first
    rw [refused]
    cases id with
    | none => exact .inl h
    | some id => exact .inl h

theorem handleKnown_of_started (env : Surroundings σ) {m : Method} (id params : Option Json)
    (goesOn : m ≠ .shutdown) :
    Leads (Synced .started before) (fun e => Synced .started before e ∨ Over before e)
      (handleKnown env m id params) := by
  intro e h
  rw [handleKnown_run, h.inPhase]
  by_cases first : m = .hello
  · subst first
    cases id <;> exact .inl h
  · have heeded : refusal .started m = none := by cases m <;> first | rfl | exact absurd rfl first
    rw [heeded]
    cases id with
    | some id =>
      exact (Leads.bind (leads_request env params first goesOn) (leads_respond id)) e h
    | none =>
      simp only [goesOn, if_false]
      exact .inl ((Leads.bind (leads_notify env m params) fun _ => .pure _) e h)

/-- Any message but the one to shut down leaves the editor showing the store. -/
theorem leads_handle (env : Surroundings σ) {m : Message}
    (goesOn : m.method ≠ Method.shutdown.name) :
    Leads (Settled before) (Settled before) (handle env m) := by
  have known : ∀ method, Method.ofName? m.method = some method → method ≠ .shutdown := by
    rintro method found rfl
    have name : Method.shutdown.name = m.method := by simpa using List.find?_some found
    exact goesOn name.symm
  rintro e (fresh | started | ended)
  · rw [handle_run env m (by rw [fresh.inPhase]; decide)]
    split
    · exact .inl fresh
    · exact .inr (.inr fresh.exit)
    · exact handleKnown_of_fresh env _ m.id m.params e fresh
  · rw [handle_run env m (by rw [started.inPhase]; decide)]
    split
    · exact .inr (.inl started)
    · exact .inr (.inr started.exit)
    · next method _ found =>
      exact .inr (handleKnown_of_started env m.id m.params (known method found) e started)
  · rw [handle_exited env m e ended.exited]
    exact .inr (.inr ended)

/-! ## Conversations -/

/-- What is said of a dialogue to its end is said of the next one at its start. -/
theorem Settled.rebase {e e' : Exchange σ} (h : Settled before e) (server : e'.server = e.server)
    (sent : e'.sent = []) :
    Settled (fun uri => shownAfter (before uri) uri e.sent) e' := by
  have synced : ∀ {phase}, Synced phase before e →
      Synced phase (fun uri => shownAfter (before uri) uri e.sent) e' := by
    intro phase h
    refine ⟨⟨by rw [server]; exact h.inPhase, by rw [server]; exact h.heard, ?_⟩, ?_⟩
    · intro p uri hp _
      rw [sent, server]
      exact h.shown_get hp
    · rw [server]
      exact h.taken
  rcases h with fresh | started | ended
  · exact .inl (synced fresh)
  · exact .inr (.inl (synced started))
  · refine .inr (.inr ⟨by rw [server]; exact ended.exited, by rw [server]; exact ended.taken, ?_⟩)
    intro p uri hp
    rw [sent, server]
    exact ended.shown p uri hp

/-- The next dialogue of a conversation. -/
def Conversation.next (c : Conversation σ) (answers : List Answer) : Exchange σ :=
  { server := c.server, scene := c.scene, answers }

@[simp] theorem Conversation.server_next (c : Conversation σ) (answers : List Answer) :
    (c.next answers).server = c.server := rfl

/-- The editor of a conversation shows the store. -/
def Conversation.Settled (c : Conversation σ) : Prop :=
  ∀ answers, Server.Settled c.shown (c.next answers)

theorem Conversation.settled_new (state : σ) : (new state).Settled := by
  intro answers
  refine .inl ⟨⟨rfl, .inr rfl, ?_⟩, rfl⟩
  intro p uri _ _
  rfl

theorem Conversation.Settled.step (env : Surroundings σ) {c : Conversation σ} (h : c.Settled)
    {event : Event σ}
    (goesOn : ∀ m answers, event = .message m answers → m.method ≠ Method.shutdown.name) :
    (c.step env event).2.Settled := by
  cases event with
  | outside change => exact fun answers => (h answers).rebase rfl rfl
  | message m answers =>
    intro later
    have settled := leads_handle env (goesOn m answers rfl) (c.next answers) (h answers)
    have shown : (c.step env (.message m answers)).2.shown = fun uri =>
        shownAfter (c.shown uri) uri ((handle env m).run (c.next answers)).2.sent := by
      funext uri
      exact shownAfter_append [] uri c.sent _
    rw [shown]
    exact settled.rebase rfl rfl

theorem Conversation.settled_run (env : Surroundings σ) {c : Conversation σ} (h : c.Settled)
    {events : List (Event σ)}
    (goesOn : ∀ m answers, Event.message m answers ∈ events → m.method ≠ Method.shutdown.name) :
    (c.run env events).Settled := by
  induction events generalizing c with
  | nil => exact h
  | cons event events ih =>
    have first : (c.step env event).2.Settled := by
      refine h.step env ?_
      intro m answers same
      exact goesOn m answers (same ▸ List.mem_cons_self)
    exact ih first fun m answers mem => goesOn m answers (List.mem_cons_of_mem _ mem)

theorem Settled.taken {e : Exchange σ} (h : Settled before e) :
    e.server.session.store.touched = ∅ := by
  rcases h with fresh | started | ended
  · exact fresh.taken
  · exact started.taken
  · exact ended.taken

theorem Settled.shown_get {e : Exchange σ} (h : Settled before e) {p : Path} {uri : Uri}
    (hp : Uri.ofPath? p = some uri) :
    shownAfter (before uri.fileText) uri.fileText e.sent =
      (e.server.session.store.get p).map diagnosticJson := by
  rcases h with fresh | started | ended
  · exact fresh.shown_get hp
  · exact started.shown_get hp
  · exact ended.shown p uri hp

/-- After every message up to the request to shut down, no change is pending, and
for every absolute path the editor shows, under the URI of the path as it is
written, what the store holds for the path. -/
theorem shown_eq_stored (env : Surroundings σ) (state : σ) (events : List (Event σ))
    (goesOn : ∀ m answers, Event.message m answers ∈ events → m.method ≠ Method.shutdown.name) :
    let c := (Conversation.new state).run env events
    c.server.session.store.changes = [] ∧
      ∀ p : Path, p.isAbsolute = true → ∃ uri, Uri.ofPath? p = some uri ∧
        c.shown uri.fileText = (c.server.session.store.get p).map diagnosticJson := by
  intro c
  have settled := Conversation.settled_run env (Conversation.settled_new state) goesOn []
  refine ⟨?_, ?_⟩
  · have taken : c.server.session.store.touched = ∅ := settled.taken
    simp only [Store.changes, taken]
    rfl
  · intro p absolute
    obtain ⟨uri, hp⟩ : ∃ uri, Uri.ofPath? p = some uri := by
      rw [← Option.isSome_iff_exists, Uri.isSome_ofPath?, absolute]
    exact ⟨uri, hp, settled.shown_get hp⟩

/-! ## A sample -/

/-- Surroundings whose checker always finds the same, and that hold no repository. -/
def sampleSurroundings : Surroundings Unit := ⟨.uniform .sample, .listing (.ok []) (.ok [])⟩

/-- An editor starts the session and has a file checked. -/
def sampleEvents : List (Event Unit) :=
  [.message ⟨"initialize", some (.nat 1), some (.object [("capabilities", .object [])])⟩ [],
    .message ⟨"workspace/executeCommand", some (.nat 2), some (.object
      [("command", .str "checkpatch.checkFile"), ("arguments", .arr [.str "file:///a.c"])])⟩ []]

/-- A file that the editor has checked is shown with what was found in it. -/
theorem sample_is_shown :
    ((Conversation.new ()).run sampleSurroundings sampleEvents).server.session.store.get
        (.ofString "/a.c") = [.sample] ∧
      ∃ uri, Uri.ofPath? (.ofString "/a.c") = some uri ∧
        ((Conversation.new ()).run sampleSurroundings sampleEvents).shown uri.fileText =
          [diagnosticJson .sample] := by
  have stored : ((Conversation.new ()).run sampleSurroundings sampleEvents).server.session.store.get
      (.ofString "/a.c") = [.sample] := by
    decide +kernel
  have goesOn : ∀ m answers, Event.message m answers ∈ sampleEvents →
      m.method ≠ Method.shutdown.name := by
    intro m answers mem
    rcases List.mem_cons.1 mem with same | mem
    · cases same
      decide
    · cases List.mem_singleton.1 mem
      decide
  obtain ⟨-, shown⟩ := shown_eq_stored sampleSurroundings () sampleEvents goesOn
  obtain ⟨uri, named, same⟩ := shown (.ofString "/a.c") (by decide)
  rw [stored] at same
  exact ⟨stored, uri, named, same⟩

end PatchLint.Server
