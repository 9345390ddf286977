import PatchLint.Proofs.Server.Attempts
import PatchLint.Proofs.Server.Shown

/-!
# Responses to commands

A request to execute a command is refused for what the editor has sent: a command that
is not known, or a check of a file that names no document (`Execution.Unusable`).
Whatever goes wrong afterwards, the response has a result.  The result of a check is the
outcome that the session has given, and `null` if it has given none
(`answered_unless_unwritable`).

One outcome has no response.  It names a key that no text spells, so it cannot be
written as a result, and the server breaks down over it
(`breaks_down_over_unwritable`).
-/

namespace PatchLint.Server

open Dialogue

variable {σ : Type}

/-! ## Requests to execute a command -/

/-- A message asks a server to execute a command. -/
structure Message.Executes (m : Message) (id : Json) (x : Execution) : Prop where
  method : m.method = Method.execute.name
  request : m.id = some id
  params : decodeParams Execution.decode m.params = .ok x

/-- An editor has asked for something that cannot be executed: there is no such command,
or a file is to be checked and the first argument is missing, is not a string, or is
neither a URI nor an absolute path. -/
def Execution.Unusable (x : Execution) : Prop :=
  x.command ∉ Command.all.map Command.name ∨
    x.command = Command.checkFile.name ∧
      ¬ ∃ s, x.arguments.head? = some (.str s) ∧
        ((∃ uri, Uri.ofText s = .ok uri) ∨ (Path.ofString s).isAbsolute = true)

theorem Method.ofName?_name (m : Method) : ofName? m.name = some m := by
  cases m <;> decide

theorem Method.name_of_ofName? {s : String} {m : Method} (h : ofName? s = some m) :
    s = m.name := by
  have named := List.find?_some h
  exact (of_decide_eq_true named).symm

theorem Command.ofName?_name (c : Command) : ofName? c.name = some c := by
  cases c <;> decide

theorem Command.name_of_ofName? {s : String} {c : Command} (h : ofName? s = some c) :
    s = c.name := by
  have named := List.find?_some h
  exact (of_decide_eq_true named).symm

/-- A command is known exactly when it has one of the names. -/
theorem Command.ofName?_eq_none_iff {s : String} :
    ofName? s = none ↔ s ∉ all.map name := by
  simp [ofName?, List.find?_eq_none, all, @eq_comm _ s]

/-- A document is named by a URI or an absolute path, and by nothing else. -/
theorem documentArgument?_eq_none_iff {arguments : List Json} :
    documentArgument? arguments = none ↔
      ¬ ∃ s, arguments.head? = some (.str s) ∧
        ((∃ uri, Uri.ofText s = .ok uri) ∨ (Path.ofString s).isAbsolute = true) := by
  have named : ∀ s : String, uriOfText? s = none ↔
      ¬ ((∃ uri, Uri.ofText s = .ok uri) ∨ (Path.ofString s).isAbsolute = true) := by
    intro s
    rw [← Uri.isSome_ofPath?]
    cases read : Uri.ofText s with
    | ok uri => simp [uriOfText?, read, Except.toOption]
    | error fault => simp [uriOfText?, read, Except.toOption]
  cases first : arguments.head? with
  | none => simp [documentArgument?, first]
  | some v =>
    cases v with
    | str s =>
      rw [show documentArgument? arguments = uriOfText? s by simp [documentArgument?, first,
        Json.str?], named]
      simp
    | _ => simp [documentArgument?, first, Json.str?]

/-- The response to a request is the result of its command. -/
theorem handle_executes (env : Surroundings σ) {m : Message} {id : Json} {x : Execution}
    (h : m.Executes id x) {e : Exchange σ} (started : e.server.phase = .started) :
    (handle env m).run e = (match Command.ofName? x.command with
      | some c => execute env c x.arguments >>= respond id
      | none => respond id (.error (.unknownCommand x.command)) :
        Dialogue σ (Option Response)).run e := by
  rw [handle_run env m (by rw [started]; decide), h.method, Method.ofName?_name]
  show (handleKnown env .execute m.id m.params).run e = _
  rw [handleKnown_run, started, h.request]
  have heeded : refusal .started .execute = none := rfl
  simp only [heeded, request, requestExecute, h.params]
  cases Command.ofName? x.command <;> rfl

/-! ## Checks -/

/-- How the check that an editor has asked for ends, and what it leaves. -/
inductive Checks (env : Surroundings σ) (x : Execution) (e : Exchange σ) :
    Option (Target × Except CheckFault Outcome) → Exchange σ → Prop where
  | elsewhere {uri} : x.command = Command.checkFile.name →
      documentArgument? x.arguments = some uri → uri.toPath? = none → Checks env x e none e
  | file {uri path ending e'} : x.command = Command.checkFile.name →
      documentArgument? x.arguments = some uri → uri.toPath? = some path →
      Attempt env (fileTarget path) e ending e' → Checks env x e ending e'
  | commit {ending e'} : x.command = Command.checkCommit.name →
      Attempt env (commitTarget env (commitArgument x.arguments)) e ending e' →
      Checks env x e ending e'

/-- The session was asked about the target that the outcome is of. -/
theorem Attempt.exists_check {env : Surroundings σ} {settle : Dialogue σ (Option Target)}
    {e e' : Exchange σ} {t : Target} {result : Except CheckFault Outcome}
    (h : Attempt env settle e (some (t, result)) e') :
    ∃ (s : Session) (scene : Scene σ), ((s.check env.host t).run scene).1.1 = result := by
  cases h with
  | @checked e₁ e₂ _ _ _ retried settled checked =>
    exact ⟨e₂.server.session, e₂.scene, congrArg Prod.fst checked⟩

/-- What is sent back about an outcome: `null` if there is none, and nothing at all if it
cannot be written. -/
def answer? (id : Json) : Option Outcome → Option Response
  | none => some ⟨id, .ok .null⟩
  | some outcome => if outcome.isWritable then some ⟨id, .ok (outcomeJson outcome)⟩ else none

/-- The exchange in another phase. -/
def Exchange.enter (e : Exchange σ) (phase : Phase) : Exchange σ :=
  { e with server := { e.server with phase } }

/-- Answering changes at most the phase. -/
theorem exists_respond_run (id : Json) (result : Except RequestFault Json) (e : Exchange σ) :
    ∃ phase, ((respond id result).run e).2 = e.enter phase := by
  unfold respond
  split
  · exact ⟨.exited, rfl⟩
  · exact ⟨e.server.phase, rfl⟩

/-- A result of a check is answered, or the server breaks down over it. -/
theorem respond_checkResult (id : Json) (outcome : Option Outcome) (e : Exchange σ) :
    let answered := (respond id (checkResult outcome)).run e
    answered.1 = answer? id outcome ∧ (answered.1 = none → answered.2.server.phase = .exited) := by
  intro answered
  cases outcome with
  | none =>
    refine ⟨rfl, fun none => ?_⟩
    cases none
  | some outcome =>
    by_cases writable : outcome.isWritable = true
    · have ran : answered = (some ⟨id, .ok (outcomeJson outcome)⟩, e) := by
        simp only [answered, checkResult, if_pos writable]
        rfl
      rw [ran, answer?, if_pos writable]
      refine ⟨rfl, fun none => ?_⟩
      cases none
    · have ran : answered = (none, e.enter .exited) := by
        simp only [answered, checkResult, if_neg writable]
        rfl
      rw [ran, answer?, if_neg writable]
      exact ⟨rfl, fun _ => rfl⟩

/-- A check that can be executed is made, and answered by its outcome. -/
theorem exists_checks (env : Surroundings σ) {m : Message} {id : Json} {x : Execution}
    (h : m.Executes id x) {e : Exchange σ} (started : e.server.phase = .started)
    (usable : ¬ x.Unusable)
    (check : x.command = Command.checkFile.name ∨ x.command = Command.checkCommit.name) :
    ∃ ending e', Checks env x e ending e' ∧
      (handle env m).run e = (respond id (checkResult (outcome? ending))).run e' := by
  rw [handle_executes env h started]
  rcases check with file | commit
  · rw [file, Command.ofName?_name]
    cases named : documentArgument? x.arguments with
    | none => exact absurd (.inr ⟨file, documentArgument?_eq_none_iff.1 named⟩) usable
    | some uri =>
      simp only [execute, named, run_bind]
      cases place : uri.toPath? with
      | none =>
        rw [checkFile_elsewhere env place]
        exact ⟨none, e, .elsewhere file named place, rfl⟩
      | some path =>
        obtain ⟨ending, e', attempt, ran⟩ := checkFile_attempt env place e
        rw [ran]
        exact ⟨ending, e', .file file named place attempt, rfl⟩
  · rw [commit, Command.ofName?_name]
    simp only [execute, run_bind]
    obtain ⟨ending, e', attempt, ran⟩ :=
      checkCommit_attempt env (commitArgument x.arguments) e
    rw [ran]
    exact ⟨ending, e', .commit commit attempt, rfl⟩

/-! ## Refusals -/

/-- What cannot be executed is refused. -/
theorem refused_of_unusable (env : Surroundings σ) {m : Message} {id : Json} {x : Execution}
    (h : m.Executes id x) {e : Exchange σ} (started : e.server.phase = .started)
    (unusable : x.Unusable) : ∃ fault, ((handle env m).run e).1 = some ⟨id, .error fault⟩ := by
  rw [handle_executes env h started]
  rcases unusable with unknown | ⟨file, unnamed⟩
  · rw [Command.ofName?_eq_none_iff.2 unknown]
    exact ⟨_, rfl⟩
  · rw [file, Command.ofName?_name]
    simp only [execute, documentArgument?_eq_none_iff.2 unnamed]
    exact ⟨_, rfl⟩

/-- The other two commands always have a result. -/
theorem answered_of_other (env : Surroundings σ) {m : Message} {id : Json} {x : Execution}
    (h : m.Executes id x) {e : Exchange σ} (started : e.server.phase = .started)
    (other : x.command = Command.toggle.name ∨ x.command = Command.clean.name) :
    ∃ value, ((handle env m).run e).1 = some ⟨id, .ok value⟩ := by
  rw [handle_executes env h started]
  rcases other with toggle | clean
  · rw [toggle, Command.ofName?_name]
    exact ⟨_, rfl⟩
  · rw [clean, Command.ofName?_name]
    exact ⟨_, rfl⟩

/-- In a started session a request to execute a command is refused exactly when the
command is not known, or is to check a file and names none.  Every other request has a
result, which for a check is the outcome of the session's check, and `null` if there is
none; unless the outcome cannot be written.  Then there is no response, and the server
has ended.  This happens to no check but that of a commit of a repository that no text
spells. -/
theorem answered_unless_unwritable (env : Surroundings σ) {m : Message} {id : Json}
    {x : Execution} (h : m.Executes id x) {e : Exchange σ}
    (started : e.server.phase = .started) :
    let answered := (handle env m).run e
    ((∃ fault, answered.1 = some ⟨id, .error fault⟩) ↔ x.Unusable) ∧
    (x.command = Command.toggle.name ∨ x.command = Command.clean.name →
      ∃ value, answered.1 = some ⟨id, .ok value⟩) ∧
    (¬ x.Unusable →
      x.command = Command.checkFile.name ∨ x.command = Command.checkCommit.name →
      ∃ ending e', Checks env x e ending e' ∧ answered.1 = answer? id (outcome? ending) ∧
        (answered.1 = none → answered.2.server.phase = .exited)) ∧
    ∀ t outcome e', Checks env x e (some (t, .ok outcome)) e' →
      (∀ repository, t.base = some repository → repository.isText = true) →
        outcome.isWritable = true := by
  intro answered
  refine ⟨⟨?_, refused_of_unusable env h started⟩, answered_of_other env h started, ?_, ?_⟩
  · rintro ⟨fault, refused⟩
    by_contra usable
    have known : x.command ∈ Command.all.map Command.name := by
      by_contra unknown
      exact usable (.inl unknown)
    have kinds : (x.command = Command.checkFile.name ∨ x.command = Command.checkCommit.name) ∨
        (x.command = Command.toggle.name ∨ x.command = Command.clean.name) := by
      simpa [Command.all, or_assoc] using known
    rcases kinds with check | other
    · obtain ⟨ending, e', -, ran⟩ := exists_checks env h started usable check
      have answer := (respond_checkResult id (outcome? ending) e').1
      rw [← ran, show ((handle env m).run e).1 = _ from refused] at answer
      unfold answer? at answer
      split at answer
      · cases answer
      · split at answer <;> cases answer
    · obtain ⟨value, result⟩ := answered_of_other env h started other
      cases refused.symm.trans result
  · intro usable check
    obtain ⟨ending, e', checks, ran⟩ := exists_checks env h started usable check
    have answer := respond_checkResult id (outcome? ending) e'
    rw [← ran] at answer
    exact ⟨ending, e', checks, answer⟩
  · intro t outcome e' checks base
    have attempted : ∃ settle, Attempt env settle e (some (t, .ok outcome)) e' := by
      cases checks with
      | file _ _ _ attempt => exact ⟨_, attempt⟩
      | commit _ attempt => exact ⟨_, attempt⟩
    obtain ⟨settle, attempt⟩ := attempted
    obtain ⟨s, scene, ran⟩ := attempt.exists_check
    exact Session.isWritable_of_check ran base

/-! ## Samples -/

/-- A server whose editor has started the session. -/
def sampleStarted (env : Surroundings Unit) : Exchange Unit :=
  (((Conversation.new ()).run env [.message
    ⟨"initialize", some (.nat 1), some (.object [("capabilities", .object [])])⟩ []]).next [])

/-- A request to execute a command. -/
def sampleRequest (command : String) (arguments : List Json) : Message :=
  ⟨"workspace/executeCommand", some (.nat 2), some (.object
    [("command", .str command), ("arguments", .arr arguments)])⟩

theorem sampleRequest_executes (command : String) (arguments : List Json) :
    (sampleRequest command arguments).Executes (.nat 2) ⟨command, arguments⟩ := by
  refine ⟨rfl, rfl, ?_⟩
  have members : Json.object [("command", .str command), ("arguments", .arr arguments)] =
      .obj [("arguments", .arr arguments), ("command", .str command)] := by
    have first : "arguments" < "command" := by decide
    simp only [Json.object, Json.ordered, List.foldl_cons, List.foldl_nil, Json.insertMember,
      if_pos first]
  have kept : (arguments.mapM pure : Json.Decoding (List Json)) = pure arguments := by
    simpa using List.mapM_pure (f := id) (l := arguments)
  simp only [sampleRequest, members]
  simp [decodeParams, Execution.decode, Json.decodeObject, Json.decodeMembers, Json.decodeList,
    kept, Json.decodeString, Json.missingFields, Json.member?, Json.get?, decodeProgress,
    Json.Decoding.result]
  rfl

/-- A file that is named by its path is checked, and the response is the outcome. -/
theorem named_by_path_is_answered :
    let e := sampleStarted sampleSurroundings
    let x : Execution := ⟨"checkpatch.checkFile", [.str "/a.c"]⟩
    let m := sampleRequest x.command x.arguments
    let answered := (handle sampleSurroundings m).run e
    m.Executes (.nat 2) x ∧ e.server.phase = .started ∧ ¬ x.Unusable ∧
      ∃ ending e', Checks sampleSurroundings x e ending e' ∧
        answered.1 = answer? (.nat 2) (outcome? ending) ∧ answered.1 ≠ none := by
  intro e x m answered
  have executes : m.Executes (.nat 2) x := sampleRequest_executes _ _
  have started : e.server.phase = .started := by decide +kernel
  have usable : ¬ x.Unusable := by
    rintro (unknown | ⟨-, unnamed⟩)
    · exact unknown (by decide)
    · exact unnamed ⟨"/a.c", rfl, .inr (by decide)⟩
  have answers : answered.1.isSome = true := by decide +kernel
  obtain ⟨-, -, checks, -⟩ := answered_unless_unwritable sampleSurroundings executes started
  obtain ⟨ending, e', made, answer, -⟩ := checks usable (.inl rfl)
  exact ⟨executes, started, usable, ending, e', made, answer, Option.isSome_iff_ne_none.1 answers⟩

/-- A commit of a repository that no text spells is checked, and the checker finds
something.  The command is known and nothing has failed, but there is no response. -/
theorem breaks_down_over_unwritable :
    let found := "a.c:1: ERROR:SPACING: space\ntotal: 1 errors, 0 warnings, 1 lines checked\n"
    let env : Surroundings Unit :=
      ⟨.uniform ⟨Text.Utf8.encode found, [], 0⟩, .listing (.ok []) (.ok [])⟩
    let e := sampleStarted env
    let x : Execution := ⟨"checkpatch.checkCommit",
      [.object [("repository", .str "file:///%FF"), ("commit", .str "1f")]]⟩
    let m := sampleRequest x.command x.arguments
    let answered := (handle env m).run e
    m.Executes (.nat 2) x ∧ e.server.phase = .started ∧ ¬ x.Unusable ∧
      answered.1 = none ∧ answered.2.server.phase = .exited := by
  intro found env e x m answered
  have usable : ¬ x.Unusable := by
    rintro (unknown | ⟨file, -⟩)
    · exact unknown (by decide)
    · exact absurd file (by decide)
  have broken : e.server.phase = .started ∧ answered.1.isNone = true ∧
      answered.2.server.phase = .exited := by
    decide +kernel
  obtain ⟨started, nothing, exited⟩ := broken
  exact ⟨sampleRequest_executes _ _, started, usable, Option.isNone_iff_eq_none.1 nothing, exited⟩

end PatchLint.Server
