import PatchLint.Server.Commands

/-!
# Handling messages

What the server does with each message, and when.  Before the session has
started every known request is refused and every notification is passed over;
the same goes for a session that was shut down.  Only the notice to exit is
heeded at any time, and nothing is answered after it.  A result that cannot be
written ends the session in the same way.

Main statement: nothing is sent or done after the exit (`handle_exited`).
-/

namespace PatchLint.Server

open Dialogue

variable {σ : Type}

/-! ## The session -/

/-- What the server can do. -/
def abilities : Json :=
  .object [
    ("executeCommandProvider",
      .object [("commands", .strings (Command.all.map Command.name))]),
    ("textDocumentSync",
      .object [("change", .nat 0), ("openClose", .bool true),
        ("save", .object [("includeText", .bool false)])])]

/-- The result of the first request. -/
def helloResult : Json :=
  .object [("capabilities", abilities),
    ("serverInfo", .object [("name", .str "cplint-lsp"), ("version", .str "0.1.0")])]

/-- Starts the session: takes over what the editor says and reads the
configuration. -/
def hello (env : Surroundings σ) (h : Hello) : Dialogue σ Json := do
  say [.info "cplint LSP server initializing..."]
  update fun s =>
    { s with
      folders := h.roots
      settings := h.settings.getD s.settings
      watches := h.watches }
  reload env
  return helloResult

/-- Asks the editor to watch the files that hold what folders override. -/
def watchFiles : Dialogue σ Unit := do
  let answer ← ask fun id => .watch id ConfigFile.names
  if let .error text := answer.decode decodeNothing then
    say [.error ("Failed to register config file watcher: " ++ text)]

/-- The editor is ready. -/
def ready : Dialogue σ Unit := do
  send (.log (.info "cplint LSP server initialized!"))
  if (← server).watches then watchFiles

/-- Ends the session. -/
def shutdown : Dialogue σ Json := do
  say [.info "cplint LSP server shutting down..."]
  update fun s => { s with session := s.session.dispose }
  return .null

/-! ## Documents -/

/-- The language of sources and headers. -/
def sourceLanguage : String := "c"

/-- Whether a document is a source: by its language if it is open, and else by
its name. -/
def isSource (language : Option String) (uri : Uri) : Bool :=
  match language with
  | some l => l = sourceLanguage
  | none => uri.pathEndsWith ".c" || uri.pathEndsWith ".h"

/-- Whether a saved document is to be checked. -/
def checksOnSave (s : Server) (uri : Uri) : Bool :=
  s.session.runMode = .onSave && isSource (s.language? uri) uri

/-- A document was saved. -/
def saved (env : Surroundings σ) (uri : Uri) : Dialogue σ Unit := do
  if checksOnSave (← server) uri then discard (checkFile env uri)

/-- A document was closed: its diagnostics are dropped. -/
def closed (uri : Uri) : Dialogue σ Unit := do
  update fun s => s.closeDocument uri
  if let some path := uri.toPath? then
    update fun s => { s with session := s.session.clearFile path }
  publish

/-! ## Settings and files -/

def settingsChanged (env : Surroundings σ) (settings : Json) : Dialogue σ Unit := do
  say [.info "Settings changed, reloading..."]
  update fun s => { s with settings }
  reload env

/-- Whether a file holds what a folder overrides. -/
def isConfigFile (uri : Uri) : Bool := ConfigFile.names.any fun name => uri.pathEndsWith name

def filesChanged (env : Surroundings σ) (files : List Uri) : Dialogue σ Unit := do
  if files.any isConfigFile then
    say [.info "Configuration file changed, reloading..."]
    reload env

/-! ## Parameters -/

/-- Decoded parameters. -/
def decodeParams {α : Type} (decode : Json → Json.Decoding α) (params : Option Json) :
    Except RequestFault α :=
  match params with
  | none => .error .noParams
  | some v => (decode v).result.1.mapError .misfit

/-- Handles a notification with its parameters, unless they do not decode. -/
def notified {α : Type} (decode : Json → Json.Decoding α) (params : Option Json)
    (act : α → Dialogue σ Unit) : Dialogue σ Unit :=
  match decodeParams decode params with
  | .ok a => act a
  | .error _ => pure ()

/-- Handles a notification. -/
def notify (env : Surroundings σ) (m : Method) (params : Option Json) : Dialogue σ Unit :=
  match m with
  | .ready => notified decodeNone params fun _ => ready
  | .opened => notified decodeOpened params fun d => match d with
      | some d => update fun s => s.openDocument d.uri d.language
      | none => pure ()
  | .saved => notified decodeSaved params fun uri => uri.forM (saved env)
  | .closed => notified decodeClosed params fun uri => uri.forM closed
  | .settingsChanged => notified decodeSettingsChanged params (settingsChanged env)
  | .filesChanged => notified decodeFilesChanged params (filesChanged env)
  | _ => pure ()

/-! ## Requests -/

/-- Handles the first request.  The session has started only if it succeeds. -/
def requestHello (env : Surroundings σ) (params : Option Json) :
    Dialogue σ (Except RequestFault Json) := do
  match decodeParams Hello.decode params with
  | .error fault => return .error fault
  | .ok h => do
      update fun s => { s with phase := .starting }
      let result ← hello env h
      update fun s => { s with phase := .started }
      return .ok result

/-- Handles the request to shut down.  The session counts as shut down even if
there are parameters, which there may not be. -/
def requestShutdown (params : Option Json) : Dialogue σ (Except RequestFault Json) := do
  update fun s => { s with phase := .shutDown }
  match params with
  | some v => return .error (.unexpectedParams v)
  | none => return .ok (← shutdown)

/-- Handles the request to execute a command. -/
def requestExecute (env : Surroundings σ) (params : Option Json) :
    Dialogue σ (Except RequestFault Json) := do
  match decodeParams Execution.decode params with
  | .error fault => return .error fault
  | .ok e => match Command.ofName? e.command with
      | some c => execute env c e.arguments
      | none => return .error (.unknownCommand e.command)

/-- Handles a request of a started session, or the first request. -/
def request (env : Surroundings σ) (m : Method) (params : Option Json) :
    Dialogue σ (Except RequestFault Json) :=
  match m with
  | .hello => requestHello env params
  | .shutdown => requestShutdown params
  | .execute => requestExecute env params
  | _ => pure (.error .outOfPlace)

/-! ## Messages -/

/-- Why a known method is not heeded in a phase. -/
def refusal (phase : Phase) (m : Method) : Option RequestFault :=
  match phase, m with
  | .fresh, .hello => none
  | _, .hello => some .outOfPlace
  | .started, _ => none
  | .fresh, _ => some .notStarted
  | .starting, _ => some .notStarted
  | _, _ => some .outOfPlace

/-- Answers a request.  The server breaks down over a result that cannot be written. -/
def respond (id : Json) : Except RequestFault Json → Dialogue σ (Option Response)
  | .error .unwritable => do
      update fun s => { s with phase := .exited }
      return none
  | result => return some ⟨id, result⟩

/-- Handles a known method other than the notice to exit. -/
def handleKnown (env : Surroundings σ) (m : Method) (id : Option Json) (params : Option Json) :
    Dialogue σ (Option Response) := do
  match refusal (← server).phase m, id with
  | some fault, some id => return some ⟨id, .error fault⟩
  | some _, none => return none
  | none, some id => respond id (← request env m params)
  | none, none =>
      if m = .shutdown then update fun s => { s with phase := .shutDown }
      notify env m params
      return none

/-- Handles a message. -/
def handle (env : Surroundings σ) (m : Message) : Dialogue σ (Option Response) := do
  if (← server).phase = .exited then return none
  match Method.ofName? m.method with
  | none => return m.id.map fun id => ⟨id, .error (.unknownMethod m.method)⟩
  | some .exit => do
      update fun s => { s with phase := .exited }
      return none
  | some method => handleKnown env method m.id m.params

/-- After the exit a message has no effect and no answer. -/
theorem handle_exited (env : Surroundings σ) (m : Message) (e : Exchange σ)
    (h : e.server.phase = .exited) : (handle env m).run e = (none, e) := by
  simp [handle, server, h]
  rfl

end PatchLint.Server
