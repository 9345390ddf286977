import PatchLint.Config.File
import PatchLint.Repository.Git
import PatchLint.Server.Message
import PatchLint.Session.Check
import PatchLint.Session.Reload

/-!
# The server and its dialogue

The server holds a checking session for one editor, together with what the
editor has told it: the workspace folders, the settings, and the language of
every open document.

Handling a message is a dialogue: work that may change the server and the host,
send messages to the editor, and ask it.  An answer to a question is there when
the question is asked; when none is left the editor answers `null`.
-/

namespace PatchLint

/-- How far the session between editor and server has come. -/
inductive Phase where
  /-- Not started. -/
  | fresh
  /-- Being started: the answer to the first request is not out yet. -/
  | starting
  | started
  | shutDown
  | exited
deriving DecidableEq, Repr

/-- A server. -/
structure Server where
  /-- How far the session has come. -/
  phase : Phase := .fresh
  /-- The checking session. -/
  session : Session := .new
  /-- The open documents with their languages. -/
  documents : List (Uri × String) := []
  /-- The roots of the workspace folders. -/
  folders : List Path := []
  /-- The settings as the editor sent them. -/
  settings : Json := .null
  /-- Whether the editor watches files on request. -/
  watches : Bool := false
  /-- The identifier of the next question. -/
  nextQuestion : Nat := 0

namespace Server

/-- The language of a document, if it is open. -/
def language? (s : Server) (uri : Uri) : Option String :=
  (s.documents.find? fun d => d.1 = uri).map Prod.snd

/-- The open documents without one. -/
def without (uri : Uri) (documents : List (Uri × String)) : List (Uri × String) :=
  documents.filter fun d => d.1 ≠ uri

def openDocument (s : Server) (uri : Uri) (language : String) : Server :=
  { s with documents := (uri, language) :: without uri s.documents }

def closeDocument (s : Server) (uri : Uri) : Server :=
  { s with documents := without uri s.documents }

/-- A document that was opened has its language, and the others have theirs. -/
@[simp] theorem language?_openDocument (s : Server) (uri other : Uri) (language : String) :
    (s.openDocument uri language).language? other =
      if uri = other then some language else s.language? other := by
  by_cases same : uri = other
  · simp [language?, openDocument, same]
  · have apart : (fun d : Uri × String => !decide (d.1 = uri) && decide (d.1 = other)) =
        fun d => decide (d.1 = other) := by
      funext d
      by_cases named : d.1 = other <;> simp [named, Ne.symm same]
    simp [language?, openDocument, without, same, List.find?_filter, apart]

/-- A document that was closed has no language, and the others have theirs. -/
@[simp] theorem language?_closeDocument (s : Server) (uri other : Uri) :
    (s.closeDocument uri).language? other =
      if uri = other then none else s.language? other := by
  by_cases same : uri = other
  · simp [language?, closeDocument, without, same]
  · have opened := language?_openDocument s uri other ""
    simp only [same, if_false] at opened ⊢
    rw [← opened]
    simp [language?, closeDocument, openDocument, same]

/-- What a server reaches: a host, and a version control system on it. -/
structure Surroundings (σ : Type) where
  host : Host σ
  /-- The version control system. -/
  versions : VersionControl σ

/-- A server in a dialogue. -/
structure Exchange (σ : Type) where
  server : Server
  /-- The host and the log. -/
  scene : Scene σ
  /-- What was sent to the editor, the oldest first. -/
  sent : List Sent := []
  /-- The answers that the editor has not given yet. -/
  answers : List Answer := []

/-- A dialogue with the editor. -/
abbrev Dialogue (σ : Type) := StateM (Exchange σ)

namespace Dialogue

variable {σ : Type}

def server : Dialogue σ Server := do return (← get).server

/-- Changes the server. -/
def update (f : Server → Server) : Dialogue σ Unit :=
  modify fun e => { e with server := f e.server }

/-- Work on the host. -/
def work {α : Type} (w : Work σ α) : Dialogue σ α :=
  modifyGet fun e =>
    let (a, scene) := w.run e.scene
    (a, { e with scene })

def say (lines : Log) : Dialogue σ Unit := work (Work.say lines)

/-- Work on the host and the checking session. -/
def onSession {α : Type} (w : Session → Work σ (α × Session)) : Dialogue σ α := do
  let (a, session) ← work (w (← server).session)
  update fun s => { s with session }
  return a

/-- Sends a message to the editor. -/
def send (m : Sent) : Dialogue σ Unit := modify fun e => { e with sent := e.sent ++ [m] }

/-- Asks the editor. -/
def ask (question : Nat → Sent) : Dialogue σ Answer :=
  modifyGet fun e =>
    (e.answers.head?.getD (.result .null),
      { e with
        sent := e.sent ++ [question e.server.nextQuestion]
        answers := e.answers.tail
        server := { e.server with nextQuestion := e.server.nextQuestion + 1 } })

/-- Sends the diagnostics of every file that has changed since the last time.  A
file without an absolute path has no URI and is left out, and nothing is sent
before the session has started. -/
def publish : Dialogue σ Unit :=
  modify fun e =>
    let changed := e.server.session.store.changes.filterMap fun c =>
      (Uri.ofPath? c.path).map fun uri => Sent.publish uri c.records
    { e with
      server := { e.server with session := e.server.session.taken }
      sent := e.sent ++ if e.server.phase = .started then changed else [] }

/-! ## Laws -/

variable {α β : Type}

@[simp] theorem run_pure (a : α) (e : Exchange σ) : (pure a : Dialogue σ α).run e = (a, e) := rfl

/-- A dialogue goes on where the dialogue before it has ended. -/
@[simp] theorem run_bind (d : Dialogue σ α) (f : α → Dialogue σ β) (e : Exchange σ) :
    (d >>= f).run e = (f (d.run e).1).run (d.run e).2 := rfl

@[simp] theorem run_server (e : Exchange σ) :
    (server : Dialogue σ Server).run e = (e.server, e) := rfl

@[simp] theorem run_update (f : Server → Server) (e : Exchange σ) :
    (update f : Dialogue σ Unit).run e = ((), { e with server := f e.server }) := rfl

/-- Work on the host leaves the server and the editor alone. -/
@[simp] theorem run_work (w : Work σ α) (e : Exchange σ) :
    (work w).run e = ((w.run e.scene).1, { e with scene := (w.run e.scene).2 }) := rfl

@[simp] theorem run_say (lines : Log) (e : Exchange σ) :
    (say lines : Dialogue σ Unit).run e =
      ((), { e with scene := { e.scene with log := e.scene.log ++ lines } }) := rfl

/-- Work on the checking session replaces it by what the work has left. -/
@[simp] theorem run_onSession (w : Session → Work σ (α × Session)) (e : Exchange σ) :
    (onSession w).run e =
      let done := (w e.server.session).run e.scene
      (done.1.1,
        { e with server := { e.server with session := done.1.2 }, scene := done.2 }) := rfl

@[simp] theorem run_send (m : Sent) (e : Exchange σ) :
    (send m : Dialogue σ Unit).run e = ((), { e with sent := e.sent ++ [m] }) := rfl

/-- Messages are sent one after the other. -/
@[simp] theorem run_forM_send (ms : List Sent) (e : Exchange σ) :
    (ms.forM send : Dialogue σ Unit).run e = ((), { e with sent := e.sent ++ ms }) := by
  induction ms generalizing e with
  | nil =>
    rw [List.append_nil]
    rfl
  | cons m ms ih =>
    have rest : ((m :: ms).forM send : Dialogue σ Unit).run e =
        (ms.forM send).run { e with sent := e.sent ++ [m] } := rfl
    rw [rest, ih, List.append_assoc, List.singleton_append]

end Dialogue

end Server

end PatchLint
