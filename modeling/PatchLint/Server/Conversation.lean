import PatchLint.Server.Handling

/-!
# Conversations

A conversation is a server together with its host and all that it has sent.  It
goes on by events: the editor sends a message, with the answers that it will
give when it is asked, or something outside changes.

What an editor shows for a document are the diagnostics that were published for
it last, as the messages are written (`shownAfter`).
-/

namespace PatchLint.Server

/-- Something that happens to a server. -/
inductive Event (σ : Type) where
  /-- The editor sends a message. -/
  | message (m : Message) (answers : List Answer)
  /-- Something outside has changed. -/
  | outside (change : σ → σ)

/-- A server, its host, and what it has sent. -/
structure Conversation (σ : Type) where
  server : Server := {}
  /-- The host and the log. -/
  scene : Scene σ
  /-- What was sent to the editor, the oldest first. -/
  sent : List Sent := []

namespace Conversation

variable {σ : Type}

/-- A new server on a host in some state. -/
def new (state : σ) : Conversation σ where
  scene := ⟨state, Session.newLog⟩

/-- Handles a message to its end. -/
def hear (env : Surroundings σ) (c : Conversation σ) (m : Message) (answers : List Answer) :
    Option Response × Conversation σ :=
  let (response, e) := (handle env m).run { server := c.server, scene := c.scene, answers }
  (response, ⟨e.server, e.scene, c.sent ++ e.sent⟩)

/-- What an event does, and the response to a request. -/
def step (env : Surroundings σ) (c : Conversation σ) : Event σ → Option Response × Conversation σ
  | .message m answers => c.hear env m answers
  | .outside change => (none, { c with scene := { c.scene with host := change c.scene.host } })

def run (env : Surroundings σ) (c : Conversation σ) (events : List (Event σ)) : Conversation σ :=
  events.foldl (fun c e => (c.step env e).2) c

/-- The events of a list, each with what it finds. -/
def history (env : Surroundings σ) (c : Conversation σ) :
    List (Event σ) → List (Conversation σ × Event σ)
  | [] => []
  | e :: es => (c, e) :: (c.step env e).2.history env es

/-- An event after others. -/
theorem run_concat (env : Surroundings σ) (c : Conversation σ) (events : List (Event σ))
    (e : Event σ) : c.run env (events ++ [e]) = ((c.run env events).step env e).2 := by
  simp [run]

/-- The history with an event after others. -/
theorem history_concat (env : Surroundings σ) (c : Conversation σ) (events : List (Event σ))
    (e : Event σ) :
    c.history env (events ++ [e]) = c.history env events ++ [(c.run env events, e)] := by
  induction events generalizing c with
  | nil => rfl
  | cons first rest ih => simp [history, run, ih]

end Conversation

/-! ## What an editor shows -/

/-- The diagnostics that a message publishes for the document with a URI, both as
they are written. -/
def Sent.diagnosticsFor? (uri : String) (m : Sent) : Option (List Json) := do
  let method ← (m.json.get? "method").bind Json.str?
  let params ← m.json.get? "params"
  if method = "textDocument/publishDiagnostics" ∧
      (params.get? "uri").bind Json.str? = some uri then
    (params.get? "diagnostics").bind Json.arr?
  else none

/-- The message publishes no diagnostics. -/
def Sent.IsNotice : Sent → Prop
  | .publish _ _ => False
  | _ => True

/-- What an editor shows for a document after messages, given what it showed
before them. -/
def shownAfter (before : List Json) (uri : String) (sent : List Sent) : List Json :=
  sent.foldl (fun shown m => (m.diagnosticsFor? uri).getD shown) before

/-- What the editor of a conversation shows for a document. -/
def Conversation.shown {σ : Type} (c : Conversation σ) (uri : String) : List Json :=
  shownAfter [] uri c.sent

/-- A publication gives its document the diagnostics of its records. -/
theorem Sent.diagnosticsFor?_publish (uri : Uri) (records : List Record) (text : String) :
    (Sent.publish uri records).diagnosticsFor? text =
      if uri.fileText = text then some (records.map diagnosticJson) else none := by
  simp [diagnosticsFor?, json, messageJson, Json.object, Json.ordered, Json.get?,
    Json.member?_insertMember, Json.str?, Json.arr?]

/-- A notice gives no document diagnostics. -/
theorem Sent.diagnosticsFor?_eq_none {m : Sent} (h : m.IsNotice) (text : String) :
    m.diagnosticsFor? text = none := by
  cases m with
  | publish uri records => exact h.elim
  | _ =>
    simp [diagnosticsFor?, json, messageJson, Json.object, Json.ordered, Json.get?,
      Json.member?_insertMember, Json.str?]

/-- Messages add up. -/
theorem shownAfter_append (before : List Json) (uri : String) (sent more : List Sent) :
    shownAfter before uri (sent ++ more) = shownAfter (shownAfter before uri sent) uri more := by
  simp [shownAfter]

end PatchLint.Server
