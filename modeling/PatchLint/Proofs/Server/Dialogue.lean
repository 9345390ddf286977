import PatchLint.Proofs.Session.Noted
import PatchLint.Proofs.Uri.File
import PatchLint.Server.Conversation

/-!
# Dialogues and what they keep

A dialogue *leads* from exchanges of one kind to exchanges of another when it
does so whatever it answers (`Leads`).  Most of what a server does changes
neither its checking session nor what the editor shows; such a dialogue is
*quiet* (`Quiet`) and keeps whatever is said about the two (`Quiet.leads`).
-/

namespace PatchLint.Server

variable {σ α β : Type}

/-- The dialogue leads from exchanges of one kind to exchanges of another. -/
def Leads (P Q : Exchange σ → Prop) (d : Dialogue σ α) : Prop := ∀ e, P e → Q (d.run e).2

namespace Leads

variable {P Q R : Exchange σ → Prop}

theorem pure (a : α) : Leads P P (Pure.pure a : Dialogue σ α) := fun _ h => h

theorem bind {d : Dialogue σ α} {f : α → Dialogue σ β} (first : Leads P Q d)
    (rest : ∀ a, Leads Q R (f a)) : Leads P R (d >>= f) :=
  fun e h => rest (d.run e).1 (d.run e).2 (first e h)

/-- The server that a dialogue goes on with is the one in the exchange. -/
theorem bind_server {f : Server → Dialogue σ β}
    (rest : ∀ s, Leads (fun e => P e ∧ e.server = s) Q (f s)) :
    Leads P Q (Dialogue.server >>= f) :=
  fun e h => rest e.server e ⟨h, rfl⟩

theorem weaken {d : Dialogue σ α} (h : Leads P Q d) {P' : Exchange σ → Prop}
    (first : ∀ e, P' e → P e) : Leads P' Q d :=
  fun e he => h e (first e he)

theorem imp {d : Dialogue σ α} (h : Leads P Q d) (last : ∀ e, Q e → R e) : Leads P R d :=
  fun e he => last _ (h e he)

end Leads

/-! ## Quiet dialogues -/

/-- The exchanges have one checking session, one phase, and one view in the
editor. -/
structure SameView (e e' : Exchange σ) : Prop where
  session : e'.server.session = e.server.session
  phase : e'.server.phase = e.server.phase
  shown : ∀ before uri, shownAfter before uri e'.sent = shownAfter before uri e.sent

theorem SameView.refl (e : Exchange σ) : SameView e e := ⟨rfl, rfl, fun _ _ => rfl⟩

theorem SameView.trans {e f g : Exchange σ} (h : SameView e f) (k : SameView f g) :
    SameView e g where
  session := k.session.trans h.session
  phase := k.phase.trans h.phase
  shown := fun before uri => (k.shown before uri).trans (h.shown before uri)

/-- The dialogue changes neither the checking session nor the view. -/
def Quiet (d : Dialogue σ α) : Prop := ∀ e, SameView e (d.run e).2

/-- A notice does not change the view. -/
theorem shownAfter_concat {m : Sent} (h : m.IsNotice) (before : List Json) (uri : String)
    (sent : List Sent) : shownAfter before uri (sent ++ [m]) = shownAfter before uri sent := by
  rw [shownAfter_append]
  simp [shownAfter, Sent.diagnosticsFor?_eq_none h]

namespace Quiet

theorem pure (a : α) : Quiet (Pure.pure a : Dialogue σ α) := SameView.refl

theorem bind {d : Dialogue σ α} {f : α → Dialogue σ β} (first : Quiet d)
    (rest : ∀ a, Quiet (f a)) : Quiet (d >>= f) :=
  fun e => (first e).trans (rest (d.run e).1 (d.run e).2)

theorem get : Quiet (MonadState.get : Dialogue σ (Exchange σ)) := SameView.refl

theorem server : Quiet (Dialogue.server : Dialogue σ Server) := SameView.refl

theorem work (w : Work σ α) : Quiet (Dialogue.work w) := fun _ => ⟨rfl, rfl, fun _ _ => rfl⟩

theorem say (lines : Log) : Quiet (Dialogue.say lines : Dialogue σ Unit) := work _

/-- The server may be changed elsewhere. -/
theorem update {f : Server → Server} (session : ∀ s, (f s).session = s.session)
    (phase : ∀ s, (f s).phase = s.phase) : Quiet (Dialogue.update f : Dialogue σ Unit) :=
  fun e => ⟨session e.server, phase e.server, fun _ _ => rfl⟩

theorem send {m : Sent} (h : m.IsNotice) : Quiet (Dialogue.send m : Dialogue σ Unit) :=
  fun e => ⟨rfl, rfl, fun before uri => shownAfter_concat h before uri e.sent⟩

theorem showLine (line : LogLine) : Quiet (Dialogue.send (.show line) : Dialogue σ Unit) :=
  send trivial

theorem logLine (line : LogLine) : Quiet (Dialogue.send (.log line) : Dialogue σ Unit) :=
  send trivial

theorem ask {question : Nat → Sent} (h : ∀ id, (question id).IsNotice) :
    Quiet (Dialogue.ask question : Dialogue σ Answer) :=
  fun e => ⟨rfl, rfl, fun before uri => shownAfter_concat (h _) before uri e.sent⟩

/-- Messages sent one after the other. -/
theorem forM_send {ms : List Sent} (h : ∀ m ∈ ms, m.IsNotice) :
    Quiet (ms.forM Dialogue.send : Dialogue σ Unit) := by
  induction ms with
  | nil => exact pure ()
  | cons m ms ih =>
    exact bind (send (h m List.mem_cons_self)) fun _ =>
      ih fun n hn => h n (List.mem_cons_of_mem _ hn)

end Quiet

/-! ## Handling -/

open Dialogue

/-- Whether a known method is heeded depends on the phase it finds. -/
theorem handleKnown_run (env : Surroundings σ) (m : Method) (id params : Option Json)
    (e : Exchange σ) :
    (handleKnown env m id params).run e = ((match refusal e.server.phase m, id with
      | some fault, some id => pure (some ⟨id, .error fault⟩)
      | some _, none => pure none
      | none, some id => do respond id (← request env m params)
      | none, none => do
          if m = .shutdown then update fun s => { s with phase := .shutDown }
          notify env m params
          return none) : Dialogue σ (Option Response)).run e := rfl

/-- A message is handled by its method until the exit. -/
theorem handle_run (env : Surroundings σ) (m : Message) {e : Exchange σ}
    (h : e.server.phase ≠ .exited) :
    (handle env m).run e = ((match Method.ofName? m.method with
      | none => pure (m.id.map fun id => ⟨id, .error (.unknownMethod m.method)⟩)
      | some .exit => do
          update fun s => { s with phase := .exited }
          return none
      | some method => handleKnown env method m.id m.params) :
        Dialogue σ (Option Response)).run e := by
  show (ite (e.server.phase = .exited) (pure none) _ : Dialogue σ (Option Response)).run e = _
  exact congrArg (fun d : Dialogue σ (Option Response) => d.run e) (if_neg h)

end PatchLint.Server
