import PatchLint.Proofs.Server.Responses
import PatchLint.Proofs.Session.Reloading

/-!
# What a message makes the server do

Handling a message comes down to one of a few pieces of work, or to nothing at all.
`Handling` has one case for each, so whatever is kept by these pieces is kept by every
message (`handle_cases`).

Main statement: a message that asks for no check makes the server start nothing but
probes, and no check is given a number (`probed_handle`).
-/

namespace PatchLint

/-- A launch that only shows whether a checker can be used. -/
def Launch.IsProbe (l : Launch) : Prop := ∃ (s : Snapshot) (scope : Scope), l = s.probeOf scope

namespace Server

open Dialogue

variable {σ α β : Type}

/-! ## Handling -/

/-- What the server is left with when it has heeded a message.  All that a message can
make it do is the work of one of these. -/
inductive Handling (env : Surroundings σ) (m : Message) (e : Exchange σ) : Exchange σ → Prop where
  /-- At most the phase changes. -/
  | passed (phase : Phase) : Handling env m e (e.enter phase)
  | greeted (h : Hello) :
      Handling env m e (((hello env h).run (e.enter .starting)).2.enter .started)
  | ended : Handling env m e (shutdown.run (e.enter .shutDown)).2
  | executed {id : Json} {x : Execution} {c : Command} : m.Executes id x →
      Command.ofName? x.command = some c →
      Handling env m e ((execute env c x.arguments >>= respond id).run e).2
  | noticed {method : Method} : e.server.phase = .started → m.method = method.name →
      m.id = none → Handling env m e ((notify env method m.params).run e).2

/-- Only in a started session a method other than the first is heeded. -/
theorem eq_of_refusal {phase : Phase} {m : Method} (h : refusal phase m = none) :
    phase = .started ∨ m = .hello := by
  cases phase <;> cases m <;> simp [refusal] at h ⊢

theorem request_cases (env : Surroundings σ) {m : Message} {method : Method} {id : Json}
    (name : m.method = method.name) (request : m.id = some id) (e : Exchange σ) :
    Handling env m e ((Server.request env method m.params >>= respond id).run e).2 := by
  have answered : ∀ result, Handling env m e ((respond id result).run e).2 := by
    intro result
    obtain ⟨phase, same⟩ := exists_respond_run id result e
    rw [same]
    exact .passed phase
  cases method with
  | hello =>
    simp only [Server.request, requestHello, run_bind]
    cases decodeParams Hello.decode m.params with
    | error fault => exact answered _
    | ok h => exact .greeted h
  | shutdown =>
    simp only [Server.request, requestShutdown, run_bind]
    cases m.params with
    | some v => exact .passed .shutDown
    | none => exact .ended
  | execute =>
    cases decoded : decodeParams Execution.decode m.params with
    | error fault =>
      simp only [Server.request, requestExecute, decoded, run_bind]
      exact answered _
    | ok x =>
      simp only [Server.request, requestExecute, decoded]
      cases known : Command.ofName? x.command with
      | none => exact answered (.error (.unknownCommand x.command))
      | some c => exact .executed ⟨name, request, decoded⟩ known
  | _ => exact answered (.error .outOfPlace)

theorem handle_cases (env : Surroundings σ) (m : Message) (e : Exchange σ) :
    Handling env m e ((handle env m).run e).2 := by
  have same : Handling env m e e := .passed e.server.phase
  by_cases exited : e.server.phase = .exited
  · rw [handle_exited env m e exited]
    exact same
  · rw [handle_run env m exited]
    split
    · exact same
    · exact .passed .exited
    · next method _ known =>
      have name := Method.name_of_ofName? known
      rw [handleKnown_run]
      split
      · exact same
      · exact same
      · next heeded request => exact request_cases env name request e
      -- Notices of the two methods that are requests do nothing.
      · next heeded notice =>
        split
        · next shutdown =>
          subst shutdown
          exact .passed .shutDown
        · rcases eq_of_refusal heeded with started | rfl
          · exact .noticed started name notice
          · exact same

/-- In a started session a notice is heeded. -/
theorem handle_notice (env : Surroundings σ) {m : Message} {method : Method}
    (name : m.method = method.name) (notice : m.id = none)
    (goesOn : method ≠ .shutdown ∧ method ≠ .exit ∧ method ≠ .hello) {e : Exchange σ}
    (started : e.server.phase = .started) :
    (handle env m).run e = (none, ((notify env method m.params).run e).2) := by
  rw [handle_run env m (by rw [started]; decide), name, Method.ofName?_name]
  have known : (handleKnown env method none m.params).run e =
      (none, ((notify env method m.params).run e).2) := by
    have heeded : refusal e.server.phase method = none := by
      rw [started]
      cases method <;> first | rfl | exact absurd rfl goesOn.2.2
    rw [handleKnown_run, heeded]
    simp only [goesOn.1, if_false]
    rfl
  rw [notice]
  cases method <;> first | exact known | exact absurd rfl goesOn.2.1

/-! ## Probes -/

/-- Nothing but probes was started, and no check was given a number. -/
structure Probed (e e' : Exchange (σ × List Launch)) : Prop where
  numbered : e'.server.session.nextId = e.server.session.nextId
  started : ∃ probes, e'.scene.host.2 = e.scene.host.2 ++ probes ∧ ∀ l ∈ probes, l.IsProbe

/-- Nothing but probes was started, and the same documents are open. -/
structure Undisturbed (e e' : Exchange (σ × List Launch)) : Prop extends Probed e e' where
  documents : e'.server.documents = e.server.documents

theorem Probed.of_host {e e' : Exchange (σ × List Launch)}
    (numbered : e'.server.session.nextId = e.server.session.nextId)
    (host : e'.scene.host = e.scene.host) : Probed e e' :=
  ⟨numbered, [], by rw [host, List.append_nil], nofun⟩

theorem Undisturbed.of_host {e e' : Exchange (σ × List Launch)}
    (numbered : e'.server.session.nextId = e.server.session.nextId)
    (host : e'.scene.host = e.scene.host) (documents : e'.server.documents = e.server.documents) :
    Undisturbed e e' :=
  ⟨.of_host numbered host, documents⟩

theorem Undisturbed.trans {e e₁ e₂ : Exchange (σ × List Launch)} (h : Undisturbed e e₁)
    (k : Undisturbed e₁ e₂) : Undisturbed e e₂ := by
  obtain ⟨before, first, earlier⟩ := h.started
  obtain ⟨after, last, later⟩ := k.started
  refine ⟨⟨k.numbered.trans h.numbered, before ++ after, ?_, ?_⟩, k.documents.trans h.documents⟩
  · rw [last, first, List.append_assoc]
  · exact List.forall_mem_append.2 ⟨earlier, later⟩

/-- Whatever a harmless dialogue is held in is left undisturbed. -/
def Harmless (d : Dialogue (σ × List Launch) α) : Prop := ∀ e, Undisturbed e (d.run e).2

namespace Harmless

theorem pure (a : α) : Harmless (Pure.pure a : Dialogue (σ × List Launch) α) :=
  fun _ => .of_host rfl rfl rfl

theorem bind {d : Dialogue (σ × List Launch) α} {f : α → Dialogue (σ × List Launch) β}
    (first : Harmless d) (rest : ∀ a, Harmless (f a)) : Harmless (d >>= f) :=
  fun e => (first e).trans (rest (d.run e).1 (d.run e).2)

theorem get : Harmless (MonadState.get : Dialogue (σ × List Launch) _) :=
  fun _ => .of_host rfl rfl rfl

theorem server : Harmless (Dialogue.server : Dialogue (σ × List Launch) Server) :=
  fun _ => .of_host rfl rfl rfl

theorem say (lines : Log) : Harmless (Dialogue.say lines : Dialogue (σ × List Launch) Unit) :=
  fun _ => .of_host rfl rfl rfl

theorem send (m : Sent) : Harmless (Dialogue.send m : Dialogue (σ × List Launch) Unit) :=
  fun _ => .of_host rfl rfl rfl

theorem ask (question : Nat → Sent) :
    Harmless (Dialogue.ask question : Dialogue (σ × List Launch) Answer) :=
  fun _ => .of_host rfl rfl rfl

theorem publish : Harmless (Dialogue.publish : Dialogue (σ × List Launch) Unit) :=
  fun _ => .of_host rfl rfl rfl

theorem update {f : Server → Server} (numbered : ∀ s, (f s).session.nextId = s.session.nextId)
    (documents : ∀ s, (f s).documents = s.documents) :
    Harmless (Dialogue.update f : Dialogue (σ × List Launch) Unit) :=
  fun e => .of_host (numbered e.server) rfl (documents e.server)

variable (host : Host σ) (versions : VersionControl (σ × List Launch))

/-- A reload probes the checkers of its scopes. -/
theorem onSession_reload (settings : Settings) (folders : List WorkspaceFolder) :
    Harmless (onSession fun session => session.reload host.recorded settings folders) := by
  intro e
  obtain ⟨failed, probes, memory, gated, -⟩ :=
    Session.reload_recorded host e.server.session settings folders e.scene
  have number : ((e.server.session.reload host.recorded settings folders).run e.scene).1.2.nextId =
      e.server.session.nextId := by
    rw [Session.reload_run]
    rfl
  refine ⟨⟨number, probes, memory, fun l hl => ?_⟩, rfl⟩
  obtain ⟨scope, -, rfl⟩ := List.mem_map.1 (gated.started_prefix.subset hl)
  exact ⟨_, scope, rfl⟩

theorem reloadConfig : Harmless (Server.reloadConfig ⟨host.recorded, versions⟩) := by
  refine .bind server fun s => .bind get fun e => ?_
  obtain ⟨inputs, warnings⟩ :=
    (loadInputs host.recorded e.scene.host s.settings s.folders).result
  refine .bind (say warnings) fun _ => ?_
  cases inputs with
  | error fault =>
    exact .bind (say _) fun _ => .bind (update (fun _ => rfl) fun _ => rfl) fun _ => pure _
  | ok given => exact .bind (say _) fun _ => onSession_reload host given.1 given.2

theorem reload : Harmless (Server.reload ⟨host.recorded, versions⟩) := by
  refine .bind (reloadConfig host versions) fun result => .bind publish fun _ => ?_
  cases result <;> exact send _

theorem hello (h : Hello) : Harmless (Server.hello ⟨host.recorded, versions⟩ h) :=
  .bind (say _) fun _ => .bind (update (fun _ => rfl) fun _ => rfl) fun _ =>
    .bind (reload host versions) fun _ => pure _

theorem ready : Harmless (Server.ready : Dialogue (σ × List Launch) Unit) := by
  refine .bind (send _) fun _ => .bind server fun s => ?_
  split
  · refine .bind (ask _) fun answer => ?_
    split
    · exact say _
    · exact pure _
  · exact pure _

theorem settingsChanged (settings : Json) :
    Harmless (Server.settingsChanged ⟨host.recorded, versions⟩ settings) :=
  .bind (say _) fun _ => .bind (update (fun _ => rfl) fun _ => rfl) fun _ => reload host versions

theorem filesChanged (files : List Uri) :
    Harmless (Server.filesChanged ⟨host.recorded, versions⟩ files) := by
  unfold Server.filesChanged
  split
  · exact .bind (say _) fun _ => reload host versions
  · exact pure _

/-- The two commands that check nothing. -/
theorem execute {c : Command} (other : c = .toggle ∨ c = .clean) (arguments : List Json) :
    Harmless (Server.execute ⟨host.recorded, versions⟩ c arguments) := by
  rcases other with rfl | rfl <;> exact fun _ => .of_host rfl rfl rfl

end Harmless

/-! ## Messages that ask for no check -/

/-- A message may lead to a check: a document was saved, or one of the two commands is to
be executed. -/
def Message.AsksForCheck (m : Message) : Prop :=
  m.method = Method.saved.name ∨ ∃ id x, m.Executes id x ∧
    (x.command = Command.checkFile.name ∨ x.command = Command.checkCommit.name)

section NoCheck

variable (host : Host σ) (versions : VersionControl (σ × List Launch))
  (e : Exchange (σ × List Launch))

/-- A notice has its effect if its parameters decode, and none otherwise. -/
theorem of_notified {P : Exchange σ → Prop} {decode : Json → Json.Decoding α}
    {params : Option Json} {act : α → Dialogue σ Unit} {e : Exchange σ} (idle : P e)
    (decoded : ∀ a, decodeParams decode params = .ok a → P ((act a).run e).2) :
    P ((notified decode params act).run e).2 := by
  unfold notified
  split
  · next a same => exact decoded a same
  · exact idle

/-- Notices of a save apart, only documents are opened and closed, and checkers probed. -/
theorem probed_notify {method : Method} (other : method ≠ .saved) (params : Option Json) :
    Probed e ((notify ⟨host.recorded, versions⟩ method params).run e).2 := by
  have idle : Probed e e := .of_host rfl rfl
  cases method with
  | saved => exact absurd rfl other
  | ready => exact of_notified idle fun _ _ => (Harmless.ready e).toProbed
  | opened =>
    refine of_notified idle fun d _ => ?_
    cases d <;> exact .of_host rfl rfl
  | closed =>
    refine of_notified idle fun u _ => ?_
    cases u with
    | none => exact idle
    | some u =>
      show Probed e ((closed u).run e).2
      unfold closed
      split <;> exact .of_host rfl rfl
  | settingsChanged =>
    exact of_notified idle fun _ _ => (Harmless.settingsChanged host versions _ e).toProbed
  | filesChanged =>
    exact of_notified idle fun _ _ => (Harmless.filesChanged host versions _ e).toProbed
  | _ => exact idle

/-- Whoever asks for no check gets none. -/
theorem probed_handle {m : Message} (h : ¬ m.AsksForCheck) :
    Probed e ((handle ⟨host.recorded, versions⟩ m).run e).2 := by
  have pieces := handle_cases ⟨host.recorded, versions⟩ m e
  generalize ((handle ⟨host.recorded, versions⟩ m).run e).2 = e' at pieces ⊢
  cases pieces with
  | passed => exact .of_host rfl rfl
  | greeted h =>
    have kept := Harmless.hello host versions h (e.enter .starting)
    exact ⟨kept.numbered, kept.started⟩
  | ended => exact .of_host rfl rfl
  | @executed id x c executes known =>
    have other : c = .toggle ∨ c = .clean := by
      have name := Command.name_of_ofName? known
      cases c with
      | checkFile => exact absurd (.inr ⟨id, x, executes, .inl name⟩) h
      | checkCommit => exact absurd (.inr ⟨id, x, executes, .inr name⟩) h
      | toggle => exact .inl rfl
      | clean => exact .inr rfl
    have kept := Harmless.execute host versions other x.arguments e
    obtain ⟨phase, same⟩ := exists_respond_run id
      ((execute ⟨host.recorded, versions⟩ c x.arguments).run e).1
      ((execute ⟨host.recorded, versions⟩ c x.arguments).run e).2
    rw [run_bind, same]
    exact ⟨kept.numbered, kept.started⟩
  | @noticed method _ name _ =>
    refine probed_notify host versions e ?_ m.params
    rintro rfl
    exact h (.inl name)

end NoCheck

end Server

end PatchLint
