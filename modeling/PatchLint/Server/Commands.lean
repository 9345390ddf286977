import PatchLint.Server.Checks

/-!
# Commands

The commands that an editor can have the server execute.  A command fails only
when it is not known, or when it needs a document and is not given one; whatever
goes wrong afterwards is shown to the user, and the result is `null`.

The result of a check names the files that it has written.  A path that no text
spells cannot be written in a result (`Outcome.isWritable`).
-/

namespace PatchLint.Server

open Dialogue

variable {σ : Type}

/-- What an editor can have executed. -/
inductive Command where
  | checkFile
  | checkCommit
  | toggle
  | clean
deriving DecidableEq, Repr

namespace Command

/-- The commands, in the order the server lists them. -/
def all : List Command := [.checkFile, .checkCommit, .toggle, .clean]

def name : Command → String
  | .checkFile => "checkpatch.checkFile"
  | .checkCommit => "checkpatch.checkCommit"
  | .toggle => "checkpatch.toggleAutoRun"
  | .clean => "checkpatch.cleanDiagnostic"

/-- The command with a given name. -/
def ofName? (s : String) : Option Command := all.find? fun c => c.name = s

end Command

/-! ## Arguments -/

/-- The URI that a text is, or that of the absolute path it is. -/
def uriOfText? (s : String) : Option Uri :=
  (Uri.ofText s).toOption <|> Uri.ofPath? (.ofString s)

/-- The document that is named first. -/
def documentArgument? (arguments : List Json) : Option Uri :=
  (arguments.head?.bind Json.str?).bind uriOfText?

/-- The path that a text is the URI of, or else the text as a path. -/
def pathOfText (s : String) : Path :=
  ((Uri.ofText s).toOption.bind Uri.toPath?).getD (.ofString s)

/-- The commit that is named first.  What is not a string does not count. -/
def commitArgument (arguments : List Json) : CommitRequest :=
  match arguments.head? with
  | some v =>
      { repository := ((v.get? "repository").bind Json.str?).map pathOfText
        hash := (v.get? "commit").bind Json.str? }
  | none => {}

/-! ## Results -/

def outcomeJson : Outcome → Json
  | .completed findings files =>
      .object [("status", .str "completed"), ("findings", .nat findings),
        ("files", .strings (files.map Path.text))]
  | .excluded => .object [("status", .str "excluded")]
  | .superseded => .object [("status", .str "superseded")]

/-- The outcome of a check, or `null`. -/
def checkResult : Option Outcome → Except RequestFault Json
  | none => .ok .null
  | some outcome => if outcome.isWritable then .ok (outcomeJson outcome) else .error .unwritable

/-- What the user is told after the run mode was toggled. -/
def toggleNotice : RunMode → String
  | .onSave => "checkpatch: automatic check on save enabled"
  | .manual => "checkpatch: automatic check on save disabled"

/-! ## Executing -/

def toggleRunMode : Dialogue σ RunMode := do
  let session := (← server).session.toggle
  update fun s => { s with session }
  say session.toggleLog
  return session.runMode

def execute (env : Surroundings σ) (c : Command) (arguments : List Json) :
    Dialogue σ (Except RequestFault Json) := do
  match c with
  | .checkFile => match documentArgument? arguments with
      | none => return .error (.noDocument c.name)
      | some uri => return checkResult (← checkFile env uri)
  | .checkCommit => return checkResult (← checkCommit env (commitArgument arguments))
  | .toggle => do
      let mode ← toggleRunMode
      send (.show (.info (toggleNotice mode)))
      return .ok (.object [("run", .str mode.name)])
  | .clean => do
      say [.info "Clearing all diagnostics"]
      update fun s => { s with session := s.session.clearAll }
      publish
      return .ok .null

end PatchLint.Server
