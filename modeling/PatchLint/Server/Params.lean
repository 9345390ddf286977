import PatchLint.Json.Decoding
import PatchLint.Uri.Reading

/-!
# Parameters of messages

What the messages of an editor carry, and how it is decoded.  Of the editor's
abilities only one is looked at, whether files can be watched on request.
-/

namespace PatchLint

namespace Server

open Json

/-! ## Values -/

def decodeUri : Json → Decoding Uri
  | .str s => match Uri.ofText s with
    | .ok uri => pure uri
    | .error fault => throw (.invalid (fault.message ++ ": " ++ Text.quoted s))
  | v => throw (.wrongType v "a string representing an URL")

/-- A whole number of 32 bits without a sign. -/
def decodeUnsigned : Json → Decoding Int := decodeWhole 0 4294967295 "u32"

/-- A whole number of 32 bits with a sign. -/
def decodeSigned : Json → Decoding Int := decodeWhole (-2147483648) 2147483647 "i32"

/-- A value that is only checked. -/
def checked {α ρ : Type} (decode : Json → Decoding α) (v : Json) (r : ρ) : Decoding ρ := do
  let _ ← decode v
  return r

/-! ## The start of the session -/

/-- The name of a program and perhaps its version. -/
def decodeProgram : Json → Decoding Unit :=
  decodeRecord "ClientInfo"
    [⟨"name", .nowhere, checked decodeString⟩,
      ⟨"version", .inObject, checked (decodeOptional decodeString)⟩] ()

/-- A folder as the editor announces it: only its URI counts. -/
def decodeFolder (v : Json) : Decoding (Option Uri) :=
  decodeRecord "WorkspaceFolder"
    [⟨"uri", .nowhere, fun v _ => some <$> decodeUri v⟩,
      ⟨"name", .nowhere, checked decodeString⟩] none v

/-- Whether an editor watches files on request. -/
def decodeWatching : Json → Decoding Bool :=
  decodeRecord "DidChangeWatchedFilesClientCapabilities"
    [⟨"dynamicRegistration", .inObject, fun v _ =>
        return (← decodeOptional decodeBool v).getD false⟩,
      ⟨"relativePatternSupport", .inObject, checked (decodeOptional decodeBool)⟩] false

/-- What an editor can do in a workspace. -/
def decodeWorkspaceAbilities : Json → Decoding Bool :=
  decodeObject "WorkspaceClientCapabilities"
    [⟨"didChangeWatchedFiles", .inObject, fun v _ =>
        return (← decodeOptional decodeWatching v).getD false⟩] false

/-- What an editor can do. -/
def decodeAbilities : Json → Decoding Bool :=
  decodeObject "ClientCapabilities"
    [⟨"workspace", .inObject, fun v _ =>
        return (← decodeOptional decodeWorkspaceAbilities v).getD false⟩] false

/-- What the editor says when the session starts. -/
structure Hello where
  /-- The root of the workspace, for editors that know of one folder only. -/
  root : Option Uri := none
  settings : Option Json := none
  /-- Whether files are watched on request. -/
  watches : Bool := false
  /-- The workspace folders. -/
  folders : Option (List Uri) := none

namespace Hello

/-- The words for how much an editor wants to be told. -/
def traces : List String := ["off", "messages", "verbose"]

/-- The fields, in the order they have in an array. -/
def fields : List (FieldRule Hello) :=
  [⟨"processId", .inObject, checked (decodeOptional decodeUnsigned)⟩,
    ⟨"rootPath", .inObject, checked (decodeOptional decodeString)⟩,
    ⟨"rootUri", .anywhere, fun v h => return { h with root := ← decodeOptional decodeUri v }⟩,
    ⟨"initializationOptions", .inObject, fun v h =>
      return { h with settings := ← decodeOptional pure v }⟩,
    ⟨"capabilities", .nowhere, fun v h => return { h with watches := ← decodeAbilities v }⟩,
    ⟨"trace", .anywhere, checked (decodeOptional (decodeChoice traces id))⟩,
    ⟨"workspaceFolders", .inObject, fun v h => do
      let folders ← decodeOptional (decodeList decodeFolder) v
      return { h with folders := folders.map fun fs => fs.filterMap id }⟩,
    ⟨"clientInfo", .inObject, checked (decodeOptional decodeProgram)⟩,
    ⟨"locale", .inObject, checked (decodeOptional decodeString)⟩]

/-- The parameters of the first request. -/
def decode : Json → Decoding Hello := decodeRecord "InitializeParams" fields {}

/-- The roots of the workspace folders, or of the one folder if none is listed.
Folders that are not on this machine are left out. -/
def roots (h : Hello) : List Path :=
  match h.folders with
  | some (f :: fs) => (f :: fs).filterMap Uri.toPath?
  | _ => (h.root.bind Uri.toPath?).toList

end Hello

/-- The parameters of the notice that the editor is ready: there are none. -/
def decodeNone : Json → Decoding Unit := decodeRecord "InitializedParams" [] ()

/-! ## Documents -/

/-- A document as it is opened. -/
structure Document where
  uri : Uri
  /-- The name of its language. -/
  language : String

/-- The fields of a document that are known so far. -/
structure DocumentFields where
  uri : Option Uri := none
  /-- The name of its language. -/
  language : Option String := none

/-- The document that fields make up. -/
def DocumentFields.document? (d : DocumentFields) : Option Document := do
  return ⟨← d.uri, ← d.language⟩

/-- A document with its language, version and text. -/
def decodeDocument : Json → Decoding DocumentFields :=
  decodeRecord "TextDocumentItem"
    [⟨"uri", .nowhere, fun v d => return { d with uri := some (← decodeUri v) }⟩,
      ⟨"languageId", .nowhere, fun v d => return { d with language := some (← decodeString v) }⟩,
      ⟨"version", .nowhere, checked decodeSigned⟩,
      ⟨"text", .nowhere, checked decodeString⟩] {}

/-- The parameters of the notice that a document was opened. -/
def decodeOpened (v : Json) : Decoding (Option Document) := do
  let d ← decodeRecord "DidOpenTextDocumentParams"
    [⟨"textDocument", .nowhere, fun v _ => decodeDocument v⟩] {} v
  return d.document?

/-- A document by its URI. -/
def decodeIdentifier : Json → Decoding (Option Uri) :=
  decodeRecord "TextDocumentIdentifier" [⟨"uri", .nowhere, fun v _ => some <$> decodeUri v⟩] none

/-- The parameters of the notice that a document was saved. -/
def decodeSaved : Json → Decoding (Option Uri) :=
  decodeRecord "DidSaveTextDocumentParams"
    [⟨"textDocument", .nowhere, fun v _ => decodeIdentifier v⟩,
      ⟨"text", .inObject, checked (decodeOptional decodeString)⟩] none

/-- The parameters of the notice that a document was closed. -/
def decodeClosed : Json → Decoding (Option Uri) :=
  decodeRecord "DidCloseTextDocumentParams"
    [⟨"textDocument", .nowhere, fun v _ => decodeIdentifier v⟩] none

/-! ## Settings and files -/

/-- The parameters of the notice that the settings have changed. -/
def decodeSettingsChanged : Json → Decoding Json :=
  decodeRecord "DidChangeConfigurationParams" [⟨"settings", .nowhere, fun v _ => pure v⟩] .null

def decodeFileChange : Json → Decoding (Option Uri) :=
  decodeRecord "FileEvent"
    [⟨"uri", .nowhere, fun v _ => some <$> decodeUri v⟩,
      ⟨"type", .nowhere, checked decodeSigned⟩] none

/-- The parameters of the notice that files have changed. -/
def decodeFilesChanged (v : Json) : Decoding (List Uri) := do
  let files ← decodeRecord "DidChangeWatchedFilesParams"
    [⟨"changes", .nowhere, fun v _ => decodeList decodeFileChange v⟩] [] v
  return files.filterMap id

/-! ## Commands -/

/-- A command that the server is to execute. -/
structure Execution where
  /-- The name of the command. -/
  command : String := ""
  arguments : List Json := []

/-- Whatever marks the progress of a command, a number or a string. -/
def decodeProgress : Json → Decoding Unit
  | .null => pure ()
  | .str _ => pure ()
  | v => match (decodeSigned v).result.1 with
    | .ok _ => pure ()
    | .error _ => throw (.invalid "data did not match any variant of untagged enum NumberOrString")

/-- The parameters of the request to execute a command. -/
def Execution.decode (v : Json) : Decoding Execution := do
  let e ← decodeObject "ExecuteCommandParams"
    [⟨"command", .nowhere, fun v e => return { e with command := ← decodeString v }⟩,
      ⟨"arguments", .inObject, fun v (e : Execution) =>
        return { e with arguments := ← decodeList pure v }⟩] {} v
  let _ ← decodeProgress ((v.get? "workDoneToken").getD .null)
  return e

/-! ## Answers -/

/-- The title that the user chose, if any.  Whatever else the answer holds is
passed over. -/
def decodeChosen : Json → Decoding (Option String) :=
  decodeOptional (decodeObject "MessageActionItem"
    [⟨"title", .nowhere, fun v _ => decodeString v⟩] "")

/-- An answer that says nothing. -/
def decodeNothing : Json → Decoding Unit
  | .null => pure ()
  | v => throw (.wrongType v "unit")

end Server

end PatchLint
