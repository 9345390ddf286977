import PatchLint.Json.Decoding
import PatchLint.Json.Printer
import PatchLint.Log
import PatchLint.Store
import PatchLint.Uri.Basic

/-!
# Messages between editor and server

An editor sends requests, which have an identifier and get a response, and
notifications, which have none and get none.  The server sends diagnostics and
texts to be shown, and may ask the editor something, which the editor answers
with a result or an error.

This module says what these messages are and how they are written as JSON; what
the server does with them is said elsewhere.
-/

namespace PatchLint

namespace Server

/-! ## From the editor -/

/-- What an editor can ask for or announce. -/
inductive Method where
  /-- The session starts. -/
  | hello
  /-- The editor has seen the answer to its first request. -/
  | ready
  | shutdown
  | exit
  | opened
  | saved
  | closed
  | settingsChanged
  | filesChanged
  | execute
deriving DecidableEq, Repr

namespace Method

def all : List Method :=
  [.hello, .ready, .shutdown, .exit, .opened, .saved, .closed, .settingsChanged, .filesChanged,
    .execute]

/-- The name of a method in a message. -/
def name : Method → String
  | .hello => "initialize"
  | .ready => "initialized"
  | .shutdown => "shutdown"
  | .exit => "exit"
  | .opened => "textDocument/didOpen"
  | .saved => "textDocument/didSave"
  | .closed => "textDocument/didClose"
  | .settingsChanged => "workspace/didChangeConfiguration"
  | .filesChanged => "workspace/didChangeWatchedFiles"
  | .execute => "workspace/executeCommand"

/-- The method with a given name. -/
def ofName? (s : String) : Option Method := all.find? fun m => m.name = s

end Method

/-- A message from the editor. -/
structure Message where
  /-- The name of the method. -/
  method : String
  /-- The identifier of a request. -/
  id : Option Json
  /-- The parameters. -/
  params : Option Json

/-- What the editor answers when it is asked. -/
inductive Answer where
  | result (value : Json)
  | error (code : Int) (message : String)

/-! ## Responses -/

/-- Why a request has no result. -/
inductive RequestFault where
  /-- The session has not started. -/
  | notStarted
  /-- The request makes no sense in the state of the session. -/
  | outOfPlace
  /-- The method is not known. -/
  | unknownMethod (name : String)
  /-- There are no parameters. -/
  | noParams
  /-- There are parameters where none are expected. -/
  | unexpectedParams (value : Json)
  /-- The parameters do not decode. -/
  | misfit (m : Json.Misfit)
  /-- The command is not known. -/
  | unknownCommand (name : String)
  /-- The command needs a document and has none. -/
  | noDocument (command : String)
  /-- The result names a file that no text spells.  The server does not survive that, so
  the editor is not told. -/
  | unwritable

namespace RequestFault

/-- The number of a fault. -/
def code : RequestFault → Int
  | .notStarted => -32002
  | .outOfPlace => -32600
  | .unknownMethod _ => -32601
  | .unwritable => -32603
  | _ => -32602

def message : RequestFault → String
  | .notStarted => "Server not initialized"
  | .outOfPlace => "Invalid request"
  | .unknownMethod _ => "Method not found"
  | .noParams => "Missing params field"
  | .unexpectedParams value => "Unexpected params: " ++ value.compact
  | .misfit m => m.message
  | .unknownCommand name => "Unknown command: " ++ name
  | .noDocument command => command ++ " expects a document URI"
  | .unwritable => "path contains invalid UTF-8 characters"

/-- A fault as JSON.  An unknown method is named. -/
def json (f : RequestFault) : Json :=
  .object ([("code", .int f.code), ("message", .str f.message)] ++
    match f with
    | .unknownMethod name => [("data", .str name)]
    | _ => [])

end RequestFault

/-- The answer to a request. -/
structure Response where
  /-- The identifier of the request. -/
  id : Json
  /-- The result, or why there is none. -/
  result : Except RequestFault Json

def Response.json (r : Response) : Json :=
  .object [("id", r.id), match r.result with
    | .ok value => ("result", value)
    | .error fault => ("error", fault.json)]

/-! ## From the server -/

/-- The number an editor knows the weight of a text by. -/
def weightNumber : LogWeight → Nat
  | .error => 1
  | .warn => 2
  | .info => 3

/-- What the server sends to the editor. -/
inductive Sent where
  /-- All diagnostics of a file. -/
  | publish (uri : Uri) (records : List Record)
  /-- A text for the user. -/
  | show (line : LogLine)
  /-- A text for the editor's log. -/
  | log (line : LogLine)
  /-- A question with the answers to choose from. -/
  | ask (id : Nat) (question : String) (titles : List String)
  /-- A request to be told when files of some names change. -/
  | watch (id : Nat) (names : List String)
deriving Repr

/-- The end of a line, whatever its length. -/
def endOfLine : Nat := 4294967295

/-- A record as an editor shows it, over the whole of its line. -/
def diagnosticJson (r : Record) : Json :=
  let place (character : Nat) : Json :=
    .object [("line", .nat r.lineIndex), ("character", .nat character)]
  .object [("range", .object [("start", place 0), ("end", place endOfLine)]),
    ("severity", .nat r.level.number), ("code", .str r.code), ("source", .str "checkpatch"),
    ("message", .str r.text)]

namespace Sent

/-- A message of some method. -/
def messageJson (method : String) (params : List (String × Json)) : List (String × Json) :=
  [("method", .str method), ("params", .object params)]

/-- A text with its weight. -/
def lineJson (line : LogLine) : List (String × Json) :=
  [("type", .nat (weightNumber line.weight)), ("message", .str line.message)]

/-- What is registered to watch files of some names. -/
def registration (names : List String) : Json :=
  .object [("id", .str "cplint-config-files"),
    ("method", .str Method.filesChanged.name),
    ("registerOptions", .object [("watchers", .arr (names.map fun name =>
      .object [("globPattern", .str ("**/" ++ name))]))])]

/-- A sent message as JSON. -/
def json : Sent → Json
  | .publish uri records =>
      .object (messageJson "textDocument/publishDiagnostics"
        [("uri", .str uri.fileText), ("diagnostics", .arr (records.map diagnosticJson))])
  | .show line => .object (messageJson "window/showMessage" (lineJson line))
  | .log line => .object (messageJson "window/logMessage" (lineJson line))
  | .ask id question titles =>
      .object (("id", .nat id) :: messageJson "window/showMessageRequest"
        (lineJson (.info question) ++
          [("actions", .arr (titles.map fun t => .object [("title", .str t)]))]))
  | .watch id names =>
      .object (("id", .nat id) :: messageJson "client/registerCapability"
        [("registrations", .arr [registration names])])

end Sent

/-! ## Answers -/

/-- What an error number means. -/
def errorMeaning : Int → String
  | -32700 => "Parse error"
  | -32600 => "Invalid request"
  | -32601 => "Method not found"
  | -32602 => "Invalid params"
  | -32603 => "Internal error"
  | -32800 => "Canceled"
  | -32801 => "Content modified"
  | _ => "Server error"

/-- An error in words. -/
def errorText (code : Int) (message : String) : String := errorMeaning code ++ ": " ++ message

/-- The value of an answer, or the error in words.  A value that does not decode
is an error of its own. -/
def Answer.decode {α : Type} (decode : Json → Json.Decoding α) : Answer → Except String α
  | .result value => (decode value).result.1.mapError fun m => errorText (-32700) m.message
  | .error code message => .error (errorText code message)

end Server

end PatchLint
