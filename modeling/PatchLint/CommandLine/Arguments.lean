import PatchLint.Repository.Git
import PatchLint.Text.Numeral

/-!
# Arguments of the command line

Options come in a long and a short spelling, `--name value`, `--name=value`,
`-n value`, `-nvalue` or `-n=value`, and short flags may share one dash.  A value
never starts with a dash unless it is attached or a lone dash, and behind `--`
everything is a word.

Reading goes from left to right and ends at the first fault, or at the request
for the version.  Options for every command are accepted in front of the command
and behind it; what is given behind it counts.
-/

namespace PatchLint.CommandLine

open Text

/-- What an option sets. -/
inductive Opt where
  | config
  | folder
  | verbose
  | help
  | version
  | format
  | repository
  | max
deriving DecidableEq, Repr

namespace Opt

/-- The long spelling. -/
def long : Opt → String
  | .config => "config"
  | .folder => "folder"
  | .verbose => "verbose"
  | .help => "help"
  | .version => "version"
  | .format => "format"
  | .repository => "repo"
  | .max => "max"

/-- The short spelling. -/
def short? : Opt → Option Char
  | .config => some 'c'
  | .folder => none
  | .verbose => some 'v'
  | .help => some 'h'
  | .version => some 'V'
  | .format => some 'f'
  | .repository => none
  | .max => some 'n'

/-- Whether the option has a value. -/
def hasValue : Opt → Bool
  | .verbose => false
  | .help => false
  | .version => false
  | _ => true

/-- The options that every command has. -/
def common : List Opt := [.config, .folder, .verbose, .help]

end Opt

/-- A layout for listings. -/
inductive Format where
  | text
  | json
deriving DecidableEq, Repr, Inhabited

namespace Format

/-- The layouts. -/
def all : List Format := [.text, .json]

/-- The name of a layout. -/
def name : Format → String
  | .text => "text"
  | .json => "json"

/-- The layout with a given name. -/
def ofName? (s : String) : Option Format := all.find? fun f => f.name = s

end Format

/-- What is wrong with the arguments. -/
inductive UsageFault where
  | unknownOption (spelling : String)
  | unknownCommand (name : String)
  | noCommand
  | noValue (o : Opt)
  | unexpectedValue (o : Opt)
  | invalidValue (o : Opt) (value : String)
  | repeated (o : Opt)
  | missingWord
  | unexpectedWord (word : String)
  | emptyPath
deriving DecidableEq, Repr

/-- Why there is nothing to do. -/
inductive Ending where
  /-- The version is asked for. -/
  | version
  /-- Help is asked for. -/
  | help
  /-- The arguments are wrong. -/
  | usage (fault : UsageFault)
deriving DecidableEq, Repr

/-! ## Items -/

/-- What stands in the arguments. -/
inductive Item where
  /-- An option with its value. -/
  | value (o : Opt) (text : String)
  /-- An option without a value. -/
  | flag (o : Opt)
  /-- Anything else. -/
  | word (text : String)
  /-- What cannot be read. -/
  | fault (f : UsageFault)
deriving DecidableEq, Repr

/-- Short spellings that share a dash, and the option that waits for a value. -/
def cluster (opts : List Opt) : List Char → List Item × Option Opt
  | [] => ([], none)
  | c :: cs => match opts.find? fun o => o.short? = some c with
    | none => ([.fault (.unknownOption (String.ofList ['-', c]))], none)
    | some o =>
        if o.hasValue then
          if cs = [] then ([], some o)
          else ([.value o (String.ofList (if cs.head? = some '=' then cs.tail else cs))], none)
        else
          let (items, waiting) := cluster opts cs
          (.flag o :: items, waiting)

/-- A name and what is attached to it behind an equals sign. -/
def cutValue (cs : List Char) : String × Option String :=
  (String.ofList (cs.takeWhile (· ≠ '=')),
    match cs.dropWhile (· ≠ '=') with
    | [] => none
    | _ :: value => some (String.ofList value))

/-- A long spelling, and the option that waits for a value. -/
def longItem (opts : List Opt) (cs : List Char) : List Item × Option Opt :=
  let (name, attached) := cutValue cs
  match opts.find? fun o => o.long = name with
  | none => ([.fault (.unknownOption ("--" ++ name))], none)
  | some o => match o.hasValue, attached with
    | true, some value => ([.value o value], none)
    | true, none => ([], some o)
    | false, none => ([.flag o], none)
    | false, some _ => ([.fault (.unexpectedValue o)], none)

/-- An argument. -/
inductive Shape where
  /-- Two dashes: only words follow. -/
  | escape
  /-- A dash with short spellings. -/
  | short (cs : List Char)
  /-- Two dashes with a long spelling. -/
  | long (cs : List Char)
  /-- A word, such as a lone dash. -/
  | word

/-- The shape of an argument. -/
def Shape.of (arg : String) : Shape :=
  match arg.toList with
  | ['-', '-'] => .escape
  | '-' :: '-' :: cs => .long cs
  | '-' :: c :: cs => .short (c :: cs)
  | _ => .word

/-- The items of arguments, up to the first word if that ends the reading, and
the arguments from there on.  An option may wait for its value. -/
def scan (opts : List Opt) (stopAtWord : Bool) :
    Option Opt → List String → List Item × List String
  | none, [] => ([], [])
  | some o, [] => ([.fault (.noValue o)], [])
  | waiting, arg :: rest =>
      match waiting, Shape.of arg with
      | some o, .word =>
          let (items, left) := scan opts stopAtWord none rest
          (.value o arg :: items, left)
      | some o, _ => ([.fault (.noValue o)], [])
      | none, .word =>
          if stopAtWord then ([], arg :: rest)
          else
            let (items, left) := scan opts stopAtWord none rest
            (.word arg :: items, left)
      | none, .escape => (rest.map .word, [])
      | none, .short cs =>
          let (found, waiting) := cluster opts cs
          let (items, left) := scan opts stopAtWord waiting rest
          (found ++ items, left)
      | none, .long cs =>
          let (found, waiting) := longItem opts cs
          let (items, left) := scan opts stopAtWord waiting rest
          (found ++ items, left)

/-! ## Values -/

/-- What the items of one command set. -/
structure Given where
  /-- A file with settings. -/
  config : Option String := none
  /-- Workspace folders. -/
  folders : List String := []
  /-- Whether to tell more. -/
  verbose : Bool := false
  /-- The layout of the listing. -/
  format : Option Format := none
  /-- The root of the repository. -/
  repository : Option String := none
  /-- The number of commits to list. -/
  max : Option Nat := none
  words : List String := []
deriving DecidableEq, Repr, Inhabited

/-- A number as it may be given: ASCII digits, perhaps behind a plus sign. -/
def readMax (s : String) : Option Nat :=
  let cs := s.toList
  naturalBelow? (Nat.pow 2 64) (if cs.head? = some '+' then cs.tail else cs)

def wrong {α : Type} (f : UsageFault) : Except Ending α := .error (.usage f)

/-- A value that is set once. -/
def once {α : Type} (o : Opt) (before : Option α) (value : Option α) (text : String) :
    Except Ending (Option α) :=
  match value, before with
  | none, _ => wrong (.invalidValue o text)
  | some _, some _ => wrong (.repeated o)
  | some v, none => .ok (some v)

/-- A path as it may be given: anything but the empty text. -/
def nonEmpty (s : String) : Option String := if s = "" then none else some s

/-- What is set after one more option with a value. -/
def Given.set (g : Given) (text : String) : Opt → Except Ending Given
  | .config => do return { g with config := ← once .config g.config (nonEmpty text) text }
  | .folder =>
      if text = "" then wrong (.invalidValue .folder text)
      else .ok { g with folders := g.folders ++ [text] }
  | .format => do return { g with format := ← once .format g.format (Format.ofName? text) text }
  | .repository => do
      return { g with repository := ← once .repository g.repository (nonEmpty text) text }
  | .max => do return { g with max := ← once .max g.max (readMax text) text }
  | o => wrong (.unexpectedValue o)

/-- What is set after one more item, unless the item ends the reading. -/
def Given.add (g : Given) : Item → Except Ending Given
  | .value o text => g.set text o
  | .flag .verbose =>
      if g.verbose then wrong (.repeated .verbose) else .ok { g with verbose := true }
  | .flag .version => .error .version
  | .flag .help => .error .help
  | .flag o => wrong (.noValue o)
  | .word text => .ok { g with words := g.words ++ [text] }
  | .fault f => wrong f

/-- What items set. -/
def Given.ofItems (items : List Item) : Except Ending Given := items.foldlM Given.add {}

/-! ## Requests -/

/-- What to do. -/
inductive Job where
  /-- Check files. -/
  | files (paths : List String) (format : Format)
  /-- Check a commit. -/
  | commit (hash : String) (repository : Option String) (format : Format)
  /-- List commits. -/
  | commits (repository : Option String) (max : Nat)
  /-- Validate the configuration. -/
  | probe
  /-- Serve an editor. -/
  | serve
deriving DecidableEq, Repr

/-- What the arguments ask for. -/
structure Request where
  /-- A file with settings. -/
  config : Option String
  /-- Workspace folders. -/
  folders : List String
  /-- What to do. -/
  job : Job
deriving DecidableEq, Repr

/-- A command: its name, the options that it has besides the common ones, and
the job that is given to it. -/
structure CommandSpec where
  name : String
  /-- The options. -/
  opts : List Opt
  job : Given → Except Ending Job

/-- A job for a command without words. -/
def noWords (job : Job) (g : Given) : Except Ending Job :=
  match g.words with
  | [] => .ok job
  | w :: _ => wrong (.unexpectedWord w)

/-- The job to check files. -/
def filesJob (g : Given) : Except Ending Job :=
  if g.words = [] then wrong .missingWord
  else if g.words.contains "" then wrong .emptyPath
  else .ok (.files g.words (g.format.getD .text))

/-- The job to check a commit. -/
def commitJob (g : Given) : Except Ending Job :=
  match g.words with
  | [] => wrong .missingWord
  | [hash] => .ok (.commit hash g.repository (g.format.getD .text))
  | _ :: w :: _ => wrong (.unexpectedWord w)

def commands : List CommandSpec :=
  [⟨"file", [.format], filesJob⟩,
    ⟨"commit", [.repository, .format], commitJob⟩,
    ⟨"commits", [.repository, .max], fun g =>
      noWords (.commits g.repository (g.max.getD VersionControl.maxCommits)) g⟩,
    ⟨"probe", [], noWords .probe⟩,
    ⟨"lsp", [], noWords .serve⟩]

/-- The request for a command with what is given in front of it and behind it. -/
def requestOf (front : Given) (spec : CommandSpec) (args : List String) :
    Except Ending Request := do
  let behind ← Given.ofItems (scan (Opt.common ++ spec.opts) false none args).1
  let job ← spec.job behind
  return { config := behind.config <|> front.config
           folders := if behind.folders = [] then front.folders else behind.folders
           job }

/-- The request that arguments make. -/
def Request.ofArguments (args : List String) : Except Ending Request := do
  let (items, rest) := scan (.version :: Opt.common) true none args
  let front ← Given.ofItems items
  match front.words, rest with
  | w :: _, _ => wrong (.unexpectedWord w)
  | [], [] => wrong .noCommand
  | [], name :: args => match commands.find? fun c => c.name = name with
    | some spec => requestOf front spec args
    | none => if name = "help" then .error .help else wrong (.unknownCommand name)

end PatchLint.CommandLine
