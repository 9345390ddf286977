import PatchLint.Host

/-!
# Described worlds

A world is a small machine that is described rather than real: a tree of folders
and files, and programs that follow rules.  It remembers which rule of which
program was used how often, so that a program can answer differently the second
time, and it lists every program that was run.

A path is walked from the root or from a folder, name by name.  Going through
something that is no folder fails, even if what follows is a dot or nothing.
-/

namespace PatchLint

/-- The names that lead from the root to a place. -/
abbrev Location := List (List UInt8)

/-- The path of a place. -/
def Location.path : Location → Path
  | [] => ⟨[Path.slash]⟩
  | names => ⟨names.flatMap fun n => Path.slash :: n⟩

/-- What a rule answers on one stream. -/
inductive Answer where
  /-- A text in which a mark stands for the last argument. -/
  | text (s : String)
  /-- Bytes as they are. -/
  | bytes (bs : List UInt8)
deriving DecidableEq, Repr

namespace Answer

/-- The mark for the last argument. -/
def targetMark : List Char := "@TARGET@".toList

/-- A text with every mark replaced. -/
def fillFrom (mark value : List Char) : Nat → List Char → List Char
  | _, [] => []
  | skip + 1, _ :: cs => fillFrom mark value skip cs
  | 0, c :: cs =>
      if mark.isPrefixOf (c :: cs) then value ++ fillFrom mark value (mark.length - 1) cs
      else c :: fillFrom mark value 0 cs

/-- The bytes of an answer. -/
def fill (last : String) : Answer → List UInt8
  | .text s => Text.Utf8.encodeChars (fillFrom targetMark last.toList 0 s.toList)
  | .bytes bs => bs

end Answer

/-- When a program answers what. -/
structure Rule where
  /-- The last argument it asks for. -/
  last : Option String := none
  /-- The first argument it asks for. -/
  first : Option String := none
  /-- The folder it asks to be run in. -/
  cwd : Option String := none
  /-- How often it can be used. -/
  times : Option Nat := none
  /-- What it writes to its standard output. -/
  out : Answer := .bytes []
  /-- What it writes to its standard error. -/
  err : Answer := .bytes []
  /-- Its exit status. -/
  status : Nat := 0
deriving DecidableEq, Repr

/-- What is at a place. -/
inductive Node where
  | folder
  | file (bytes : List UInt8)
  | program (rules : List Rule)
deriving DecidableEq, Repr

/-- A program that was run. -/
structure Invocation where
  /-- The program as it was found. -/
  program : Path
  /-- Its arguments. -/
  args : List String
  /-- The folder it ran in. -/
  cwd : Path
  /-- What it read. -/
  input : String
  /-- The variables set for it. -/
  environment : List (String × String)
deriving DecidableEq, Repr

/-- A described machine. -/
structure World where
  /-- What is where.  The root is a folder without an entry. -/
  nodes : List (Location × Node)
  /-- How often each rule of each program was used. -/
  uses : List ((Location × Nat) × Nat)
  /-- The programs that were run, the oldest first. -/
  invocations : List Invocation
  /-- The folder that relative paths start from. -/
  home : Location
  /-- The folder that bare names of programs are looked up in. -/
  programs : Path

namespace World

/-! ## The tree -/

/-- What is at a place. -/
def node? (w : World) : Location → Option Node
  | [] => some .folder
  | l => (w.nodes.find? fun e => e.1 = l).map Prod.snd

/-- A tree with something put at a place. -/
def putNode (l : Location) (n : Node) (nodes : List (Location × Node)) : List (Location × Node) :=
  (l, n) :: nodes.filter fun e => e.1 ≠ l

/-- The places above a place, the root left out. -/
def above (l : Location) : List Location :=
  (List.range l.length).filterMap fun k => if k = 0 then none else some (l.take k)

/-- The world with something put at a place, and folders above it. -/
def put (w : World) (l : Location) (n : Node) : World :=
  let withFolders := (above l).foldl
    (fun nodes a => if nodes.any fun e => e.1 = a then nodes else putNode a .folder nodes) w.nodes
  { w with nodes := putNode l n withFolders }

/-- The world with a folder at a place, unless something is there. -/
def putFolder (w : World) (l : Location) : World :=
  if (w.node? l).isSome then w else w.put l .folder

/-- The world without a place and all below it. -/
def remove (w : World) (l : Location) : World :=
  { w with nodes := w.nodes.filter fun e => ¬ l.isPrefixOf e.1 }

/-- The names of a path. -/
def locationOf (p : Path) : Location :=
  p.components.filterMap fun c => match c with
    | .name bytes => some bytes
    | _ => none

/-! ## Walking -/

/-- Whether what is at a place is a folder. -/
def isFolder (w : World) (l : Location) : Bool := w.node? l = some .folder

/-- Goes one segment on from a place that exists. -/
def walkOne (w : World) (l : Location) (segment : List UInt8) : Except HostFault Location :=
  if ¬ w.isFolder l then .error .notDirectory
  else if segment = [] ∨ segment = [Path.dot] then .ok l
  else if segment = [Path.dot, Path.dot] then .ok l.dropLast
  else
    let next := l ++ [segment]
    if (w.node? next).isSome then .ok next else .error .notFound

/-- Goes along segments from a place that exists. -/
def walk (w : World) : Location → List (List UInt8) → Except HostFault Location
  | l, [] => .ok l
  | l, s :: ss => match w.walkOne l s with
    | .ok next => walk w next ss
    | .error fault => .error fault

/-- The place a path leads to from a folder. -/
def locate (w : World) (start : Location) (p : Path) : Except HostFault Location :=
  if p.bytes = [] then .error .notFound
  else w.walk (if p.isAbsolute then [] else start) (Path.segmentsOf p.bytes)

/-! ## Reading -/

/-- The bytes of a file.  A program cannot be told from its text. -/
def read (w : World) (p : Path) : Except HostFault (List UInt8) :=
  if p.bytes.contains 0 then .error .zeroInName
  else match w.locate w.home p with
    | .error fault => .error fault
    | .ok l => match w.node? l with
      | some (.file bytes) => .ok bytes
      | some (.program _) => .ok []
      | some .folder => .error .isDirectory
      | none => .error .notFound

/-- Whether there is a file at a path. -/
def isFile (w : World) (p : Path) : Bool :=
  match w.locate w.home p with
  | .error _ => false
  | .ok l => !p.bytes.contains 0 && !w.isFolder l

/-! ## Running -/

/-- How often a rule of a program was used. -/
def usesOf (w : World) (l : Location) (index : Nat) : Nat :=
  ((w.uses.find? fun u => u.1 = (l, index)).map Prod.snd).getD 0

/-- The world with one more use of a rule. -/
def use (w : World) (l : Location) (index : Nat) : World :=
  { w with
    uses := ((l, index), w.usesOf l index + 1) :: w.uses.filter fun u => u.1 ≠ (l, index) }

/-- Whether a condition that may be missing holds. -/
def holds (condition : Option String) (value : String) : Bool :=
  match condition with
  | none => true
  | some s => s = value

/-- Whether a rule applies. -/
def applies (w : World) (l : Location) (index : Nat) (first last cwd : String) (r : Rule) : Bool :=
  holds r.last last && holds r.first first && holds r.cwd cwd &&
    match r.times with
    | none => true
    | some n => w.usesOf l index < n

/-- The first rule that applies, and its index. -/
def chosen (w : World) (l : Location) (first last cwd : String) :
    Nat → List Rule → Option (Nat × Rule)
  | _, [] => none
  | index, r :: rs =>
      if w.applies l index first last cwd r then some (index, r)
      else chosen w l first last cwd (index + 1) rs

/-- Runs the program at a place. -/
def run (w : World) (l : Location) (rules : List Rule) (program : Path) (cwd : Location)
    (launch : Launch) : Output × World :=
  let last := (launch.args.getLast?).getD ""
  let first := (launch.args.head?).getD ""
  let invocation : Invocation :=
    ⟨program, launch.args, cwd.path, launch.input, launch.environment⟩
  let w' := { w with invocations := w.invocations ++ [invocation] }
  match w'.chosen l first last cwd.path.text 0 rules with
  | none => (⟨[], [], 0⟩, w')
  | some (index, r) => (⟨r.out.fill last, r.err.fill last, r.status⟩, w'.use l index)

/-- The folder that a program is to run in. -/
def cwdOf (w : World) (launch : Launch) : Except HostFault Location :=
  match launch.cwd with
  | none => .ok w.home
  | some p => match w.locate w.home p with
    | .error fault => .error fault
    | .ok l => if w.isFolder l then .ok l else .error .notDirectory

/-- The path that a program is found by: a bare name is looked for among the
programs. -/
def programPath (w : World) (p : Path) : Path :=
  if p.bytes.contains Path.slash then p else w.programs.join p

/-- Whether a launch has a zero character where none may be. -/
def hasZero (launch : Launch) : Bool :=
  launch.program.bytes.contains 0 || launch.args.any (fun a => a.toList.contains '\x00') ||
    (launch.cwd.map fun p => p.bytes.contains 0).getD false

/-- Starts a program. -/
def start (launch : Launch) (w : World) : Except HostFault Output × World :=
  if hasZero launch then (.error .zeroInCommand, w)
  else match w.cwdOf launch with
    | .error fault => (.error fault, w)
    | .ok cwd =>
        if launch.program.bytes = [] then (.error .notFound, w)
        else
          let program := w.programPath launch.program
          match w.locate cwd program with
          | .error fault => (.error fault, w)
          | .ok l => match w.node? l with
            | some (.program rules) =>
                let (output, w') := w.run l rules program cwd launch
                (.ok output, w')
            | some _ => (.error .denied, w)
            | none => (.error .notFound, w)

/-- The world with no program counted as run.  What the programs' rules
remember is kept. -/
def quiet (w : World) : World := { w with invocations := [] }

/-- The world with a folder of it as its home. -/
def enter? (w : World) (p : Path) : Option World :=
  match w.locate w.home p with
  | .error _ => none
  | .ok l => if w.isFolder l then some { w with home := l } else none

def host : Host World where
  start := start
  read p w := w.read p
  isFile p w := w.isFile p

end World

end PatchLint
