import PatchLint.Log
import PatchLint.Path.Basic
import PatchLint.Text.Blank

/-!
# Hosts

The program reaches the outside in two ways: it starts programs and it reads
configuration files.  A *host* answers both.  Its state is of any type, and
starting a program may change it, so a host can answer the same request
differently each time; everything that is shown for all hosts holds whatever the
checker and the version control system do.

Work on a host is a state computation on the host's state and the log
(`Work`).  `Host.recorded` is the same host with a memory of what was started.
-/

namespace PatchLint

/-- What a host is asked to start. -/
structure Launch where
  /-- The program as it is spelled. -/
  program : Path
  /-- Its arguments. -/
  args : List String
  /-- The directory to run in, the host's own if there is none. -/
  cwd : Option Path
  /-- What it reads. -/
  input : String := ""
  /-- Variables set for it. -/
  environment : List (String × String) := []
deriving DecidableEq, Repr

/-- Why a host does not start a program or read a file. -/
inductive HostFault where
  | notFound
  | denied
  | notDirectory
  | isDirectory
  /-- A zero character in the name of a program or in an argument. -/
  | zeroInCommand
  /-- A zero character in the name of a file. -/
  | zeroInName
deriving DecidableEq, Repr

/-- The text of a host's fault. -/
def HostFault.message : HostFault → String
  | .notFound => "No such file or directory (os error 2)"
  | .denied => "Permission denied (os error 13)"
  | .notDirectory => "Not a directory (os error 20)"
  | .isDirectory => "Is a directory (os error 21)"
  | .zeroInCommand => "nul byte found in provided data"
  | .zeroInName => "file name contained an unexpected NUL byte"

/-- What a program leaves when it ends. -/
structure Output where
  /-- What it wrote to its standard output. -/
  out : List UInt8
  /-- What it wrote to its standard error. -/
  err : List UInt8
  /-- Its exit status. -/
  status : Nat
deriving DecidableEq, Repr, Inhabited

namespace Output

/-- The standard output as a text. -/
def outText (o : Output) : String := Text.Utf8.lossy o.out

/-- The standard error as a text, trimmed. -/
def errText (o : Output) : String := Text.trimmed (Text.Utf8.lossy o.err)

/-- Whether the program reports success. -/
def succeeded (o : Output) : Bool := o.status = 0

end Output

/-- How a host with states of a type answers. -/
structure Host (σ : Type) where
  /-- Starts a program.  What it will have written when it ends is settled when
  it starts. -/
  start : Launch → σ → Except HostFault Output × σ
  /-- The bytes of a file. -/
  read : Path → σ → Except HostFault (List UInt8)
  /-- Whether there is a file at a path. -/
  isFile : Path → σ → Bool

/-- A host's state and the log. -/
structure Scene (σ : Type) where
  /-- The state of the host. -/
  host : σ
  /-- The log, the oldest line first. -/
  log : Log := []

/-- Work on a host. -/
abbrev Work (σ : Type) := StateM (Scene σ)

namespace Work

variable {σ : Type}

def say (lines : Log) : Work σ Unit := modify fun s => { s with log := s.log ++ lines }

def hostState : Work σ σ := do return (← get).host

/-- A program started. -/
def start (host : Host σ) (l : Launch) : Work σ (Except HostFault Output) :=
  modifyGet fun s =>
    let (result, h) := host.start l s.host
    (result, { s with host := h })

end Work

/-- The host with a memory of what it was asked to start, the oldest first. -/
def Host.recorded {σ : Type} (host : Host σ) : Host (σ × List Launch) where
  start l s :=
    let (result, h) := host.start l s.1
    (result, (h, s.2 ++ [l]))
  read p s := host.read p s.1
  isFile p s := host.isFile p s.1

/-- The host on which every program leaves the same output, and which has no
files. -/
def Host.uniform {σ : Type} (output : Output) : Host σ where
  start _ s := (.ok output, s)
  read _ _ := .error .notFound
  isFile _ _ := false

/-! ## Laws -/

namespace Work

variable {σ α β : Type}

@[simp] theorem run_pure (a : α) (scene : Scene σ) : (pure a : Work σ α).run scene = (a, scene) :=
  rfl

/-- Work goes on with what the work before it has left. -/
@[simp] theorem run_bind (w : Work σ α) (f : α → Work σ β) (scene : Scene σ) :
    (w >>= f).run scene = (f (w.run scene).1).run (w.run scene).2 := rfl

/-- Lines are added to the log, and the host is left alone. -/
@[simp] theorem run_say (lines : Log) (scene : Scene σ) :
    (say lines).run scene = ((), { scene with log := scene.log ++ lines }) := rfl

/-- A program is started, and the log is left alone. -/
@[simp] theorem run_start (host : Host σ) (l : Launch) (scene : Scene σ) :
    (start host l).run scene =
      ((host.start l scene.host).1, { scene with host := (host.start l scene.host).2 }) := rfl

end Work

end PatchLint
