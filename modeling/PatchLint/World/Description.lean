import PatchLint.Json.Basic
import PatchLint.World.Basic

/-!
# Descriptions of worlds

A world is described by a JSON object with three members, each of which may be
missing: `dirs` lists folders, `files` gives the contents of files by path, and
`programs` the rules of programs by path.  A content is a string, or an object
whose member `hex` lists the bytes in hexadecimal.
-/

namespace PatchLint

namespace World

open Text

/-- The bytes that hexadecimal digits list, two for each. -/
def hexBytes? : List Char → Option (List UInt8)
  | [] => some []
  | a :: b :: rest => do
      let n ← hexFrom? 0 [a, b]
      let bs ← hexBytes? rest
      return UInt8.ofNat n :: bs
  | _ => none

/-- The bytes that a described content lists. -/
def listedBytes? (v : Json) : Option (List UInt8) :=
  ((v.get? "hex").bind Json.str?).bind fun s => hexBytes? s.toList

/-- The bytes of a described content. -/
def contentOf? : Json → Option (List UInt8)
  | .str s => some (Utf8.encode s)
  | v => listedBytes? v

/-- A described answer. -/
def answerOf? : Json → Option Answer
  | .str s => some (.text s)
  | v => (listedBytes? v).map .bytes

/-- A member that may be missing. -/
def optionalMember {α : Type} (v : Json) (key : String) (decode : Json → Option α) :
    Option (Option α) :=
  match v.get? key with
  | none => some none
  | some m => (decode m).map some

/-- A described rule. -/
def ruleOf? (v : Json) : Option Rule := do
  let last ← optionalMember v "last" Json.str?
  let first ← optionalMember v "first" Json.str?
  let cwd ← optionalMember v "cwd" Json.str?
  let times ← optionalMember v "times" Json.nat?
  let out ← optionalMember v "stdout" answerOf?
  let err ← optionalMember v "stderr" answerOf?
  let status ← optionalMember v "exit" Json.nat?
  return { last, first, cwd, times
           out := out.getD (.bytes [])
           err := err.getD (.bytes [])
           status := status.getD 0 }

/-- Described rules. -/
def rulesOf? (v : Json) : Option (List Rule) := v.arr?.bind fun rs => rs.mapM ruleOf?

/-- The world with a file written. -/
def write (w : World) (p : Path) (bytes : List UInt8) : World := w.put (locationOf p) (.file bytes)

/-- The world with a program installed. -/
def install (w : World) (p : Path) (rules : List Rule) : World :=
  w.put (locationOf p) (.program rules)

def removePath (w : World) (p : Path) : World := w.remove (locationOf p)

/-- The members of a described part, none if it is missing. -/
def membersOf (v : Json) (key : String) : List (String × Json) :=
  match v.get? key with
  | some (.obj members) => members
  | _ => []

/-- The items of a described part, none if it is missing. -/
def itemsOf (v : Json) (key : String) : List Json :=
  match v.get? key with
  | some (.arr items) => items
  | _ => []

/-- A world with nothing but its home and its folder of programs. -/
def bare (home programs : Path) : World :=
  let w : World := ⟨[], [], [], locationOf home, programs⟩
  (w.putFolder (locationOf home)).putFolder (locationOf programs)

/-- A bare world with what a description adds to it. -/
def ofDescription? (w : World) (v : Json) : Option World := do
  let folders ← (itemsOf v "dirs").mapM Json.str?
  let w := folders.foldl (fun w d => w.putFolder (locationOf (.ofString d))) w
  let w ← (membersOf v "files").foldlM
    (fun w m => (contentOf? m.2).map (w.write (.ofString m.1))) w
  (membersOf v "programs").foldlM (fun w m => (rulesOf? m.2).map (w.install (.ofString m.1))) w

end World

end PatchLint
