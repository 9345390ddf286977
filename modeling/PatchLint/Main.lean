import PatchLint.CommandLine.Running
import PatchLint.Json.Commented
import PatchLint.World.Description

/-!
# The program

Runs the command line in a described world.  The description is read from the
standard input; the folder that the command is run in is `/work`, and programs
without a slash in their name are looked up in `/bin`.  What the command prints
goes to the standard output and its log to the standard error.
-/

namespace PatchLint

def describedWorld? (text : String) : Option World := do
  World.ofDescription? (.bare (.ofString "/work") (.ofString "/bin")) (← Json.parse? text)

/-- The end of a run in a world, and its log. -/
def runIn (world : World) (args : List String) : CommandLine.Finished × Log :=
  let (finished, scene) :=
    (CommandLine.run ⟨World.host, world.home.path⟩ args).run { host := world }
  (finished, scene.log)

end PatchLint

/-- Runs the command line and ends with its status. -/
def main (args : List String) : IO UInt32 := do
  match PatchLint.describedWorld? (← (← IO.getStdin).readToEnd) with
  | none =>
      IO.eprintln "The standard input describes no world."
      return 2
  | some world =>
      let (finished, log) := PatchLint.runIn world args
      IO.print finished.out
      log.forM fun line => IO.eprintln line.text
      return UInt32.ofNat finished.status
