import SharedSegment.Command
import SharedSegment.Run

/-!
# The program

Runs one command line on a host of its own, whose store and working directory are empty, and ends
with the number of its ending.
-/

namespace SharedSegment

/-- Prints what has been put out, apart from the first lines that were printed already. -/
def printFrom (printed : Nat) (outputs : List Output) : IO Unit :=
  (outputs.drop printed).forM fun o => IO.println o.text

/-- Waits as long as a program holds on: for its time, or for a line of input. -/
def waitFor : Option Nat → IO Unit
  | some seconds => IO.sleep (seconds * 1000).toUInt32
  | none => do
    let _ ← (← IO.getStdin).getLine
    return ()

/-- Runs a command line, and tells the number of its ending. -/
def runCommandLine (words : List String) : IO UInt32 := do
  let env := ⟨← IO.getEnv Config.toggleVariable, .empty⟩
  let (held, host) := (Command.program env words).run 0 .none [] .empty
  printFrom 0 held.output
  let ended ← match held.hold? with
    | some seconds => do
      waitFor seconds
      pure (held.release 0 host).1
    | none => pure held
  printFrom held.output.length ended.output
  match ended.value? with
  | some e =>
    IO.eprint e.errorText
    return e.exitCode.toUInt32
  | none => return 1

end SharedSegment

/-- Runs the words of the command line. -/
def main (words : List String) : IO UInt32 :=
  SharedSegment.runCommandLine words
