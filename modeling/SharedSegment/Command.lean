import SharedSegment.Command.Work
import SharedSegment.Folder

/-!
# The command line as a program

`Command.program` is the whole command line: it reads the words, loads the settings and does the
work. Its log events and lines go to the same output, in order.
-/

namespace SharedSegment

namespace Command

/-- What a command finds around it. -/
structure Environment where
  toggle : Option String
  folder : Folder

/-- The settings that a command runs under: those of a file, or else the standard ones. -/
def settings (env : Environment) : Option String → Except Complaint Config
  | none => .ok (.ofToggle env.toggle)
  | some path =>
    match Config.loadFile env.toggle path (env.folder.lookup path) with
    | .ok c => .ok c
    | .error e => .error (.ofFailure e.toFailure)

/-- Whether an event is recorded: what is of no use to users only if details are asked for. -/
def isRecorded (verbose : Bool) (e : Event) : Bool :=
  verbose || e.level ≠ .debug

/-- What a command line asks for, once it was read. -/
def invoke (env : Environment) (i : Invocation) : Program Ending := do
  match settings env i.config with
  | .error c => return .complained c
  | .ok c =>
    match ← (i.action.work c).keepLogs (isRecorded i.verbose) with
    | .error c => return .complained c
    | .ok () => return .succeeded

def program (env : Environment) (words : List String) : Program Ending :=
  match Invocation.ofWords words with
  | .ok i => invoke env i
  | .error (.usage u) => return .misused u
  | .error (.shown lines) => do
    lines.forM Program.line
    return .succeeded

end Command

end SharedSegment
