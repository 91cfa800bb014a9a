import SharedSegment.Command.Argument

/-!
# The commands and their help

The commands of the program with their arguments, and the help text of each: what it is for, how it
is used, and its arguments in columns.
-/

namespace SharedSegment.Command

/-- A command: its name behind that of the program, its arguments and the commands below it. -/
structure Spec where
  /-- The name, none for the program itself. -/
  name : Option String
  about : String
  positionals : List Argument
  switches : List Argument
  /-- The commands below it, with what they are for. -/
  commands : List (String × String)

namespace Spec

def program : String := "shmlink"

def versionText : String := program ++ " 1.0.0"

def nameArgument : Argument :=
  .positional "name" "NAME" "Segment name" anyText

def create : Spec where
  name := some "create"
  about := "Create a segment and hold it until interrupted"
  positionals :=
    [nameArgument, .positional "size" "SIZE" "Payload size in bytes" (reason readSize)]
  switches :=
    [.option "hold-secs" none "HOLD_SECS"
      "Release the segment after this many seconds instead of waiting for Ctrl-C"
      (reason readSeconds), .help]
  commands := []

def info : Spec where
  name := some "info"
  about := "Attach to a segment and show its properties"
  positionals := [nameArgument]
  switches := [.help]
  commands := []

def write : Spec where
  name := some "write"
  about := "Write text into a segment and wake its waiters"
  positionals :=
    [nameArgument,
      .positional "text" "TEXT" "Text to store (truncated to the segment size)" anyText]
  switches := [.help]
  commands := []

def read : Spec where
  name := some "read"
  about := "Print the payload of a segment"
  positionals := [nameArgument]
  switches := [.flag "wait" (some 'w') "Wait for a notification before reading", .help]
  commands := []

def notify : Spec where
  name := some "notify"
  about := "Wake every waiter on a segment"
  positionals := [nameArgument]
  switches := [.help]
  commands := []

def all : List Spec := [create, info, write, read, notify]

/-- What the command that shows help texts is for. -/
def helpAbout : String := "Print this message or the help of the given subcommand(s)"

def root : Spec where
  name := none
  about := "CLI tool for creating and inspecting shmlink shared memory segments"
  positionals := []
  switches :=
    [.option "config" (some 'c') "CONFIG"
      "Configuration file path (defaults, plus SHMLINK_SHAREDMEMORY_POSIX, if absent)" anyText,
      .flag "verbose" (some 'v') "Enable verbose logging", .help, .version]
  commands := (all.map fun s => (s.name.getD "", s.about)) ++ [("help", helpAbout)]

def ofName? (name : String) : Option Spec :=
  all.find? fun s => s.name == some name

def columns (rows : List (String × String)) : List String :=
  let width := (rows.map fun r => r.1.length).foldl max 0
  rows.map fun r => "  " ++ r.1.pushn ' ' (width - r.1.length) ++ "  " ++ r.2

/-- A section of a help text, if there is anything in it. -/
def section? (title : String) (rows : List (String × String)) : List String :=
  if rows.isEmpty then [] else ["", title] ++ columns rows

def switchColumn (a : Argument) : String :=
  match a.short with
  | some c => "-" ++ c.toString ++ ", " ++ a.display
  | none => "    " ++ a.display

def usage (s : Spec) : String :=
  "Usage: " ++ " ".intercalate
    ([program] ++ s.name.toList
      ++ (if s.switches.any (·.effect = .none) then ["[OPTIONS]"] else [])
      ++ s.positionals.map Argument.display
      ++ if s.commands.isEmpty then [] else ["<COMMAND>"])

/-- The help text of a command, line by line. -/
def help (s : Spec) : List String :=
  [s.about, "", s.usage]
    ++ section? "Commands:" s.commands
    ++ section? "Arguments:" (s.positionals.map fun a => (a.display, a.about))
    ++ section? "Options:" (s.switches.map fun a => (switchColumn a, a.about))

/-- The help text of the command that shows help texts. -/
def helpOfHelp : List String :=
  [helpAbout, "", "Usage: " ++ program ++ " help [COMMAND]..."]
    ++ section? "Arguments:" [("[COMMAND]...", "Print help for the subcommand(s)")]

end Spec
end SharedSegment.Command
