import SharedSegment.Command.Spec

/-!
# Reading a command line

The words of a command line are read from left to right. A switch may carry its value in the same
word or in the next; short switches may share a word; two dashes end the switches. A value is
checked when the next argument comes or the words end, so that a word that fits nowhere is reported
before a bad value in front of it.
-/

namespace SharedSegment.Command

/-- What is wrong with a command line. -/
inductive Usage where
  /-- There is nothing on it. -/
  | nothing
  | missingCommand
  | unknownCommand (word : String)
  | unexpected (word : String)
  | missingArguments
  | missingValue (argument : String)
  | invalidValue (value argument reason : String)
  | repeated (argument : String)
  | unneededValue (value argument : String)
deriving DecidableEq

/-- The first line that tells what is wrong. -/
def Usage.message : Usage → String
  | .nothing => Spec.root.about
  | .missingCommand =>
    "error: '" ++ Spec.program ++ "' requires a subcommand but one was not provided"
  | .unknownCommand w => "error: unrecognized subcommand '" ++ w ++ "'"
  | .unexpected w => "error: unexpected argument '" ++ w ++ "' found"
  | .missingArguments => "error: the following required arguments were not provided:"
  | .missingValue a => "error: a value is required for '" ++ a ++ "' but none was supplied"
  | .invalidValue v a r => "error: invalid value '" ++ v ++ "' for '" ++ a ++ "': " ++ r
  | .repeated a => "error: the argument '" ++ a ++ "' cannot be used multiple times"
  | .unneededValue v a =>
    "error: unexpected value '" ++ v ++ "' for '" ++ a ++ "' found; no more were expected"

/-- Why no command is run. -/
inductive Refusal where
  | usage (u : Usage)
  /-- A text was asked for instead, given line by line. -/
  | shown (lines : List String)
deriving DecidableEq

/-- What was read of the words of one command. -/
structure Matches where
  spec : Spec
  /-- The arguments that are settled, with their values. -/
  settled : List (String × List String)
  /-- The last argument, not checked yet, with its values so far. -/
  pending : Option (Argument × List String)
  /-- Whether the next word is the value of the last switch. -/
  awaitsValue : Bool
  /-- Whether two dashes have ended the switches. -/
  trailing : Bool
  /-- The values by position that have not come yet. -/
  ahead : List Argument

abbrev Reading := Except Refusal

namespace Matches

def start (s : Spec) : Matches :=
  ⟨s, [], none, false, false, s.positionals⟩

/-- A refusal for a wrong command line. -/
def wrong {α : Type} (u : Usage) : Reading α :=
  .error (.usage u)

def settle (m : Matches) (a : Argument) (values : List String) : Reading Matches :=
  if a.takesValue && values.isEmpty then wrong (.missingValue a.display)
  else
    match a.effect with
    | .help => .error (.shown m.spec.help)
    | .version => .error (.shown [Spec.versionText])
    | .none =>
      if (m.settled.lookup a.id).isSome then wrong (.repeated a.display)
      else
        match values.findSome? fun v => (a.refusal v).map (v, ·) with
        | some (v, r) => wrong (.invalidValue v a.display r)
        | none => .ok { m with settled := m.settled ++ [(a.id, values)] }

def flush (m : Matches) : Reading Matches :=
  match m.pending with
  | some (a, values) => { m with pending := none, awaitsValue := false }.settle a values
  | none => .ok m

def complete (m : Matches) (a : Argument) (values : List String) : Reading Matches := do
  let m ← m.flush
  let m ← m.settle a values
  return { m with awaitsValue := false }

/-- Takes a switch whose value may stand in the same word. -/
def takeOption (m : Matches) (a : Argument) : Option String → Reading Matches
  | some v => m.complete a [v]
  | none => do
    let m ← m.flush
    return { m with pending := some (a, []), awaitsValue := true }

/-- Takes a word that begins with two dashes. -/
def takeLong (m : Matches) (word : String) : Reading Matches :=
  let body := (word.toList.drop 2)
  let name := String.ofList (body.takeWhile (· ≠ '='))
  let value := match body.dropWhile (· ≠ '=') with
    | _ :: v => some (String.ofList v)
    | [] => none
  match m.spec.switches.find? fun a => a.long == some name with
  | none => wrong (.unexpected ("--" ++ name))
  | some a =>
    if a.takesValue then m.takeOption a value
    else
      match value with
      | some v => wrong (.unneededValue v a.display)
      | none => m.complete a []

/-- Takes short switches that share a word. -/
def takeShort : List Char → Matches → Reading Matches
  | [], m => .ok m
  | c :: r, m =>
    match m.spec.switches.find? fun a => a.short == some c with
    | none => wrong (.unexpected ("-" ++ c.toString))
    | some a =>
      if a.takesValue then
        m.takeOption a <| match r with
          | [] => none
          | '=' :: v => some (String.ofList v)
          | v => some (String.ofList v)
      else do
        let m ← m.complete a []
        takeShort r m

/-- Whether a word names a command here. -/
def namesCommand (m : Matches) (word : String) : Bool :=
  m.spec.commands.any fun c => c.1 == word

def misfit {α : Type} (m : Matches) (word : String) : Reading α :=
  if m.trailing && m.namesCommand word then wrong (.unexpected word)
  else if m.spec.commands.isEmpty then wrong (.unexpected word)
  else wrong (.unknownCommand word)

/-- Takes a word as the next value by position. -/
def takePosition (m : Matches) (word : String) : Reading Matches :=
  match m.ahead with
  | [] => m.misfit word
  | a :: ahead => do
    let m ← m.flush
    return { m with ahead, pending := some (a, [word]), awaitsValue := false }

/-- Takes a word that names no command. -/
def takeWord (m : Matches) (word : String) : Reading Matches :=
  if m.trailing then m.takePosition word
  else if word = "--" then .ok { m with trailing := true }
  else if word.startsWith "--" then m.takeLong word
  else if word.startsWith "-" && word ≠ "-" then takeShort (word.toList.drop 1) m
  else if m.awaitsValue then
    .ok { m with
      awaitsValue := false
      pending := m.pending.map fun p => (p.1, p.2 ++ [word]) }
  else m.takePosition word

/-- Takes words until one names a command, which is answered with the words behind it. -/
def takeWords : List String → Matches → Reading (Matches × Option (String × List String))
  | [], m => .ok (m, none)
  | w :: r, m =>
    if !m.trailing && !m.awaitsValue && m.namesCommand w then .ok (m, some (w, r))
    else do
      let m ← m.takeWord w
      takeWords r m

def values (m : Matches) (id : String) : List String :=
  (m.settled.lookup id).getD []

def value? (m : Matches) (id : String) : Option String :=
  (m.values id).head?

def has (m : Matches) (id : String) : Bool :=
  (m.settled.lookup id).isSome

/-- Reads all words of a command that has no commands below it. -/
def read (s : Spec) (words : List String) : Reading Matches := do
  let (m, _) ← takeWords words (start s)
  let m ← m.flush
  if m.ahead.isEmpty then return m else wrong .missingArguments

end Matches

/-- What a command does. -/
inductive Action where
  | create (name : String) (size : UInt32) (seconds : Option Nat)
  | info (name : String)
  | write (name text : String)
  | read (name : String) (wait : Bool)
  | notify (name : String)
deriving DecidableEq

/-- A command line that can be run. -/
structure Invocation where
  config : Option String
  verbose : Bool
  action : Action
deriving DecidableEq

/-- What the words behind the name of a command ask for. -/
def Action.ofMatches (command : String) (m : Matches) : Action :=
  let text (id : String) := (m.value? id).getD ""
  match command with
  | "create" =>
    .create (text "name") ((readSize (text "size")).toOption.getD 0)
      ((m.value? "hold-secs").bind fun s => (readSeconds s).toOption)
  | "info" => .info (text "name")
  | "write" => .write (text "name") (text "text")
  | "read" => .read (text "name") (m.has "wait")
  | _ => .notify (text "name")

/-- The help text that the words behind `help` ask for. -/
def helpFor : List String → Refusal
  | [] => .shown Spec.root.help
  | w :: r =>
    match (Spec.ofName? w).map Spec.help, w == "help" with
    | some lines, _ =>
      match r with
      | [] => .shown lines
      | x :: _ => .usage (.unknownCommand x)
    | none, true =>
      match r with
      | [] => .shown Spec.helpOfHelp
      | x :: _ => .usage (.unknownCommand x)
    | none, false => .usage (.unknownCommand w)

/-- Reads the words behind a command's name. -/
def readAction (command : String) (words : List String) : Reading Action :=
  match Spec.ofName? command with
  | some s => (Matches.read s words).map (Action.ofMatches command)
  | none => .error (helpFor words)

def Invocation.ofWords (words : List String) : Reading Invocation := do
  let (m, command) ← Matches.takeWords words (.start .root)
  match command with
  | none =>
    let m ← m.flush
    Matches.wrong (if m.settled.isEmpty then .nothing else .missingCommand)
  | some (name, rest) =>
    let action ← readAction name rest
    -- The last switch in front of the command is checked after the command itself.
    let m ← m.flush
    return ⟨m.value? "config", m.has "verbose", action⟩

end SharedSegment.Command
