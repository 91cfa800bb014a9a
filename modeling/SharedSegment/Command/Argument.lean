import SharedSegment.Power

/-!
# Arguments of a command

What a command line may hold: switches with and without values, values by position, and names of
further commands. A value that is refused is refused with a reason.
-/

namespace SharedSegment.Command

/-- What an argument does besides being noted. -/
inductive Effect where
  | none
  /-- Shows the help text instead of running. -/
  | help
  /-- Shows the version instead of running. -/
  | version
deriving DecidableEq

/-- An argument: a switch, or a value by position. -/
structure Argument where
  id : String
  short : Option Char
  /-- The name behind two dashes; a value by position has none. -/
  long : Option String
  /-- What stands for the value, if there is one. -/
  placeholder : Option String
  about : String
  effect : Effect
  /-- Why a value is refused, if it is. -/
  refusal : String → Option String

namespace Argument

def takesValue (a : Argument) : Bool :=
  a.placeholder.isSome

def display (a : Argument) : String :=
  let value := a.placeholder.elim "" fun p => "<" ++ p ++ ">"
  match a.long with
  | some l => "--" ++ l ++ if a.takesValue then " " ++ value else ""
  | none => value

def flag (id : String) (short : Option Char) (about : String) : Argument :=
  ⟨id, short, some id, none, about, .none, fun _ => none⟩

def option (id : String) (short : Option Char) (placeholder about : String)
    (refusal : String → Option String) : Argument :=
  ⟨id, short, some id, some placeholder, about, .none, refusal⟩

def positional (id placeholder about : String) (refusal : String → Option String) : Argument :=
  ⟨id, none, none, some placeholder, about, .none, refusal⟩

/-- The switch that shows the help text. -/
def help : Argument :=
  ⟨"help", some 'h', some "help", none, "Print help", .help, fun _ => none⟩

def version : Argument :=
  ⟨"version", some 'V', some "version", none, "Print version", .version, fun _ => none⟩

end Argument

def anyText (_ : String) : Option String := none

/-- Why a text is no number within some bounds, or the number. A sign is read where the bounds
allow it; the first character that goes wrong decides. -/
def readNumber (low high : Int) (s : String) : Except String Int :=
  let negative := low < 0 && s.toList.head? == some '-'
  let digits := match s.toList with
    | '+' :: r => r
    | '-' :: r => if negative then r else s.toList
    | cs => cs
  if s.isEmpty then .error "cannot parse integer from empty string"
  else if digits.isEmpty then .error "invalid digit found in string"
  else
    digits.foldlM (fun n c =>
      if !c.isDigit then .error "invalid digit found in string"
      else
        let d : Int := c.toNat - '0'.toNat
        let n := if negative then n * 10 - d else n * 10 + d
        if n < low then .error "number too small to fit in target type"
        else if high < n then .error "number too large to fit in target type"
        else .ok n) 0

/-- Why a text is no size of 32 bits, or the size. -/
def readSize (s : String) : Except String UInt32 :=
  match readNumber (-twoTo 63) (twoTo 63 - 1) s with
  | .error e => .error e
  | .ok n =>
    if 0 ≤ n ∧ n < twoTo 32 then .ok n.toNat.toUInt32
    else .error (s ++ " is not in 0..=4294967295")

/-- Why a text is no number of seconds, or the number. -/
def readSeconds (s : String) : Except String Nat :=
  (readNumber 0 (twoTo 64 - 1) s).map Int.toNat

/-- The reason why a text cannot be read. -/
def reason {α : Type} (read : String → Except String α) (s : String) : Option String :=
  match read s with
  | .error e => some e
  | .ok _ => none

end SharedSegment.Command
