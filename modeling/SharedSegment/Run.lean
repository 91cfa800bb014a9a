import SharedSegment.Host
import SharedSegment.Program

/-!
# Running programs

A thread runs a program on a host until the program ends or the thread has to wait. A fault makes
the call it names fail without effect; every call counts once, however long the thread waits in it.
-/

namespace SharedSegment

/-- What running a program has come to. -/
inductive Progress (α : Type) where
  | ended (value : α)
  | waiting (r : Request) (next : r.Answer → Program α)

/-- A program under way: how far it is, the faults ahead of it, and what it has put out, the latest
first. -/
structure Running (α : Type) where
  progress : Progress α
  faults : Faults
  outputs : List Output

/-- What comes of the call of a request: its answer if it fails. -/
def Faults.strike (f : Faults) (r : Request) : Option r.Answer × Faults :=
  match r.call? with
  | some (c, failed) =>
    match f.meet c with
    | (some e, f) => (some (failed e), f)
    | (Option.none, f) => (Option.none, f)
  | Option.none => (Option.none, f)

/-- Runs a program as far as it goes. -/
def Program.run {α : Type} (t : ThreadId) :
    Program α → Faults → List Output → Host → Running α × Host
  | .ret a, f, out, h => (⟨.ended a, f, out⟩, h)
  | .put o rest, f, out, h => run t rest f (o :: out) h
  | .ask r next, f, out, h =>
    match f.strike r with
    -- A call that is made to fail does not reach the host.
    | (some a, f) => run t (next a) f out h
    | (Option.none, f) =>
      match h.step t r with
      | .done a h => run t (next a) f out h
      | .wait h => (⟨.waiting r next, f, out⟩, h)

namespace Running

variable {α : Type}

/-- The value of a program that has ended. -/
def value? (p : Running α) : Option α :=
  match p.progress with
  | .ended a => some a
  | .waiting .. => none

/-- What a program has put out, in order. -/
def output (p : Running α) : List Output :=
  p.outputs.reverse

def resume (t : ThreadId) (p : Running α) (h : Host) : Running α × Host :=
  match p.progress with
  | .ended _ => (p, h)
  | .waiting r next =>
    match h.step t r with
    | .done a h => (next a).run t p.faults p.outputs h
    | .wait h => (p, h)

/-- Ends the hold of a program that holds on, for a time or until it is interrupted. -/
def release (t : ThreadId) (p : Running α) (h : Host) : Running α × Host :=
  match p.progress with
  | .waiting (.hold _) next => (next ()).run t p.faults p.outputs h
  | _ => (p, h)

/-- How long a program holds on, if it does. -/
def hold? (p : Running α) : Option (Option Nat) :=
  match p.progress with
  | .waiting (.hold seconds) _ => some seconds
  | _ => none

end Running
end SharedSegment
