import SharedSegment.Command.Ending
import SharedSegment.Host.Direct
import SharedSegment.Run
import SharedSegment.Scenario.Act
import SharedSegment.Scenario.Handle

/-!
# Outcomes

What an act results in, and what it changes for the acts after it. A report is a result with what
was put out on the way to it.
-/

namespace SharedSegment.Scenario

/-- What an act results in. -/
inductive Result where
  | ok
  | refused (r : Refusal)
  /-- The thread waits. -/
  | blocked
  /-- The properties of a handle. -/
  | info (x : Handle)
  | failed (e : SegmentError)
  | text (s : String)
  | truth (b : Bool)
  | status (s : LockStatus)
  /-- The status of a guard, if there is one. -/
  | guarded (s : Option LockStatus)
  /-- The status of a guard at the end of a wait. -/
  | waited (s : LockStatus)
  | bytes (bs : List UInt8)
  | wrote (n : Nat)
  /-- A command line has ended; one that was killed has no ending. -/
  | ended (e : Option Command.Ending)
  /-- A command line holds on. -/
  | held
  | storeFailed (e : Errno)
  | description (d : Description)
  | names (l : List String)
deriving DecidableEq

/-- A guard on a facade. -/
structure Guard where
  owner : ThreadId
  name : String
  /-- The name of the facade's handle. -/
  handle : String
  status : LockStatus
deriving DecidableEq

/-- What an act changes for the acts after it. -/
inductive Effect where
  | none
  | setHandle (h : String) (x : Handle)
  | setGuard (g : Guard)
  | removeGuard (g : Guard)
deriving DecidableEq

/-- What a call ends with. -/
structure Outcome where
  result : Result
  effect : Effect
deriving DecidableEq

/-- A result, and what was put out on the way to it. -/
structure Report where
  result : Result
  outputs : List Output
deriving DecidableEq

namespace Report

def silent (r : Result) : Report := ⟨r, []⟩

def log (r : Report) : List Event :=
  r.outputs.filterMap fun
    | .log e => some e
    | .line _ => none

def text (r : Report) : String :=
  String.join (r.outputs.map fun o => o.text ++ "\n")

end Report
end SharedSegment.Scenario
