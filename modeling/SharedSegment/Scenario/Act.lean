import SharedSegment.Config

/-!
# Acts

What a thread of a scenario can be told to do, and why it may refuse.
-/

namespace SharedSegment.Scenario

/-- How a handle is opened. -/
inductive Via where
  /-- As a facade, which is a handle also without a segment. -/
  | facade (c : Option Config)
  /-- As a facade, if it has a segment. -/
  | attempt (c : Config)
  /-- As a segment that is made. -/
  | create (c : Config)
  /-- As a segment that is found. -/
  | attach (c : Config)
deriving DecidableEq

/-- What is done with a handle. -/
inductive Operation where
  | info
  | debug
  | lock
  | unlock
  | wait
  | notifyAll
  /-- Waits while the lock is held already. -/
  | waitLocked
  | read (off : Nat) (len : Option Nat)
  | write (off : Nat) (bytes : List UInt8)
  | drop
  /-- Tears a segment down, whose handle stays. -/
  | destroy
  /-- Takes the lock for a guard of some name. -/
  | guard (g : String)
  /-- Something that no handle can do. -/
  | other
deriving DecidableEq

namespace Operation

/-- Whether an operation needs a handle for itself. -/
def isExclusive : Operation → Bool
  | .drop | .destroy | .write .. => true
  | _ => false

end Operation

/-- What is done with a guard. -/
inductive GuardOperation where
  | status
  | read (off : Nat) (len : Option Nat)
  | write (off : Nat) (bytes : List UInt8)
  | wait
  | drop
deriving DecidableEq

/-- What is done with the store directly. -/
inductive StoreAct where
  | put (file : String) (length : Nat) (sizeField : Option UInt32) (off : Nat)
      (bytes : List UInt8)
  | resize (file : String) (length : Nat)
  | remove (file : String)
  | makeDirectory (file : String)
  | makeLink (file target : String)
  | read (file : String) (off : Nat) (len : Option Nat)
  | describe (file : String)
  | list
deriving DecidableEq

/-- What a thread can be told to do. -/
inductive Act where
  | openHandle (h raw : String) (size : UInt32) (via : Via)
  | onHandle (h : String) (op : Operation)
  | onGuard (g : String) (op : GuardOperation)
  /-- Whether two facades have the same payload. -/
  | sameData (a b : String)
  /-- The thread ends as if its process crashed. -/
  | die
  /-- Some threads each add one to the counter in a segment, some times. -/
  | hammer (raw : String) (threads times : Nat)
  | setToggle (value : Option String)
  | putFile (path : String) (content : List UInt8)
  /-- Runs the command line, while a facade may be notified all the time. -/
  | command (words : List String) (notify : Option String) (logs : Bool)
  /-- Starts the command line, until it ends or holds on. -/
  | start (p : String) (words : List String) (logs : Bool)
  /-- Interrupts or kills what was started. -/
  | stop (p : String) (kill : Bool)
  | store (a : StoreAct)
deriving DecidableEq

/-- Why an act is refused. -/
inductive Refusal where
  | threadBlocked
  | noHandle
  | handleExists
  | noGuard
  | guardExists
  | noProgram
  | inUse
  | unfit
deriving DecidableEq

def Refusal.message : Refusal → String
  | .threadBlocked => "thread is blocked"
  | .noHandle => "no such handle"
  | .handleExists => "handle exists"
  | .noGuard => "no such guard"
  | .guardExists => "guard exists"
  | .noProgram => "no such program"
  | .inUse => "in use"
  | .unfit => "not for this handle"

end SharedSegment.Scenario
