import SharedSegment.Host.Mutex

/-!
# Shared conditions

Threads park on a condition, giving back its mutex in the same step, until a broadcast wakes them
all. Only a broadcast wakes. A condition on which threads are parked cannot be taken down before
they are woken.
-/

namespace SharedSegment

/-- A condition in shared memory. -/
structure Condition where
  life : Life
  /-- The threads that wait for a broadcast. -/
  parked : List ThreadId
deriving DecidableEq

namespace Condition

def blank : Condition := ⟨.blank, []⟩

/-- A condition that was just set up. -/
def fresh : Condition := ⟨.live, []⟩

def park (c : Condition) (t : ThreadId) : Condition :=
  { c with parked := c.parked ++ [t] }

def broadcast (c : Condition) : Condition :=
  { c with parked := [] }

/-- Takes a condition down once nobody waits on it. -/
def destroy (c : Condition) : Attempt Condition :=
  if c.parked.isEmpty then .answer (.ok ()) { c with life := .destroyed } else .sleep c

/-- A thread dies and waits no more. -/
def bury (c : Condition) (t : ThreadId) : Condition :=
  { c with parked := c.parked.erase t }

end Condition
end SharedSegment
