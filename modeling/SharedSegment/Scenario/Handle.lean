import SharedSegment.Facade

/-!
# Handles of either kind

A scenario works with facades and with segments themselves. What both can do, a handle can do.
-/

namespace SharedSegment.Scenario

/-- A handle of either kind. -/
inductive Handle where
  | facade (f : Facade)
  | segment (s : Segment)
deriving DecidableEq

namespace Handle

def size : Handle → UInt32
  | .facade f => f.size
  | .segment s => s.size

def isValid : Handle → Bool
  | .facade f => f.isValid
  | .segment s => s.isValid

/-- The mapping that the payload lies in. -/
def data : Handle → Option MappingId
  | .facade f => f.data
  | .segment s => s.mapping

def lock : Handle → Program LockStatus
  | .facade f => f.lock
  | .segment s => s.lock

def unlock : Handle → Program Unit
  | .facade f => f.unlock
  | .segment s => s.unlock

def wait : Handle → Program Unit
  | .facade f => f.wait
  | .segment s => s.wait

def notifyAll : Handle → Program Unit
  | .facade f => f.notifyAll
  | .segment s => s.notifyAll

def drop : Handle → Program Unit
  | .facade f => f.drop
  | .segment s => do
    let _ ← s.destroy
    return ()

end Handle
end SharedSegment.Scenario
