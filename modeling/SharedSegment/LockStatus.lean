/-!
# Lock status

What an attempt to take the lock of a segment has come to.
-/

namespace SharedSegment

/-- The outcome of taking the lock. -/
inductive LockStatus where
  /-- The lock is held. -/
  | acquired
  /-- The lock is held, and its previous owner died with it: the payload may be half-written. -/
  | ownerDied
  /-- The lock is not held. -/
  | unavailable
deriving DecidableEq

namespace LockStatus

def all : List LockStatus := [.acquired, .ownerDied, .unavailable]

/-- Whether the caller owns the lock now. -/
def isHeld : LockStatus → Bool
  | .acquired | .ownerDied => true
  | .unavailable => false

def diagnostic : LockStatus → String
  | .acquired => "Acquired"
  | .ownerDied => "OwnerDied"
  | .unavailable => "Unavailable"

end LockStatus
end SharedSegment
