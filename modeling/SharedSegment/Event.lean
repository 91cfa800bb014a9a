import SharedSegment.Error
import SharedSegment.Flavor
import SharedSegment.Host.Call
import SharedSegment.Role

/-!
# Log events

What is worth recording while segments are used. An event knows its level, its sentence, the part
of the program that reports it, and its fields in order.
-/

namespace SharedSegment

/-- How grave an event is. -/
inductive Level where
  | error
  | warn
  | info
  | debug
deriving DecidableEq

def Level.label : Level → String
  | .error => "ERROR"
  | .warn => "WARN"
  | .info => "INFO"
  | .debug => "DEBUG"

/-- The value of a field. -/
inductive FieldValue where
  /-- A value that is shown as it is. -/
  | bare (s : String)
  /-- A text, which is quoted in lines. -/
  | text (s : String)
  | number (n : Nat)
deriving DecidableEq

def FieldValue.render : FieldValue → String
  | .bare s => s
  | .text s => Diagnostic.text s
  | .number n => toString n

/-- Something worth recording. -/
inductive Event where
  /-- Pages could not be pinned. -/
  | pinFailed (name : Name) (flavor : Flavor) (length : Nat) (errno : Errno)
  /-- A first creation failed; the name is freed and creation tried again. -/
  | retrying (name : Name) (flavor : Flavor) (errno : Errno)
  /-- The second creation succeeded. -/
  | reclaimed (name : Name) (flavor : Flavor)
  | created (name : Name) (flavor : Flavor) (size : UInt32)
  | attached (name : Name) (flavor : Flavor) (size : UInt32)
  /-- The mapping of the header alone could not be released. -/
  | probeKept (name : Name) (flavor : Flavor) (errno : Errno)
  /-- The lock was taken over from a dead owner. -/
  | ownerDied (name : Name) (flavor : Flavor)
  /-- The lock was taken over from a dead owner at the end of a wait. -/
  | ownerDiedInWait (name : Name) (flavor : Flavor)
  /-- A call on the synchronization objects failed. -/
  | syncFailed (name : Name) (flavor : Flavor) (call : Call) (errno : Errno)
  /-- A mutex could not be made consistent. -/
  | stillInconsistent (errno : Errno)
  | unmapFailed (name : Name) (flavor : Flavor) (errno : Errno)
  | unlinkFailed (name : Name) (flavor : Flavor) (errno : Errno)
  | released (name : Name) (flavor : Flavor) (role : Role)
  /-- A facade could not be opened. -/
  | unavailable (name : String) (role : Role) (flavor : Flavor) (error : SegmentError)
  /-- A creator gives its segment up. -/
  | removing (name : String)
  /-- A reader waits for a notification. -/
  | waiting (name : String)
  /-- A writer writes over what a dead one has left. -/
  | overwriting (name : String)
  /-- A text did not fit. -/
  | truncated (name : String) (written requested : Nat)
  | notified (name : String)
deriving DecidableEq

namespace Event

def level : Event → Level
  | .probeKept .. | .syncFailed .. | .stillInconsistent .. | .unmapFailed .. | .unlinkFailed ..
  | .unavailable .. => .error
  | .pinFailed .. | .retrying .. | .ownerDied .. | .ownerDiedInWait .. | .overwriting ..
  | .truncated .. => .warn
  | .reclaimed .. | .removing .. | .waiting .. => .info
  | .created .. | .attached .. | .released .. | .notified .. => .debug

def sentence : Event → String
  | .pinFailed .. => "Failed to lock shared memory into RAM"
  | .retrying .. => "Failed to create shared memory, removing existing object and retrying"
  | .reclaimed .. => "Reclaimed stale shared memory"
  | .created .. => "Created shared memory segment"
  | .attached .. => "Attached to shared memory segment"
  | .probeKept .. => "Failed to unmap provisional header mapping"
  | .ownerDied .. =>
    "Previous owner died holding the segment mutex; payload may be inconsistent"
  | .ownerDiedInWait .. => "Previous owner died holding the segment mutex during wait"
  | .syncFailed .. => "Synchronization call failed"
  | .stillInconsistent .. => "pthread_mutex_consistent failed"
  | .unmapFailed .. => "Failed to unmap shared memory"
  | .unlinkFailed .. => "Failed to unlink shared memory"
  | .released .. => "Released shared memory segment"
  | .unavailable .. => "Shared memory unavailable"
  | .removing .. => "Removing segment"
  | .waiting .. => "Waiting for notification"
  | .overwriting .. => "Overwriting payload left by a dead writer"
  | .truncated .. => "Text truncated to segment size"
  | .notified .. => "Notified waiters"

/-- The part of the program that reports an event. -/
def target : Event → String
  | .stillInconsistent .. => "shmlink_core::shm::header"
  | .unavailable .. => "shmlink_core::shm::segment"
  | .removing .. => "shmlink::commands::create"
  | .waiting .. => "shmlink::commands::read"
  | .overwriting .. | .truncated .. => "shmlink::commands::write"
  | .notified .. => "shmlink::commands::notify"
  | _ => "shmlink_core::shm::backend::mapped"

/-- The fields that most events begin with. -/
def heading (n : Name) (f : Flavor) : List (String × FieldValue) :=
  [("name", .bare n.text), ("backend", .text f.label)]

def errorField (e : Errno) : String × FieldValue :=
  ("error", .bare e.text)

/-- The fields of an event, in order. -/
def fields : Event → List (String × FieldValue)
  | .pinFailed n f len e => heading n f ++ [("len", .number len), errorField e]
  | .retrying n f e | .probeKept n f e | .unmapFailed n f e | .unlinkFailed n f e =>
    heading n f ++ [errorField e]
  | .reclaimed n f | .ownerDied n f | .ownerDiedInWait n f => heading n f
  | .created n f size | .attached n f size => heading n f ++ [("size", .number size.toNat)]
  | .syncFailed n f c e => heading n f ++ [("call", .text c.name), errorField e]
  | .stillInconsistent e => [errorField e]
  | .released n f r => heading n f ++ [("role", .bare r.label)]
  | .unavailable n r f e =>
    [("name", .bare n), ("role", .bare r.label), ("backend", .text f.label),
      ("error", .bare e.message)]
  | .removing n | .waiting n | .overwriting n | .notified n => [("name", .bare n)]
  | .truncated n written requested =>
    [("name", .bare n), ("written", .number written), ("requested", .number requested)]

def fieldText (f : String × FieldValue) : String :=
  f.1 ++ "=" ++ f.2.render

def line (e : Event) : String :=
  " ".intercalate (e.level.label :: (e.target ++ ":") :: e.sentence :: e.fields.map fieldText)

end Event
end SharedSegment
