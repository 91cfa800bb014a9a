import SharedSegment.Errno

/-!
# Shared mutexes

A mutex that lives in shared memory is owned by a thread. When its owner dies, the next thread to
take it is told so; if that thread gives it back without having made it consistent, nobody takes it
again. Taking a mutex that is owned puts a thread to sleep, also when it is the owner itself. A
mutex in blank memory was never set up: it works without owners.

Sleepers are woken in the order in which they fell asleep. A thread that comes new may take a free
mutex before them.
-/

namespace SharedSegment

abbrev ThreadId := Nat

/-- The state of a synchronization object in memory. -/
inductive Life where
  /-- Zero bytes. -/
  | blank
  /-- Set up and not yet taken down. -/
  | live
  /-- Taken down. -/
  | destroyed
deriving DecidableEq

/-- Who has a mutex. -/
inductive Hold where
  | free
  | held (owner : ThreadId)
  /-- Taken over from a dead owner, and not made consistent yet. -/
  | inconsistent (owner : ThreadId)
  /-- The owner is dead. -/
  | abandoned
  /-- Given back without having been made consistent. -/
  | lost
deriving DecidableEq

def Hold.owner? : Hold → Option ThreadId
  | .held t | .inconsistent t => some t
  | .free | .abandoned | .lost => none

/-- A mutex in shared memory. -/
structure Mutex where
  life : Life
  hold : Hold
  /-- The threads that sleep until they can take it, longest first. -/
  queue : List ThreadId
deriving DecidableEq

/-- What comes of a call that may have to wait, on an object of some type. -/
inductive Attempt (α : Type) where
  | answer (result : Except Errno Unit) (object : α)
  | sleep (object : α)

namespace Mutex

def blank : Mutex := ⟨.blank, .free, []⟩

/-- A mutex that was just set up. -/
def fresh : Mutex := ⟨.live, .free, []⟩

/-- Whether a thread sleeps on a mutex. -/
def isQueued (m : Mutex) (t : ThreadId) : Bool :=
  m.queue.contains t

/-- A mutex on which one thread more sleeps. -/
def enqueue (m : Mutex) (t : ThreadId) : Mutex :=
  if m.isQueued t then m else { m with queue := m.queue ++ [t] }

/-- A mutex on which a thread does not sleep any more. -/
def dequeue (m : Mutex) (t : ThreadId) : Mutex :=
  { m with queue := m.queue.erase t }

/-- Whether a thread may take a mutex that is not owned. -/
def isTurn (m : Mutex) (t : ThreadId) : Bool :=
  !m.isQueued t || m.queue.head? == some t

/-- A mutex that a thread has taken. -/
def take (m : Mutex) (t : ThreadId) (hold : Hold) : Mutex :=
  { m.dequeue t with hold }

/-- A thread takes a mutex, or tries again after having slept. -/
def lock (m : Mutex) (t : ThreadId) : Attempt Mutex :=
  -- Whoever slept before the mutex was taken down has passed this check already.
  if m.life = .destroyed ∧ !m.isQueued t then .answer (.error .einval) m
  else
    match m.hold with
    | .free =>
      if m.isTurn t then .answer (.ok ()) (m.take t (.held t)) else .sleep m
    | .abandoned =>
      if m.isTurn t then .answer (.error .eownerdead) (m.take t (.inconsistent t)) else .sleep m
    | .lost => .answer (.error .enotrecoverable) (m.dequeue t)
    | .held _ | .inconsistent _ => .sleep (m.enqueue t)

def unlock (m : Mutex) (t : ThreadId) : Except Errno Unit × Mutex :=
  match m.life with
  | .destroyed => (.error .einval, m)
  | .blank => (.ok (), { m with hold := .free })
  | .live =>
    if m.hold = .held t then (.ok (), { m with hold := .free })
    else if m.hold = .inconsistent t then (.ok (), { m with hold := .lost })
    else (.error .eperm, m)

/-- Makes a mutex consistent that was taken over from a dead owner. -/
def makeConsistent (m : Mutex) : Except Errno Unit × Mutex :=
  match m.life, m.hold with
  | .blank, _ => (.error .einval, m)
  | _, .inconsistent t => (.ok (), { m with hold := .held t })
  | _, _ => (.error .einval, m)

/-- Takes a mutex down. Its sleepers sleep on. -/
def destroy (m : Mutex) : Except Errno Unit × Mutex :=
  if m.life = .blank ∧ m.hold ≠ .free then (.error .ebusy, m)
  else (.ok (), { m with life := .destroyed })

/-- A thread dies: what it holds has no owner any more, and it does not sleep. -/
def bury (m : Mutex) (t : ThreadId) : Mutex :=
  -- A mutex in blank memory knows no owners, so that nobody is told.
  let hold := if m.life ≠ .blank ∧ m.hold.owner? = some t then .abandoned else m.hold
  { m.dequeue t with hold }

end Mutex
end SharedSegment
