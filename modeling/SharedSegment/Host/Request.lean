import SharedSegment.Config
import SharedSegment.Host.Call
import SharedSegment.Name

/-!
# Requests

What a program asks of its host, one small step at a time, and the type of the answer to each
request. Open files and mappings are known by number. Waiting on a condition is two requests:
parking, which gives the mutex back in the same step, and then being woken and having the mutex
again.
-/

namespace SharedSegment

/-- An open file, by the order in which files were opened. -/
abbrev FileId := Nat

/-- A mapping, by the order in which mappings were made. -/
abbrev MappingId := Nat

/-- What a program asks of its host. -/
inductive Request where
  /-- Makes an object under a name that is bound to nothing. -/
  | openNew (name : Name) (mode : UInt32)
  /-- Opens the object that a name is bound to. -/
  | openExisting (name : Name)
  /-- Takes the binding of a name away. -/
  | unlink (name : Name)
  /-- Sets the length of an open object. -/
  | resize (file : FileId) (length : Nat)
  /-- The length of an open object. -/
  | length (file : FileId)
  | close (file : FileId)
  /-- Maps the first bytes of an open object. -/
  | map (file : FileId) (length : Nat)
  | unmap (mapping : MappingId)
  /-- Keeps a mapping in physical memory. -/
  | pin (mapping : MappingId)
  /-- The size in the header. -/
  | loadSize (mapping : MappingId)
  /-- Publishes a size in the header. -/
  | storeSize (mapping : MappingId) (size : UInt32)
  /-- Some bytes of the object. -/
  | read (mapping : MappingId) (off len : Nat)
  /-- The bytes before the first zero. -/
  | readText (mapping : MappingId) (off len : Nat)
  | write (mapping : MappingId) (off : Nat) (bytes : Array UInt8)
  /-- Writes zeros. -/
  | clear (mapping : MappingId) (off len : Nat)
  | mutexattrInit
  | mutexattrSetpshared
  | mutexattrSetrobust
  | mutexattrSettype
  | mutexattrDestroy
  | mutexInit (mapping : MappingId)
  | mutexDestroy (mapping : MappingId)
  | lock (mapping : MappingId)
  | unlock (mapping : MappingId)
  | makeConsistent (mapping : MappingId)
  | condattrInit
  | condattrSetclock
  | condattrSetpshared
  | condattrDestroy
  | condInit (mapping : MappingId)
  | condDestroy (mapping : MappingId)
  /-- Gives the mutex back and waits for a broadcast from then on. -/
  | park (mapping : MappingId)
  /-- Waits until woken, and takes the mutex again. -/
  | awake (mapping : MappingId)
  | broadcast (mapping : MappingId)
  /-- Waits for an interrupt, or for some seconds if there are any. -/
  | hold (seconds : Option Nat)
deriving DecidableEq

namespace Request

/-- The type of the answer to a request. -/
def Answer : Request → Type
  | .openNew .. | .openExisting .. | .length .. | .map .. => Except Errno Nat
  | .loadSize .. => UInt32
  | .read .. | .readText .. => List UInt8
  | .close .. | .storeSize .. | .write .. | .clear .. | .hold .. => Unit
  | .unlink .. | .resize .. | .unmap .. | .pin .. | .mutexattrInit | .mutexattrSetpshared
  | .mutexattrSetrobust | .mutexattrSettype | .mutexattrDestroy | .mutexInit .. | .mutexDestroy ..
  | .lock .. | .unlock .. | .makeConsistent .. | .condattrInit | .condattrSetclock
  | .condattrSetpshared | .condattrDestroy | .condInit .. | .condDestroy .. | .park .. | .awake ..
  | .broadcast .. => Except Errno Unit

/-- The call that a request makes, and its answer when that call fails. Giving attributes up is no
such call: it may fail, and nobody looks whether it has. -/
def call? : (r : Request) → Option (Call × (Errno → r.Answer))
  | .openNew .. => some (.shmOpen, .error)
  | .openExisting .. => some (.shmOpen, .error)
  | .unlink .. => some (.shmUnlink, .error)
  | .resize .. => some (.ftruncate, .error)
  | .length .. => some (.stat, .error)
  | .map .. => some (.mmap, .error)
  | .unmap .. => some (.munmap, .error)
  | .pin .. => some (.mlock, .error)
  | .mutexattrInit => some (.mutexattrInit, .error)
  | .mutexattrSetpshared => some (.mutexattrSetpshared, .error)
  | .mutexattrSetrobust => some (.mutexattrSetrobust, .error)
  | .mutexattrSettype => some (.mutexattrSettype, .error)
  | .mutexInit .. => some (.mutexInit, .error)
  | .mutexDestroy .. => some (.mutexDestroy, .error)
  | .lock .. => some (.mutexLock, .error)
  | .unlock .. => some (.mutexUnlock, .error)
  | .makeConsistent .. => some (.mutexConsistent, .error)
  | .condattrInit => some (.condattrInit, .error)
  | .condattrSetclock => some (.condattrSetclock, .error)
  | .condattrSetpshared => some (.condattrSetpshared, .error)
  | .condInit .. => some (.condInit, .error)
  | .condDestroy .. => some (.condDestroy, .error)
  | .park .. => some (.condWait, .error)
  | .broadcast .. => some (.condBroadcast, .error)
  | .close .. | .loadSize .. | .storeSize .. | .read .. | .readText ..
  | .write .. | .clear .. | .mutexattrDestroy | .condattrDestroy | .awake .. | .hold .. => none

end Request
end SharedSegment
