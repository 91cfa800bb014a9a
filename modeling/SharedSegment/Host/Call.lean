import SharedSegment.Errno

/-!
# Calls that may fail

The calls of the host by name, and faults that make chosen ones of them fail. A fault names a call,
which of its occurrences fails, and the error number; the failing call does nothing.
-/

namespace SharedSegment

/-- A call of the host that may fail. -/
inductive Call where
  | shmOpen
  | shmUnlink
  | ftruncate
  | stat
  | mmap
  | munmap
  | mlock
  | mutexattrInit
  | mutexattrSetpshared
  | mutexattrSetrobust
  | mutexattrSettype
  | mutexInit
  | condattrInit
  | condattrSetclock
  | condattrSetpshared
  | condInit
  | mutexLock
  | mutexUnlock
  | mutexConsistent
  | mutexDestroy
  | condWait
  | condBroadcast
  | condDestroy
deriving DecidableEq

namespace Call

def all : List Call :=
  [.shmOpen, .shmUnlink, .ftruncate, .stat, .mmap, .munmap, .mlock, .mutexattrInit,
    .mutexattrSetpshared, .mutexattrSetrobust, .mutexattrSettype, .mutexInit, .condattrInit,
    .condattrSetclock, .condattrSetpshared, .condInit, .mutexLock, .mutexUnlock,
    .mutexConsistent, .mutexDestroy, .condWait, .condBroadcast, .condDestroy]

def name : Call → String
  | .shmOpen => "shm_open"
  | .shmUnlink => "shm_unlink"
  | .ftruncate => "ftruncate"
  | .stat => "stat"
  | .mmap => "mmap"
  | .munmap => "munmap"
  | .mlock => "mlock"
  | .mutexattrInit => "pthread_mutexattr_init"
  | .mutexattrSetpshared => "pthread_mutexattr_setpshared"
  | .mutexattrSetrobust => "pthread_mutexattr_setrobust"
  | .mutexattrSettype => "pthread_mutexattr_settype"
  | .mutexInit => "pthread_mutex_init"
  | .condattrInit => "pthread_condattr_init"
  | .condattrSetclock => "pthread_condattr_setclock"
  | .condattrSetpshared => "pthread_condattr_setpshared"
  | .condInit => "pthread_cond_init"
  | .mutexLock => "pthread_mutex_lock"
  | .mutexUnlock => "pthread_mutex_unlock"
  | .mutexConsistent => "pthread_mutex_consistent"
  | .mutexDestroy => "pthread_mutex_destroy"
  | .condWait => "pthread_cond_wait"
  | .condBroadcast => "pthread_cond_broadcast"
  | .condDestroy => "pthread_cond_destroy"

def ofName? (s : String) : Option Call :=
  all.find? fun c => c.name == s

end Call

/-- One occurrence of a call that fails. -/
structure Fault where
  call : Call
  /-- Which occurrence fails, counted from one. -/
  nth : Nat
  errno : Errno
deriving DecidableEq

/-- The faults of a run and the calls it has made so far. -/
structure Faults where
  planned : List Fault
  made : List Call
deriving DecidableEq

namespace Faults

def none : Faults := ⟨[], []⟩

/-- The faults of a run that has made no call yet. -/
def plan (l : List Fault) : Faults := ⟨l, []⟩

/-- What happens to the next occurrence of a call: an error number if it fails. -/
def next? (f : Faults) (c : Call) : Option Errno :=
  (f.planned.find? fun x => x.call == c && x.nth == f.made.count c + 1).map Fault.errno

/-- The faults after one more occurrence of a call. -/
def after (f : Faults) (c : Call) : Faults :=
  { f with made := c :: f.made }

/-- Whether a call that fails with an error number is made again. -/
def isRetried (c : Call) (e : Errno) : Bool :=
  c == .ftruncate && e == .eintr

/-- What comes of a call, made again as long as that is done. There are at most as many repetitions
as faults. -/
def meetWithin : Nat → Faults → Call → Option Errno × Faults
  | 0, f, c => (f.next? c, f.after c)
  | fuel + 1, f, c =>
    match f.next? c with
    | some e => if isRetried c e then meetWithin fuel (f.after c) c else (some e, f.after c)
    | Option.none => (Option.none, f.after c)

/-- What comes of a call: an error number if it fails. -/
def meet (f : Faults) (c : Call) : Option Errno × Faults :=
  meetWithin f.planned.length f c

end Faults
end SharedSegment
