import Mathlib.Tactic.Lemma
import SharedSegment.Proofs.Ensures
import SharedSegment.Proofs.Session

/-!
# Taking the mutex over

What the calls on a live segment come to, as seen by the thread that makes them: how the thread
stands to the mutex, whether the mutex was left by a dead owner when it was taken, and what has been
recorded. A thread that takes the mutex from a dead owner may ask for nothing before it has made the
mutex consistent; that every call keeps to this is what saves the mutex.

`Truthful` says what a call may come to, and `ensures_handleCall` and `ensures_guardCall` that it
comes to nothing else.
-/

namespace SharedSegment
open Scenario

/-- How a thread stands to a mutex. -/
inductive Stand where
  | out
  | owner
  /-- It has the mutex from a dead owner and has not made it consistent yet. -/
  | heir
deriving DecidableEq

/-- What has come of a call so far. -/
structure Course where
  stand : Stand
  /-- For every time that the mutex was taken, whether a dead owner had left it. -/
  verdicts : List Bool
  records : List Event

/-- How taking a mutex is answered. -/
def takenFrom (died : Bool) : Except Errno Unit :=
  if died then .error .eownerdead else .ok ()

namespace Course

def take (c : Course) (died : Bool) : Course :=
  { c with stand := if died then .heir else .owner, verdicts := c.verdicts ++ [died] }

/-- The mutex has been taken and made consistent, and a dead owner has been recorded. -/
def settle (c : Course) (died : Bool) (e : Event) : Course :=
  ⟨.owner, c.verdicts ++ [died], c.records ++ if died then [e] else []⟩

def record (c : Course) (e : Event) : Course :=
  { c with records := c.records ++ [e] }

end Course

/-- How the users of a live mutex and their host behave, while no call fails by itself: the mutex is
given back only by its owner, and whoever has it from a dead owner makes it consistent first. -/
def Protocol.ownership (Sees : MappingId → Prop) : Protocol Course where
  Permits c
    | .lock m | .awake m | .park m | .unlock m | .broadcast m => Sees m ∧ c.stand ≠ .heir
    | .makeConsistent m => Sees m ∧ c.stand = .heir
    | _ => False
  Answers c
    | .lock _, a, c' | .awake _, a, c' =>
      c.stand = .out ∧ ∃ died, a = takenFrom died ∧ c' = c.take died
    | .park _, a, c' | .unlock _, a, c' =>
      c.stand = .owner ∧ a = .ok () ∧ c' = { c with stand := .out } ∨
      c.stand = .out ∧ a = .error .eperm ∧ c' = c
    | .makeConsistent _, a, c' => a = .ok () ∧ c' = { c with stand := .owner }
    | .broadcast _, a, c' => a = .ok () ∧ c' = c
    | _, _, _ => False
  tells c
    | .log e => c.record e
    | .line _ => c

/-- No answer that the protocol knows tells of a lost mutex. -/
lemma ownership_errno_ne {Sees : MappingId → Prop} {c c' : Course} {r : Request} {a : r.Answer}
    (ans : (Protocol.ownership Sees).Answers c r a c') :
    r.failure? a ≠ some .enotrecoverable := by
  cases r with
  | lock | awake =>
    obtain ⟨-, died, rfl, -⟩ := ans
    cases died <;> nofun
  | park | unlock => obtain ⟨-, rfl, -⟩ | ⟨-, rfl, -⟩ := ans <;> nofun
  | makeConsistent | broadcast =>
    obtain ⟨rfl, -⟩ := ans
    nofun
  | _ => cases ans

/-- The status of a lock that was taken. -/
def LockStatus.takenFrom (died : Bool) : LockStatus :=
  if died then .ownerDied else .acquired

section
variable {Sees : MappingId → Prop} {m : MappingId} {c : Course} {s : Segment}

/-- Whoever has taken the mutex makes it consistent if need be. -/
lemma ensures_acquired (sees : Sees m) (call : Call) (died : Bool) :
    (Header.acquired m call (takenFrom died)).Ensures (.ownership Sees)
      (fun r c' => r = .ok (.takenFrom died) ∧ c' = { c.take died with stand := .owner })
      (c.take died) := by
  cases died with
  | false => exact ⟨rfl, rfl⟩
  | true =>
    refine ⟨⟨sees, rfl⟩, ?_⟩
    rintro a c' ⟨rfl, rfl⟩
    exact ⟨rfl, rfl⟩

/-- A mutex that was taken is taken for good, and a dead owner recorded. -/
lemma ensures_settle (e : Event) (died : Bool) :
    (s.settle e (.ok (.takenFrom died))).Ensures (.ownership Sees)
      (fun st c' => st = .takenFrom died ∧ c' = c.settle died e)
      { c.take died with stand := .owner } := by
  cases died with
  | false =>
    refine ⟨rfl, ?_⟩
    simp [Course.take, Course.settle]
  | true => exact ⟨rfl, rfl⟩

lemma ensures_lock (em : s.mapping = some m) (sees : Sees m) (ready : c.stand ≠ .heir) :
    s.lock.Ensures (.ownership Sees)
      (fun st c' => c.stand = .out ∧ ∃ died, st = .takenFrom died ∧
        c' = c.settle died (.ownerDied s.name s.flavor)) c := by
  unfold Segment.lock
  rw [em]
  refine ⟨⟨sees, ready⟩, ?_⟩
  rintro a c' ⟨out, died, rfl, rfl⟩
  refine (ensures_acquired sees .mutexLock died).bind ?_
  rintro r c' ⟨rfl, rfl⟩
  refine (ensures_settle _ died).mono ?_
  rintro st c' ⟨rfl, rfl⟩
  exact ⟨out, died, rfl, rfl⟩

/-- A thread that has the mutex gives it back; any other is told that it cannot. -/
lemma ensures_unlock (em : s.mapping = some m) (sees : Sees m) (ready : c.stand ≠ .heir) :
    s.unlock.Ensures (.ownership Sees)
      (fun _ c' => c.stand = .owner ∧ c' = { c with stand := .out } ∨
        c.stand = .out ∧ c' = c.record (.syncFailed s.name s.flavor .mutexUnlock .eperm)) c := by
  unfold Segment.unlock
  rw [em]
  refine ⟨⟨sees, ready⟩, ?_⟩
  rintro a c' (⟨own, rfl, rfl⟩ | ⟨out, rfl, rfl⟩)
  · exact .inl ⟨own, rfl⟩
  · exact .inr ⟨out, rfl⟩

/-- A thread that has the mutex has it again at the end of a wait; any other cannot wait. -/
lemma ensures_waitLocked (em : s.mapping = some m) (sees : Sees m) (ready : c.stand ≠ .heir) :
    s.waitLocked.Ensures (.ownership Sees)
      (fun st c' =>
        (c.stand = .owner ∧ ∃ died, st = .takenFrom died ∧
          c' = c.settle died (.ownerDiedInWait s.name s.flavor)) ∨
        (c.stand = .out ∧ st = .unavailable ∧
          c' = c.record (.syncFailed s.name s.flavor .condWait .eperm))) c := by
  unfold Segment.waitLocked
  rw [em]
  refine ⟨⟨sees, ready⟩, ?_⟩
  rintro a c' (⟨own, rfl, rfl⟩ | ⟨out, rfl, rfl⟩)
  · refine ⟨⟨sees, by simp⟩, ?_⟩
    rintro a c' ⟨-, died, rfl, rfl⟩
    refine (ensures_acquired sees .condWait died).bind ?_
    rintro r c' ⟨rfl, rfl⟩
    refine (ensures_settle _ died).mono ?_
    rintro st c' ⟨rfl, rfl⟩
    exact .inl ⟨own, died, rfl, rfl⟩
  · exact .inr ⟨out, rfl, rfl⟩

/-- A wait takes the mutex twice and leaves it free. -/
lemma ensures_wait (em : s.mapping = some m) (sees : Sees m) (ready : c.stand ≠ .heir) :
    s.wait.Ensures (.ownership Sees)
      (fun _ c' => c.stand = .out ∧ ∃ died died',
        c' = { (c.settle died (.ownerDied s.name s.flavor)).settle died'
          (.ownerDiedInWait s.name s.flavor) with stand := .out }) c := by
  unfold Segment.wait
  refine (ensures_lock em sees ready).bind ?_
  rintro st c' ⟨out, died, rfl, rfl⟩
  have held : (LockStatus.takenFrom died).isHeld = true := by cases died <;> rfl
  rw [if_pos held]
  refine (ensures_waitLocked em sees (by simp [Course.settle])).bind ?_
  rintro st c' (⟨-, died', rfl, rfl⟩ | ⟨out', -⟩)
  · refine (ensures_unlock em sees (by simp [Course.settle])).mono ?_
    rintro _ c' (⟨-, rfl⟩ | ⟨out', -⟩)
    · exact ⟨out, died, died', rfl⟩
    · cases out'
  · cases out'

lemma ensures_notifyAll (em : s.mapping = some m) (sees : Sees m) (ready : c.stand ≠ .heir) :
    s.notifyAll.Ensures (.ownership Sees) (fun _ c' => c' = c) c := by
  unfold Segment.notifyAll
  rw [em]
  refine ⟨⟨sees, ready⟩, ?_⟩
  rintro a c' ⟨rfl, rfl⟩
  rfl

end

/-- What is done with a handle is done with its segment. -/
lemma Scenario.Handle.calls_of_segment {x : Handle} {s : Segment} (es : x.segment? = some s) :
    x.lock = s.lock ∧ x.unlock = s.unlock ∧ x.wait = s.wait ∧ x.notifyAll = s.notifyAll := by
  cases x with
  | facade f =>
    have ef : f.segment = some s := es
    exact ⟨Facade.onSegment_eq ef _ _, Facade.onSegment_eq ef _ _, Facade.onSegment_eq ef _ _,
      Facade.onSegment_eq ef _ _⟩
  | segment s' =>
    cases es
    exact ⟨rfl, rfl, rfl, rfl⟩

/-- Whether an act only locks, waits or notifies. -/
def Scenario.Act.isSync : Act → Bool
  | .onHandle _ .lock | .onHandle _ .unlock | .onHandle _ .wait | .onHandle _ .waitLocked
  | .onHandle _ .notifyAll | .onHandle _ (.guard _) | .onGuard _ .wait | .onGuard _ .drop => true
  | _ => false

/-- What is recorded of a mutex that was taken. -/
def recordOf (died : Bool) (e : Event) : List Event :=
  if died then [e] else []

/-- What a call on a segment may come to, by whether its thread had the mutex when it began: for
every time that it took the mutex, whether a dead owner had left it, what it recorded, and its
result. -/
inductive Truthful (s : Segment) : Act → Bool → List Bool → List Event → Result → Prop where
  | lock {h died} :
    Truthful s (.onHandle h .lock) false [died] (recordOf died (.ownerDied s.name s.flavor))
      (.status (.takenFrom died))
  | guard {h g died} :
    Truthful s (.onHandle h (.guard g)) false [died]
      (recordOf died (.ownerDied s.name s.flavor)) (.guarded (some (.takenFrom died)))
  | wait {h died died'} :
    Truthful s (.onHandle h .wait) false [died, died']
      (recordOf died (.ownerDied s.name s.flavor) ++
        recordOf died' (.ownerDiedInWait s.name s.flavor)) .ok
  | waitLocked {h died} :
    Truthful s (.onHandle h .waitLocked) true [died]
      (recordOf died (.ownerDiedInWait s.name s.flavor)) (.status (.takenFrom died))
  | waitLocked_out {h} :
    Truthful s (.onHandle h .waitLocked) false []
      [.syncFailed s.name s.flavor .condWait .eperm] (.status .unavailable)
  | guardWait {g died} :
    Truthful s (.onGuard g .wait) true [died]
      (recordOf died (.ownerDiedInWait s.name s.flavor)) (.waited (.takenFrom died))
  | guardWait_out {g} :
    Truthful s (.onGuard g .wait) false []
      [.syncFailed s.name s.flavor .condWait .eperm] (.waited .unavailable)
  | unlock {h} :
    Truthful s (.onHandle h .unlock) true [] [] .ok
  | unlock_out {h} :
    Truthful s (.onHandle h .unlock) false []
      [.syncFailed s.name s.flavor .mutexUnlock .eperm] .ok
  | guardDrop {g} :
    Truthful s (.onGuard g .drop) true [] [] .ok
  | guardDrop_out {g} :
    Truthful s (.onGuard g .drop) false []
      [.syncFailed s.name s.flavor .mutexUnlock .eperm] .ok
  | notifyAll {h owner} :
    Truthful s (.onHandle h .notifyAll) owner [] [] .ok

/-- A call may end with an outcome. -/
structure MayEnd (s : Segment) (a : Act) (owner : Bool) (o : Outcome) (c : Course) : Prop where
  ready : c.stand ≠ .heir
  truthful : Truthful s a owner c.verdicts c.records o.result
  spares : o.effect.sparesHandles

section
variable {Sees : MappingId → Prop} {m : MappingId} {stand : Stand} {s : Segment}

/-- Calls on handles come to what they may. -/
theorem ensures_handleCall {t h x op p} (es : x.segment? = some s) (em : s.mapping = some m)
    (sees : Sees m) (ready : stand ≠ .heir) (sync : (Act.onHandle h op).isSync)
    (ep : handleCall? t h x op = some p) :
    p.Ensures (.ownership Sees) (MayEnd s (.onHandle h op) (stand == .owner)) ⟨stand, [], []⟩ := by
  obtain ⟨lock, unlock, wait, notifyAll⟩ := Handle.calls_of_segment es
  cases op with
  | lock =>
    have eq : p = giving s.lock .status := by
      rw [← lock]
      cases x <;> exact (Option.some.inj ep).symm
    subst eq
    refine (ensures_lock em sees ready).bind ?_
    rintro st c' ⟨rfl, died, rfl, rfl⟩
    exact ⟨nofun, .lock, rfl⟩
  | unlock =>
    have eq : p = giving s.unlock fun _ => .ok := by
      rw [← unlock]
      cases x <;> exact (Option.some.inj ep).symm
    subst eq
    refine (ensures_unlock em sees ready).bind ?_
    rintro _ c' (⟨rfl, rfl⟩ | ⟨rfl, rfl⟩)
    · exact ⟨nofun, .unlock, rfl⟩
    · exact ⟨nofun, .unlock_out, rfl⟩
  | wait =>
    have eq : p = giving s.wait fun _ => .ok := by
      rw [← wait]
      cases x <;> exact (Option.some.inj ep).symm
    subst eq
    refine (ensures_wait em sees ready).bind ?_
    rintro _ c' ⟨rfl, died, died', rfl⟩
    exact ⟨nofun, .wait, rfl⟩
  | notifyAll =>
    have eq : p = giving s.notifyAll fun _ => .ok := by
      rw [← notifyAll]
      cases x <;> exact (Option.some.inj ep).symm
    subst eq
    refine (ensures_notifyAll em sees ready).bind ?_
    rintro _ c' rfl
    exact ⟨ready, .notifyAll, rfl⟩
  | waitLocked =>
    cases x with
    | facade f => cases ep
    | segment s =>
      cases es
      cases ep
      refine (ensures_waitLocked em sees ready).bind ?_
      rintro st c' (⟨rfl, died, rfl, rfl⟩ | ⟨rfl, rfl, rfl⟩)
      · exact ⟨nofun, .waitLocked, rfl⟩
      · exact ⟨nofun, .waitLocked_out, rfl⟩
  | guard g =>
    cases x with
    | segment s => cases ep
    | facade f =>
      cases ep
      change f.lock = s.lock at lock
      rw [guardCall, Program.bind_eq, Facade.guard, Program.bind_eq, lock, Program.bind_assoc]
      refine (ensures_lock em sees ready).bind ?_
      rintro st c' ⟨rfl, died, rfl, rfl⟩
      cases died with
      | false => exact ⟨nofun, .guard, rfl⟩
      | true => exact ⟨nofun, .guard, rfl⟩
  | _ => cases sync

/-- Calls on guards come to what they may. -/
theorem ensures_guardCall {x : Guard} {f op g} (es : f.segment = some s) (em : s.mapping = some m)
    (sees : Sees m) (ready : stand ≠ .heir) (sync : (Act.onGuard g op).isSync) :
    (guardOperationCall x f op).Ensures (.ownership Sees)
      (MayEnd s (.onGuard g op) (stand == .owner)) ⟨stand, [], []⟩ := by
  cases op with
  | wait =>
    have wait : f.guardWait x.status = s.waitLocked := Facade.onSegment_eq es _ _
    rw [guardOperationCall, Program.bind_eq, wait]
    refine (ensures_waitLocked em sees ready).bind ?_
    rintro st c' (⟨rfl, died, rfl, rfl⟩ | ⟨rfl, rfl, rfl⟩)
    · exact ⟨nofun, .guardWait, rfl⟩
    · exact ⟨nofun, .guardWait_out, rfl⟩
  | drop =>
    have unlock : f.unlock = s.unlock := Facade.onSegment_eq es _ _
    rw [guardOperationCall, Program.bind_eq, unlock]
    refine (ensures_unlock em sees ready).bind ?_
    rintro _ c' (⟨rfl, rfl⟩ | ⟨rfl, rfl⟩)
    · exact ⟨nofun, .guardDrop, rfl⟩
    · exact ⟨nofun, .guardDrop_out, rfl⟩
  | _ => cases sync

end
end SharedSegment
