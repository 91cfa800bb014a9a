import SharedSegment.Proofs.Ownership.Course
import SharedSegment.Proofs.Tenure

/-!
# The grasp of a call

What a call that locks, waits or unlocks comes to for the thread that makes it, whatever fails on
its way: whether the thread has the mutex then, and whether it has had it all along
(`Protocol.grasp`). What it is told goes with that, unless a lock that fails feigns success
(`Told`), and a wait leaves the thread without the mutex, unless it is denied its right
(`Segment.out_wait`).
-/

namespace SharedSegment

/-- How a thread stands to a mutex in the course of a call. -/
structure Grasp where
  stand : Stand
  /-- It has had the mutex from the beginning, and has not given it back. -/
  kept : Bool

namespace Grasp

/-- A thread takes a mutex. -/
def take (c : Grasp) (died : Bool) : Grasp :=
  { c with stand := if died then .heir else .owner }

/-- A thread makes a mutex consistent, if it has it from a dead owner. -/
def settle (c : Grasp) : Grasp :=
  { c with stand := if c.stand = .heir then .owner else c.stand }

/-- A thread gives a mutex back. -/
def drop : Grasp :=
  ⟨.out, false⟩

variable {c : Grasp}

lemma take_stand_ne (died : Bool) : (c.take died).stand ≠ .out := by
  cases died <;> nofun

lemma settle_stand_ne_heir : c.settle.stand ≠ .heir := by
  unfold settle
  split
  case isTrue => nofun
  case isFalse ready => exact ready

lemma settle_stand_iff : c.settle.stand = .out ↔ c.stand = .out := by
  unfold settle
  split
  case isTrue heir => simp [heir]
  case isFalse => rfl

end Grasp

/-- How the users of a mutex under a mapping and their host behave, whatever fails: if failing locks
are sincere, only who has the mutex is told so by one, and if rights are respected, whoever has the
mutex can give it back and make it consistent. -/
def Protocol.grasp (m : MappingId) (sincere respected : Prop) : Protocol Grasp where
  Permits c
    | .lock m' | .awake m' | .makeConsistent m' => m' = m
    | .park m' | .unlock m' => m' = m ∧ (respected → c.stand ≠ .heir)
    | _ => False
  Answers c
    | .lock _, a, c' | .awake _, a, c' =>
      c.stand = .out ∧ (∃ died, a = takenFrom died ∧ c' = c.take died) ∨
        c' = c ∧ (isTaken a → sincere → c.stand ≠ .out)
    | .park _, a, c' =>
      c.stand ≠ .out ∧ a = .ok () ∧ c' = .drop ∨
        c' = c ∧ ¬isGranted a ∧ (isTaken a → sincere → c.stand ≠ .out)
    | .unlock _, a, c' =>
      c.stand ≠ .out ∧ a = .ok () ∧ c' = .drop ∨
        c' = c ∧ ¬isGranted a ∧ (respected → c.stand = .out)
    | .makeConsistent _, _, c' => c' = c.settle ∨ ¬respected ∧ c' = c
    | _, _, _ => False
  tells c _ := c

/-- What an attempt to take the mutex has come to. Whoever is told of the mutex has it, and whoever
has it is told so or has had it all along. -/
structure Told (sincere respected : Prop) (c : Grasp) (status : LockStatus) (c' : Grasp) :
    Prop where
  truth : sincere → (c.kept ↔ c.stand ≠ .out) → (c'.stand ≠ .out ↔ status.isHeld ∨ c'.kept)
  ready : respected → c'.stand ≠ .heir

section
variable {sincere respected : Prop} {m : MappingId} {c : Grasp}
  {s : Segment}

/-- Who is told of the mutex makes it consistent if need be, and nobody else does anything. -/
lemma ensures_status (call : Call) (died : Event) (a : Except Errno Unit)
    (ready : respected → c.stand = .heir → a = .error .eownerdead) :
    ((Header.acquired m call a).bind (s.settle died)).Ensures (.grasp m sincere respected)
      (fun status c' => status.isHeld = isTaken a ∧ (c' = c ∨ isTaken a ∧ c' = c.settle) ∧
        (respected → c'.stand ≠ .heir)) c := by
  cases a with
  | ok =>
    refine ⟨rfl, .inl rfl, ?_⟩
    intro respects heir
    cases ready respects heir
  | error e =>
    by_cases dead : e = .eownerdead
    · subst dead
      refine ⟨rfl, ?_⟩
      intro a c' settled
      have ends : (c' = c ∨ isTaken (.error .eownerdead) ∧ c' = c.settle) ∧
          (respected → c'.stand ≠ .heir) := by
        obtain rfl | ⟨denied, rfl⟩ := settled
        · exact ⟨.inr ⟨rfl, rfl⟩, fun _ => Grasp.settle_stand_ne_heir⟩
        · exact ⟨.inl rfl, fun respects => absurd respects denied⟩
      cases a with
      | ok => exact ⟨rfl, ends⟩
      | error => exact ⟨rfl, ends⟩
    · have refused : isTaken (.error e) = false := decide_eq_false dead
      rw [Header.acquired, if_neg dead, refused]
      refine ⟨rfl, .inl rfl, ?_⟩
      intro respects heir
      cases ready respects heir
      exact dead rfl

lemma Grasp.out_iff {c' : Grasp} {taken : Prop} (settled : c' = c ∨ taken ∧ c' = c.settle) :
    (c'.stand = .out ↔ c.stand = .out) ∧ c'.kept = c.kept := by
  obtain rfl | ⟨-, rfl⟩ := settled
  · exact ⟨.rfl, rfl⟩
  · exact ⟨settle_stand_iff, rfl⟩

lemma Grasp.ready_take {died : Bool} (heir : (c.take died).stand = .heir) :
    takenFrom died = .error .eownerdead := by
  cases died with
  | false => cases heir
  | true => rfl

namespace Segment

/-- A thread that locks is told the truth, and stays as it was if it is told nothing of the
mutex. -/
lemma told_lock (em : s.mapping = some m) (ready : respected → c.stand ≠ .heir) :
    s.lock.Ensures (.grasp m sincere respected)
      (fun status c' => Told sincere respected c status c' ∧ (¬status.isHeld → c' = c)) c := by
  unfold lock
  rw [em]
  refine ⟨rfl, ?_⟩
  rintro a c' (⟨out, died, rfl, rfl⟩ | ⟨rfl, feigned⟩)
  · -- The mutex was taken.
    have taken : isTaken (takenFrom died) = true := by cases died <;> rfl
    refine (ensures_status .mutexLock _ _ fun _ => Grasp.ready_take).mono ?_
    rintro status c' ⟨held, settled, ready⟩
    rw [taken] at held
    refine ⟨⟨?_, ready⟩, fun refused => absurd held refused⟩
    intro _ _
    refine iff_of_true ?_ (.inl held)
    rw [Ne, (Grasp.out_iff settled).1]
    exact Grasp.take_stand_ne died
  · -- Nothing has become of it.
    refine (ensures_status .mutexLock _ a fun respects heir =>
      absurd heir (ready respects)).mono ?_
    rintro status c'' ⟨held, settled, ready⟩
    obtain ⟨out, kept⟩ := Grasp.out_iff settled
    refine ⟨⟨?_, ready⟩, ?_⟩
    · intro honest owned
      rw [Ne, out, held, kept, owned]
      exact ⟨.inr, fun told => told.elim (fun taken => feigned taken honest) id⟩
    · intro refused
      rw [held] at refused
      exact settled.resolve_right fun both => refused both.1

/-- A thread that waits is told the truth. -/
lemma told_waitLocked (em : s.mapping = some m) (ready : respected → c.stand ≠ .heir) :
    s.waitLocked.Ensures (.grasp m sincere respected) (Told sincere respected c) c := by
  unfold waitLocked
  rw [em]
  refine ⟨⟨rfl, ready⟩, ?_⟩
  rintro a c' (⟨own, rfl, rfl⟩ | ⟨rfl, refused, feigned⟩)
  · -- The mutex was given back, and the thread waits to have it again.
    refine ⟨rfl, ?_⟩
    rintro a c' (⟨-, died, rfl, rfl⟩ | ⟨rfl, feigned⟩)
    · have taken : isTaken (takenFrom died) = true := by cases died <;> rfl
      refine (ensures_status .condWait _ _ fun _ => Grasp.ready_take).mono ?_
      rintro status c' ⟨held, settled, ready⟩
      refine ⟨fun _ _ => iff_of_true ?_ (.inl (held.trans taken)), ready⟩
      rw [Ne, (Grasp.out_iff settled).1]
      exact Grasp.take_stand_ne died
    · refine (ensures_status .condWait _ a (by rintro _ ⟨⟩)).mono ?_
      rintro status c' ⟨held, settled, ready⟩
      obtain ⟨out, kept⟩ := Grasp.out_iff settled
      refine ⟨?_, ready⟩
      intro honest _
      rw [Ne, out, held, kept]
      refine iff_of_false (fun own => own rfl) ?_
      rintro (taken | ⟨⟨⟩⟩)
      exact feigned taken honest rfl
  · -- The wait was refused, and the thread has what it had.
    cases a with
    | ok => exact absurd rfl refused
    | error e =>
      refine (ensures_status .condWait _ (.error e) fun respects heir =>
        absurd heir (ready respects)).mono ?_
      rintro status c'' ⟨held, settled, ready⟩
      obtain ⟨out, kept⟩ := Grasp.out_iff settled
      refine ⟨?_, ready⟩
      intro honest owned
      rw [Ne, out, held, kept, owned]
      exact ⟨.inr, fun told => told.elim (fun taken => feigned taken honest) id⟩

/-- Whoever unlocks is without the mutex, unless it is denied its right. -/
lemma out_unlock (em : s.mapping = some m) (respects : respected) (ready : c.stand ≠ .heir) :
    s.unlock.Ensures (.grasp m sincere respected) (fun _ c' => c'.stand = .out) c := by
  unfold unlock
  rw [em]
  refine ⟨⟨rfl, fun _ => ready⟩, ?_⟩
  rintro a c' (⟨-, rfl, rfl⟩ | ⟨rfl, refused, out⟩)
  · exact rfl
  · cases a with
    | ok => exact absurd rfl refused
    | error => exact out respects

/-- Whoever waits without having the mutex is without it at the end. -/
lemma out_wait (em : s.mapping = some m) (respects : respected) (out : c.stand = .out) :
    s.wait.Ensures (.grasp m sincere respected) (fun _ c' => c'.stand = .out) c := by
  have ready : c.stand ≠ .heir := by simp [out]
  unfold wait
  refine (told_lock em fun _ => ready).bind ?_
  rintro status c' ⟨told, missed⟩
  by_cases held : status.isHeld
  · rw [if_pos held]
    refine (told_waitLocked em told.ready).bind ?_
    rintro _ c'' told
    exact out_unlock em respects (told.ready respects)
  · rw [if_neg held]
    cases missed held
    exact out

end Segment
end
end SharedSegment
