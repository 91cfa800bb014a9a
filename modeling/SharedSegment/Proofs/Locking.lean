import SharedSegment.Proofs.Requests
import SharedSegment.Run

/-!
# Locking while no call fails

What comes of locking a segment when no call fails by itself, by the state of the mutex. A thread
that does not sleep on the mutex already is refused if and only if the mutex was taken down, or is
lost (`lock_unavailable_iff`).
-/

namespace SharedSegment

/-- What comes of an attempt by a thread that does not sleep on the mutex. -/
lemma Mutex.lock_of_awake {x : Mutex} {t : ThreadId} (awake : x.isQueued t = false) :
    x.lock t =
      if x.life = .destroyed then .answer (.error .einval) x
      else match x.hold with
        | .free => .answer (.ok ()) (x.take t (.held t))
        | .abandoned => .answer (.error .eownerdead) (x.take t (.inconsistent t))
        | .lost => .answer (.error .enotrecoverable) (x.dequeue t)
        | .held _ | .inconsistent _ => .sleep (x.enqueue t) := by
  have turn : x.isTurn t = true := by simp [isTurn, awake]
  unfold lock
  by_cases down : x.life = .destroyed
  · rw [if_pos down, if_pos ⟨down, by simp [awake]⟩]
  · rw [if_neg down, if_neg fun e => down e.1]
    cases x.hold with
    | free => exact if_pos turn
    | abandoned => exact if_pos turn
    | _ => rfl

section
variable {h : Host} {m : MappingId} {k : ObjectId} {o : Object} {g : Segment} {t : ThreadId}

/-- What comes of a lock, by how the host replies. -/
lemma run_lock (em : g.mapping = some m) :
    g.lock.run t .none [] h = match h.step t (.lock m) with
      | .done a h' => ((Header.acquired m .mutexLock a).bind
          (g.settle (.ownerDied g.name g.flavor))).run t (Faults.none.after .mutexLock) [] h'
      | .wait h' => (⟨.waiting (.lock m) fun a => (Header.acquired m .mutexLock a).bind
          (g.settle (.ownerDied g.name g.flavor)), Faults.none.after .mutexLock, []⟩, h') := by
  have asks : g.lock = .ask (.lock m) fun a =>
      (Header.acquired m .mutexLock a).bind (g.settle (.ownerDied g.name g.flavor)) := by
    unfold Segment.lock
    rw [em]
    rfl
  have spared : Faults.none.strike (.lock m) = (none, Faults.none.after .mutexLock) := rfl
  rw [asks, Program.run, spared]
  cases h.step t (.lock m) with
  | done a h' => rfl
  | wait h' => rfl

/-- Whoever takes the mutex from a dead owner makes it consistent and has it. -/
lemma run_acquired_of_dead (sees : h.under? m = some (k, o))
    (life : o.mutex.life = .live) (hold : o.mutex.hold = .inconsistent t) :
    (((Header.acquired m .mutexLock (.error .eownerdead)).bind
      (g.settle (.ownerDied g.name g.flavor))).run t (Faults.none.after .mutexLock) [] h).1.value? =
        some .ownerDied := by
  have mended : o.mutex.makeConsistent.1 = .ok () := by
    unfold Mutex.makeConsistent
    rw [life, hold]
  have replied := Host.step_makeConsistent (t := t) sees
  rw [mended] at replied
  have asks : Header.acquired m .mutexLock (.error .eownerdead) = .ask (.makeConsistent m) fun a =>
      (Program.logFailure a .stillInconsistent).bind fun _ => .ret (.ok .ownerDied) := rfl
  have spared : (Faults.none.after .mutexLock).strike (.makeConsistent m) =
      (none, (Faults.none.after .mutexLock).after .mutexConsistent) := rfl
  rw [asks, Program.bind, Program.run, spared]
  simp only [replied]
  rfl

/-- Locking is refused if and only if the mutex was taken down or is lost. -/
theorem lock_unavailable_iff (em : g.mapping = some m) (sees : h.under? m = some (k, o))
    (setUp : o.mutex.life ≠ .blank) (awake : o.mutex.isQueued t = false) :
    (g.lock.run t .none [] h).1.value? = some .unavailable ↔
      o.mutex.life = .destroyed ∨ o.mutex.hold = .lost := by
  have replied := Host.step_lock (t := t) sees
  rw [Mutex.lock_of_awake awake] at replied
  rw [run_lock em]
  by_cases down : o.mutex.life = .destroyed
  · rw [if_pos down] at replied
    rw [replied]
    exact iff_of_true rfl (.inl down)
  have live : o.mutex.life = .live := by
    cases el : o.mutex.life with
    | blank => exact absurd el setUp
    | live => rfl
    | destroyed => exact absurd el down
  rw [if_neg down] at replied
  rw [or_iff_right down]
  cases eh : o.mutex.hold with
  | free =>
    rw [eh] at replied
    rw [replied]
    exact iff_of_false nofun nofun
  | held | inconsistent =>
    rw [eh] at replied
    rw [replied]
    exact iff_of_false nofun nofun
  | abandoned =>
    rw [eh] at replied
    rw [replied]
    -- The thread becomes the owner before it asks for anything else.
    have taken : (h.setObject k (o.withMutex (o.mutex.take t (.inconsistent t)))).under? m =
        some (k, o.withMutex (o.mutex.take t (.inconsistent t))) := Host.under?_setObject sees
    have had := run_acquired_of_dead (g := g) (t := t) taken live rfl
    refine iff_of_false ?_ nofun
    intro refused
    cases had.symm.trans refused
  | lost =>
    rw [eh] at replied
    rw [replied]
    exact iff_of_true rfl rfl

end
end SharedSegment
