import SharedSegment.Proofs.Alone.Recognition
import SharedSegment.Proofs.Alone.Refusals
import SharedSegment.Proofs.Locking

/-!
# Visits

A visitor attaches to a segment, works on it, and lets it go. While no call fails and nobody comes
between, it finds a segment exactly if one is offered (`Facade.calm_tryOpen_zero`), and its facade
shows the object of that (`Facade.Visits`). A mutex that nobody owns is lent to it exactly if the
mutex is vacant (`Mutex.Lends`). What it does is done to the object, and letting go changes neither
the store nor any object.
-/

namespace SharedSegment
open Program

namespace Mutex

/-- A mutex can be taken at once. -/
def IsVacant (x : Mutex) : Prop :=
  x.life ≠ .destroyed ∧ (x.hold = .free ∨ x.hold = .abandoned)

/-- What taking a mutex comes to that nobody owns. Whoever has it then can give it back. -/
structure Lends (x : Mutex) (t : ThreadId) (status : LockStatus) (x' : Mutex) : Prop where
  held : status.isHeld ↔ x.IsVacant
  had : status.isHeld → x'.unlock t = (.ok (), { x' with hold := .free })
  life : x'.life = x.life
  awake : ∀ t', x.isQueued t' = false → x'.isQueued t' = false

/-- A mutex that was taken and was given back. -/
structure IsReturned (x x' : Mutex) : Prop where
  free : x'.hold = .free
  life : x'.life = x.life
  awake : ∀ t', x.isQueued t' = false → x'.isQueued t' = false

variable {x : Mutex} {t : ThreadId}

lemma IsReturned.isVacant {x' : Mutex} (returned : x.IsReturned x') (vacant : x.IsVacant) :
    x'.IsVacant :=
  ⟨returned.life ▸ vacant.1, .inl returned.free⟩

lemma IsVacant.owner? (vacant : x.IsVacant) : x.hold.owner? = none := by
  obtain free | left := vacant.2
  · rw [free]
    rfl
  · rw [left]
    rfl

lemma isQueued_dequeue {t' : ThreadId} (awake : x.isQueued t' = false) :
    (x.dequeue t).isQueued t' = false := by
  simp only [isQueued, dequeue, List.contains_eq_mem, decide_eq_false_iff_not] at awake ⊢
  exact fun queued => awake (List.mem_of_mem_erase queued)

lemma unlock_of_owner (live : x.life ≠ .destroyed) (held : x.hold = .held t) :
    x.unlock t = (.ok (), { x with hold := .free }) := by
  unfold unlock
  cases life : x.life with
  | blank => rfl
  | live => rw [held, if_pos rfl]
  | destroyed => exact absurd life live

lemma lends_taken (live : x.life ≠ .destroyed) (free : x.hold = .free) :
    x.Lends t .acquired (x.take t (.held t)) where
  held := iff_of_true rfl ⟨live, .inl free⟩
  had _ := unlock_of_owner live rfl
  life := rfl
  awake _ := isQueued_dequeue

/-- A mutex that a dead owner has left is made consistent, unless it was never set up: then it
needs not be. -/
lemma lends_abandoned (live : x.life ≠ .destroyed) (left : x.hold = .abandoned) :
    x.Lends t .ownerDied (x.take t (.inconsistent t)).makeConsistent.2 := by
  have held : LockStatus.ownerDied.isHeld ↔ x.IsVacant := iff_of_true rfl ⟨live, .inr left⟩
  cases life : x.life with
  | blank =>
    have kept : (x.take t (.inconsistent t)).makeConsistent.2 = x.take t (.inconsistent t) := by
      simp [makeConsistent, take, dequeue, life]
    have given : (x.take t (.inconsistent t)).unlock t =
        (.ok (), { x.take t (.inconsistent t) with hold := .free }) := by
      simp [unlock, take, dequeue, life]
    rw [kept]
    exact ⟨held, fun _ => given, rfl, fun _ => isQueued_dequeue⟩
  | live =>
    have mended : (x.take t (.inconsistent t)).makeConsistent.2 = x.take t (.held t) := by
      simp [makeConsistent, take, dequeue, life]
    rw [mended]
    exact ⟨held, fun _ => unlock_of_owner live rfl, rfl, fun _ => isQueued_dequeue⟩
  | destroyed => exact absurd life live

lemma lends_refused {x' : Mutex} (taken : ¬x.IsVacant) (same : x'.life = x.life)
    (awake : ∀ t', x.isQueued t' = false → x'.isQueued t' = false) :
    x.Lends t .unavailable x' where
  held := iff_of_false nofun taken
  had := nofun
  life := same
  awake := awake

end Mutex

section
variable {g : Segment} {h : Host} {t : ThreadId} {m : MappingId} {k : ObjectId} {o : Object}
  (em : g.mapping = some m) (sees : h.under? m = some (k, o))
include em sees

namespace Segment

/-- A mutex that nobody owns is lent or refused at once. -/
lemma calm_lock (awake : o.mutex.isQueued t = false) (unowned : o.mutex.hold.owner? = none) :
    g.lock.Ensures (.alone t fun _ _ => False)
      (fun status h' => ∃ x, o.mutex.Lends t status x ∧ h' = h.setObject k (o.withMutex x)) h := by
  have replied := Host.step_lock (t := t) sees
  rw [Mutex.lock_of_awake awake] at replied
  rw [lock, em]
  by_cases down : o.mutex.life = .destroyed
  · rw [if_pos down] at replied
    refine .asks_calmly replied ?_
    exact ⟨o.mutex, Mutex.lends_refused (fun vacant => vacant.1 down) rfl fun _ => id, rfl⟩
  rw [if_neg down] at replied
  cases hold : o.mutex.hold with
  | held owner | inconsistent owner =>
    rw [hold] at unowned
    cases unowned
  | free =>
    rw [hold] at replied
    refine .asks_calmly replied ?_
    exact ⟨_, Mutex.lends_taken down hold, rfl⟩
  | lost =>
    rw [hold] at replied
    have taken : ¬o.mutex.IsVacant := by simp [Mutex.IsVacant, hold]
    refine .asks_calmly replied ?_
    exact ⟨o.mutex.dequeue t, Mutex.lends_refused taken rfl fun _ => Mutex.isQueued_dequeue, rfl⟩
  | abandoned =>
    rw [hold] at replied
    let x := o.mutex.take t (.inconsistent t)
    have taken : (h.setObject k (o.withMutex x)).under? m = some (k, o.withMutex x) :=
      Host.under?_setObject sees
    refine .asks_calmly replied ?_
    refine .asks_calmly (Host.step_makeConsistent taken) ?_
    have lent : ∃ x', o.mutex.Lends t .ownerDied x' ∧
        (h.setObject k (o.withMutex x)).setObject k ((o.withMutex x).withMutex x.makeConsistent.2) =
          h.setObject k (o.withMutex x') :=
      ⟨_, Mutex.lends_abandoned down hold, Host.setObject_setObject ..⟩
    -- Whether the mutex could be made consistent is recorded only.
    change ((Program.logFailure _ _).bind _ |>.bind _).Ensures _ _ _
    cases (o.withMutex x).mutex.makeConsistent.1 with
    | ok => exact lent
    | error => exact lent

lemma calm_unlock {x : Mutex} (given : o.mutex.unlock t = (.ok (), x)) :
    g.unlock.Ensures (.alone t fun _ _ => False)
      (fun _ h' => h' = h.setObject k (o.withMutex x)) h := by
  have replied := Host.step_unlock (t := t) sees
  rw [given] at replied
  rw [unlock, em]
  refine .asks_calmly replied ?_
  exact rfl

lemma calm_notifyAll :
    g.notifyAll.Ensures (.alone t fun _ _ => False)
      (fun _ h' => h' = h.setObject k (o.withCondition o.condition.broadcast)) h := by
  rw [notifyAll, em]
  refine .asks_calmly (Host.step_broadcast sees) ?_
  exact rfl

lemma calm_readText :
    g.readText.Ensures (.alone t fun _ _ => False)
      (fun bs h' => bs = o.readText Layout.headerSize g.size.toNat ∧ h' = h) h := by
  have replied : h.step t (.readText m Layout.headerSize g.size.toNat) =
      .done (α := List UInt8) (o.readText Layout.headerSize g.size.toNat) h := by
    simp only [Host.step, sees]
    rfl
  rw [readText, em]
  refine .asks_calmly replied ?_
  exact ⟨rfl, rfl⟩

lemma calm_clearFrom (off : Nat) :
    (g.clearFrom off).Ensures (.alone t fun _ _ => False)
      (fun _ h' => h' = h.setObject k
        (o.clear (Layout.headerSize + off) (g.size.toNat - off))) h := by
  have replied : h.step t (.clear m (Layout.headerSize + off) (g.size.toNat - off)) =
      .done () (h.setObject k (o.clear (Layout.headerSize + off) (g.size.toNat - off))) := by
    simp only [Host.step, Host.change, sees]
  rw [clearFrom, em]
  refine .asks_calmly replied ?_
  exact rfl

end Segment
end

/-- A name offers one object. -/
lemma Host.Offers.unique {h : Host} {n : Name} {k k' : ObjectId} {o o' : Object}
    (offers : h.Offers n k o) (offers' : h.Offers n k' o') : k = k' ∧ o = o' := by
  cases offers.bound.symm.trans offers'.bound
  cases offers.object.symm.trans offers'.object
  exact ⟨rfl, rfl⟩

/-- Whoever has only attached to a segment leaves the store and the objects as they are. -/
lemma Segment.calm_destroy_of_attacher {g : Segment} {t : ThreadId} (h : Host)
    (role : g.role = .attacher) :
    g.destroy.Ensures (.alone t fun _ _ => False)
      (fun _ h' => h'.store = h.store ∧ h'.objects = h.objects) h := by
  have nothing : g.destroySync = .ret () := by
    unfold destroySync
    cases g.mapping with
    | none => rfl
    | some m => simp [role]
  have unmaps : g.unmap.Ensures (.alone t fun _ _ => False)
      (fun _ h' => h'.store = h.store ∧ h'.objects = h.objects) h := by
    unfold unmap
    cases g.mapping with
    | none => exact ⟨rfl, rfl⟩
    | some m => exact .asks_calmly (a := .ok ()) rfl ⟨rfl, rfl⟩
  have parts : g.destroy = g.unmap.bind fun _ => g.release.bind fun _ => .ret g.empty := by
    simp only [destroy, nothing, Program.bind_eq, Program.pure_eq_ret, Program.ret_bind]
  rw [parts]
  refine unmaps.bind ?_
  intro _ h' same
  unfold release
  cases g.file with
  | none => exact same
  | some f =>
    refine .asks_calmly (a := ()) rfl ?_
    rw [role]
    exact same

/-- A handle has attached to an object. -/
structure Segment.Visits (g : Segment) (h : Host) (k : ObjectId) (o : Object) : Prop where
  role : g.role = .attacher
  size : g.size = o.sizeField
  shows : ∃ m, g.mapping = some m ∧ h.under? m = some (k, o)

namespace Facade

/-- A facade has attached to an object. -/
def Visits (f : Facade) (h : Host) (k : ObjectId) (o : Object) : Prop :=
  f.isValid ∧ ∃ g, f.segment = some g ∧ g.Visits h k o

variable {f : Facade} {h : Host} {t : ThreadId} {raw : String} {c : Config} {k : ObjectId}
  {o o' : Object}

/-- A visitor sees what has become of an object. -/
lemma Visits.setObject (visits : f.Visits h k o) (same : o'.sizeField = o.sizeField) :
    f.Visits (h.setObject k o') k o' := by
  obtain ⟨valid, g, eg, ⟨role, size, m, em, sees⟩⟩ := visits
  exact ⟨valid, g, eg, ⟨role, size.trans same.symm, m, em, Host.under?_setObject sees⟩⟩

/-- Without a size, valid settings lead to a segment exactly if one is offered under the name, and
in either case the store and the objects stay as they are. -/
theorem calm_tryOpen_zero (valid : c.validate = .ok ()) :
    (tryOpen raw 0 c).Ensures (.alone t fun _ _ => False)
      (fun r h' => (h'.store = h.store ∧ h'.objects = h.objects) ∧
        ((∃ e, r = .error e) ∧ (¬∃ n k o, Name.ofRaw raw = .ok n ∧ h.Offers n k o) ∨
          ∃ f n k o, r = .ok f ∧ Name.ofRaw raw = .ok n ∧ h.Offers n k o ∧ f.Visits h' k o ∧
            f.size = o.sizeField)) h := by
  cases named : Name.ofRaw raw with
  | error fault =>
    have refused : connect raw 0 c = .ret (.error (.invalidName raw fault.reason)) := by
      simp [connect, named]
    rw [tryOpen, refused]
    refine ⟨⟨rfl, rfl⟩, .inl ⟨⟨_, rfl⟩, ?_⟩⟩
    rintro ⟨_, _, _, ⟨⟩, _⟩
  | ok n =>
    have connects : (connect raw 0 c).Ensures (.alone t fun _ _ => False)
        (Segment.Finds h (fun _ _ => False) n c) h := by
      rw [connect_eq named valid, if_pos rfl]
      exact Segment.alone_attach n c
    refine (calm_tryOpen connects).mono ?_
    rintro _ _ ⟨r, rfl, fs, ms, rfl, ⟨⟨e, rfl⟩, -, -, ⟨_, _, ⟨⟩⟩ | missing⟩ |
      ⟨k, o, x, offers, rfl, rfl, rfl⟩⟩
    · refine ⟨⟨rfl, List.append_nil _⟩, .inl ⟨⟨e, rfl⟩, ?_⟩⟩
      rintro ⟨_, k, o, ⟨⟩, offers⟩
      exact missing ⟨k, o, offers⟩
    · refine ⟨⟨rfl, List.append_nil _⟩, .inr ⟨_, n, k, o, rfl, rfl, offers, ?_, rfl⟩⟩
      have positive : 0 < o.sizeField := UInt32.pos_iff_ne_zero.2 offers.published
      obtain ⟨-, ⟨m, em, shown⟩, there, -, -⟩ :=
        Segment.shows_grown (t := t) (n := n) (c := c) offers.object x
      have sees : (h.grown h.store [] [some k] [x, some ⟨k, Header.total o.sizeField⟩]).under? m =
          some (k, o) := by
        rw [Host.under?, shown]
        simp [there]
      refine ⟨?_, _, rfl, rfl, rfl, m, em, sees⟩
      simp [isValid, ofSegment, Segment.isValid, positive]

section
variable (visits : f.Visits h k o)
include visits

lemma Visits.calm_lock (awake : o.mutex.isQueued t = false)
    (unowned : o.mutex.hold.owner? = none) :
    f.lock.Ensures (.alone t fun _ _ => False)
      (fun status h' => ∃ x, o.mutex.Lends t status x ∧ h' = h.setObject k (o.withMutex x)) h := by
  obtain ⟨-, g, eg, ⟨-, -, m, em, sees⟩⟩ := visits
  rw [lock, onSegment_eq eg]
  exact Segment.calm_lock em sees awake unowned

lemma Visits.calm_unlock {x : Mutex} (given : o.mutex.unlock t = (.ok (), x)) :
    f.unlock.Ensures (.alone t fun _ _ => False)
      (fun _ h' => h' = h.setObject k (o.withMutex x)) h := by
  obtain ⟨-, g, eg, ⟨-, -, m, em, sees⟩⟩ := visits
  rw [unlock, onSegment_eq eg]
  exact Segment.calm_unlock em sees given

lemma Visits.calm_notifyAll :
    f.notifyAll.Ensures (.alone t fun _ _ => False)
      (fun _ h' => h' = h.setObject k (o.withCondition o.condition.broadcast)) h := by
  obtain ⟨-, g, eg, ⟨-, -, m, em, sees⟩⟩ := visits
  rw [notifyAll, onSegment_eq eg]
  exact Segment.calm_notifyAll em sees

lemma Visits.calm_readText :
    f.readText.Ensures (.alone t fun _ _ => False)
      (fun bs h' => bs = o.readText Layout.headerSize o.sizeField.toNat ∧ h' = h) h := by
  obtain ⟨valid, g, eg, ⟨-, size, m, em, sees⟩⟩ := visits
  rw [readText, if_pos valid, onSegment_eq eg, ← size]
  exact Segment.calm_readText em sees

lemma Visits.calm_write (off : Nat) (bs : List UInt8) :
    (f.write off bs).Ensures (.alone t fun _ _ => False)
      (fun len h' => len = min (o.sizeField.toNat - off) bs.length ∧ h' = h.setObject k
        (o.write (Layout.headerSize + off) (bs.take (o.sizeField.toNat - off)).toArray)) h := by
  obtain ⟨valid, g, eg, ⟨-, size, m, em, sees⟩⟩ := visits
  rw [write, if_pos valid, onSegment_eq eg, ← size]
  exact Segment.calm_write em sees off bs

lemma Visits.calm_clearFrom (off : Nat) :
    (f.clearFrom off).Ensures (.alone t fun _ _ => False)
      (fun _ h' => h' = h.setObject k
        (o.clear (Layout.headerSize + off) (o.sizeField.toNat - off))) h := by
  obtain ⟨valid, g, eg, ⟨-, size, m, em, sees⟩⟩ := visits
  rw [clearFrom, if_pos valid, onSegment_eq eg, ← size]
  exact Segment.calm_clearFrom em sees off

lemma Visits.calm_drop (h' : Host) :
    f.drop.Ensures (.alone t fun _ _ => False)
      (fun _ h'' => h''.store = h'.store ∧ h''.objects = h'.objects) h' := by
  obtain ⟨-, g, eg, ⟨role, -, -⟩⟩ := visits
  rw [drop, onSegment_eq eg]
  refine (Segment.calm_destroy_of_attacher h' role).bind ?_
  intro _ h'' same
  exact same

end
end Facade
end SharedSegment
