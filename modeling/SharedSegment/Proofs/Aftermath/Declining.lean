import SharedSegment.Proofs.Aftermath.Sleepers
import SharedSegment.Proofs.Stakes.Agreement
import SharedSegment.Proofs.Stakes.Asymmetry

/-!
# Calls that are declined

A mutex that was taken down is given to nobody who does not sleep on it already, and nobody parks
with it (`Request.Declines`). So a call on a handle that still shows the object is over after a few
moves and never has to wait (`Session.comesBack_of_endsWithin`), and unless it reads, writes, or
tears the handle down, it comes to what it comes to on a handle with nothing behind it
(`Scenario.Handle.EndsAs`).
-/

namespace SharedSegment
open Function Scenario Program Header

/-- An answer by which nobody is given a mutex. -/
def Request.Declines : (r : Request) → r.Answer → Prop
  | .lock _, .error e | .park _, .error e => e ≠ .eownerdead
  | .lock _, .ok _ | .park _, .ok _ => False
  | _, _ => True

namespace Program

variable {α β : Type} {ok ok' : Request → Prop} {p : Program α} {f : α → Program β}
  {ends : α → Prop} {ends' : β → Prop} {i j : ℕ}

/-- A program asks for some things only, and where it is declined it ends within some moves, as a
condition says. -/
def EndsWithin (ok : Request → Prop) (ends : α → Prop) : Program α → ℕ → Prop
  | .ret a, _ => ends a
  | .put _ rest, n => ∃ n', n = n' + 1 ∧ rest.EndsWithin ok ends n'
  | .ask r next, n =>
    ok r ∧ ∃ n', n = n' + 1 ∧ ∀ a, r.Declines a → (next a).EndsWithin ok ends n'

lemma EndsWithin.mono {ends' : α → Prop} (le : i ≤ j) (weaker : ∀ a, ends a → ends' a)
    (within : p.EndsWithin ok ends i) : p.EndsWithin ok ends' j := by
  induction p generalizing i j with
  | ret a => exact weaker a within
  | put o rest ih =>
    obtain ⟨i, rfl, within⟩ := within
    obtain ⟨j, rfl⟩ := Nat.exists_eq_add_of_le' (Nat.le_trans (Nat.le_add_left 1 i) le)
    exact ⟨j, rfl, ih (Nat.le_of_succ_le_succ le) within⟩
  | ask r next ih =>
    obtain ⟨may, i, rfl, within⟩ := within
    obtain ⟨j, rfl⟩ := Nat.exists_eq_add_of_le' (Nat.le_trans (Nat.le_add_left 1 i) le)
    exact ⟨may, j, rfl, fun a dec => ih a (Nat.le_of_succ_le_succ le) (within a dec)⟩

/-- The moves of one program come before those of the next. -/
lemma EndsWithin.bind (within : p.EndsWithin ok ends i)
    (next : ∀ a, ends a → (f a).EndsWithin ok ends' j) :
    (p.bind f).EndsWithin ok ends' (i + j) := by
  induction p generalizing i with
  | ret a => exact (next a within).mono (Nat.le_add_left ..) fun _ => id
  | put o rest ih =>
    obtain ⟨i, rfl, within⟩ := within
    exact ⟨i + j, Nat.succ_add .., ih within⟩
  | ask r next' ih =>
    obtain ⟨may, i, rfl, within⟩ := within
    exact ⟨may, i + j, Nat.succ_add .., fun a dec => ih a (within a dec)⟩

/-- Something is made of what a program ends with. -/
lemma EndsWithin.giving {result : α → Result} (within : p.EndsWithin ok ends i) :
    (Scenario.giving p result).EndsWithin ok (fun o => ∃ a, ends a ∧ o = ⟨result a, .none⟩) i :=
  within.bind (j := 0) fun a here => ⟨a, here, rfl⟩

end Program

namespace Segment

variable {g : Segment} {m : MappingId}

/-- What is declined is told of. -/
lemma endsWithin_settle {c : Call} {e : Errno} {died : Event} {ok : Request → Prop}
    (other : e ≠ .eownerdead) : ((Header.acquired m c (.error e)).bind (g.settle died)).EndsWithin ok
      (· = .unavailable) 1 := by
  rw [acquired, if_neg other]
  exact ⟨0, rfl, rfl⟩

lemma endsWithin_report {r : Except SyncFailure Unit} {ok : Request → Prop} :
    (g.report r).EndsWithin ok (fun _ => True) 1 := by
  cases r with
  | ok => trivial
  | error f => exact ⟨0, rfl, trivial⟩

section
variable (em : g.mapping = some m)
include em

lemma endsWithin_lock : g.lock.EndsWithin (· = .lock m) (· = .unavailable) 2 := by
  unfold lock
  rw [em]
  refine ⟨rfl, 1, rfl, ?_⟩
  rintro (e | a) declined
  · exact endsWithin_settle declined
  · exact declined.elim

lemma endsWithin_unlock : g.unlock.EndsWithin (· = .unlock m) (fun _ => True) 2 := by
  unfold unlock
  rw [em]
  refine ⟨rfl, 1, rfl, ?_⟩
  rintro (e | a) -
  · exact endsWithin_report (g := g) (r := .error _)
  · exact endsWithin_report (g := g) (r := .ok ())

lemma endsWithin_waitLocked : g.waitLocked.EndsWithin (· = .park m) (· = .unavailable) 2 := by
  unfold waitLocked
  rw [em]
  refine ⟨rfl, 1, rfl, ?_⟩
  rintro (e | a) declined
  · exact endsWithin_settle declined
  · exact declined.elim

lemma endsWithin_wait : g.wait.EndsWithin (· = .lock m) (fun _ => True) 2 := by
  refine (endsWithin_lock em).bind (j := 0) ?_
  rintro _ rfl
  trivial

lemma endsWithin_notifyAll : g.notifyAll.EndsWithin (· = .broadcast m) (fun _ => True) 2 := by
  unfold notifyAll
  rw [em]
  refine ⟨rfl, 1, rfl, ?_⟩
  rintro (e | a) -
  · exact endsWithin_report (g := g) (r := .error _)
  · exact endsWithin_report (g := g) (r := .ok ())

lemma endsWithin_read (off len : Nat) :
    (g.read off len).EndsWithin (fun r => ∃ off len, r = .read m off len) (fun _ => True) 1 := by
  unfold read
  rw [em]
  exact ⟨⟨_, _, rfl⟩, 0, rfl, fun _ _ => trivial⟩

lemma endsWithin_write (off : Nat) (bs : List UInt8) : (g.write off bs).EndsWithin
    (g.Uses true) (· = min (g.size.toNat - off) bs.length) 1 := by
  have within : (g.write off bs).Asks (g.Uses true) :=
    (g.confined_write off bs).mono fun _ _ _ => trivial
  unfold write at within ⊢
  rw [em] at within ⊢
  exact ⟨within.1, 0, rfl, fun _ _ => List.length_take⟩

/-- An attacher that is torn down gives its mapping and its file back. -/
lemma endsWithin_destroy (role : g.role = .attacher) :
    g.destroy.EndsWithin g.Tears (· = g.empty) 4 := by
  have none : ¬g.role = .creator := by simp [role]
  have taken : g.destroySync = .ret () := by
    unfold destroySync
    simp only [em, none, false_and, if_false]
    rfl
  have unmapped : g.unmap.EndsWithin g.Tears (fun _ => True) 2 := by
    unfold unmap
    rw [em]
    refine ⟨em, 1, rfl, ?_⟩
    rintro (e | a) -
    · exact ⟨0, rfl, trivial⟩
    · trivial
  have released : g.release.EndsWithin g.Tears (fun _ => True) 2 := by
    unfold release
    cases ef : g.file with
    | none => trivial
    | some f =>
      simp only [if_neg none]
      exact ⟨ef, 1, rfl, fun _ _ => ⟨0, rfl, trivial⟩⟩
  have ended : (g.release.bind fun _ => .ret g.empty).EndsWithin g.Tears (· = g.empty) 2 :=
    released.bind (j := 0) fun _ _ => rfl
  unfold destroy
  rw [taken]
  exact unmapped.bind fun _ _ => ended

end
end Segment

/-- The operation on a handle that an operation on a guard makes of the segment. -/
def Scenario.GuardOperation.onHandle : GuardOperation → Operation
  | .status => .info
  | .read off len => .read off len
  | .write off bs => .write off bs
  | .wait => .waitLocked
  | .drop => .unlock

/-- What an operation asks for where it is declined. -/
def Scenario.Operation.Attempts (g : Segment) (m : MappingId) : Operation → Request → Prop
  | .lock | .guard _ | .wait => (· = .lock m)
  | .unlock => (· = .unlock m)
  | .waitLocked => (· = .park m)
  | .notifyAll => (· = .broadcast m)
  | .read .. => fun r => ∃ off len, r = .read m off len
  | .write .. => g.Uses true
  | .drop | .destroy => g.Tears
  | _ => fun _ => False

/-- What an operation comes to on a handle whose segment was torn down by its creator. The payload
is there still, and the handle can be torn down; all else is as if there were nothing behind it. -/
def Scenario.Handle.EndsAs (y : String) (x : Handle) (g : Segment) (o : Outcome) : Operation → Prop
  | .read .. => ∃ bs, o = ⟨.bytes bs, .none⟩
  | .write off bs => o = ⟨.wrote (min (g.size.toNat - off) bs.length), .none⟩
  | .destroy => o = ⟨.info (.segment g.empty), .setHandle y (.segment g.empty)⟩
  | op => x.refusal y op = some o

/-- What an operation on a guard comes to where the segment was torn down by its creator. -/
def Scenario.Guard.EndsAs (x : Guard) (g : Segment) (o : Outcome) : GuardOperation → Prop
  | .status => o = ⟨.status x.status, .none⟩
  | .read .. => ∃ bs, o = ⟨.bytes bs, .none⟩
  | .write off bs => o = ⟨.wrote (min (g.size.toNat - off) bs.length), .none⟩
  | .wait => o = ⟨.waited .unavailable, .setGuard { x with status := .unavailable }⟩
  | .drop => o = ⟨.ok, .removeGuard x⟩

section
variable {t : ThreadId} {y : String} {x : Handle} {f : Facade} {g : Segment} {m : MappingId}
  {p : Program Outcome}

/-- What is done with a handle is done with its segment. -/
lemma Scenario.Handle.acts_eq (eg : x.segment? = some g) :
    x.lock = g.lock ∧ x.unlock = g.unlock ∧ x.wait = g.wait ∧ x.notifyAll = g.notifyAll ∧
      x.drop = g.destroy.bind fun _ => .ret () := by
  cases x with
  | segment g' =>
    cases eg
    exact ⟨rfl, rfl, rfl, rfl, rfl⟩
  | facade f =>
    exact ⟨Facade.onSegment_eq eg .., Facade.onSegment_eq eg .., Facade.onSegment_eq eg ..,
      Facade.onSegment_eq eg .., Facade.onSegment_eq eg ..⟩

section
variable (em : g.mapping = some m) (eg : f.segment = some g) (valid : f.isValid)
include em eg valid

lemma Facade.endsWithin_read (off len : Nat) :
    (f.read off len).EndsWithin (fun r => ∃ off len, r = .read m off len) (fun _ => True) 1 := by
  rw [Facade.read, if_pos valid, Facade.onSegment_eq eg]
  exact Segment.endsWithin_read em off len

lemma Facade.endsWithin_write (off : Nat) (bs : List UInt8) : (f.write off bs).EndsWithin
    (g.Uses true) (· = min (g.size.toNat - off) bs.length) 1 := by
  rw [Facade.write, if_pos valid, Facade.onSegment_eq eg]
  exact Segment.endsWithin_write em off bs

end

/-- Where it is declined, a call on a handle ends within four moves. -/
theorem handleCall?_endsWithin {op : Operation} (role : g.role = .attacher)
    (eg : x.segment? = some g) (em : g.mapping = some m) (valid : x.isValid)
    (ep : handleCall? t y x op = some p) :
    p.EndsWithin (op.Attempts g m) (fun o => x.EndsAs y g o op) 4 := by
  have gives {α : Type} {q : Program α} {result : α → Result} {ok : Request → Prop}
      {ends : α → Prop} {n : ℕ} (within : q.EndsWithin ok ends n) (le : n ≤ 4)
      (same : ∀ a, ends a → x.EndsAs y g ⟨result a, .none⟩ op) :
      (giving q result).EndsWithin ok (fun o => x.EndsAs y g o op) 4 := by
    refine within.giving.mono le ?_
    rintro _ ⟨a, here, rfl⟩
    exact same a here
  have two : 2 ≤ 4 := by decide
  have one : 1 ≤ 4 := by decide
  obtain ⟨lock, unlock, wait, notifyAll, drop⟩ := Handle.acts_eq eg
  cases op with
  | info =>
    obtain rfl : .ret ⟨.info x, .none⟩ = p := by cases x <;> exact Option.some.inj ep
    cases x <;> rfl
  | lock =>
    obtain rfl : giving x.lock .status = p := by cases x <;> exact Option.some.inj ep
    rw [lock]
    refine gives (Segment.endsWithin_lock em) two ?_
    rintro _ rfl
    cases x <;> rfl
  | unlock =>
    obtain rfl : giving x.unlock (fun _ => .ok) = p := by cases x <;> exact Option.some.inj ep
    rw [unlock]
    exact gives (Segment.endsWithin_unlock em) two fun _ _ => by cases x <;> rfl
  | wait =>
    obtain rfl : giving x.wait (fun _ => .ok) = p := by cases x <;> exact Option.some.inj ep
    rw [wait]
    exact gives (Segment.endsWithin_wait em) two fun _ _ => by cases x <;> rfl
  | notifyAll =>
    obtain rfl : giving x.notifyAll (fun _ => .ok) = p := by cases x <;> exact Option.some.inj ep
    rw [notifyAll]
    exact gives (Segment.endsWithin_notifyAll em) two fun _ _ => by cases x <;> rfl
  | drop =>
    obtain rfl : giving x.drop (fun _ => .ok) = p := by cases x <;> exact Option.some.inj ep
    rw [drop]
    refine gives ((Segment.endsWithin_destroy em role).bind (j := 0) fun _ _ => ?_) (Nat.le_refl 4)
      fun _ (_ : True) => ?_
    · trivial
    · cases x <;> rfl
  | debug =>
    cases x with
    | segment => cases ep
    | facade f =>
      cases ep
      rfl
  | read off len =>
    cases x with
    | segment => cases ep
    | facade f =>
      cases ep
      exact gives (Facade.endsWithin_read em eg valid off _) one fun bs _ => ⟨bs, rfl⟩
  | write off bs =>
    cases x with
    | segment => cases ep
    | facade f =>
      cases ep
      refine gives (Facade.endsWithin_write em eg valid off bs) one ?_
      rintro _ rfl
      rfl
  | guard n =>
    cases x with
    | segment => cases ep
    | facade f =>
      cases ep
      have locked : (Handle.facade f).lock.EndsWithin (· = .lock m) (· = .unavailable) 2 := by
        rw [lock]
        exact Segment.endsWithin_lock em
      have guarded : f.guard.EndsWithin (· = .lock m) (· = none) 2 := by
        refine locked.bind (j := 0) ?_
        rintro _ rfl
        rfl
      refine EndsWithin.mono two (fun _ => id) (guarded.bind (j := 0) ?_)
      rintro _ rfl
      rfl
  | waitLocked =>
    cases x with
    | facade => cases ep
    | segment g' =>
      cases eg
      cases ep
      refine gives (Segment.endsWithin_waitLocked em) two ?_
      rintro _ rfl
      rfl
  | destroy =>
    cases x with
    | facade => cases ep
    | segment g' =>
      cases eg
      cases ep
      refine (Segment.endsWithin_destroy em role).bind (j := 0) ?_
      rintro _ rfl
      rfl
  | other => cases x <;> cases ep

/-- Where it is declined, a call on a guard ends within four moves. -/
theorem guardOperationCall_endsWithin {n : Guard} {op : GuardOperation} (eg : f.segment = some g)
    (em : g.mapping = some m) (valid : f.isValid) :
    (guardOperationCall n f op).EndsWithin (op.onHandle.Attempts g m)
      (fun o => n.EndsAs g o op) 4 := by
  have two : 2 ≤ 4 := by decide
  have one : 1 ≤ 4 := by decide
  cases op with
  | status => rfl
  | read off len =>
    refine (Facade.endsWithin_read em eg valid off _).giving.mono one ?_
    rintro _ ⟨bs, -, rfl⟩
    exact ⟨bs, rfl⟩
  | write off bs =>
    refine (Facade.endsWithin_write em eg valid off bs).giving.mono one ?_
    rintro _ ⟨_, rfl, rfl⟩
    rfl
  | wait =>
    have waited : (f.guardWait n.status).EndsWithin (· = .park m) (· = .unavailable) 2 := by
      rw [Facade.guardWait, Facade.onSegment_eq eg]
      exact Segment.endsWithin_waitLocked em
    refine EndsWithin.mono two (fun _ => id) (waited.bind (j := 0) ?_)
    rintro _ rfl
    rfl
  | drop =>
    have unlocked : f.unlock.EndsWithin (· = .unlock m) (fun _ => True) 2 := by
      rw [Facade.unlock, Facade.onSegment_eq eg]
      exact Segment.endsWithin_unlock em
    exact EndsWithin.mono two (fun _ => id) (unlocked.bind (j := 0) fun _ _ => rfl)

end

/-- What an operation may do to the host where the mutex of the object was taken down. Whoever
notifies wakes those who are parked, and does nothing else; the payload may be written; whoever
tears a handle down gives back what is its own. -/
def Scenario.Operation.Spares (op : Operation) (g : Segment) (k : ObjectId) (h h' : Host) : Prop :=
  match op with
  | .notifyAll => h' = h ∨ h.parkedOn k ≠ [] ∧ ∃ o, h.object? k = some o ∧
      h' = h.setObject k (o.withCondition o.condition.broadcast)
  | .write .. => h' = h ∨ ∃ o o', h.object? k = some o ∧ h' = h.setObject k o' ∧
      o.IsRewritten Layout.headerSize (total g.size) o'
  | .drop | .destroy => h'.store = h.store ∧ h'.objects = h.objects
  | _ => h' = h

namespace Host

variable {h : Host} {t : ThreadId} {g : Segment} {m : MappingId} {k : ObjectId} {r : Request}

lemma spares_refl (op : Operation) (g : Segment) (k : ObjectId) (h : Host) :
    op.Spares g k h h := by
  cases op with
  | notifyAll | write => exact .inl rfl
  | drop | destroy => exact ⟨rfl, rfl⟩
  | _ => rfl

section
variable {o : Object} (here : h.object? k = some o) (down : o.mutex.life = .destroyed)
  (sees : h.under? m = none ∨ h.under? m = some (k, o))
include here down sees

/-- A mutex that was taken down is given to nobody who comes new. -/
lemma step_lock_of_down (awake : t ∉ o.mutex.queue) :
    h.step t (.lock m) = .done (α := Except Errno Unit) (.error .einval) h := by
  have refused : o.mutex.lock t = .answer (.error .einval) o.mutex := by
    unfold Mutex.lock
    rw [if_pos ⟨down, by simpa [Mutex.isQueued] using awake⟩]
  obtain none | sees := sees
  · simp only [step, onMutex, none]
    rfl
  · rw [step_lock sees, refused]
    exact congrArg (Reply.done _) (setObject_self here)

lemma step_unlock_of_down :
    h.step t (.unlock m) = .done (α := Except Errno Unit) (.error .einval) h := by
  obtain none | sees := sees
  · simp only [step, onObject, none]
    rfl
  · rw [step_unlock sees, Mutex.unlock, down]
    exact congrArg (Reply.done _) (setObject_self here)

lemma step_park_of_down :
    h.step t (.park m) = .done (α := Except Errno Unit) (.error .einval) h := by
  obtain none | sees := sees
  · simp only [step, onObject, none]
    rfl
  · rw [step_park sees, park, Mutex.unlock, down]
    exact congrArg (Reply.done _) (setObject_self here)

end

/-- Whoever notifies where nobody is parked does nothing. -/
lemma spares_broadcast {o : Object} (here : h.object? k = some o)
    (sees : h.under? m = none ∨ h.under? m = some (k, o)) :
    ∃ a h', h.step t (.broadcast m) = .done a h' ∧ Operation.notifyAll.Spares g k h h' := by
  obtain none | sees := sees
  · refine ⟨.error .einval, h, ?_, .inl rfl⟩
    simp only [step, onObject, none]
    rfl
  · refine ⟨.ok (), _, step_broadcast sees, ?_⟩
    by_cases nobody : h.parkedOn k = []
    · rw [parkedOn_of_object here] at nobody
      have quiet : o.condition.broadcast = o.condition := by rw [Condition.broadcast, ← nobody]
      rw [quiet]
      exact .inl (setObject_self here)
    · exact .inr ⟨nobody, o, here, rfl⟩

/-- Whoever writes changes bytes of the payload. -/
lemma spares_write {o : Object} {op : Operation} (here : h.object? k = some o)
    (sees : h.under? m = none ∨ h.under? m = some (k, o)) (em : g.mapping = some m)
    (uses : g.Uses true r) (writes : ∃ off bs, op = .write off bs) :
    ∃ a h', h.step t r = .done a h' ∧ r.Declines a ∧ op.Spares g k h h' := by
  obtain ⟨off', bs', rfl⟩ := writes
  cases r with
  | write m' off bs =>
    obtain ⟨-, em', behind, within⟩ := uses
    cases em.symm.trans em'
    obtain none | sees := sees
    · refine ⟨(), h, ?_, trivial, .inl rfl⟩
      simp only [step, change, none]
    · exact ⟨(), _, step_write sees off bs, trivial,
        .inr ⟨o, _, here, rfl, o.isRewritten_write behind within⟩⟩
  | lock | unlock | makeConsistent | park | awake | broadcast | read => cases uses.1
  | _ => cases uses

/-- Whatever an operation asks for on an object whose mutex was taken down is answered at once. -/
theorem declines {op : Operation} (role : g.role = .attacher) (em : g.mapping = some m)
    (down : h.IsDown k) (awake : t ∉ h.queueOn k) (shown : ∀ k', h.shows m k' → k' = k)
    (asks : op.Attempts g m r) :
    ∃ a h', h.step t r = .done a h' ∧ r.Declines a ∧ op.Spares g k h h' := by
  obtain ⟨o, here, down⟩ := down
  rw [queueOn_of_object here] at awake
  have sees : h.under? m = none ∨ h.under? m = some (k, o) := by
    cases eu : h.under? m with
    | none => exact .inl rfl
    | some x =>
      obtain ⟨k', o'⟩ := x
      obtain ⟨shows, there⟩ := under?_eq_some_iff.1 eu
      obtain rfl := shown k' shows
      cases here.symm.trans there
      exact .inr rfl
  have other : Errno.einval ≠ .eownerdead := by decide
  cases op with
  | lock | guard | wait =>
    obtain rfl : r = .lock m := asks
    exact ⟨.error .einval, h, step_lock_of_down here down sees awake, other, rfl⟩
  | unlock =>
    obtain rfl : r = .unlock m := asks
    exact ⟨.error .einval, h, step_unlock_of_down here down sees, trivial, rfl⟩
  | waitLocked =>
    obtain rfl : r = .park m := asks
    exact ⟨.error .einval, h, step_park_of_down here down sees, other, rfl⟩
  | notifyAll =>
    obtain rfl : r = .broadcast m := asks
    obtain ⟨a, h', e, spares⟩ := spares_broadcast here sees
    exact ⟨a, h', e, trivial, spares⟩
  | read =>
    obtain ⟨off, len, rfl⟩ := asks
    exact ⟨_, h, rfl, trivial, rfl⟩
  | write off bs => exact spares_write here sees em asks ⟨off, bs, rfl⟩
  | drop | destroy =>
    have declines (a : r.Answer) : r.Declines a := by
      cases r with
      | lock | park => cases asks
      | _ => trivial
    obtain ⟨a, h', e, quiet⟩ := Session.quiet_tears role asks t
    exact ⟨a, h', e, declines a, quiet⟩
  | info | debug | other => cases asks

end Host

/-- A deed of a thread, if it is one, is a move in its call, and no failure that tells of a dead
owner. -/
def Deed.GoesOn (t : ThreadId) (d : Deed) : Prop :=
  d.thread = t → ∃ h m, d = .moved t h m ∧ ∀ r, m ≠ .struck r .eownerdead

/-- Whatever happens meanwhile, a call of a thread is over after some moves at most. It never has to
wait, every move of it does no more to the host than it may, and it ends as a condition says. -/
def Session.ComesBack (s : Session) (t : ThreadId) (moves : ℕ) (spares : Host → Host → Prop)
    (ends : Outcome → Prop) : Prop :=
  ∀ since s', Run Session.Step s since s' → (∀ d ∈ since, d.GoesOn t) →
    since.countP (·.thread == t) ≤ moves ∧
    ((∃ o, s'.outcome? t = some o ∧ ends o) ∨
      ∃ d s'', s'.Step d s'' ∧ d.thread = t ∧ d.GoesOn t) ∧
    ∀ d s'', s'.Step d s'' → d.thread = t → d.GoesOn t →
      (∀ h r, d ≠ .moved t h (.waited r)) ∧ spares s'.host s''.host

/-- A move of a program that is declined is one of those within which it ends. -/
lemma Program.EndsWithin.step {α : Type} {ok : Request → Prop} {ends : α → Prop} {n : ℕ}
    {p p' : Program α} {t : ThreadId} {h h' : Host} {m : Move} {spares : Host → Host → Prop}
    (within : p.EndsWithin ok ends n) (st : p.Step t h m p' h')
    (calm : ∀ r, m ≠ .struck r .eownerdead) (idle : spares h h)
    (answers : ∀ r, ok r → ∃ a h', h.step t r = .done a h' ∧ r.Declines a ∧ spares h h') :
    ∃ n', n = n' + 1 ∧ p'.EndsWithin ok ends n' ∧ (∀ r, m ≠ .waited r) ∧ spares h h' := by
  cases st with
  | tell =>
    obtain ⟨n', rfl, within⟩ := within
    exact ⟨n', rfl, within, nofun, idle⟩
  | @answer r next _ a _ eh =>
    obtain ⟨may, n', rfl, within⟩ := within
    obtain ⟨a', h'', eh', declined, spares⟩ := answers r may
    cases eh.symm.trans eh'
    exact ⟨n', rfl, within a declined, nofun, spares⟩
  | @wait r next _ _ eh =>
    obtain ⟨a', h'', eh', -⟩ := answers r within.1
    cases eh.symm.trans eh'
  | @strike r next _ call fail e er =>
    obtain ⟨-, n', rfl, within⟩ := within
    refine ⟨n', rfl, within _ ?_, nofun, idle⟩
    have other : e ≠ .eownerdead := by
      rintro rfl
      exact calm r rfl
    cases r with
    | lock | park =>
      cases er
      exact other
    | _ => trivial

namespace Session

variable {h : Host} {s s' : Session} {since past : List Deed} {t : ThreadId} {k : ObjectId}
  {c : Underway} {moves : ℕ} {ends : Outcome → Prop} {d : Deed}

/-- Nobody dies by a deed of another. -/
lemma Step.dead_of_other (st : s.Step d s') (other : d.thread ≠ t) : s'.dead t = s.dead t := by
  cases st with
  | openHandle | onHandle | drop | onGuard | move => rfl
  | finish => rw [conclude_dead]
  | die => exact update_of_ne (Ne.symm other) _ _

/-- A call that is declined is over after the moves within which its program ends. -/
theorem comesBack_of_endsWithin {op : Operation} {g : Segment} {m : MappingId}
    (run : Run Step (.ofHost h) past s) (le : h.objects.length ≤ k) (down : s.host.IsDown k)
    (awake : t ∉ s.host.queueOn k) (role : g.role = .attacher) (em : g.mapping = some m)
    (shows : s.host.shows m k) (ec : s.calls t = some c) (alive : s.dead t = false)
    (within : c.program.EndsWithin (op.Attempts g m) ends moves) :
    s.ComesBack t moves (op.Spares g k) ends := by
  have answers {s' : Session} {since : List Deed} (run' : Run Step s since s') (r : Request)
      (asks : op.Attempts g m r) :
      ∃ a h', s'.host.step t r = .done a h' ∧ r.Declines a ∧ op.Spares g k s'.host h' := by
    refine Host.declines role em (isDown_run run down run') ?_ ?_ asks
    · exact fun queued => awake ((asleep_run run down le run').1 queued)
    · intro k' shows'
      exact Host.shows_unique ((numbers_run run').shown (Host.lt_of_shows shows) shows') shows
  -- As long as it is under way, the moves that it has made are among those within which it ends.
  have underway {s' : Session} {since : List Deed} (run' : Run Step s since s')
      (goes : ∀ d ∈ since, d.GoesOn t) : ∃ c' n, s'.calls t = some c' ∧ s'.dead t = false ∧
        c'.program.EndsWithin (op.Attempts g m) ends n ∧
        since.countP (·.thread == t) + n ≤ moves := by
    induction run' with
    | nil => exact ⟨c, moves, ec, alive, within, by simp⟩
    | @cons since s' d s'' run' st ih =>
      obtain ⟨c', n, ec', alive', within', few⟩ := ih fun d mem => goes d (.tail _ mem)
      by_cases mine : d.thread = t
      · obtain ⟨h', mv, rfl, calm⟩ := goes d (.head _) mine
        cases st with
        | move ec'' _ st =>
          cases ec'.symm.trans ec''
          obtain ⟨n', rfl, within', -⟩ :=
            within'.step st calm (Host.spares_refl op g k _) (answers run')
          refine ⟨_, n', update_self .., alive', within', ?_⟩
          rw [List.countP_cons_of_pos (by simp [Deed.thread])]
          omega
      · have others := calls_others (Run.nil.cons st) (u := t) (by simpa using mine) ec'
        refine ⟨c', n, others, (st.dead_of_other mine).trans alive', within', ?_⟩
        rwa [List.countP_cons_of_neg (by simpa using mine)]
  intro since s' run' goes
  obtain ⟨c', n, ec', alive', within', few⟩ := underway run' goes
  refine ⟨Nat.le_trans (Nat.le_add_right ..) few, ?_, ?_⟩
  · cases ep : c'.program with
    | ret o =>
      rw [ep] at within'
      exact .inl ⟨o, outcome?_eq_some.2 ⟨c', ec', ep⟩, within'⟩
    | put o rest =>
      have st := Step.move ec' alive' (ep ▸ Program.Step.tell)
      refine .inr ⟨_, _, st, rfl, fun _ => ⟨_, _, rfl, ?_⟩⟩
      intro r er
      cases er
    | ask r next =>
      rw [ep] at within'
      obtain ⟨a, h', eh, -⟩ := answers run' r within'.1
      have st := Step.move ec' alive' (ep ▸ Program.Step.answer eh)
      refine .inr ⟨_, _, st, rfl, fun _ => ⟨_, _, rfl, ?_⟩⟩
      intro r er
      cases er
  · intro d s'' st mine goesOn
    obtain ⟨h', mv, rfl, calm⟩ := goesOn mine
    cases st with
    | move ec'' _ st =>
      cases ec'.symm.trans ec''
      obtain ⟨-, -, -, goes, spares⟩ :=
        within'.step st calm (Host.spares_refl op g k _) (answers run')
      refine ⟨?_, spares⟩
      rintro h r ⟨⟩
      exact goes r rfl

end Session
end SharedSegment
