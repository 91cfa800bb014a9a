import SharedSegment.Proofs.Alone.Recovery

/-!
# How long creation takes

Whatever it is answered, a call that creates a segment is over after some moves at most
(`isWithin_openCall`). The bound is told from the tree of the program, with one rule for each of its
forms and one for `bind`; it says nothing of what the call has come to then, and whether it had to
wait on its way.
-/

namespace SharedSegment
open Header Scenario

/-- On every way through a program there are some moves at most. -/
inductive Program.IsWithin {α : Type} : Program α → ℕ → Prop where
  | ret {a i} :
    IsWithin (.ret a) i
  | put {o rest i} :
    rest.IsWithin i →
    IsWithin (.put o rest) (i + 1)
  | ask {r next i} :
    (∀ a, (next a).IsWithin i) →
    IsWithin (.ask r next) (i + 1)

namespace Program

variable {α β : Type} {p p' : Program α} {f : α → Program β} {i j : ℕ}

lemma IsWithin.mono (le : i ≤ j) (within : p.IsWithin i) : p.IsWithin j := by
  induction within generalizing j with
  | ret => exact .ret
  | put _ ih =>
    obtain ⟨j, rfl⟩ := Nat.exists_eq_add_of_le' (Nat.le_trans (Nat.le_add_left 1 _) le)
    exact .put (ih (Nat.le_of_succ_le_succ le))
  | ask _ ih =>
    obtain ⟨j, rfl⟩ := Nat.exists_eq_add_of_le' (Nat.le_trans (Nat.le_add_left 1 _) le)
    exact .ask fun a => ih a (Nat.le_of_succ_le_succ le)

/-- The moves of one program come before those of the next. -/
lemma IsWithin.bind (within : p.IsWithin i) (next : ∀ a, (f a).IsWithin j) :
    (p.bind f).IsWithin (i + j) := by
  induction within with
  | ret => exact (next _).mono (Nat.le_add_left ..)
  | put _ ih =>
    rw [Nat.succ_add]
    exact .put ih
  | ask _ ih =>
    rw [Nat.succ_add]
    exact .ask ih

lemma isWithin_request (r : Request) : (request r).IsWithin 1 :=
  .ask fun _ => .ret

/-- A move in a program that has not to wait is one of those that it is within. -/
lemma IsWithin.step {t : ThreadId} {h h' : Host} {m : Move} (within : p.IsWithin i)
    (st : p.Step t h m p' h') (answered : ∀ r, m ≠ .waited r) :
    ∃ i', i = i' + 1 ∧ p'.IsWithin i' := by
  cases st with
  | tell =>
    cases within with
    | put within => exact ⟨_, rfl, within⟩
  | answer | strike =>
    cases within with
    | ask within => exact ⟨_, rfl, within _⟩
  | wait => exact absurd rfl (answered _)

lemma isWithin_logFailure (a : Except Errno Unit) (e : Errno → Event) :
    (logFailure a e).IsWithin 1 := by
  cases a with
  | ok => exact .ret
  | error => exact .put .ret

end Program

open Program

namespace Header

variable {m : MappingId} {c : Call} {p : Program (Except Errno Unit)} {f : Steps Unit} {i : ℕ}

lemma isWithin_checked (within : p.IsWithin i) : (checked c p).run.IsWithin i := by
  refine within.bind (j := 0) fun r => ?_
  cases r with
  | ok => exact .ret
  | error => exact .ret

/-- A step of one request comes before the next. -/
lemma isWithin_checked_bind (within : p.IsWithin 1) (next : f.run.IsWithin i) :
    (checked c p >>= fun _ => f).run.IsWithin (i + 1) := by
  rw [Nat.add_comm]
  refine (isWithin_checked within).bind fun r => ?_
  cases r with
  | ok => exact next
  | error => exact .ret

lemma isWithin_prepareMutex : (prepareMutex m).run.IsWithin 4 := by
  refine isWithin_checked_bind (isWithin_request .mutexattrSetpshared) ?_
  refine isWithin_checked_bind (isWithin_request .mutexattrSetrobust) ?_
  refine isWithin_checked_bind (isWithin_request .mutexattrSettype) ?_
  exact isWithin_checked (isWithin_request (.mutexInit m))

lemma isWithin_prepareCondition : (prepareCondition m).run.IsWithin 3 := by
  refine isWithin_checked_bind (isWithin_request .condattrSetclock) ?_
  refine isWithin_checked_bind (isWithin_request .condattrSetpshared) ?_
  exact isWithin_checked (isWithin_request (.condInit m))

lemma isWithin_withMutexAttributes : (withMutexAttributes m).IsWithin 6 := by
  refine (isWithin_checked (isWithin_request .mutexattrInit)).bind (j := 5) fun r => ?_
  cases r with
  | ok => exact isWithin_prepareMutex.bind (j := 1) fun _ => .ask fun _ => .ret
  | error => exact .ret

lemma isWithin_withConditionAttributes : (withConditionAttributes m).IsWithin 5 := by
  refine (isWithin_checked (isWithin_request .condattrInit)).bind (j := 4) fun r => ?_
  cases r with
  | ok => exact isWithin_prepareCondition.bind (j := 1) fun _ => .ask fun _ => .ret
  | error => exact .ret

lemma isWithin_prepare (m : MappingId) (size : UInt32) : (prepare m size).IsWithin 12 := by
  refine isWithin_withMutexAttributes.bind (j := 6) fun r => ?_
  cases r with
  | error => exact .ret
  | ok =>
    refine isWithin_withConditionAttributes.bind (j := 1) fun r => ?_
    cases r with
    | error => exact .ask fun _ => .ret
    | ok => exact .ask fun _ => .ret

end Header

namespace Segment

variable {n : Name} {c : Config} {size : UInt32} {s : Segment}

lemma isWithin_openExclusive : (openExclusive n c).IsWithin 5 := by
  refine .ask fun r => ?_
  cases r with
  | ok => exact .ret
  | error =>
    refine .put (.ask fun r => ?_)
    cases r with
    | error => exact .ret
    | ok =>
      refine .ask fun r => ?_
      cases r with
      | ok => exact .put .ret
      | error => exact .ret

lemma isWithin_pin {m : MappingId} : (pin n c m size).IsWithin 2 := by
  unfold pin
  split
  case isTrue => exact .ask fun a => isWithin_logFailure a _
  case isFalse => exact .ret

lemma isWithin_unmap : s.unmap.IsWithin 2 := by
  unfold unmap
  cases s.mapping with
  | none => exact .ret
  | some m => exact .ask fun a => isWithin_logFailure a _

lemma isWithin_unlink : s.unlink.IsWithin 2 := by
  refine .ask fun a => ?_
  cases a with
  | ok => exact .ret
  | error e =>
    change Program.IsWithin (if e = .enoent then .ret () else .put _ (.ret ())) 1
    split
    case isTrue => exact .ret
    case isFalse => exact .put .ret

lemma isWithin_release : s.release.IsWithin 4 := by
  unfold release
  cases s.file with
  | none => exact .ret
  | some f =>
    refine .ask fun _ => ?_
    by_cases creator : s.role = .creator
    · simp only [if_pos creator]
      exact isWithin_unlink.bind (j := 1) fun _ => .put .ret
    · simp only [if_neg creator]
      exact .put .ret

/-- Of what a half-made segment gives up nothing was set up. -/
lemma isWithin_giveUp (none : s.ownsSync = false) (e : SegmentError) : (s.giveUp e).IsWithin 6 := by
  have nothing : s.destroySync = .ret () := by
    unfold destroySync
    cases s.mapping with
    | none => rfl
    | some m => simp [none]
  have parts : s.giveUp e = s.unmap.bind fun _ => s.release.bind fun _ => .ret (.error e) := by
    simp only [giveUp, destroy, nothing, Program.bind_eq, Program.pure_eq_ret, Program.ret_bind,
      Program.bind_assoc]
  rw [parts]
  exact isWithin_unmap.bind (j := 4) fun _ => isWithin_release.bind (j := 0) fun _ => .ret

lemma isWithin_furnish {f : FileId} : (furnish n f size c).IsWithin 20 := by
  refine .ask fun r => ?_
  cases r with
  | error => exact (isWithin_giveUp rfl _).mono (by decide)
  | ok =>
    refine .ask fun r => ?_
    cases r with
    | error => exact (isWithin_giveUp rfl _).mono (by decide)
    | ok m =>
      refine (isWithin_prepare m size).bind (j := 6) fun r => ?_
      cases r with
      | error => exact isWithin_giveUp rfl _
      | ok => exact (isWithin_pin.bind (j := 1) fun _ => .put .ret).mono (i := 3) (by decide)

lemma isWithin_create : (create n size c).IsWithin 25 := by
  rw [create_eq]
  refine isWithin_openExclusive.bind (j := 20) fun r => ?_
  cases r with
  | error => exact .ret
  | ok => exact isWithin_furnish

end Segment

/-- A call that creates a segment is over after 26 moves at most. -/
theorem isWithin_openCall {toggle : Option String} {x raw : String} {n : Name} {size : UInt32}
    {via : Via} (named : Name.ofRaw raw = .ok n) (creates : via.creates size) (positive : size ≠ 0)
    (admitted : via.isChecked → (via.settings toggle).validate = .ok ()) :
    (openCall toggle x raw size via).IsWithin 26 := by
  rw [openCall_eq named creates positive admitted]
  refine Segment.isWithin_create.bind (j := 1) fun r => ?_
  unfold Via.report
  split
  case h_1 => exact .put .ret
  case h_2 => exact .ret

end SharedSegment
