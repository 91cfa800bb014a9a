import SharedSegment.Proofs.Stakes.Discarding

/-!
# Handles that hold nothing

A facade may have no segment, and a segment that was destroyed holds nothing any more
(`Handle.IsBare`). A call on such a handle is over when it begins, with a result that says that
there is nothing (`Handle.refusal`), and a run in which it is made can do without it
(`Session.Step.spares_over`).
-/

namespace SharedSegment
open Function Scenario Program

namespace Segment

variable (g : Segment)

lemma empty_empty : g.empty.empty = g.empty := by
  rw [empty, empty, Bool.and_assoc, Bool.and_self]

/-- Nothing is left to do where nothing is held. -/
lemma destroy_empty : g.empty.destroy = .ret g.empty := by
  have taken : g.empty.destroySync = .ret () := rfl
  have unmapped : g.empty.unmap = .ret () := rfl
  have released : g.empty.release = .ret () := rfl
  unfold destroy
  rw [taken, unmapped, released, empty_empty]
  rfl

end Segment

namespace Scenario.Handle

/-- There is nothing behind a handle. -/
inductive IsBare : Handle → Prop where
  | facade {f} :
    f.segment = none →
    IsBare (.facade f)
  | segment {g} :
    IsBare (.segment (Segment.empty g))

/-- What an operation comes to on a handle with nothing behind it, if it is one for such handles. A
segment that is destroyed once more stays what it is. -/
def refusal (y : String) : Handle → Operation → Option Outcome
  | x, .info => some ⟨.info x, .none⟩
  | .facade f, .debug => some ⟨.text f.diagnostic, .none⟩
  | _, .lock | .segment _, .waitLocked => some ⟨.status .unavailable, .none⟩
  | .facade _, .read .. => some ⟨.bytes [], .none⟩
  | .facade _, .write .. => some ⟨.wrote 0, .none⟩
  | .facade _, .guard _ => some ⟨.guarded none, .none⟩
  | _, .unlock | _, .wait | _, .notifyAll | _, .drop => some ⟨.ok, .none⟩
  | .segment g, .destroy => some ⟨.info (.segment g), .setHandle y (.segment g)⟩
  | _, _ => none

/-- A call on a handle with nothing behind it asks for nothing. -/
theorem IsBare.handleCall?_eq {x : Handle} (bare : x.IsBare) (t : ThreadId) (y : String)
    (op : Operation) : handleCall? t y x op = (x.refusal y op).map .ret := by
  cases bare with
  | @facade f eg =>
    have invalid : ¬f.isValid := by simp [Facade.isValid, eg]
    have idle {α : Type} (a : α) (act : Segment → Program α) : f.onSegment a act = .ret a := by
      rw [Facade.onSegment, eg]
      rfl
    cases op with
    | read off len => simp only [handleCall?, Facade.read, if_neg invalid]; rfl
    | write off bs => simp only [handleCall?, Facade.write, if_neg invalid]; rfl
    | guard n => simp only [handleCall?, guardCall, Facade.guard, Facade.lock, idle]; rfl
    | lock => simp only [handleCall?, Handle.lock, Facade.lock, idle]; rfl
    | unlock => simp only [handleCall?, Handle.unlock, Facade.unlock, idle]; rfl
    | wait => simp only [handleCall?, Handle.wait, Facade.wait, idle]; rfl
    | notifyAll => simp only [handleCall?, Handle.notifyAll, Facade.notifyAll, idle]; rfl
    | drop => simp only [handleCall?, Handle.drop, Facade.drop, idle]; rfl
    | _ => rfl
  | @segment g =>
    cases op with
    | drop => simp only [handleCall?, Handle.drop, Segment.destroy_empty]; rfl
    | destroy => simp only [handleCall?, Segment.destroy_empty]; rfl
    | _ => rfl

end Scenario.Handle

namespace Session

variable {s s' : Session} {d : Deed} {y : String} {x : Handle} {u : ThreadId} {op : Operation}
  {o : Outcome} {after : List Deed}

/-- A call on a handle with nothing behind it is over when it begins. -/
theorem Step.over_of_bare (st : s.Step (.began u (.onHandle y op)) s') (ex : s.handles y = some x)
    (bare : x.IsBare) :
    ∃ o, x.refusal y op = some o ∧ s'.outcome? u = some o ∧ s'.host = s.host := by
  have ended {p : Program Outcome} (ep : handleCall? u y x op = some p) :
      ∃ o, x.refusal y op = some o ∧ p = .ret o := by
    rw [bare.handleCall?_eq] at ep
    obtain ⟨o, eo, rfl⟩ := Option.map_eq_some_iff.1 ep
    exact ⟨o, eo, rfl⟩
  cases st with
  | onHandle _ ex' _ _ _ ep | drop _ ex' _ ep =>
    cases ex.symm.trans ex'
    obtain ⟨o, eo, rfl⟩ := ended ep
    exact ⟨o, eo, outcome?_eq_some.2 ⟨_, update_self .., rfl⟩, rfl⟩

/-- What others do while a call is under way they can do as well when it is over. -/
lemma run_ended (run : Run Step s after s') (others : ∀ d ∈ after, d.thread ≠ u) :
    Run Step (s.ended u .none) after (s'.ended u .none) := by
  induction run with
  | nil => exact .nil
  | cons run st ih =>
    refine (ih fun d mem => others d (.tail _ mem)).cons (st.ended ?_ ?_)
    · exact fun same => absurd same (others _ (.head _))
    · rintro _ _ ⟨⟩

/-- Where a call has only begun, the session without it is the one before. -/
lemma ended_begin_self {c : Underway} (free : s.calls u = none) :
    (s.begin u c).ended u .none = s := by
  have same : update (update s.calls u (some c)) u none = s.calls := by
    rw [update_idem, ← free, update_eq_self]
  exact congrArg (fun calls => { s with calls }) same

lemma Step.ended_of_began {a : Act} (st : s.Step (.began u a) s') :
    s'.ended u .none = { s with handles := s'.handles } := by
  cases st with
  | openHandle idle | onHandle idle | onGuard idle => exact ended_begin_self idle.calls
  | drop idle => exact ended_begin_self (s := { s with handles := _ }) idle.calls

/-- A call that puts the same handle in its place again changes nothing. -/
lemma ended_setHandle_self (ex : s.handles y = some x) :
    s.ended u (.setHandle y x) = s.ended u .none := by
  have same : update s.handles y (some x) = s.handles := by rw [← ex, update_eq_self]
  exact congrArg (fun handles => { s with handles, calls := update s.calls u none }) same

/-- Others leave a call as it is. -/
lemma calls_others {c : Underway} (run : Run Step s after s') (others : ∀ d ∈ after, d.thread ≠ u)
    (ec : s.calls u = some c) : s'.calls u = some c := by
  induction run with
  | nil => exact ec
  | @cons past s' d s'' run st ih =>
    have ec := ih fun d mem => others d (.tail _ mem)
    have ne := others d (.head _)
    cases st with
    | openHandle | onHandle | drop | onGuard | move => exact (update_of_ne ne.symm _ _).trans ec
    | finish =>
      rw [conclude_calls]
      exact (update_of_ne ne.symm _ _).trans ec
    | die => exact ec

end Session
end SharedSegment
