import SharedSegment.Header
import SharedSegment.Proofs.Ensures

/-!
# Setting up

How the synchronization objects of a segment are set up, said for any protocol: calls on attributes
leave the state as it is, and one request sets the object up or leaves everything as it is. So the
whole of it either fails and leaves everything as it is, or sets the object up.
-/

namespace SharedSegment
open Program

/-- Asking for something leaves every state as it is. -/
def Protocol.Spares {σ : Type} (P : Protocol σ) (r : Request) : Prop :=
  ∀ s, (Program.request r).Ensures P (fun _ s' => s' = s) s

/-- What may come of setting something up: a failure that leaves the state as it was, or another
state. -/
def SetsUp {σ ε : Type} (s s' : σ) (r : Except ε Unit) (s'' : σ) : Prop :=
  (∃ e, r = .error e) ∧ s'' = s ∨ r = .ok () ∧ s'' = s'

namespace Header

variable {σ : Type} {P : Protocol σ} {s s' : σ} {m : MappingId}

/-- The calls on attributes of mutexes and conditions. -/
def attributeRequests : List Request :=
  [.mutexattrInit, .mutexattrSetpshared, .mutexattrSetrobust, .mutexattrSettype, .mutexattrDestroy,
    .condattrInit, .condattrSetclock, .condattrSetpshared, .condattrDestroy]

lemma ensures_checked {post : Except SyncFailure Unit → σ → Prop} {call : Call}
    {p : Program (Except Errno Unit)} {mid : Except Errno Unit → σ → Prop} (en : p.Ensures P mid s)
    (done : ∀ s, mid (.ok ()) s → post (.ok ()) s)
    (failed : ∀ e s, mid (.error e) s → post (.error ⟨call, e⟩) s) :
    (checked call p).run.Ensures P post s := by
  refine en.bind ?_
  intro r s' here
  cases r with
  | ok => exact done s' here
  | error e => exact failed e s' here

/-- A step of setting something up that leaves the state as it is. -/
lemma ensures_checked_bind {post : Except SyncFailure Unit → σ → Prop} {call : Call}
    {p : Program (Except Errno Unit)} {f : Steps Unit}
    (spares : p.Ensures P (fun _ s' => s' = s) s) (failed : ∀ e, post (.error e) s)
    (next : f.run.Ensures P post s) :
    (checked call p >>= fun _ => f).run.Ensures P post s := by
  have step : (checked call p).run.Ensures P (fun _ s' => s' = s) s :=
    ensures_checked spares (fun _ => id) fun _ _ => id
  refine step.bind ?_
  rintro r _ rfl
  cases r with
  | ok => exact next
  | error e => exact failed e

section
variable (attributes : ∀ r ∈ attributeRequests, P.Spares r)
include attributes

lemma ensures_prepareMutex (up : (Program.request (.mutexInit m)).Ensures P (SetsUp s s') s) :
    (prepareMutex m).run.Ensures P (SetsUp s s') s := by
  have failed (e : SyncFailure) : SetsUp s s' (.error e) s := .inl ⟨⟨e, rfl⟩, rfl⟩
  refine ensures_checked_bind (attributes _ (by decide) s) failed ?_
  refine ensures_checked_bind (attributes _ (by decide) s) failed ?_
  refine ensures_checked_bind (attributes _ (by decide) s) failed ?_
  refine ensures_checked up ?_ ?_
  · rintro s'' (⟨⟨e, ⟨⟩⟩, -⟩ | ⟨-, rfl⟩)
    exact .inr ⟨rfl, rfl⟩
  · rintro e s'' (⟨-, rfl⟩ | ⟨⟨⟩, -⟩)
    exact failed _

lemma ensures_prepareCondition
    (up : (Program.request (.condInit m)).Ensures P (SetsUp s s') s) :
    (prepareCondition m).run.Ensures P (SetsUp s s') s := by
  have failed (e : SyncFailure) : SetsUp s s' (.error e) s := .inl ⟨⟨e, rfl⟩, rfl⟩
  refine ensures_checked_bind (attributes _ (by decide) s) failed ?_
  refine ensures_checked_bind (attributes _ (by decide) s) failed ?_
  refine ensures_checked up ?_ ?_
  · rintro s'' (⟨⟨e, ⟨⟩⟩, -⟩ | ⟨-, rfl⟩)
    exact .inr ⟨rfl, rfl⟩
  · rintro e s'' (⟨-, rfl⟩ | ⟨⟨⟩, -⟩)
    exact failed _

end

/-- Attributes are made before something is set up and go afterwards. -/
lemma ensures_attributes_bind {begins p : Program (Except SyncFailure Unit)}
    {ends : Program (Except Errno Unit)}
    {f : Except SyncFailure Unit → Program (Except SyncFailure Unit)}
    (made : begins.Ensures P (fun _ s' => s' = s) s)
    (gone : ∀ s, ends.Ensures P (fun _ s' => s' = s) s)
    (failed : ∀ e, f (.error e) = .ret (.error e))
    (next : f (.ok ()) = p.bind fun r => ends.bind fun _ => .ret r)
    (up : p.Ensures P (SetsUp s s') s) : (begins.bind f).Ensures P (SetsUp s s') s := by
  refine made.bind ?_
  rintro r _ rfl
  cases r with
  | error e =>
    rw [failed]
    exact .inl ⟨⟨e, rfl⟩, rfl⟩
  | ok =>
    rw [next]
    refine up.bind ?_
    intro r s₁ up
    refine (gone s₁).bind ?_
    rintro _ _ rfl
    exact up

section
variable (attributes : ∀ r ∈ attributeRequests, P.Spares r)
include attributes

lemma ensures_withMutexAttributes
    (up : (Program.request (.mutexInit m)).Ensures P (SetsUp s s') s) :
    (withMutexAttributes m).Ensures P (SetsUp s s') s := by
  have made := attributes .mutexattrInit (by decide) s
  exact ensures_attributes_bind (ensures_checked made (fun _ => id) fun _ _ => id)
    (attributes .mutexattrDestroy (by decide)) (fun _ => rfl) rfl
    (ensures_prepareMutex attributes up)

lemma ensures_withConditionAttributes
    (up : (Program.request (.condInit m)).Ensures P (SetsUp s s') s) :
    (withConditionAttributes m).Ensures P (SetsUp s s') s := by
  have made := attributes .condattrInit (by decide) s
  exact ensures_attributes_bind (ensures_checked made (fun _ => id) fun _ _ => id)
    (attributes .condattrDestroy (by decide)) (fun _ => rfl) rfl
    (ensures_prepareCondition attributes up)

/-- Both objects are set up and the size is published last. If one of them fails, no size is, and a
mutex without its condition is taken down. -/
lemma ensures_prepare_of_parts {s₁ s₂ : σ} {size : UInt32}
    {post : Except SyncFailure Unit → σ → Prop}
    (mutex : (Program.request (.mutexInit m)).Ensures P (SetsUp s s₁) s)
    (condition : (Program.request (.condInit m)).Ensures P (SetsUp s₁ s₂) s₁)
    (published : (Program.request (.storeSize m size)).Ensures P (fun _ => post (.ok ())) s₂)
    (undone : (Program.request (.mutexDestroy m)).Ensures P
      (fun _ s' => ∀ e, post (.error e) s') s₁)
    (failed : ∀ e, post (.error e) s) : (prepare m size).Ensures P post s := by
  refine (ensures_withMutexAttributes attributes mutex).bind ?_
  rintro r _ (⟨⟨e, rfl⟩, rfl⟩ | ⟨rfl, rfl⟩)
  · exact failed e
  refine (ensures_withConditionAttributes attributes condition).bind ?_
  rintro r _ (⟨⟨e, rfl⟩, rfl⟩ | ⟨rfl, rfl⟩)
  · refine undone.bind ?_
    intro _ s' here
    exact here e
  · refine published.bind ?_
    intro _ s' here
    exact here

end
end Header
end SharedSegment
