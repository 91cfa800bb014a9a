import SharedSegment.Proofs.Asking
import SharedSegment.Proofs.Session

/-!
# What calls ensure

Calls are made of what is done with segments: opening a handle makes a segment or looks for one,
dropping or destroying it tears its segment down, and every other operation uses its segment. So
what a call ensures, by any protocol, follows from what these ensure (`Ensures.openCall`,
`Ensures.dropCall`, `Ensures.destroyCall`, `Ensures.handleUse`, `Ensures.guardUse`).
-/

namespace SharedSegment
open Scenario Program

/-- Whether a way of opening a handle creates a segment. -/
def Scenario.Via.creates (size : UInt32) : Via → Bool
  | .facade _ | .attempt _ => Role.ofSize size = .creator
  | .create _ => true
  | .attach _ => false

/-- Whether a way of opening a handle is that of facades, which check their settings. -/
def Scenario.Via.isChecked : Via → Bool
  | .facade _ | .attempt _ => true
  | .create _ | .attach _ => false

/-- The settings that a way of opening a handle may create a segment with. -/
def Scenario.Via.Allows (c : Config) : Via → Prop
  | .facade _ | .attempt _ => Config.IsMode c.mode
  | .create c' => c = c'
  | .attach _ => False

/-- The segment of a handle that an effect puts in place. -/
def Scenario.Effect.segment? : Effect → Option Segment
  | .setHandle _ x => x.segment?
  | _ => Option.none

/-- What opening a handle changes for the acts after it. -/
def Scenario.Via.Brings (via : Via) (h : String) (e : Effect) : Prop :=
  e = .none ∨ ∃ x, e = .setHandle h x ∧ ∀ f, x = .facade f → via.isChecked

/-- What an operation changes for the acts after it, if it takes no handle away. -/
def Scenario.Operation.Brings (t : ThreadId) (h : String) (e : Effect) : Operation → Prop
  | .guard g => e = .none ∨ ∃ s, e = .setGuard ⟨t, g, h, s⟩
  | _ => e = .none

/-- What an operation on a guard changes for the acts after it. -/
def Scenario.GuardOperation.Brings (g : Guard) (e : Effect) : GuardOperation → Prop
  | .wait => ∃ s, e = .setGuard { g with status := s }
  | .drop => e = .removeGuard g
  | _ => e = .none

section
variable {σ : Type}

/-- What an operation does with a segment ends in the state in which it has begun. -/
def Scenario.Operation.Keeps (P : Protocol σ) (s : σ) (g : Segment) : Operation → Prop
  | .lock | .guard _ => g.lock.Keeps P s
  | .unlock => g.unlock.Keeps P s
  | .wait => g.wait.Keeps P s
  | .notifyAll => g.notifyAll.Keeps P s
  | .waitLocked => g.waitLocked.Keeps P s
  | .read .. => ∀ off len, (g.read off len).Keeps P s
  | .write .. => ∀ off bs, (g.write off bs).Keeps P s
  | _ => True

/-- What an operation on a guard does with the segment ends in the state in which it has begun. -/
def Scenario.GuardOperation.Keeps (P : Protocol σ) (s : σ) (g : Segment) : GuardOperation → Prop
  | .read .. => ∀ off len, (g.read off len).Keeps P s
  | .write .. => ∀ off bs, (g.write off bs).Keeps P s
  | .wait => g.waitLocked.Keeps P s
  | .drop => g.unlock.Keeps P s
  | .status => True

end

namespace Facade

variable {σ α : Type} {P : Protocol σ} {s : σ} (f : Facade)

lemma keeps_onSegment {otherwise : α} {act : Segment → Program α}
    (keeps : ∀ g, f.segment = some g → (act g).Keeps P s) :
    (f.onSegment otherwise act).Keeps P s := by
  unfold onSegment
  cases es : f.segment with
  | none => exact rfl
  | some g => exact keeps g es

lemma keeps_guard (keeps : ∀ g, f.segment = some g → g.lock.Keeps P s) : f.guard.Keeps P s := by
  refine (f.keeps_onSegment keeps).bind ?_
  rintro status _ rfl
  exact rfl

lemma keeps_read (keeps : ∀ g, f.segment = some g → ∀ off len, (g.read off len).Keeps P s)
    (off len : Nat) : (f.read off len).Keeps P s := by
  unfold read
  split
  case isTrue => exact f.keeps_onSegment fun g eg => keeps g eg off len
  case isFalse => exact rfl

lemma keeps_write (keeps : ∀ g, f.segment = some g → ∀ off bs, (g.write off bs).Keeps P s)
    (off : Nat) (bs : List UInt8) : (f.write off bs).Keeps P s := by
  unfold write
  split
  case isTrue => exact f.keeps_onSegment fun g eg => keeps g eg off bs
  case isFalse => exact rfl

end Facade

namespace Program.Ensures

section
variable {σ α : Type} {P : Protocol σ} {s : σ} {t : ThreadId} {h : String} {x : Handle}
  {p : Program Outcome}

/-- A call that only gives the result of a program changes nothing. -/
lemma giving {post : σ → Prop} {q : Program α} {result : α → Result}
    (en : q.Ensures P (fun _ s' => post s') s) :
    (Scenario.giving q result).Ensures P (fun o s' => o.effect = .none ∧ post s') s :=
  en.bind fun _ _ here => ⟨rfl, here⟩

/-- What is done with a handle, other than to drop or to destroy it, is done with its segment. -/
theorem handleUse {op : Operation} (keeps : ∀ g, x.segment? = some g → op.Keeps P s g)
    (ep : handleCall? t h x op = some p) (nodrop : op ≠ .drop) (nodestroy : op ≠ .destroy) :
    p.Ensures P (fun o s' => op.Brings t h o.effect ∧ s' = s) s := by
  cases x with
  | facade f =>
    cases op with
    | info | debug =>
      cases ep
      exact ⟨rfl, rfl⟩
    | lock | unlock | wait | notifyAll =>
      cases ep
      exact giving (f.keeps_onSegment keeps)
    | read off len =>
      cases ep
      exact giving (f.keeps_read keeps _ _)
    | write off bs =>
      cases ep
      exact giving (f.keeps_write keeps _ _)
    | guard g =>
      cases ep
      refine (f.keeps_guard keeps).bind ?_
      rintro status _ rfl
      cases status with
      | none => exact ⟨.inl rfl, rfl⟩
      | some status => exact ⟨.inr ⟨status, rfl⟩, rfl⟩
    | drop => exact absurd rfl nodrop
    | destroy => exact absurd rfl nodestroy
    | waitLocked | other => cases ep
  | segment g =>
    cases op with
    | info =>
      cases ep
      exact ⟨rfl, rfl⟩
    | lock | unlock | wait | notifyAll | waitLocked =>
      cases ep
      exact giving (keeps g rfl)
    | drop => exact absurd rfl nodrop
    | destroy => exact absurd rfl nodestroy
    | debug | read | write | guard | other => cases ep

/-- What is done with a guard is done with the segment of its facade. -/
theorem guardUse {f : Facade} {op : GuardOperation} (y : Guard)
    (keeps : ∀ g, f.segment = some g → op.Keeps P s g) :
    (guardOperationCall y f op).Ensures P (fun o s' => op.Brings y o.effect ∧ s' = s) s := by
  cases op with
  | status => exact ⟨rfl, rfl⟩
  | read off len => exact giving (f.keeps_read keeps _ _)
  | write off bs => exact giving (f.keeps_write keeps _ _)
  | wait =>
    refine (f.keeps_onSegment keeps).bind ?_
    rintro status _ rfl
    exact ⟨⟨status, rfl⟩, rfl⟩
  | drop =>
    refine (f.keeps_onSegment keeps).bind ?_
    rintro _ _ rfl
    exact ⟨rfl, rfl⟩

/-- Whoever drops a handle tears its segment down. -/
theorem dropCall {post : σ → Prop}
    (torn : ∀ g, x.segment? = some g → g.destroy.Ensures P (fun _ s' => post s') s)
    (bare : x.segment? = none → post s) (ep : handleCall? t h x .drop = some p) :
    p.Ensures P (fun o s' => o.effect = .none ∧ post s') s := by
  have ended {g : Segment} (eg : x.segment? = some g) :
      (g.destroy.bind fun _ => Program.ret ()).Ensures P (fun _ s' => post s') s :=
    (torn g eg).bind fun _ _ here => here
  cases x with
  | segment g =>
    cases ep
    exact giving (ended rfl)
  | facade f =>
    cases ep
    refine giving ?_
    change f.drop.Ensures P _ s
    unfold Facade.drop
    cases es : f.segment with
    | none =>
      rw [Facade.onSegment, es]
      exact bare es
    | some g =>
      rw [Facade.onSegment_eq es]
      exact ended es

/-- Whoever destroys a handle tears its segment down, and leaves what is left of it. -/
theorem destroyCall {post : Segment → σ → Prop}
    (torn : ∀ g, x = .segment g → g.destroy.Ensures P post s)
    (ep : handleCall? t h x .destroy = some p) :
    p.Ensures P (fun o s' => ∃ g, o.effect = .setHandle h (.segment g) ∧ post g s') s := by
  cases x with
  | facade f => cases ep
  | segment g =>
    cases ep
    refine (torn g rfl).bind ?_
    intro g' s' here
    exact ⟨g', rfl, here⟩

end

section
variable {σ α : Type} {P : Protocol σ} {s : σ} {h raw : String} {size : UInt32} {via : Via}
  {post : Option Segment → σ → Prop}

lemma opening {p : Program (Except SegmentError α)} {handle : α → Handle}
    (en : p.Ensures P (fun r s' => post (r.toOption.bind fun a => (handle a).segment?) s') s)
    (checked : ∀ a f, handle a = .facade f → via.isChecked) :
    (Scenario.opening h p handle).Ensures P
      (fun o s' => via.Brings h o.effect ∧ post o.effect.segment? s') s := by
  refine en.bind ?_
  intro r s' here
  cases r with
  | ok a => exact ⟨.inr ⟨handle a, rfl, checked a⟩, here⟩
  | error e => exact ⟨.inl rfl, here⟩

variable {c : Config}

lemma named {act : Name → Program (Except SegmentError Segment)}
    (en : ∀ n, Name.ofRaw raw = .ok n → (act n).Ensures P (fun r s' => post r.toOption s') s)
    (refused : post none s) :
    (Scenario.named raw act).Ensures P (fun r s' => post r.toOption s') s := by
  unfold Scenario.named
  cases en' : Name.ofRaw raw with
  | error f => exact refused
  | ok n => exact en n en'

lemma connect
    (made : Role.ofSize size = .creator → ∀ n, Name.ofRaw raw = .ok n → c.validate = .ok () →
      (Segment.create n size c).Ensures P (fun r s' => post r.toOption s') s)
    (found : Role.ofSize size = .attacher → ∀ n, Name.ofRaw raw = .ok n →
      (Segment.attach n c).Ensures P (fun r s' => post r.toOption s') s)
    (refused : post none s) :
    (Facade.connect raw size c).Ensures P (fun r s' => post r.toOption s') s := by
  unfold Facade.connect
  cases en : Name.ofRaw raw with
  | error f => exact refused
  | ok n =>
    cases ev : c.validate with
    | error f => exact refused
    | ok =>
      cases er : Role.ofSize size with
      | creator => exact made er n en ev
      | attacher => exact found er n en

lemma openWith (quiet : ∀ s o, post none s → post none (P.tells s o))
    (en : (Facade.connect raw size c).Ensures P (fun r s' => post r.toOption s') s) :
    (Facade.openWith raw size c).Ensures P (fun f s' => post f.segment s') s := by
  refine en.bind ?_
  intro r s' here
  cases r with
  | ok g => exact here
  | error e => exact quiet s' _ here

lemma tryOpen (en : (Facade.connect raw size c).Ensures P (fun r s' => post r.toOption s') s) :
    (Facade.tryOpen raw size c).Ensures P
      (fun r s' => post (r.toOption.bind Facade.segment) s') s := by
  refine en.bind ?_
  intro r s' here
  cases r with
  | ok g => exact here
  | error e => exact here

variable (post) in
/-- Opening a handle makes a segment or looks for one, unless it is refused before that. -/
theorem openCall (toggle : Option String) (quiet : ∀ s o, post none s → post none (P.tells s o))
    (made : via.creates size → ∀ n c, Name.ofRaw raw = .ok n → via.Allows c →
      (Segment.create n size c).Ensures P (fun r s' => post r.toOption s') s)
    (found : via.creates size = false → ∀ n c, Name.ofRaw raw = .ok n →
      (Segment.attach n c).Ensures P (fun r s' => post r.toOption s') s)
    (refused : post none s) :
    (Scenario.openCall toggle h raw size via).Ensures P
      (fun o s' => via.Brings h o.effect ∧ post o.effect.segment? s') s := by
  have segments {p : Program (Except SegmentError Segment)}
      (en : p.Ensures P (fun r s' => post r.toOption s') s) :
      p.Ensures P (fun r s' => post (r.toOption.bind fun g => (Handle.segment g).segment?) s')
        s := by
    refine en.mono ?_
    intro r s' here
    cases r with
    | ok g => exact here
    | error e => exact here
  have other {via : Via} (g : Segment) (f : Facade) (e : Handle.segment g = .facade f) :
      via.isChecked := by
    cases e
  cases via with
  | facade c =>
    have connects := connect (c := c.getD (.ofToggle toggle))
      (fun er n en ev => made (decide_eq_true er) n _ en ((Config.validate_eq_ok_iff _).1 ev))
      (fun er n en => found (by simp [Via.creates, er]) n _ en) refused
    exact opening ((openWith quiet connects).bind fun _ _ here => here) fun _ _ _ => rfl
  | attempt c =>
    have connects := connect (c := c)
      (fun er n en ev => made (decide_eq_true er) n _ en ((Config.validate_eq_ok_iff _).1 ev))
      (fun er n en => found (by simp [Via.creates, er]) n _ en) refused
    exact opening (tryOpen connects) fun _ _ _ => rfl
  | create c =>
    have makes := named (fun n en => made rfl n c en rfl) refused
    exact opening (segments makes) other
  | attach c =>
    have finds := named (fun n en => found rfl n c en) refused
    exact opening (segments finds) other

end
end Program.Ensures
end SharedSegment
