import SharedSegment.Proofs.Calling
import SharedSegment.Proofs.Custody.Opening

/-!
# Calls in custody

The calls of a session keep to the protocol of custodians. A call that opens a handle ends with what
the handle holds in custody (`ensures_openCall`); a call that drops or destroys one begins with it
(`ensures_dropCall`, `ensures_destroyCall`); all others leave handles and custody alone
(`ensures_handleUse`, `ensures_guardUse`), and change at most a guard.
-/

namespace SharedSegment
open Scenario Program

/-- What a handle holds is in custody, and was set up. -/
def Custody.Supports (c : Custody) (x : Handle) : Prop :=
  ∀ g, x.segment? = some g → c.Covers g ∧ g.IsWhole

/-- A handle was opened: what it holds is in custody, and one that was found is on the object that
was opened, with the size that was read. -/
def Custody.Opens (c : Custody) (x : Handle) : Prop :=
  ∀ g, x.segment? = some g → (c.Covers g ∧ g.IsWhole) ∧ (g.role = .attacher → c.Attaches g)

section
variable {torn faulty : Prop} {h raw : String} {size : UInt32} {cfg : Config}

lemma ensures_create_opens (n : Name) :
    (Segment.create n size cfg).Ensures (.custody torn faulty)
      (fun r c' => ∀ g, r.toOption = some g → c'.Opens (.segment g)) (.nothing size) := by
  refine (Segment.ensures_create (c := .nothing size) rfl rfl).mono ?_
  intro r c' made g eg
  cases r with
  | error e => cases eg
  | ok =>
    cases eg
    rintro _ ⟨⟩
    obtain ⟨covers, role⟩ := made g rfl
    refine ⟨covers, fun e => ?_⟩
    rw [role] at e
    cases e

lemma ensures_attach_opens (n : Name) :
    (Segment.attach n cfg).Ensures (.custody torn faulty)
      (fun r c' => ∀ g, r.toOption = some g → c'.Opens (.segment g)) (.nothing size) := by
  refine (Segment.ensures_attach rfl).mono ?_
  rintro r c' (⟨g, rfl, attaches⟩ | ⟨e, rfl, -⟩)
  · rintro _ ⟨⟩ _ ⟨⟩
    exact ⟨⟨attaches.covers, Segment.isWhole_of_attacher attaches.role⟩, fun _ => attaches⟩
  · intro g eg
    cases eg

/-- A call that opens a handle ends with what the handle holds in custody. -/
theorem ensures_openCall (toggle : Option String) (via : Via) :
    (openCall toggle h raw size via).Ensures (.custody torn faulty)
      (fun o c' => ∀ h' x, o.effect = .setHandle h' x → c'.Opens x) (.nothing size) := by
  refine (Ensures.openCall (fun og c' => ∀ g, og = some g → c'.Opens (.segment g)) toggle
    (fun _ _ here => here) (fun _ n _ _ _ => ensures_create_opens n)
    (fun _ n _ _ => ensures_attach_opens n) nofun).mono ?_
  rintro o c' ⟨-, opens⟩ h' x e g eg
  have put : o.effect.segment? = some g := by rwa [e]
  exact opens g put g rfl

end

section
variable {torn faulty : Prop} {c : Custody} {t : ThreadId} {h : String} {x : Handle}
  {p : Program Outcome}

lemma Scenario.Operation.keeps_plain (g : Segment) (op : Operation) :
    op.Keeps (.asking fun r => r.isPlain) () g := by
  cases op with
  | lock | guard => exact g.plain_lock.keeps
  | unlock => exact g.plain_unlock.keeps
  | wait => exact g.plain_wait.keeps
  | notifyAll => exact g.plain_notifyAll.keeps
  | waitLocked => exact g.plain_waitLocked.keeps
  | read => exact fun off len => (g.plain_read off len).keeps
  | write => exact fun off bs => (g.plain_write off bs).keeps
  | info | debug | drop | destroy | other => trivial

lemma Scenario.GuardOperation.keeps_plain (g : Segment) (op : GuardOperation) :
    op.Keeps (.asking fun r => r.isPlain) () g := by
  cases op with
  | status => trivial
  | read => exact fun off len => (g.plain_read off len).keeps
  | write => exact fun off bs => (g.plain_write off bs).keeps
  | wait => exact g.plain_waitLocked.keeps
  | drop => exact g.plain_unlock.keeps

/-- What is done with a handle otherwise is plain. -/
theorem plain_handleUse {op : Operation} (ep : handleCall? t h x op = some p)
    (keeps : op ≠ .drop) (keeps' : op ≠ .destroy) :
    p.Ensures (.asking fun r => r.isPlain) (fun o _ => op.Brings t h o.effect) () :=
  (Ensures.handleUse (fun g _ => op.keeps_plain g) ep keeps keeps').mono fun _ _ ends => ends.1

/-- What is done with a guard is plain. -/
theorem plain_guardUse (g : Guard) (f : Facade) (op : GuardOperation) :
    (guardOperationCall g f op).Ensures (.asking fun r => r.isPlain)
      (fun o _ => op.Brings g o.effect) () :=
  (Ensures.guardUse g fun s _ => op.keeps_plain s).mono fun _ _ ends => ends.1

lemma Scenario.Operation.Brings.sparesHandles {op : Operation} {e : Effect}
    (brings : op.Brings t h e) : e.sparesHandles := by
  cases op with
  | guard g =>
    obtain rfl | ⟨s, rfl⟩ := brings
    · rfl
    · rfl
  | _ =>
    obtain rfl := brings
    rfl

lemma Scenario.GuardOperation.Brings.sparesHandles {op : GuardOperation} {g : Guard} {e : Effect}
    (brings : op.Brings g e) : e.sparesHandles := by
  cases op with
  | wait =>
    obtain ⟨s, rfl⟩ := brings
    rfl
  | _ =>
    obtain rfl := brings
    rfl

theorem ensures_handleUse {op : Operation} (ep : handleCall? t h x op = some p)
    (keeps : op ≠ .drop) (keeps' : op ≠ .destroy) :
    p.Ensures (.custody torn faulty) (fun o _ => o.effect.sparesHandles) c :=
  (plain_handleUse ep keeps keeps').of_plain.mono fun _ _ ends => ends.1.sparesHandles

theorem ensures_guardUse (g : Guard) (f : Facade) (op : GuardOperation) :
    (guardOperationCall g f op).Ensures (.custody torn faulty)
      (fun o _ => o.effect.sparesHandles) c :=
  (plain_guardUse g f op).of_plain.mono fun _ _ ends => ends.1.sparesHandles

/-- Whoever drops a handle needs what it holds in custody. -/
theorem ensures_dropCall (supports : c.Supports x) (ep : handleCall? t h x .drop = some p) :
    p.Ensures (.custody True faulty) (fun o _ => o.effect.sparesHandles) c := by
  have torn (g : Segment) (eg : x.segment? = some g) :
      g.destroy.Ensures (.custody True faulty) (fun _ _ => True) c :=
    (Segment.ensures_destroy (supports g eg).1 (.inl trivial)).mono fun _ _ _ => trivial
  refine (Ensures.dropCall torn (fun _ => trivial) ep).mono ?_
  rintro o _ ⟨e, -⟩
  rw [e]
  rfl

/-- Whoever destroys a handle needs what it holds in custody, and leaves a handle that holds
nothing. -/
theorem ensures_destroyCall (supports : c.Supports x)
    (ep : handleCall? t h x .destroy = some p) :
    p.Ensures (.custody True faulty)
      (fun o _ => ∃ g, o.effect = .setHandle h (.segment (Segment.empty g))) c := by
  have torn (g : Segment) (eg : x = .segment g) :
      g.destroy.Ensures (.custody True faulty) (fun g' _ => ∃ g, g' = Segment.empty g) c := by
    refine (Segment.ensures_destroy (supports g (by rw [eg]; rfl)).1 (.inl trivial)).mono ?_
    intro g' _ e
    exact ⟨g, e⟩
  refine (Ensures.destroyCall torn ep).mono ?_
  rintro o _ ⟨_, e, g, rfl⟩
  exact ⟨g, e⟩

end
end SharedSegment
