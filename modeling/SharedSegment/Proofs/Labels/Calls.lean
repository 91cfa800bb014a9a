import SharedSegment.Proofs.Labels.Settings
import SharedSegment.Scenario.Call

/-!
# Calls that differ in labels

The calls on handles that differ in their flavor are alike (`Scenario.alike_handleCall?`), and so
are openings and command lines under settings that differ in flavor and pinning
(`Scenario.alike_openCall`, `Scenario.alike_commandCall`).
-/

namespace SharedSegment
open Program

namespace Scenario

/-- Two handles are the same, but for their flavor. -/
inductive Handle.Alike : Handle → Handle → Prop where
  | facade {f f'} :
    f.Alike f' →
    Alike (.facade f) (.facade f')
  | segment {s s'} :
    s.Alike s' →
    Alike (.segment s) (.segment s')

/-- Two results are the same, but for the flavor of a handle that they show. -/
inductive Result.Alike : Result → Result → Prop where
  | refl {r} :
    Alike r r
  | info {x x'} :
    x.Alike x' →
    Alike (.info x) (.info x')
  | diagnostic {f : Facade} {fl} :
    Alike (.text f.diagnostic) (.text ({ f with flavor := fl } : Facade).diagnostic)

/-- Two effects are the same, but for the flavor of a handle. -/
inductive Effect.Alike : Effect → Effect → Prop where
  | refl {e} :
    Alike e e
  | setHandle {h x x'} :
    x.Alike x' →
    Alike (.setHandle h x) (.setHandle h x')

structure Outcome.Alike (o o' : Outcome) : Prop where
  result : o.result.Alike o'.result
  effect : o.effect.Alike o'.effect

/-- Two ways to open a handle are the same, but for flavor and pinning. -/
inductive Via.Alike : Via → Via → Prop where
  | facade {c c'} :
    Option.Rel Config.Alike c c' →
    Alike (.facade c) (.facade c')
  | attempt {c c'} :
    c.Alike c' →
    Alike (.attempt c) (.attempt c')
  | create {c c'} :
    c.Alike c' →
    Alike (.create c) (.create c')
  | attach {c c'} :
    c.Alike c' →
    Alike (.attach c) (.attach c')

lemma Handle.alike_refl (x : Handle) : x.Alike x := by
  cases x with
  | facade f => exact .facade f.alike_refl
  | segment s => exact .segment s.alike_refl

lemma Via.alike_refl (via : Via) : via.Alike via := by
  cases via with
  | facade c =>
    cases c with
    | none => exact .facade .none
    | some c => exact .facade (.some rfl)
  | attempt c => exact .attempt rfl
  | create c => exact .create rfl
  | attach c => exact .attach rfl

section
variable {α β : Type} {R : α → β → Prop} {h : String} {x x' : Handle} {f f' : Facade}

lemma alike_giving {p p' : Program α} {result : α → Result} (alike : p.Alike Eq p') :
    (giving p result).Alike Outcome.Alike (giving p' result) :=
  alike.bind_eq fun _ => .ret ⟨.refl, .refl⟩

lemma alike_opening {p : Program (Except SegmentError α)} {p' : Program (Except SegmentError β)}
    {handle : α → Handle} {handle' : β → Handle} (alike : p.Alike (OkAlike R) p')
    (handles : ∀ a b, R a b → (handle a).Alike (handle' b)) :
    (opening h p handle).Alike Outcome.Alike (opening h p' handle') := by
  refine alike.bind ?_
  rintro _ _ (same | e)
  case ok => exact .ret ⟨.info (handles _ _ same), .setHandle (handles _ _ same)⟩
  case error => exact .ret ⟨.refl, .refl⟩

lemma alike_named {act : Name → Program (Except SegmentError α)}
    {act' : Name → Program (Except SegmentError β)} (raw : String)
    (acts : ∀ n, (act n).Alike (OkAlike R) (act' n)) :
    (named raw act).Alike (OkAlike R) (named raw act') := by
  unfold named
  cases Name.ofRaw raw with
  | ok n => exact acts n
  | error f => exact .ret .error

/-- Under settings of one mode handles are opened alike. -/
theorem alike_openCall {via via' : Via} (toggle toggle' : Option String) (raw : String)
    (size : UInt32) (alike : via.Alike via') :
    (openCall toggle h raw size via).Alike Outcome.Alike (openCall toggle' h raw size via') := by
  cases alike with
  | @facade c c' same =>
    have settings : (c.getD (.ofToggle toggle)).Alike (c'.getD (.ofToggle toggle')) := by
      cases same with
      | none => exact Config.alike_withToggle rfl
      | some same => exact same
    have opened : (Except.ok <$> Facade.openWith raw size (c.getD (.ofToggle toggle)) :
          Program (Except SegmentError Facade)).Alike (OkAlike Facade.Alike)
        (Except.ok <$> Facade.openWith raw size (c'.getD (.ofToggle toggle'))) :=
      (Facade.alike_openWith settings).bind fun _ _ same => .ret (.ok same)
    exact alike_opening opened fun _ _ => .facade
  | attempt same => exact alike_opening (Facade.alike_tryOpen same) fun _ _ => .facade
  | create same =>
    exact alike_opening (alike_named raw fun _ => Segment.alike_create same) fun _ _ => .segment
  | attach same =>
    exact alike_opening (alike_named raw fun _ => Segment.alike_attach) fun _ _ => .segment

lemma alike_destroyed {s s' : Segment} (alike : s.Alike s') :
    s.destroy.Alike Segment.Alike s'.destroy := by
  obtain ⟨fl, rfl⟩ := alike
  exact s.alike_destroy fl

lemma alike_guardCall (t : ThreadId) (g : String) (alike : f.Alike f') :
    (guardCall t h g f).Alike Outcome.Alike (guardCall t h g f') := by
  refine alike.guard.bind_eq fun status => ?_
  cases status with
  | none => exact .ret ⟨.refl, .refl⟩
  | some status => exact .ret ⟨.refl, .refl⟩

/-- Operations do alike with handles that differ in their flavor, and fit both or none. -/
theorem alike_handleCall? (t : ThreadId) (op : Operation) (alike : x.Alike x') :
    Option.Rel (Program.Alike Outcome.Alike) (handleCall? t h x op) (handleCall? t h x' op) := by
  cases alike with
  | @facade f f' same =>
    cases op with
    | info => exact .some (.ret ⟨.info (.facade same), .refl⟩)
    | debug =>
      refine .some (.ret ⟨?_, .refl⟩)
      rw [same.diagnostic]
      exact .diagnostic
    | lock => exact .some (alike_giving same.lock)
    | unlock => exact .some (alike_giving same.unlock)
    | wait => exact .some (alike_giving same.wait)
    | notifyAll => exact .some (alike_giving same.notifyAll)
    | read off len =>
      refine .some (alike_giving ?_)
      rw [same.size]
      exact same.read _ _
    | write off bs => exact .some (alike_giving (same.write off bs))
    | drop => exact .some (alike_giving same.drop)
    | guard g => exact .some (alike_guardCall t g same)
    | waitLocked | destroy | other => exact .none
  | @segment s s' same =>
    have torn := alike_destroyed same
    obtain ⟨fl, rfl⟩ := same
    cases op with
    | info => exact .some (.ret ⟨.info (.segment ⟨fl, rfl⟩), .refl⟩)
    | lock => exact .some (alike_giving (s.alike_lock fl))
    | unlock => exact .some (alike_giving (s.alike_unlock fl))
    | wait => exact .some (alike_giving (s.alike_wait fl))
    | notifyAll => exact .some (alike_giving (s.alike_notifyAll fl))
    | waitLocked => exact .some (alike_giving (s.alike_waitLocked fl))
    | drop => exact .some (alike_giving (torn.bind fun _ _ _ => .ret rfl))
    | destroy =>
      exact .some (torn.bind fun _ _ same =>
        .ret ⟨.info (.segment same), .setHandle (.segment same)⟩)
    | debug | read | write | guard | other => exact .none

theorem alike_guardOperationCall (g : Guard) (op : GuardOperation) (alike : f.Alike f') :
    (guardOperationCall g f op).Alike Outcome.Alike (guardOperationCall g f' op) := by
  cases op with
  | status => exact .ret ⟨.refl, .refl⟩
  | read off len =>
    refine alike_giving ?_
    rw [alike.size]
    exact alike.read _ _
  | write off bs => exact alike_giving (alike.write off bs)
  | wait => exact (alike.guardWait g.status).bind_eq fun _ => .ret ⟨.refl, .refl⟩
  | drop => exact alike.unlock.bind_eq fun _ => .ret ⟨.refl, .refl⟩

theorem alike_commandCall {env env' : Command.Environment} (words : List String) (logs : Bool)
    (alike : env.Alike env') :
    (commandCall env words logs).Alike Outcome.Alike (commandCall env' words logs) :=
  alike_giving ((Command.alike_program words alike).keepLogs fun _ _ _ => rfl)

theorem alike_hammerCall (toggle toggle' : Option String) (raw : String) (threads times : Nat) :
    (hammerCall toggle raw threads times).Alike Outcome.Alike
      (hammerCall toggle' raw threads times) :=
  alike_giving ((Counter.alike_workers raw (Config.alike_withToggle rfl) times threads).keepLogs
    fun _ _ _ => rfl)

end
end Scenario
end SharedSegment
