import SharedSegment.Proofs.Labels.Segments
import SharedSegment.Command.Work
import SharedSegment.Counter

/-!
# Facades that differ in their flavor

A facade passes its flavor on to what it shows and to nothing else, so what is done with it is alike
whatever its flavor is. Settings of one mode open facades that differ in their flavor
(`Facade.alike_openWith`, `Facade.alike_tryOpen`), and under such settings commands and counters do
the same work (`Command.alike_work`, `Counter.alike_workers`).
-/

namespace SharedSegment
open Program

/-- Two facades are the same, but for their flavor and the one of their segments. -/
structure Facade.Alike (f f' : Facade) : Prop where
  name : f.name = f'.name
  size : f.size = f'.size
  role : f.role = f'.role
  error : f.error = f'.error
  segment : Option.Rel Segment.Alike f.segment f'.segment

namespace Facade

section
variable {f f' : Facade} {c c' : Config} {raw : String} {size : UInt32}

lemma alike_refl (f : Facade) : f.Alike f := by
  refine ⟨rfl, rfl, rfl, rfl, ?_⟩
  cases f.segment with
  | none => exact .none
  | some s => exact .some s.alike_refl

lemma Alike.segments (alike : f.Alike f') : f.segment = none ∧ f'.segment = none ∨
    ∃ s fl, f.segment = some s ∧ f'.segment = some (s.withFlavor fl) := by
  have same := alike.segment
  generalize f.segment = o at same ⊢
  generalize f'.segment = o' at same ⊢
  cases same with
  | none => exact .inl ⟨rfl, rfl⟩
  | @some s s' same =>
    obtain ⟨fl, rfl⟩ := same
    exact .inr ⟨s, fl, rfl, rfl⟩

lemma Alike.isValid (alike : f.Alike f') : f.isValid = f'.isValid := by
  unfold Facade.isValid
  obtain ⟨es, es'⟩ | ⟨s, fl, es, es'⟩ := alike.segments
  · rw [es, es']
  · rw [es, es']
    rfl

lemma Alike.data (alike : f.Alike f') : f.data = f'.data := by
  unfold Facade.data
  obtain ⟨es, es'⟩ | ⟨s, fl, es, es'⟩ := alike.segments
  · rw [es, es']
  · rw [es, es']
    rfl

/-- Where facades are alike, only the flavor can look different. -/
lemma Alike.diagnostic (alike : f.Alike f') :
    f'.diagnostic = { f with flavor := f'.flavor }.diagnostic := by
  have valid : ({ f with flavor := f'.flavor } : Facade).isValid = f'.isValid := alike.isValid
  unfold Facade.diagnostic
  rw [valid, alike.name, alike.size, alike.role, alike.error]

lemma alike_connect (alike : c.Alike c') :
    (connect raw size c).Alike (OkAlike Segment.Alike) (connect raw size c') := by
  unfold connect
  rw [alike.validate]
  cases Name.ofRaw raw with
  | error f => exact .ret .error
  | ok n =>
    dsimp only
    cases c'.validate with
    | error f => exact .ret .error
    | ok =>
      dsimp only
      cases Role.ofSize size with
      | creator => exact Segment.alike_create alike
      | attacher => exact Segment.alike_attach

lemma alike_ofSegment {s s' : Segment} (alike : s.Alike s') :
    (ofSegment size c s).Alike (ofSegment size c' s') := by
  obtain ⟨fl, rfl⟩ := alike
  exact ⟨rfl, rfl, rfl, rfl, .some ⟨fl, rfl⟩⟩

lemma alike_openWith (alike : c.Alike c') :
    (openWith raw size c).Alike Alike (openWith raw size c') := by
  refine (alike_connect alike).bind ?_
  rintro _ _ (same | e)
  case ok => exact .ret (alike_ofSegment same)
  case error =>
    exact alike_tell ⟨rfl, rfl, rfl, rfl⟩ rfl rfl (.ret ⟨rfl, rfl, rfl, rfl, .none⟩)

lemma alike_tryOpen (alike : c.Alike c') :
    (tryOpen raw size c).Alike (OkAlike Alike) (tryOpen raw size c') := by
  refine (alike_connect alike).bind ?_
  rintro _ _ (same | e)
  case ok => exact .ret (.ok (alike_ofSegment same))
  case error => exact .ret .error

/-- What is done alike with the segments is done alike with the facades. -/
lemma Alike.onSegment {α : Type} {otherwise : α} {act : Segment → Program α} (alike : f.Alike f')
    (acts : ∀ s fl, (act s).Alike Eq (act (s.withFlavor fl))) :
    (f.onSegment otherwise act).Alike Eq (f'.onSegment otherwise act) := by
  unfold Facade.onSegment
  obtain ⟨es, es'⟩ | ⟨s, fl, es, es'⟩ := alike.segments
  · rw [es, es']
    exact .ret rfl
  · rw [es, es']
    exact acts s fl

lemma Alike.lock (alike : f.Alike f') : f.lock.Alike Eq f'.lock :=
  alike.onSegment Segment.alike_lock

lemma Alike.unlock (alike : f.Alike f') : f.unlock.Alike Eq f'.unlock :=
  alike.onSegment Segment.alike_unlock

lemma Alike.wait (alike : f.Alike f') : f.wait.Alike Eq f'.wait :=
  alike.onSegment Segment.alike_wait

lemma Alike.notifyAll (alike : f.Alike f') : f.notifyAll.Alike Eq f'.notifyAll :=
  alike.onSegment Segment.alike_notifyAll

lemma Alike.guard (alike : f.Alike f') : f.guard.Alike Eq f'.guard :=
  alike.lock.bind_eq fun _ => .ret rfl

lemma Alike.guardWait (alike : f.Alike f') (status : LockStatus) :
    (f.guardWait status).Alike Eq (f'.guardWait status) :=
  alike.onSegment Segment.alike_waitLocked

lemma Alike.read (alike : f.Alike f') (off len : Nat) :
    (f.read off len).Alike Eq (f'.read off len) := by
  unfold Facade.read
  rw [alike.isValid]
  exact alike_ite (alike.onSegment fun s fl => s.alike_read fl off len) (.ret rfl)

lemma Alike.readText (alike : f.Alike f') : f.readText.Alike Eq f'.readText := by
  unfold Facade.readText
  rw [alike.isValid]
  exact alike_ite (alike.onSegment Segment.alike_readText) (.ret rfl)

lemma Alike.write (alike : f.Alike f') (off : Nat) (bs : List UInt8) :
    (f.write off bs).Alike Eq (f'.write off bs) := by
  unfold Facade.write
  rw [alike.isValid]
  exact alike_ite (alike.onSegment fun s fl => s.alike_write fl off bs) (.ret rfl)

lemma Alike.clearFrom (alike : f.Alike f') (off : Nat) :
    (f.clearFrom off).Alike Eq (f'.clearFrom off) := by
  unfold Facade.clearFrom
  rw [alike.isValid]
  exact alike_ite (alike.onSegment fun s fl => s.alike_clearFrom fl off) (.ret rfl)

lemma Alike.drop (alike : f.Alike f') : f.drop.Alike Eq f'.drop :=
  alike.onSegment fun s fl => (s.alike_destroy fl).bind fun _ _ _ => .ret rfl

end
end Facade

namespace Command

section
variable {f f' : Facade} {c c' : Config}

lemma alike_onAttached {act : Facade → Work} (raw : String) (alike : c.Alike c')
    (acts : ∀ f f' : Facade, f.Alike f' → (act f).Alike Eq (act f')) :
    (onAttached raw c act).Alike Eq (onAttached raw c' act) := by
  refine (Facade.alike_tryOpen alike).bind ?_
  rintro _ _ (same | e)
  case ok => exact (acts _ _ same).bind_eq fun r => same.drop.bind_eq fun _ => .ret rfl
  case error => exact .ret rfl

lemma alike_underGuard {α : Type} {act act' : LockStatus → Program α} (alike : f.Alike f')
    (acts : ∀ status, (act status).Alike Eq (act' status)) :
    (underGuard f act).Alike Eq (underGuard f' act') := by
  refine alike.guard.bind_eq fun status => ?_
  cases status with
  | none =>
    dsimp only
    rw [alike.name]
    exact .ret rfl
  | some status =>
    exact (acts status).bind_eq fun _ => alike.unlock.bind_eq fun _ => .ret rfl

/-- The label of the flavor is all that shows of it. -/
lemma alike_backend {fl fl' : Flavor} : (Program.line ("  Backend: " ++ fl.label)).Alike Eq
    (Program.line ("  Backend: " ++ fl'.label)) :=
  .put .backend rfl rfl (.ret rfl)

lemma alike_hold (seconds : Option Nat) : (hold seconds).Alike Eq (hold seconds) := by
  have announced : (announceHold seconds).Alike Eq (announceHold seconds) :=
    alike_ite (alike_line _) (.ret rfl)
  exact announced.bind_eq fun _ => alike_ite (.ret rfl) (.ask rfl fun _ => .ret rfl)

lemma alike_createWork (raw : String) (size : UInt32) (seconds : Option Nat)
    (alike : c.Alike c') :
    (createWork raw size seconds c).Alike Eq (createWork raw size seconds c') := by
  unfold createWork
  split
  · exact .ret rfl
  · refine (Facade.alike_tryOpen alike).bind ?_
    rintro _ _ (same | e)
    case error => exact .ret rfl
    case ok =>
      dsimp only
      rw [same.name, same.size]
      exact (alike_line _).bind_eq fun _ => (alike_line _).bind_eq fun _ =>
        alike_backend.bind_eq fun _ => (alike_hold seconds).bind_eq fun _ =>
        alike_tell (Event.alike_refl _) rfl rfl (same.drop.bind_eq fun _ =>
          (alike_line _).bind_eq fun _ => .ret rfl)

lemma alike_infoWork (alike : f.Alike f') : (infoWork f).Alike Eq (infoWork f') := by
  unfold infoWork
  rw [alike.name, alike.size]
  exact (alike_line _).bind_eq fun _ => (alike_line _).bind_eq fun _ =>
    (alike_line _).bind_eq fun _ => alike_backend.bind_eq fun _ => .ret rfl

lemma alike_replacePayload (text : String) (status : LockStatus) (alike : f.Alike f') :
    (replacePayload text f status).Alike Eq (replacePayload text f' status) := by
  have replaced : ((f.write 0 (Text.Utf8.bytes text)).bind fun written =>
      (f.clearFrom written).bind fun _ => .ret written).Alike Eq
      ((f'.write 0 (Text.Utf8.bytes text)).bind fun written =>
      (f'.clearFrom written).bind fun _ => .ret written) :=
    (alike.write 0 _).bind_eq fun written => (alike.clearFrom written).bind_eq fun _ => .ret rfl
  unfold replacePayload
  rw [alike.name]
  split
  · exact alike_tell (Event.alike_refl _) rfl rfl replaced
  · exact replaced

lemma alike_writeWork (text : String) (alike : f.Alike f') :
    (writeWork text f).Alike Eq (writeWork text f') := by
  refine (alike_underGuard alike fun status => alike_replacePayload text status alike).bind_eq ?_
  intro r
  cases r with
  | error e => exact .ret rfl
  | ok written =>
    refine alike.notifyAll.bind_eq fun _ => ?_
    dsimp only
    rw [alike.name]
    split
    · exact alike_tell (Event.alike_refl _) rfl rfl ((alike_line _).bind_eq fun _ => .ret rfl)
    · exact (alike_line _).bind_eq fun _ => .ret rfl

lemma alike_readWork (wait : Bool) (alike : f.Alike f') :
    (readWork wait f).Alike Eq (readWork wait f') := by
  have shown : (readWork false f).Alike Eq (readWork false f') := by
    refine (alike_underGuard alike fun _ => alike.readText).bind_eq fun r => ?_
    cases r with
    | error e => exact .ret rfl
    | ok bytes => exact (alike_line _).bind_eq fun _ => .ret rfl
  cases wait with
  | false => exact shown
  | true =>
    change ((Program.log (.waiting f.name)).bind fun _ =>
      f.wait.bind fun _ => readWork false f).Alike Eq
      ((Program.log (.waiting f'.name)).bind fun _ => f'.wait.bind fun _ => readWork false f')
    rw [alike.name]
    exact alike_tell (Event.alike_refl _) rfl rfl (alike.wait.bind_eq fun _ => shown)

lemma alike_notifyWork (alike : f.Alike f') : (notifyWork f).Alike Eq (notifyWork f') := by
  unfold notifyWork
  rw [alike.name]
  exact alike.notifyAll.bind_eq fun _ => alike_tell (Event.alike_refl _) rfl rfl
    ((alike_line _).bind_eq fun _ => .ret rfl)

/-- Under settings of one mode the commands do the same work. -/
theorem alike_work (a : Action) (alike : c.Alike c') : (a.work c).Alike Eq (a.work c') := by
  cases a with
  | create raw size seconds => exact alike_createWork raw size seconds alike
  | info raw => exact alike_onAttached raw alike fun _ _ => alike_infoWork
  | write raw text => exact alike_onAttached raw alike fun _ _ => alike_writeWork text
  | read raw wait => exact alike_onAttached raw alike fun _ _ => alike_readWork wait
  | notify raw => exact alike_onAttached raw alike fun _ _ => alike_notifyWork

end
end Command

namespace Counter

variable {f f' : Facade} {c c' : Config}

lemma alike_increment (alike : f.Alike f') : (increment f).Alike Eq (increment f') := by
  refine alike.guard.bind_eq fun status => ?_
  cases status with
  | none => exact .ret rfl
  | some status =>
    exact (alike.read 0 width).bind_eq fun bs => (alike.write 0 _).bind_eq fun _ => alike.unlock

lemma alike_incrementTimes (alike : f.Alike f') (n : Nat) :
    (incrementTimes f n).Alike Eq (incrementTimes f' n) := by
  induction n with
  | zero => exact .ret rfl
  | succ n ih => exact (alike_increment alike).bind_eq fun _ => ih

/-- Under settings of one mode counters count alike. -/
theorem alike_workers (raw : String) (alike : c.Alike c') (n k : Nat) :
    (workers raw c n k).Alike Eq (workers raw c' n k) := by
  have worker : (worker raw c n).Alike Eq (worker raw c' n) :=
    (Facade.alike_openWith alike).bind fun _ _ same =>
      (alike_incrementTimes same n).bind_eq fun _ => same.drop
  induction k with
  | zero => exact .ret rfl
  | succ k ih => exact worker.bind_eq fun _ => ih

end Counter
end SharedSegment
