import SharedSegment.Proofs.Labels.Programs

/-!
# Handles that differ in their flavor

A handle uses its flavor in records only, so what is done with it is alike whatever its flavor is
(`Segment.alike_destroy` and its likes). Settings of one mode make and find handles that differ in
their flavor, whether they pin pages or not (`Segment.alike_create`, `Segment.alike_attach`).
-/

namespace SharedSegment
open Program

/-- Two settings create objects under one mode. -/
def Config.Alike (c c' : Config) : Prop := c.mode = c'.mode

lemma Config.Alike.validate {c c' : Config} (alike : c.Alike c') : c.validate = c'.validate := by
  unfold Config.validate
  rw [show c.mode = c'.mode from alike]

namespace Segment

section
variable (s : Segment) (fl : Flavor)

def withFlavor : Segment := { s with flavor := fl }

lemma withFlavor_mapping : (s.withFlavor fl).mapping = s.mapping := rfl
lemma withFlavor_file : (s.withFlavor fl).file = s.file := rfl
lemma withFlavor_role : (s.withFlavor fl).role = s.role := rfl
lemma withFlavor_ownsSync : (s.withFlavor fl).ownsSync = s.ownsSync := rfl

/-- Two handles are the same, but for their flavor. -/
def Alike (s s' : Segment) : Prop := ∃ fl, s' = s.withFlavor fl

lemma alike_refl : s.Alike s := ⟨s.flavor, rfl⟩

lemma alike_logSync (f : SyncFailure) : (s.logSync f).Alike Eq ((s.withFlavor fl).logSync f) :=
  alike_log (Event.alike_of_heading rfl rfl rfl rfl rfl) rfl rfl

lemma alike_logSyncs (failures : List SyncFailure) :
    (failures.forM s.logSync).Alike Eq (failures.forM (s.withFlavor fl).logSync) := by
  induction failures with
  | nil => exact .ret rfl
  | cons f failures ih => exact (s.alike_logSync fl f).bind_eq fun _ => ih

lemma alike_destroySync : s.destroySync.Alike Eq (s.withFlavor fl).destroySync := by
  unfold destroySync
  rw [withFlavor_mapping, withFlavor_role, withFlavor_ownsSync]
  cases s.mapping with
  | none => exact .ret rfl
  | some m =>
    dsimp only
    split
    · have asks : (Header.destroy m).PinsNothing := asks_headerDestroy rfl rfl rfl
      exact asks.alike.bind_eq (s.alike_logSyncs fl)
    · exact .ret rfl

lemma alike_unmap : s.unmap.Alike Eq (s.withFlavor fl).unmap := by
  unfold unmap
  rw [withFlavor_mapping]
  cases s.mapping with
  | none => exact .ret rfl
  | some m =>
    refine alike_ask rfl fun r => ?_
    exact alike_logFailure r (fun _ => Event.alike_of_heading rfl rfl rfl rfl rfl)
      (fun _ => rfl) fun _ => rfl

lemma alike_unlink : s.unlink.Alike Eq (s.withFlavor fl).unlink := by
  refine alike_ask rfl fun r => ?_
  cases r with
  | ok => exact .ret rfl
  | error e =>
    refine alike_ite (.ret rfl) (alike_log ?_ rfl rfl)
    exact Event.alike_of_heading rfl rfl rfl rfl rfl

lemma alike_release : s.release.Alike Eq (s.withFlavor fl).release := by
  unfold release
  rw [withFlavor_file, withFlavor_role]
  cases s.file with
  | none => exact .ret rfl
  | some f =>
    have told : (Program.log (.released s.name s.flavor s.role)).Alike Eq
        (Program.log (.released s.name fl s.role)) :=
      alike_log (Event.alike_of_heading rfl rfl rfl rfl rfl) rfl rfl
    refine alike_ask rfl fun _ => ?_
    exact alike_ite ((s.alike_unlink fl).bind_eq fun _ => told) told

/-- Handles that differ in their flavor are torn down alike. -/
theorem alike_destroy : s.destroy.Alike Alike (s.withFlavor fl).destroy :=
  (s.alike_destroySync fl).bind_eq fun _ => (s.alike_unmap fl).bind_eq fun _ =>
    (s.alike_release fl).bind_eq fun _ => .ret ⟨fl, rfl⟩

lemma alike_settle {e e' : Event} (r : Except SyncFailure LockStatus) (alike : e.Alike e')
    (tells : (Output.log e).isPinFailure = false) (tells' : (Output.log e').isPinFailure = false) :
    (s.settle e r).Alike Eq ((s.withFlavor fl).settle e' r) := by
  cases r with
  | ok status =>
    cases status with
    | ownerDied => exact alike_tell alike tells tells' (.ret rfl)
    | acquired | unavailable => exact .ret rfl
  | error f => exact (s.alike_logSync fl f).bind_eq fun _ => .ret rfl

lemma alike_report (r : Except SyncFailure Unit) :
    (s.report r).Alike Eq ((s.withFlavor fl).report r) := by
  cases r with
  | ok => exact .ret rfl
  | error f => exact s.alike_logSync fl f

lemma alike_lock : s.lock.Alike Eq (s.withFlavor fl).lock := by
  unfold lock
  rw [withFlavor_mapping]
  cases s.mapping with
  | none => exact .ret rfl
  | some m =>
    have asks : (Header.lock m).PinsNothing := asks_headerLock rfl rfl
    refine asks.alike.bind_eq fun r => ?_
    exact s.alike_settle fl r (Event.alike_of_heading rfl rfl rfl rfl rfl) rfl rfl

lemma alike_unlock : s.unlock.Alike Eq (s.withFlavor fl).unlock := by
  unfold unlock
  rw [withFlavor_mapping]
  cases s.mapping with
  | none => exact .ret rfl
  | some m =>
    have asks : (Header.unlock m).PinsNothing := asks_checked _ (asks_request rfl)
    exact asks.alike.bind_eq (s.alike_report fl)

lemma alike_waitLocked : s.waitLocked.Alike Eq (s.withFlavor fl).waitLocked := by
  unfold waitLocked
  rw [withFlavor_mapping]
  cases s.mapping with
  | none => exact .ret rfl
  | some m =>
    have asks : (Header.wait m).PinsNothing := asks_headerWait rfl rfl rfl
    refine asks.alike.bind_eq fun r => ?_
    exact s.alike_settle fl r (Event.alike_of_heading rfl rfl rfl rfl rfl) rfl rfl

lemma alike_wait : s.wait.Alike Eq (s.withFlavor fl).wait := by
  refine (s.alike_lock fl).bind_eq fun status => ?_
  split
  · exact (s.alike_waitLocked fl).bind_eq fun _ => s.alike_unlock fl
  · exact .ret rfl

lemma alike_notifyAll : s.notifyAll.Alike Eq (s.withFlavor fl).notifyAll := by
  unfold notifyAll
  rw [withFlavor_mapping]
  cases s.mapping with
  | none => exact .ret rfl
  | some m =>
    have asks : (Header.broadcast m).PinsNothing := asks_checked _ (asks_request rfl)
    exact asks.alike.bind_eq (s.alike_report fl)

lemma alike_read (off len : Nat) :
    (s.read off len).Alike Eq ((s.withFlavor fl).read off len) := by
  have asks : (s.read off len).PinsNothing := s.asks_read (fun _ _ _ => rfl) off len
  exact asks.alike

lemma alike_write (off : Nat) (bs : List UInt8) :
    (s.write off bs).Alike Eq ((s.withFlavor fl).write off bs) := by
  have asks : (s.write off bs).PinsNothing := s.asks_write (fun _ _ _ _ => rfl) off bs
  exact asks.alike

lemma alike_readText : s.readText.Alike Eq (s.withFlavor fl).readText := by
  unfold readText
  rw [withFlavor_mapping]
  cases s.mapping with
  | none => exact .ret rfl
  | some m => exact alike_ask rfl fun _ => .ret rfl

lemma alike_clearFrom (off : Nat) :
    (s.clearFrom off).Alike Eq ((s.withFlavor fl).clearFrom off) := by
  unfold clearFrom
  rw [withFlavor_mapping]
  cases s.mapping with
  | none => exact .ret rfl
  | some m => exact alike_ask rfl fun _ => .ret rfl

lemma alike_giveUp (e : SegmentError) :
    (s.giveUp e).Alike (OkAlike Alike) ((s.withFlavor fl).giveUp e) :=
  (s.alike_destroy fl).bind fun _ _ _ => .ret .error

end

section
variable {α β : Type} {R : α → β → Prop} {p : Program α} {p' : Program β} {n : Name}
  {c c' : Config} {m : MappingId} {size : UInt32}

/-- What follows the pinning of pages follows also where no pages are pinned. -/
lemma alike_pin_left (alike : p.Alike R p') : ((pin n c m size).bind fun _ => p).Alike R p' := by
  unfold pin
  split
  · refine .pinLeft fun r => ?_
    cases r with
    | ok => exact alike
    | error e => exact .putLeft rfl alike
  · exact alike

lemma alike_pin_right (alike : p.Alike R p') : p.Alike R ((pin n c m size).bind fun _ => p') := by
  unfold pin
  split
  · refine .pinRight fun r => ?_
    cases r with
    | ok => exact alike
    | error e => exact .putRight rfl alike
  · exact alike

lemma alike_openExclusive (alike : c.Alike c') :
    (openExclusive n c).Alike Eq (openExclusive n c') := by
  unfold openExclusive
  rw [show c.mode = c'.mode from alike]
  refine alike_ask rfl fun r => ?_
  cases r with
  | ok f => exact .ret rfl
  | error first =>
    refine alike_tell (Event.alike_of_heading rfl rfl rfl rfl rfl) rfl rfl ?_
    refine alike_ask rfl fun r => ?_
    cases r with
    | error e => exact .ret rfl
    | ok =>
      refine alike_ask rfl fun r => ?_
      cases r with
      | ok f =>
        refine alike_tell ?_ rfl rfl (.ret rfl)
        exact Event.alike_of_heading rfl rfl rfl (List.append_nil _).symm (List.append_nil _).symm
      | error e => exact .ret rfl

/-- Under one mode segments are made alike. -/
theorem alike_create (alike : c.Alike c') :
    (create n size c).Alike (OkAlike Alike) (create n size c') := by
  refine (alike_openExclusive alike).bind_eq fun r => ?_
  cases r with
  | error e => exact .ret .error
  | ok f =>
    refine alike_ask rfl fun r => ?_
    cases r with
    | error e => exact alike_giveUp _ c'.flavor _
    | ok =>
      refine alike_ask rfl fun r => ?_
      cases r with
      | error e => exact alike_giveUp _ c'.flavor _
      | ok m =>
        have prepared : (Header.prepare m size).PinsNothing :=
          (asks_prepare m size).mono fun r preparing => by cases r <;> first | rfl | cases preparing
        refine prepared.alike.bind_eq fun r => ?_
        cases r with
        | error e => exact alike_giveUp _ c'.flavor _
        | ok =>
          refine alike_pin_left (alike_pin_right ?_)
          refine alike_tell ?_ rfl rfl (.ret (.ok ⟨c'.flavor, rfl⟩))
          exact Event.alike_of_heading rfl rfl rfl rfl rfl

lemma alike_probe (f : FileId) : (probe n c f).Alike Eq (probe n c' f) := by
  refine alike_ask rfl fun r => ?_
  cases r with
  | error e => exact .ret rfl
  | ok m =>
    refine alike_ask rfl fun size => alike_ask rfl fun r => ?_
    refine (alike_logFailure r ?_ (fun _ => rfl) fun _ => rfl).bind_eq fun _ => .ret rfl
    exact fun _ => Event.alike_of_heading rfl rfl rfl rfl rfl

lemma alike_mapFile (f : FileId) : (mapFile n c f).Alike Eq (mapFile n c' f) := by
  refine alike_ask rfl fun r => ?_
  cases r with
  | error e => exact .ret rfl
  | ok stored =>
    dsimp only
    split
    · exact .ret rfl
    · refine (alike_probe f).bind_eq fun r => ?_
      cases r with
      | error e => exact .ret rfl
      | ok size =>
        have asks : (mapWhole n f stored size).PinsNothing := asks_mapWhole n f stored size rfl
        refine asks.alike.bind_eq fun r => ?_
        cases r with
        | error e => exact .ret rfl
        | ok m => exact .ret rfl

/-- Under whatever settings segments are found alike. -/
theorem alike_attach : (attach n c).Alike (OkAlike Alike) (attach n c') := by
  refine alike_ask rfl fun r => ?_
  cases r with
  | error e => exact .ret .error
  | ok f =>
    refine (alike_mapFile f).bind_eq fun r => ?_
    cases r with
    | error e => exact alike_ask rfl fun _ => .ret .error
    | ok x =>
      refine alike_pin_left (alike_pin_right ?_)
      refine alike_tell ?_ rfl rfl (.ret (.ok ⟨c'.flavor, rfl⟩))
      exact Event.alike_of_heading rfl rfl rfl rfl rfl

end
end Segment
end SharedSegment
