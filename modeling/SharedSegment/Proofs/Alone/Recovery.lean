import SharedSegment.Proofs.Alone.Facades
import SharedSegment.Proofs.Calling

/-!
# Creation over what was left

Creation under a name that is bound to anything but a directory succeeds when no call fails and
nobody comes between, whatever is bound there (`Segment.calm_create`), and so does every call that
creates (`calm_openCall`). What was bound there is not looked at: a new object is added to
the host (`Host.Recreates`), whose mode is the one that was asked for (`Object.finished_mode`).
-/

namespace SharedSegment
open Header Program Scenario

/-- The settings that a way of opening a handle goes by. -/
def Scenario.Via.settings (toggle : Option String) : Via → Config
  | .facade c => c.getD (.ofToggle toggle)
  | .attempt c | .create c | .attach c => c

namespace UInt32

/-- Bits that are not set are not missed. -/
lemma and_of_le_permissionBits {mode x : UInt32} (le : mode ≤ Config.permissionBits)
    (kept : Config.permissionBits &&& x = Config.permissionBits) : mode &&& x = mode := by
  have within : mode &&& Config.permissionBits = mode := by
    refine UInt32.toNat_inj.1 ?_
    have lt : mode.toNat < 2 ^ 9 := Nat.lt_succ_of_le (UInt32.le_iff_toNat_le.1 le)
    rw [UInt32.toNat_and]
    exact (Nat.and_two_pow_sub_one_eq_mod _ 9).trans (Nat.mod_eq_of_lt lt)
  calc
    mode &&& x = mode &&& Config.permissionBits &&& x := by rw [within]
    _ = mode &&& Config.permissionBits := by rw [UInt32.and_assoc, kept]
    _ = mode := within

end UInt32

/-- A finished object has the mode that was asked for, if that has permission bits only. -/
lemma Object.finished_mode {mode size : UInt32} (admitted : Config.IsMode mode) :
    (finished mode size).mode = mode := by
  have kept (x : UInt32) (all : Config.permissionBits &&& x = Config.permissionBits) :
      mode &&& x = mode := UInt32.and_of_le_permissionBits admitted.1 all
  change settledMode (mode &&& modeBits) = mode
  rw [kept modeBits (by decide), settledMode, kept (~~~0o4000) (by decide)]
  split
  · exact kept (~~~0o2000) (by decide)
  · rfl

/-- A host on which a segment was made under a name, over whatever was bound there. -/
structure Host.Recreates (h : Host) (n : Name) (mode size : UInt32) (h' : Host) : Prop where
  others : ∀ file, file ≠ n.file → h'.store.get? file = h.store.get? file
  bound : h'.store.place n = .file (some (.object h.objects.length))
  objects : h'.objects = h.objects ++ [.finished mode size]
  files : h'.files = h.files ++ [some h.objects.length]
  mappings : h'.mappings = h.mappings ++ [some ⟨h.objects.length, total size⟩]

namespace Segment

variable {t : ThreadId} {h : Host} {n : Name} {size : UInt32} {c : Config}

/-- The segment that is created next on a host. -/
def madeOn (h : Host) (n : Name) (size : UInt32) (c : Config) : Segment :=
  ⟨n, c.flavor, .creator, size, some h.files.length, some h.mappings.length, true⟩

/-- The header is prepared. -/
lemma calm_prepare {m : MappingId} {k : ObjectId} {o : Object}
    (sees : h.under? m = some (k, o)) (size : UInt32) :
    (prepare m size).Ensures (.alone t fun _ _ => False)
      (fun r h' => r = .ok () ∧
        h' = h.setObject k (((o.withMutex .fresh).withCondition .fresh).setSizeField size)) h := by
  have sees₁ : (h.setObject k (o.withMutex .fresh)).under? m = some (k, o.withMutex .fresh) :=
    Host.under?_setObject sees
  have sees₂ : ((h.setObject k (o.withMutex .fresh)).setObject k
      ((o.withMutex .fresh).withCondition .fresh)).under? m =
        some (k, (o.withMutex .fresh).withCondition .fresh) := Host.under?_setObject sees₁
  refine .asks_calmly (a := .ok ()) rfl ?_
  refine .asks_calmly (a := .ok ()) rfl ?_
  refine .asks_calmly (a := .ok ()) rfl ?_
  refine .asks_calmly (a := .ok ()) rfl ?_
  refine .asks_calmly (Host.step_mutexInit sees) ?_
  refine .asks_calmly (a := .ok ()) rfl ?_
  refine .asks_calmly (a := .ok ()) rfl ?_
  refine .asks_calmly (a := .ok ()) rfl ?_
  refine .asks_calmly (a := .ok ()) rfl ?_
  refine .asks_calmly (Host.step_condInit sees₁) ?_
  refine .asks_calmly (a := .ok ()) rfl ?_
  refine .asks_calmly (Host.step_storeSize sees₂ size) ?_
  exact ⟨rfl, by rw [Host.setObject_setObject, Host.setObject_setObject]⟩

/-- The object in a file that was just made is finished. -/
lemma calm_furnish (st : Store) (size : UInt32) (c : Config) :
    (furnish n h.files.length size c).Ensures (.alone t fun _ _ => False)
      (fun r h' =>
        r = .ok (madeOn h n size c) ∧
        h' = h.grown st [.finished c.mode size] [some h.objects.length]
          [some ⟨h.objects.length, total size⟩])
      (h.grown st [.fresh c.mode] [some h.objects.length] []) := by
  let o := (Object.fresh c.mode).resize (total size)
  let mapped := h.grown st [o] [some h.objects.length] [some ⟨h.objects.length, total size⟩]
  have sees : mapped.under? h.mappings.length = some (h.objects.length, o) := by
    simp [mapped, Host.under?, Host.mapping?, Host.object?, Host.grown]
  have maps : (h.grown st [o] [some h.objects.length] []).step t
      (.map h.files.length (total size)) =
        .done (α := Except Errno Nat) (.ok h.mappings.length) mapped := by
    rw [Host.step_map Host.file?_grown Host.object?_grown, Host.grown_mappings_length]
    simp only [mapped, Host.grown, List.append_assoc]
    rfl
  refine .asks_calmly (Host.step_resize Host.file?_grown Host.object?_grown (total size)) ?_
  rw [Host.setObject_grown]
  refine .asks_calmly maps ?_
  refine (calm_prepare sees size).bind ?_
  rintro _ _ ⟨rfl, rfl⟩
  rw [Host.setObject_grown]
  refine (alone_pin n c size).bind ?_
  rintro _ _ rfl
  exact ⟨rfl, rfl⟩

/-- An object is made under a name that leads to no directory, whatever it is bound to. -/
lemma calm_openExclusive {b : Option Binding} (left : h.store.place n = .file b) (c : Config) :
    (openExclusive n c).Ensures (.alone t fun _ _ => False)
      (fun r h' => r = .ok h.files.length ∧
        ∃ st : Store, (∀ file, file ≠ n.file → st.get? file = h.store.get? file) ∧
          st.place n = .file none ∧
          h' = h.grown (st.insert n.file (.object h.objects.length)) [.fresh c.mode]
            [some h.objects.length] []) h := by
  cases b with
  | none =>
    refine .asks_calmly (Host.step_openNew left) ?_
    exact ⟨rfl, h.store, fun _ _ => rfl, left, rfl⟩
  | some b =>
    let freed : Host := { h with store := h.store.erase n.file }
    have free : freed.store.place n = .file none := Store.place_erase left
    refine .asks_calmly (Host.step_openNew_of_bound left c.mode) ?_
    refine .asks_calmly (Host.step_unlink left) ?_
    refine .asks_calmly (Host.step_openNew free) ?_
    exact ⟨rfl, _, fun _ => Store.get?_erase_of_ne, free, rfl⟩

/-- Creating under a name that leads to no directory makes a finished segment, whatever the name is
bound to. -/
theorem calm_create {b : Option Binding} (left : h.store.place n = .file b) (size : UInt32)
    (c : Config) :
    (create n size c).Ensures (.alone t fun _ _ => False)
      (fun r h' => r = .ok (madeOn h n size c) ∧ h.Recreates n c.mode size h') h := by
  rw [create_eq]
  refine (calm_openExclusive left c).bind ?_
  rintro _ _ ⟨rfl, st, others, free, rfl⟩
  refine (calm_furnish _ size c).mono ?_
  rintro r h' ⟨rfl, rfl⟩
  refine ⟨rfl, ?_, Store.place_insert free, rfl, rfl, rfl⟩
  intro file ne
  exact (Store.get?_insert_of_ne ne).trans (others file ne)

end Segment

/-- What a way of opening a handle makes of the segment or the failure that it comes to. -/
def Scenario.Via.wrap (toggle : Option String) (size : UInt32) :
    Via → Except SegmentError Segment → Except SegmentError Handle
  | .facade c, .ok g => .ok (.facade (.ofSegment size (c.getD (.ofToggle toggle)) g))
  | .facade c, .error e => .ok (.facade (.ofError size (c.getD (.ofToggle toggle)) e))
  | .attempt c, .ok g => .ok (.facade (.ofSegment size c g))
  | .create _, .ok g | .attach _, .ok g => .ok (.segment g)
  | _, .error e => .error e

/-- What a call that opens a handle ends with. -/
def Scenario.Outcome.ofOpening (x : String) : Except SegmentError Handle → Outcome
  | .ok y => ⟨.info y, .setHandle x y⟩
  | .error e => ⟨.failed e, .none⟩

/-- What is left of a call that opens a handle once it has a segment or none: only a facade records
a failure. -/
def Scenario.Via.report (toggle : Option String) (x : String) (size : UInt32) (via : Via)
    (r : Except SegmentError Segment) : Program Outcome :=
  let ends : Program Outcome := .ret (.ofOpening x (via.wrap toggle size r))
  match via, r with
  | .facade c, .error e =>
    .put (.log (.unavailable e.name (.ofSize size) (c.getD (.ofToggle toggle)).flavor e)) ends
  | _, _ => ends

section
variable {x raw : String} {n : Name} {size : UInt32} {toggle : Option String} {via : Via}

/-- Every call that creates a segment, under a name and with a size and valid settings, creates it
and reports on that. -/
lemma openCall_eq (named : Name.ofRaw raw = .ok n) (creates : via.creates size)
    (positive : size ≠ 0) (admitted : via.isChecked → (via.settings toggle).validate = .ok ()) :
    openCall toggle x raw size via =
      (Segment.create n size (via.settings toggle)).bind (via.report toggle x size) := by
  have connects {c : Config} (valid : c.validate = .ok ()) :
      Facade.connect raw size c = Segment.create n size c := by
    rw [Facade.connect_eq named valid, if_neg positive]
  cases via with
  | facade c =>
    have same := connects (c := c.getD (.ofToggle toggle)) (admitted rfl)
    simp only [openCall, opening, map_eq_pure_bind, Program.bind_eq, Facade.openWith_eq, same,
      Program.bind_assoc]
    refine congrArg (Program.bind _) (funext fun r => ?_)
    cases r with
    | ok => rfl
    | error => rfl
  | attempt c =>
    have same := connects (c := c) (admitted rfl)
    simp only [openCall, opening, Facade.tryOpen, Program.bind_eq, same, Program.bind_assoc]
    refine congrArg (Program.bind _) (funext fun r => ?_)
    cases r with
    | ok => rfl
    | error => rfl
  | create c =>
    simp only [openCall, opening, Scenario.named, named, Program.bind_eq]
    refine congrArg (Program.bind _) (funext fun r => ?_)
    cases r with
    | ok => rfl
    | error => rfl
  | attach => cases creates

/-- Every call that creates makes a finished segment under a name that leads to no directory,
whatever the name is bound to. -/
theorem calm_openCall {h : Host} {t : ThreadId} {b : Option Binding}
    (named : Name.ofRaw raw = .ok n) (creates : via.creates size) (positive : size ≠ 0)
    (admitted : (via.settings toggle).validate = .ok ()) (left : h.store.place n = .file b) :
    (openCall toggle x raw size via).Ensures (.alone t fun _ _ => False)
      (fun o h' => ∃ y : Handle, o = ⟨.info y, .setHandle x y⟩ ∧
        (y.segment? = some (.madeOn h n size (via.settings toggle)) ∧ y.size = size) ∧
        h.Recreates n (via.settings toggle).mode size h') h := by
  rw [openCall_eq named creates positive fun _ => admitted]
  refine (Segment.calm_create left size _).bind ?_
  rintro _ h' ⟨rfl, made⟩
  cases via with
  | facade | attempt | create => exact ⟨_, rfl, ⟨rfl, rfl⟩, made⟩
  | attach => cases creates

end

end SharedSegment
