import SharedSegment.Facade
import SharedSegment.Proofs.Alone.Finding
import SharedSegment.Proofs.Custody.Outline

/-!
# Facades alone

What opening a facade comes to while no call fails and nobody comes between. A facade that was
opened with a size and is valid is on a finished object that was just made and that its name is
bound to (`ensures_openWith_new`). One that is opened without a size is valid if a finished segment
is bound to the name, and then is on that (`ensures_openWith_zero`). What is read and written through
a valid facade is read and written in its object (`run_read`, `run_write`).
-/

namespace SharedSegment
open Header Program

namespace Object

variable {mode size : UInt32}

@[simp] lemma finished_length : (finished mode size).length = total size := rfl

@[simp] lemma finished_sizeField : (finished mode size).sizeField = size :=
  sizeField_setSizeField ..

/-- Behind its size a finished object is empty. -/
lemma finished_bytes {i : Nat} (behind : 4 ≤ i) : (finished mode size).bytes i = 0 := by
  have outside : ¬i < 4 := Nat.not_lt.2 behind
  simp [finished, setSizeField, write, bytesOf, outside, Object.withMutex, Object.withCondition,
    resize, fresh]

lemma keepsBits {a b x : UInt32} (here : a &&& x = x) (there : b &&& x = x) :
    (a &&& b) &&& x = x := by
  rw [UInt32.and_assoc, there, here]

/-- A mode that lets the owner read and write still does when the length was set. -/
lemma settledMode_keeps {x : UInt32} (here : mode &&& x = x) (kept : ~~~0o4000 &&& x = x)
    (kept' : ~~~0o2000 &&& x = x) : settledMode mode &&& x = x := by
  unfold settledMode
  have first : (mode &&& ~~~0o4000) &&& x = x := keepsBits here kept
  simp only []
  split
  · exact keepsBits first kept'
  · exact first

lemma permits_of_owner {o : Object}
    (owner : o.mode &&& Config.ownerReadWrite = Config.ownerReadWrite) :
    (o.isReadable && o.isWritable) = true := by
  have bit (x : UInt32) (part : Config.ownerReadWrite &&& x = x) : o.mode &&& x = x := by
    have whole := congrArg (· &&& x) owner
    simp only [UInt32.and_assoc, part] at whole
    exact whole
  have reads := bit 0o400 (by decide)
  have writes := bit 0o200 (by decide)
  rw [isReadable, isWritable, reads, writes]
  decide

lemma fresh_owner (admitted : Config.IsMode mode) :
    (fresh mode).mode &&& Config.ownerReadWrite = Config.ownerReadWrite :=
  keepsBits admitted.2 (by decide)

lemma resize_owner {o : Object} (len : Nat)
    (owner : o.mode &&& Config.ownerReadWrite = Config.ownerReadWrite) :
    (o.resize len).mode &&& Config.ownerReadWrite = Config.ownerReadWrite :=
  settledMode_keeps owner (by decide) (by decide)

lemma finished_permits (admitted : Config.IsMode mode) :
    ((finished mode size).isReadable && (finished mode size).isWritable) = true :=
  permits_of_owner (resize_owner (total size) (fresh_owner admitted))

end Object

variable {h : Host} {t : ThreadId} {raw : String} {n : Name} {size : UInt32} {c : Config}

namespace Facade

/-- A valid name, valid settings and a size lead to creation, and no size leads to attaching. -/
lemma connect_eq (named : Name.ofRaw raw = .ok n) (valid : c.validate = .ok ()) :
    connect raw size c = if size = 0 then Segment.attach n c else Segment.create n size c := by
  unfold connect
  simp only [named, valid, Role.ofSize]
  by_cases none : size = 0
  · simp only [if_pos none]
  · simp only [if_neg none]

lemma openWith_eq :
    openWith raw size c = (connect raw size c).bind fun
      | .ok s => .ret (ofSegment size c s)
      | .error e => .put (.log (.unavailable e.name (.ofSize size) c.flavor e))
        (.ret (ofError size c e)) := by
  refine congrArg (connect raw size c).bind (funext fun r => ?_)
  cases r with
  | ok => rfl
  | error => rfl

/-- A facade that was opened with a size and is valid is on a finished object that was just made,
and that the name is bound to. -/
theorem ensures_openWith_new (named : Name.ofRaw raw = .ok n) (positive : size ≠ 0) :
    (openWith raw size c).Ensures (.alone t fun _ _ => False)
      (fun f h' => f.isValid → Config.IsMode c.mode ∧ f.size = size ∧
        f.data = some h.mappings.length ∧ ∃ st : Store, st.place n = .file none ∧
          h' = h.grown (st.insert n.file (.object h.objects.length)) [.finished c.mode size]
            [some h.objects.length] [some ⟨h.objects.length, total size⟩]) h := by
  rw [openWith_eq]
  cases valid : c.validate with
  | error e =>
    have refused : connect raw size c = .ret (.error (.invalidConfig n.text e)) := by
      simp [connect, named, valid]
    rw [refused]
    exact nofun
  | ok =>
    rw [connect_eq named valid, if_neg positive]
    refine (Segment.alone_create n size c).bind ?_
    rintro r h' ⟨st, -, ⟨⟨e, rfl⟩, -⟩ | ⟨free, ⟨rfl, rfl⟩ | ⟨⟨e, rfl⟩, -⟩⟩⟩
    · exact nofun
    · intro _
      exact ⟨(c.validate_eq_ok_iff).1 valid, rfl, rfl, st, free, rfl⟩
    · exact nofun

/-- A facade that is opened without a size is valid if a segment that can be attached to is bound to
the name, and then is on that. -/
theorem ensures_openWith_zero {k : ObjectId} {o : Object} (named : Name.ofRaw raw = .ok n)
    (valid : c.validate = .ok ()) (offers : h.Offers n k o) :
    (openWith raw 0 c).Ensures (.alone t fun _ _ => False)
      (fun f h' => f.isValid ∧ f.size = o.sizeField ∧ f.data = some (h.mappings.length + 1) ∧
        ∃ x, h' = h.grown h.store [] [some k] [x, some ⟨k, total o.sizeField⟩]) h := by
  rw [openWith_eq, connect_eq named valid, if_pos rfl]
  refine (Segment.alone_attach n c).bind ?_
  rintro r h' ⟨fs, ms, rfl, ⟨-, -, -, ⟨_, _, ⟨⟩⟩ | missing⟩ | ⟨k', o', x, offers', rfl, rfl, rfl⟩⟩
  · exact absurd ⟨k, o, offers⟩ missing
  · cases offers.bound.symm.trans offers'.bound
    cases offers.object.symm.trans offers'.object
    have positive : 0 < o.sizeField := UInt32.pos_iff_ne_zero.2 offers.published
    exact ⟨by simp [isValid, ofSegment, Segment.isValid, positive], rfl, rfl, x, rfl⟩

end Facade
section
variable {g : Segment} {m : MappingId} {k : ObjectId} {o : Object}

section
variable (em : g.mapping = some m) (sees : h.under? m = some (k, o))
include em sees

lemma Segment.calm_read (off len : Nat) :
    (g.read off len).Ensures (.alone t fun _ _ => False)
      (fun bs _ => bs = o.read (Layout.headerSize + off) (min len (g.size.toNat - off))) h := by
  rw [read, em]
  refine .asks_calmly (Host.step_read sees _ _) ?_
  exact rfl

lemma Segment.calm_write (off : Nat) (bs : List UInt8) :
    (g.write off bs).Ensures (.alone t fun _ _ => False)
      (fun len h' => len = min (g.size.toNat - off) bs.length ∧ h' = h.setObject k
        (o.write (Layout.headerSize + off) (bs.take (g.size.toNat - off)).toArray)) h := by
  rw [write, em]
  refine .asks_calmly (Host.step_write sees _ _) ?_
  exact ⟨List.length_take, rfl⟩

end

variable {f : Facade} (valid : f.isValid) (eg : f.segment = some g) (em : f.data = some m)
  (sees : h.under? m = some (k, o))
include valid eg em sees

/-- Reading through a valid facade ends with bytes of the object that it shows. -/
lemma run_read (off len : Nat) :
    ((f.read off len).run t .none [] h).1.value? =
      some (o.read (Layout.headerSize + off) (min len (g.size.toNat - off))) := by
  have mapped : g.mapping = some m := by rwa [Facade.data, eg] at em
  rw [Facade.read, if_pos valid, Facade.onSegment_eq eg]
  obtain ⟨_, ended, rfl⟩ := (Segment.calm_read mapped sees off len).run_calm (f := .none) rfl []
  exact ended

/-- Writing through a valid facade ends with those bytes in the payload that fit in. -/
lemma run_write (off : Nat) (bs : List UInt8) :
    let written := (f.write off bs).run t .none [] h
    written.1.value? = some (min (g.size.toNat - off) bs.length) ∧
      written.2 = h.setObject k
        (o.write (Layout.headerSize + off) (bs.take (g.size.toNat - off)).toArray) := by
  have mapped : g.mapping = some m := by rwa [Facade.data, eg] at em
  rw [Facade.write, if_pos valid, Facade.onSegment_eq eg]
  obtain ⟨_, ended, rfl, left⟩ :=
    (Segment.calm_write mapped sees off bs).run_calm (f := .none) rfl []
  exact ⟨ended, left⟩

end

end SharedSegment
