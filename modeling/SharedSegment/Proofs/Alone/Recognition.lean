import SharedSegment.Proofs.Alone.Entries
import SharedSegment.Proofs.Alone.Recovery

/-!
# Recognition

Whether a segment can be attached to is decided by what its name is bound to, and if that is an
object, by its mode, its length and its first four bytes (`Segment.Recognizes`). Looking leaves the
store and its objects as they are.
-/

namespace SharedSegment
open Program Header

/-- The payload of a handle is that of an object: the bytes behind the header, as many as the size
says, however long the object is. What is read is read there, and what is written is written
there. -/
structure Segment.Shows (g : Segment) (h : Host) (t : ThreadId) (k : ObjectId) (o : Object) :
    Prop where
  size : g.size = o.sizeField
  mapped : ∃ m, g.mapping = some m ∧ h.mapping? m = some ⟨k, 96 + o.sizeField.toNat⟩
  object : h.object? k = some o
  reads : ∀ off len, ((g.read off len).run t .none [] h).1.value? =
    some (o.read (96 + off) (min len (o.sizeField.toNat - off)))
  writes : ∀ off bs, ((g.write off bs).run t .none [] h).2 =
    h.setObject k (o.write (96 + off) (bs.take (o.sizeField.toNat - off)).toArray)

/-- What attaching under a name comes to on a host, by what the name is bound to. -/
structure Segment.Recognizes (h : Host) (t : ThreadId) (n : Name)
    (r : Except SegmentError Segment) (h' : Host) : Prop where
  store : h'.store = h.store
  objects : h'.objects = h.objects
  barred : (∃ reason, r = .error (acquireError n "open" reason)) ↔ h.Bars n
  missing : r = .error (.notFound n.text) ↔ n.IsPlain ∧ h.item? n.file = none
  unfinished : (∃ reason, r = .error (.uninitialized n.text reason)) ↔
    n.IsPlain ∧ ∃ k o, h.item? n.file = some (.object k o) ∧ (o.isReadable ∧ o.isWritable) ∧
      (o.length < 96 ∨ o.sizeField = 0 ∨ o.length < 96 + o.sizeField.toNat)
  found : (∃ g, r = .ok g) ↔
    n.IsPlain ∧ ∃ k o, h.item? n.file = some (.object k o) ∧ (o.isReadable ∧ o.isWritable) ∧
      96 + o.sizeField.toNat ≤ o.length ∧ o.sizeField ≠ 0
  shows : ∀ g, r = .ok g → g.role = .attacher ∧
    ∃ k o, h.item? n.file = some (.object k o) ∧ g.Shows h' t k o

/-- An object is unfit unless the header and the payload that it tells of lie in it. -/
lemma Object.unfit_iff (o : Object) :
    (o.length < 96 ∨ o.sizeField = 0 ∨ o.length < 96 + o.sizeField.toNat) ↔
      ¬(96 + o.sizeField.toNat ≤ o.length ∧ o.sizeField ≠ 0) := by
  by_cases zero : o.sizeField = 0
  · simp [zero]
  · simp only [zero, false_or, not_false_eq_true, and_true, ne_eq]
    omega

namespace Segment

variable {h : Host} {t : ThreadId} {n : Name} {c : Config}

lemma recognizes_of_barred (reason : String) (bars : h.Bars n) :
    Recognizes h t n (.error (acquireError n "open" reason)) h where
  store := rfl
  objects := rfl
  barred := iff_of_true ⟨reason, rfl⟩ bars
  missing := by
    refine iff_of_false nofun ?_
    rintro ⟨plain, none⟩
    exact (bars.bound plain).1 none
  unfinished := by
    refine iff_of_false nofun ?_
    rintro ⟨plain, k, o, here, permits, -⟩
    exact (bars.bound plain).2 k o here permits
  found := by
    refine iff_of_false nofun ?_
    rintro ⟨plain, k, o, here, permits, -⟩
    exact (bars.bound plain).2 k o here permits
  shows := nofun

lemma recognizes_of_missing (plain : n.IsPlain) (none : h.item? n.file = none) :
    Recognizes h t n (.error (.notFound n.text)) h where
  store := rfl
  objects := rfl
  barred := by simp [acquireError, Host.Bars, plain, none]
  missing := iff_of_true rfl ⟨plain, none⟩
  unfinished := by simp [none]
  found := by simp [none]
  shows := nofun

section
variable {k : ObjectId} {o : Object} {fs : List (Option ObjectId)} {ms : List (Option Mapping)}
  (plain : n.IsPlain) (here : h.item? n.file = some (.object k o))
  (permits : o.isReadable ∧ o.isWritable)
include plain here permits

lemma recognizes_of_unfinished {reason : String}
    (unfit : ¬(96 + o.sizeField.toNat ≤ o.length ∧ o.sizeField ≠ 0)) :
    Recognizes h t n (.error (.uninitialized n.text reason)) (h.grown h.store [] fs ms) where
  store := rfl
  objects := List.append_nil _
  barred := by simp [acquireError, Host.Bars, plain, here, permits, and_assoc]
  missing := by simp [here]
  unfinished := iff_of_true ⟨reason, rfl⟩ ⟨plain, k, o, here, permits, o.unfit_iff.2 unfit⟩
  found := by
    refine iff_of_false nofun ?_
    rintro ⟨-, k', o', here', -, whole⟩
    cases here.symm.trans here'
    exact unfit whole
  shows := nofun

lemma recognizes_of_found {g : Segment}
    (whole : 96 + o.sizeField.toNat ≤ o.length ∧ o.sizeField ≠ 0) (role : g.role = .attacher)
    (shows : g.Shows (h.grown h.store [] fs ms) t k o) :
    Recognizes h t n (.ok g) (h.grown h.store [] fs ms) where
  store := rfl
  objects := List.append_nil _
  barred := by simp [Host.Bars, plain, here, permits, and_assoc]
  missing := by simp [here]
  unfinished := by
    refine iff_of_false nofun ?_
    rintro ⟨-, k', o', here', -, unfit⟩
    cases here.symm.trans here'
    exact o.unfit_iff.1 unfit whole
  found := iff_of_true ⟨g, rfl⟩ ⟨plain, k, o, here, permits, whole⟩
  shows := by
    rintro _ ⟨⟩
    exact ⟨role, k, o, here, shows⟩

end

variable {k : ObjectId} {o : Object}

/-- The segment of some size that is attached to next on a host. -/
def foundOn (h : Host) (n : Name) (size : UInt32) (c : Config) : Segment :=
  ⟨n, c.flavor, .attacher, size, some h.files.length, some (h.mappings.length + 1), false⟩

/-- A handle on a whole object shows it. -/
lemma shows_grown (here : h.object? k = some o) (x : Option Mapping) :
    Shows (foundOn h n o.sizeField c)
      (h.grown h.store [] [some k] [x, some ⟨k, total o.sizeField⟩]) t k o := by
  have mapped := Host.mapping?_grown h h.store [] [some k] [x, some ⟨k, total o.sizeField⟩] 1
  have there : (h.grown h.store [] [some k] [x, some ⟨k, total o.sizeField⟩]).object? k = some o :=
    Host.object?_grown_of_some here
  have sees : (h.grown h.store [] [some k] [x, some ⟨k, total o.sizeField⟩]).under?
      (h.mappings.length + 1) = some (k, o) := by
    rw [Host.under?, mapped]
    simp [there]
  have shown : (foundOn h n o.sizeField c).mapping = some (h.mappings.length + 1) := rfl
  refine ⟨rfl, ⟨_, rfl, mapped⟩, there, ?_, ?_⟩
  · intro off len
    obtain ⟨_, ended, rfl⟩ := (calm_read shown sees off len).run_calm (f := .none) rfl []
    exact ended
  · intro off bs
    obtain ⟨_, -, -, left⟩ := (calm_write shown sees off bs).run_calm (f := .none) rfl []
    exact left

/-- When no call fails, attaching is decided by what the name is bound to. -/
theorem calm_attach (h : Host) (t : ThreadId) (n : Name) (c : Config) :
    (attach n c).Ensures (.alone t fun _ _ => False) (Recognizes h t n) h := by
  obtain ⟨e, lost, why⟩ | ⟨k, o, bound, here, permits, plain, item⟩ := h.openExisting_cases n
  · have refused : h.step t (.openExisting n) = Host.reply (.error e, h) :=
      congrArg Host.reply lost
    refine .asks_calmly refused ?_
    obtain ⟨ne, bars⟩ | ⟨rfl, plain, none⟩ := why
    · change Recognizes h t n (.error (if e = .enoent then _ else _)) h
      rw [if_neg ne]
      exact recognizes_of_barred _ bars
    · exact recognizes_of_missing plain none
  · -- What is open is an object, and from here on only what is in it counts.
    refine .asks_calmly (Host.step_openExisting bound here permits) ?_
    refine (alone_mapFile here).bind ?_
    rw [Bool.and_eq_true] at permits
    rintro r _ ⟨ms, rfl, ⟨-, -, ⟨-, -, ⟨⟩⟩ | ⟨unfit, reason, rfl⟩⟩ | ⟨whole, rfl, x, rfl⟩⟩
    · refine .asks_calmly (a := ()) rfl ?_
      rw [Host.close_grown]
      exact recognizes_of_unfinished plain item permits unfit
    · refine (alone_pin n c o.sizeField).bind ?_
      rintro _ _ rfl
      exact recognizes_of_found plain item permits whole rfl (shows_grown here x)

end Segment

/-- Where no call fails, what a name is bound to decides what attaching under it comes to, and
neither the store nor an object is changed. The size in a header is the number in the first four
bytes, lowest first, and 64 bits are enough for what a segment of that size needs. -/
theorem attaching_is_decided_by_the_item :
    (∀ (h : Host) (t : ThreadId) (n : Name) (c : Config),
      ∃ r, ((Segment.attach n c).run t .none [] h).1.value? = some r ∧
        Segment.Recognizes h t n r ((Segment.attach n c).run t .none [] h).2) ∧
    (∀ o : Object, o.sizeField.toNat = (o.bytes 0).toNat + (o.bytes 1).toNat * 2 ^ 8 +
      (o.bytes 2).toNat * 2 ^ 16 + (o.bytes 3).toNat * 2 ^ 24) ∧
    ∀ size : UInt32, ((96 : UInt64) + size.toUInt64).toNat = total size := by
  refine ⟨?_, Object.sizeField_toNat, ?_⟩
  · intro h t n c
    exact (Segment.calm_attach h t n c).run_calm (f := .none) rfl []
  · intro size
    have lt := size.toNat_lt
    rw [UInt64.toNat_add, UInt32.toNat_toUInt64]
    exact Nat.mod_eq_of_lt (by change 96 + _ < _; omega)

/-- The host on which a segment was made with a mode that permits nothing. -/
def Host.forbidden : Host :=
  ((Segment.create .sample 8 { Config.standard with mode := 0 }).run 0 .none [] .empty).2

/-- That an object is finished does not decide alone: where its mode does not let its owner read and
write, nobody can attach to it. -/
theorem some_finished_items_are_barred :
    Name.sample.IsPlain ∧
    (∃ o, Host.forbidden.item? Name.sample.file = some (.object 0 o) ∧
      96 + o.sizeField.toNat ≤ o.length ∧ o.sizeField ≠ 0) ∧
    ((Segment.attach .sample .standard).run 0 .none [] .forbidden).1.value? =
      some (.error (Segment.acquireError .sample "open" Errno.eacces.text)) := by
  refine ⟨by decide, ?_, ?_⟩
  · exact ⟨_, rfl, by decide +kernel, by decide +kernel⟩
  · rfl

end SharedSegment
