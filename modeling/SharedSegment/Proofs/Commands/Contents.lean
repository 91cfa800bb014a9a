import SharedSegment.Proofs.Commands.Visits
import SharedSegment.Proofs.Custody.Payload
import SharedSegment.Proofs.Text.Replacing

/-!
# Contents

What a visitor may leave of a host: the store and the length, the mode and the bytes of every object
as they were (`Host.Rests`), or with the payload of one object replaced (`Object.inscribed`). A
payload that is replaced holds what fits of the new bytes and zeros behind them
(`Object.inscribed_payload`), and what is read of it ends in front of the first zero.
-/

namespace SharedSegment

/-- The store and the objects of a host stay as they are, but for who holds or awaits what. -/
structure Host.Rests (h h' : Host) : Prop where
  store : h'.store = h.store
  objects : ∀ k, h.Keeps k (fun _ => none) h'

namespace Host

variable {h h' h'' : Host} {k : ObjectId} {o : Object}

lemma rests_refl (h : Host) : h.Rests h := ⟨rfl, fun _ => keeps_of_objects rfl⟩

lemma rests_of_eq (store : h'.store = h.store) (objects : h'.objects = h.objects) : h.Rests h' :=
  ⟨store, fun _ => keeps_of_objects objects⟩

lemma Rests.trans (rests : h.Rests h') (rests' : h'.Rests h'') : h.Rests h'' := by
  refine ⟨rests'.store.trans rests.store, ?_⟩
  intro k o here
  obtain ⟨o', here', keeps⟩ := rests.objects k o here
  obtain ⟨o'', here'', keeps'⟩ := rests'.objects k o' here'
  exact ⟨o'', here'', keeps.trans keeps'⟩

/-- One object is replaced, and the others stay. -/
lemma object?_of_set {o' : Object} (here : h.object? k = some o)
    (objects : h'.objects = h.objects.set k o') :
    h'.object? k = some o' ∧ ∀ j ≠ k, h'.object? j = h.object? j := by
  simp only [object?, objects]
  refine ⟨object?_setObject_self here, ?_⟩
  intro j other
  exact List.getElem?_set_ne (Ne.symm other)

/-- One object is replaced by one with the same contents. -/
lemma rests_setObject {o' : Object} (here : h.object? k = some o)
    (keeps : o.Keeps (fun _ => none) o') : h.Rests (h.setObject k o') := by
  obtain ⟨own, others⟩ : (h.setObject k o').object? k = some o' ∧
      ∀ j ≠ k, (h.setObject k o').object? j = h.object? j := object?_of_set here rfl
  refine ⟨rfl, ?_⟩
  intro j o₁ there
  by_cases same : j = k
  · subst same
    cases here.symm.trans there
    exact ⟨o', own, keeps⟩
  · exact ⟨o₁, (others j same).trans there, o₁.keeps_refl⟩

end Host

namespace Object

variable {o : Object} {bs : List UInt8}

/-- Only the bytes count when a text is read. -/
lemma readText_congr {o' : Object} (same : o'.bytes = o.bytes) (off len : Nat) :
    o'.readText off len = o.readText off len := by
  rw [readText_eq, readText_eq, read, read, same]

/-- The bytes behind the header, as many as the size says. -/
def payload (o : Object) : List UInt8 :=
  o.read Layout.headerSize o.sizeField.toNat

/-- An object whose payload was replaced by some bytes, as far as they fit, and zeros. -/
def inscribed (o : Object) (bs : List UInt8) : Object :=
  (o.write Layout.headerSize (bs.take o.sizeField.toNat).toArray).clear
    (Layout.headerSize + min o.sizeField.toNat bs.length)
    (o.sizeField.toNat - min o.sizeField.toNat bs.length)

/-- Outside the payload nothing is replaced. -/
lemma inscribed_outside {i : Nat}
    (outside : i < Layout.headerSize ∨ Layout.headerSize + o.sizeField.toNat ≤ i) :
    (o.inscribed bs).bytes i = o.bytes i := by
  have clear : ¬(Layout.headerSize + min o.sizeField.toNat bs.length ≤ i ∧
      i < Layout.headerSize + min o.sizeField.toNat bs.length +
        (o.sizeField.toNat - min o.sizeField.toNat bs.length)) := by omega
  have written : ¬(Layout.headerSize ≤ i ∧
      i < Layout.headerSize + (bs.take o.sizeField.toNat).toArray.size) := by
    rw [List.size_toArray, List.length_take]
    omega
  simp only [inscribed, Object.clear, write, if_neg clear, if_neg written]

@[simp] lemma inscribed_sizeField : (o.inscribed bs).sizeField = o.sizeField := by
  have bytes i (lt : i < 4) : (o.inscribed bs).bytes i = o.bytes i :=
    inscribed_outside (.inl (Nat.lt_trans lt (by decide)))
  simp [sizeField, bytes]

lemma inscribed_inside {i : Nat} (inside : i < o.sizeField.toNat) :
    (o.inscribed bs).bytes (Layout.headerSize + i) = bs.getD i 0 := by
  simp only [inscribed, Object.clear, write]
  by_cases here : i < bs.length
  · have kept : ¬(Layout.headerSize + min o.sizeField.toNat bs.length ≤ Layout.headerSize + i ∧
        Layout.headerSize + i < Layout.headerSize + min o.sizeField.toNat bs.length +
          (o.sizeField.toNat - min o.sizeField.toNat bs.length)) := by omega
    have written : Layout.headerSize ≤ Layout.headerSize + i ∧ Layout.headerSize + i <
        Layout.headerSize + (bs.take o.sizeField.toNat).toArray.size := by
      rw [List.size_toArray, List.length_take]
      omega
    rw [if_neg kept, if_pos written, Nat.add_sub_cancel_left]
    simp [here, inside]
  · have cleared : Layout.headerSize + min o.sizeField.toNat bs.length ≤ Layout.headerSize + i ∧
        Layout.headerSize + i < Layout.headerSize + min o.sizeField.toNat bs.length +
          (o.sizeField.toNat - min o.sizeField.toNat bs.length) := by omega
    rw [if_pos cleared]
    simp [here]

/-- A payload that was replaced holds what fits of the new bytes and zeros behind them. -/
theorem inscribed_payload :
    (o.inscribed bs).payload =
      bs.take o.sizeField.toNat ++ List.replicate (o.sizeField.toNat - bs.length) 0 := by
  refine List.ext_getElem ?_ ?_
  · simp only [payload, read, inscribed_sizeField, List.length_map, List.length_range,
      List.length_append, List.length_take, List.length_replicate]
    omega
  · intro i lt lt'
    have inside : i < o.sizeField.toNat := by
      simpa [payload, read] using lt
    simp only [payload, read, List.getElem_map, List.getElem_range, inscribed_inside inside]
    by_cases here : i < bs.length
    · rw [List.getElem_append_left (by simp; omega)]
      simp [here]
    · rw [List.getElem_append_right (by simp; omega)]
      simp [here]

/-- Of a payload that was replaced by bytes without zeros as many are read as fitted. -/
lemma inscribed_readText (zeroFree : 0 ∉ bs) :
    (o.inscribed bs).readText Layout.headerSize o.sizeField.toNat =
      bs.take o.sizeField.toNat := by
  have payload : (o.inscribed bs).payload = _ := inscribed_payload
  rw [Object.payload, inscribed_sizeField] at payload
  rw [readText_eq, payload]
  have kept : ∀ b ∈ bs.take o.sizeField.toNat, decide (b ≠ 0) = true := by
    intro b mem
    have ne : b ≠ 0 := fun zero => zeroFree (zero ▸ List.mem_of_mem_take mem)
    exact decide_eq_true ne
  rw [List.takeWhile_append_of_pos kept]
  cases o.sizeField.toNat - bs.length with
  | zero => exact List.append_nil _
  | succ n =>
    rw [List.replicate_succ, List.takeWhile_cons_of_neg (by decide), List.append_nil]

end Object

namespace Text.Utf8

/-- A character has a zero byte only if it is the NUL. -/
lemma eq_nul_of_zero_mem {c : Char} (mem : 0 ∈ String.utf8EncodeChar c) : c = '\x00' := by
  have spelt := spells_encodeChar c
  have zero : c.toNat = 0 := by
    generalize String.utf8EncodeChar c = bs at mem spelt
    have byte {b : UInt8} (same : 0 = b) : b.toNat = 0 := by rw [← same]; rfl
    cases spelt with
    | one _ ea =>
      rw [List.mem_singleton] at mem
      exact ea.symm.trans (byte mem)
    | two =>
      simp only [List.mem_cons, List.not_mem_nil, or_false] at mem
      obtain same | same := mem
      all_goals
        have := byte same
        omega
    | three =>
      simp only [List.mem_cons, List.not_mem_nil, or_false] at mem
      obtain same | same | same := mem
      all_goals
        have := byte same
        omega
    | four =>
      simp only [List.mem_cons, List.not_mem_nil, or_false] at mem
      obtain same | same | same | same := mem
      all_goals
        have := byte same
        omega
  exact Char.toNat_inj.1 zero

lemma zero_notMem_encode {cs : List Char} (clean : '\x00' ∉ cs) : 0 ∉ encode cs := by
  intro mem
  obtain ⟨c, there, zero⟩ := List.mem_flatMap.1 mem
  exact clean (eq_nul_of_zero_mem zero ▸ there)

end Text.Utf8
end SharedSegment
