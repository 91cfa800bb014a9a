import Mathlib.Algebra.Group.Nat.Defs
import Mathlib.Tactic.Lemma
import SharedSegment.Host

/-!
# Outlines

Most requests on an object change nothing that its users rely on before they have the mutex: how
long it is, which size its header holds, and whether its mutex and its condition have been set up.
An outline is just this much of an object. `Object.sizeField_toNat` gives the size in the header as
a number, from which it follows that a size that is written is read back, and that a header of zeros
stays one when the length changes.
-/

namespace SharedSegment

/-- What of an object its users rely on. -/
structure Outline where
  length : Nat
  size : UInt32
  mutex : Life
  condition : Life
deriving DecidableEq

namespace Outline

/-- The outline of an object that was just made. -/
def blank : Outline := ⟨0, 0, .blank, .blank⟩

def withLength (o : Outline) (length : Nat) : Outline := { o with length }

def withSize (o : Outline) (size : UInt32) : Outline := { o with size }

/-- An outline with another state of the mutex. -/
def withMutex (o : Outline) (mutex : Life) : Outline := { o with mutex }

/-- An outline with another state of the condition. -/
def withCondition (o : Outline) (condition : Life) : Outline := { o with condition }

end Outline

namespace Object

def outline (o : Object) : Outline :=
  ⟨o.length, o.sizeField, o.mutex.life, o.condition.life⟩

lemma or_high {a b : Nat} (i : Nat) (lt : a < 2 ^ i) : a ||| b * 2 ^ i = a + b * 2 ^ i := by
  have e := Nat.two_pow_add_eq_or_of_lt lt b
  rw [Nat.or_comm, Nat.mul_comm, ← e, Nat.add_comm]

/-- The size in the header as a number, lowest byte first. -/
lemma sizeField_toNat (o : Object) :
    o.sizeField.toNat = (o.bytes 0).toNat + (o.bytes 1).toNat * 2 ^ 8 +
      (o.bytes 2).toNat * 2 ^ 16 + (o.bytes 3).toNat * 2 ^ 24 := by
  have lt₀ := (o.bytes 0).toNat_lt
  have lt₁ := (o.bytes 1).toNat_lt
  have lt₂ := (o.bytes 2).toNat_lt
  have shifted (x : UInt8) (i : Nat) (le : i ≤ 24) :
      x.toNat * 2 ^ i % 2 ^ 32 = x.toNat * 2 ^ i := by
    refine Nat.mod_eq_of_lt ?_
    calc
      x.toNat * 2 ^ i < 2 ^ 8 * 2 ^ i := Nat.mul_lt_mul_of_pos_right x.toNat_lt (Nat.two_pow_pos i)
      _ = 2 ^ (8 + i) := (Nat.pow_add ..).symm
      _ ≤ 2 ^ 32 := Nat.pow_le_pow_right (by decide) (by omega)
  have e8 : UInt32.toNat 8 % 32 = 8 := rfl
  have e16 : UInt32.toNat 16 % 32 = 16 := rfl
  have e24 : UInt32.toNat 24 % 32 = 24 := rfl
  simp only [sizeField, UInt32.toNat_or, UInt32.toNat_shiftLeft, UInt8.toNat_toUInt32,
    Nat.shiftLeft_eq, e8, e16, e24]
  rw [shifted _ 8 (by decide), shifted _ 16 (by decide), shifted _ 24 (by decide), or_high 8 lt₀,
    or_high 16 (by omega), or_high 24 (by omega)]

/-- A size that is written is read back. -/
@[simp] lemma sizeField_setSizeField (o : Object) (n : UInt32) :
    (o.setSizeField n).sizeField = n := by
  refine UInt32.toNat_inj.1 ?_
  have lt := n.toNat_lt
  rw [sizeField_toNat]
  simp only [setSizeField, write, bytesOf, List.size_toArray, List.length_cons, List.length_nil]
  simp [Nat.shiftRight_eq_div_pow]
  omega

/-- A header without a size has none at another length either. -/
lemma sizeField_resize {o : Object} (n : Nat) (e : o.sizeField = 0) :
    (o.resize n).sizeField = 0 := by
  have zero : o.sizeField.toNat = 0 := by
    rw [e]
    rfl
  rw [sizeField_toNat] at zero
  have bytes i (lt : i < 4) : o.bytes i = 0 := by
    refine UInt8.toNat_inj.1 ?_
    obtain rfl | rfl | rfl | rfl : i = 0 ∨ i = 1 ∨ i = 2 ∨ i = 3 := by omega
    all_goals
      rw [UInt8.toNat_zero]
      omega
  simp [sizeField, resize, bytes]

/-- What is written behind the size leaves it as it is. -/
lemma sizeField_write {o : Object} {off : Nat} (bs : Array UInt8) (le : 4 ≤ off) :
    (o.write off bs).sizeField = o.sizeField := by
  have bytes i (lt : i < 4) : (o.write off bs).bytes i = o.bytes i := by
    have nle : ¬off ≤ i := by omega
    simp [write, nle]
  simp [sizeField, bytes]

lemma sizeField_clear {o : Object} {off : Nat} (len : Nat) (le : 4 ≤ off) :
    (o.clear off len).sizeField = o.sizeField := by
  have bytes i (lt : i < 4) : (o.clear off len).bytes i = o.bytes i := by
    have nle : ¬off ≤ i := by omega
    simp [clear, nle]
  simp [sizeField, bytes]

end Object

namespace Mutex

variable {x y : Mutex} {t : ThreadId}

lemma lock_life {r} (e : x.lock t = .answer r y) : y.life = x.life := by
  unfold lock at e
  split at e
  · cases e
    rfl
  · split at e
    case h_1 | h_2 =>
      split at e
      · cases e
        rfl
      · cases e
    case h_3 =>
      cases e
      rfl
    case h_4 | h_5 => cases e

lemma enqueue_life : (x.enqueue t).life = x.life := by
  unfold enqueue
  split <;> rfl

lemma lock_sleep_life (e : x.lock t = .sleep y) : y.life = x.life := by
  unfold lock at e
  split at e
  · cases e
  · split at e
    case h_1 | h_2 =>
      split at e
      · cases e
      · cases e
        rfl
    case h_3 => cases e
    case h_4 | h_5 =>
      cases e
      exact enqueue_life

lemma unlock_life : (x.unlock t).2.life = x.life := by
  unfold unlock
  split
  · rfl
  · rfl
  · split
    · rfl
    · split <;> rfl

lemma makeConsistent_life : x.makeConsistent.2.life = x.life := by
  unfold makeConsistent
  split <;> rfl

end Mutex
end SharedSegment
