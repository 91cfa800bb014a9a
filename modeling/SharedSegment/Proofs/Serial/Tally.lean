import Mathlib.Algebra.BigOperators.Ring.Finset
import Mathlib.Tactic.Ring
import SharedSegment.Proofs.Serial.Section

/-!
# Counting one after the other

What a counter comes to when threads count in sections that run one after the other. Reading back
what was written is `Object.read_write_self`, and `Counter.ofBytes_toBytes` is the loss beyond the
greatest number. `Serial.counter_run` adds up what every thread has done.
-/

namespace SharedSegment
open Function

/-- Bytes that were written are read back. -/
lemma Object.read_write_self (o : Object) (off : Nat) (bs : List UInt8) :
    (o.write off bs.toArray).read off bs.length = bs := by
  refine List.ext_getElem (by simp [read]) ?_
  intro i lt lt'
  simp [read, write, lt']

namespace Counter

@[simp] lemma length_toBytes (k n : Nat) : (toBytes k n).length = k := by
  induction k generalizing n with
  | zero => rfl
  | succ k ih => simp [toBytes, ih]

/-- Bytes keep a number up to what goes beyond them. -/
lemma ofBytes_toBytes (k n : Nat) : ofBytes (toBytes k n) = n % 256 ^ k := by
  induction k generalizing n with
  | zero => simp [toBytes, ofBytes, Nat.mod_one]
  | succ k ih =>
    rw [toBytes, ofBytes, ih, pow_succ', Nat.mod_mul]
    rfl

/-- Bytes hold no more than fits. -/
lemma ofBytes_lt (bs : List UInt8) : ofBytes bs < 256 ^ bs.length := by
  induction bs with
  | nil => simp [ofBytes]
  | cons b bs ih =>
    have lt := b.toNat_lt
    rw [ofBytes, List.length_cons, pow_succ']
    omega

end Counter

/-- The number in front of the payload of an object. -/
def Object.counter (o : Object) : Nat :=
  Counter.ofBytes (o.read Layout.headerSize Counter.width)

lemma Object.counter_lt (o : Object) : o.counter < 2 ^ 64 := by
  have lt := Counter.ofBytes_lt (o.read Layout.headerSize Counter.width)
  simpa [counter, read, Counter.width] using lt

/-- Counting adds one, beyond the greatest number from zero again. -/
lemma Work.counter_exec_tally {size : Nat} (fits : Counter.width ≤ size) (o : Object) :
    (Work.tally.exec size o).2.counter = (o.counter + 1) % 2 ^ 64 := by
  have whole : (Counter.toBytes Counter.width (o.counter + 1)).take size =
      Counter.toBytes Counter.width (o.counter + 1) :=
    List.take_of_length_le (by simpa using fits)
  have back := Object.read_write_self o Layout.headerSize
    (Counter.toBytes Counter.width (o.counter + 1))
  rw [Counter.length_toBytes] at back
  have read : o.read Layout.headerSize (min Counter.width size) =
      o.read Layout.headerSize Counter.width := by rw [Nat.min_eq_left fits]
  simp only [tally, exec, Nat.add_zero, Nat.sub_zero, read]
  change ((o.write Layout.headerSize
    ((Counter.toBytes Counter.width (o.counter + 1)).take size).toArray).counter) = _
  rw [whole, Object.counter, back, Counter.ofBytes_toBytes]
  rfl

namespace Serial

variable {f : ThreadId → Facade} {ts : Finset ThreadId} {n : Nat} {o : Object}

/-- What each of some threads is to do: count some times through a facade of its own. -/
def tallies (f : ThreadId → Facade) (ts : Finset ThreadId) (n : Nat) (t : ThreadId) :
    List Section :=
  List.replicate (if t ∈ ts then n else 0) ⟨f t, .tally⟩

lemma mem_tallies {t : ThreadId} {c : Section} (mem : c ∈ tallies f ts n t) :
    t ∈ ts ∧ c = ⟨f t, .tally⟩ := by
  unfold tallies at mem
  split at mem
  case isTrue mem' => exact ⟨mem', List.eq_of_mem_replicate mem⟩
  case isFalse => cases mem

/-- How a count stands: each thread has some times left, and those with what was counted make the
whole. -/
structure IsCounting (f : ThreadId → Facade) (ts : Finset ThreadId) (whole : Nat) (s : Serial) :
    Prop where
  rest : ∀ t, ∃ l, s.rest t = List.replicate l ⟨f t, .tally⟩
  idle : ∀ t ∉ ts, s.rest t = []
  sum : (s.object.counter + ∑ t ∈ ts, (s.rest t).length) % 2 ^ 64 = whole % 2 ^ 64

lemma IsCounting.turn {whole : Nat} {s : Serial}
    (fits : ∀ t ∈ ts, Counter.width ≤ (Section.mk (f t) .tally).size)
    (inv : IsCounting f ts whole s) (t : ThreadId) : IsCounting f ts whole (s.turn t) := by
  obtain ⟨l, el⟩ := inv.rest t
  cases l with
  | zero =>
    have same : s.turn t = s := by simp [Serial.turn, el]
    rwa [same]
  | succ l =>
    rw [List.replicate_succ] at el
    have mem : t ∈ ts := by
      by_contra nmem
      simp [inv.idle t nmem] at el
    rw [turn_of_cons el]
    refine ⟨?_, ?_, ?_⟩
    · intro t'
      by_cases et : t' = t
      · subst et
        exact ⟨l, by simp⟩
      · simpa [et] using inv.rest t'
    · intro t' nmem
      have ne : t' ≠ t := fun et => nmem (et ▸ mem)
      simpa [ne] using inv.idle t' nmem
    -- The thread has one time less to go, and the counter is one further.
    · have less : ∑ t' ∈ ts, (update s.rest t (List.replicate l ⟨f t, .tally⟩) t').length + 1 =
          ∑ t' ∈ ts, (s.rest t').length := by
        rw [← Finset.add_sum_erase _ _ mem, ← Finset.add_sum_erase _ _ mem, el, update_self,
          Nat.add_right_comm]
        refine congrArg _ (Finset.sum_congr rfl fun t' mem' => ?_)
        rw [update_of_ne (Finset.ne_of_mem_erase mem')]
      have sum := inv.sum
      rw [← less, Nat.add_left_comm, Nat.add_comm] at sum
      rw [← sum, Work.counter_exec_tally (fits t mem), Nat.mod_add_mod, Nat.add_right_comm]

/-- When all have counted, the counter has gone up by as much as they have counted. -/
theorem counter_run (fits : ∀ t ∈ ts, Counter.width ≤ (Section.mk (f t) .tally).size)
    (order : List ThreadId) (done : ∀ t, (run (tallies f ts n) o order).rest t = []) :
    (run (tallies f ts n) o order).object.counter = (o.counter + ts.card * n) % 2 ^ 64 := by
  have inv : IsCounting f ts (o.counter + ts.card * n) (run (tallies f ts n) o order) := by
    refine run_induction ?_ (fun s t inv => inv.turn fits t) order
    refine ⟨fun t => ⟨_, rfl⟩, fun t nmem => by simp [tallies, nmem], ?_⟩
    rw [Finset.sum_const_nat (m := n) fun t mem => by simp [tallies, mem]]
  have sum := inv.sum
  simp only [done, List.length_nil, Finset.sum_const_zero, Nat.add_zero] at sum
  rwa [Nat.mod_eq_of_lt (Object.counter_lt _)] at sum

end Serial
end SharedSegment
