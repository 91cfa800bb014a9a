import Mathlib.Tactic.Lemma
import SharedSegment.Text.Bounded
import SharedSegment.Text.Utf8

/-!
# Where a text may be cut

A text that is too long keeps its longest initial part that fits (`IsCut`), which is what
`takeBytes` gives (`isCut_iff`). In the UTF-8 form the same place is found from the limit downward:
the last place at or below it that is a boundary of characters (`Utf8.lastBoundary?`). That search
always ends at a boundary, at the latest at the beginning (`Utf8.lastBoundary?_encode`), so that
cutting the bytes there gives the bytes of the text that is cut (`Utf8.truncated?_encode`).
-/

namespace SharedSegment.Text

/-- The longest initial part of a text within a number of bytes. -/
structure IsCut (n : Nat) (cs p : List Char) : Prop where
  initial : p <+: cs
  fits : byteLength p ≤ n
  longest : ∀ q, q <+: cs → byteLength q ≤ n → q <+: p

variable {n : Nat} {cs p : List Char}

theorem isCut_takeBytes (n : Nat) (cs : List Char) : IsCut n cs (takeBytes n cs) where
  initial := takeBytes_append_isPrefix n cs
  fits := byteLength_takeBytes_le n cs
  longest := by
    rintro q ⟨r, rfl⟩ fits
    obtain ⟨more, cut⟩ := takeBytes_longest (r := r) fits
    exact ⟨more, cut.symm⟩

/-- There is one longest initial part, and it is what is taken. -/
theorem isCut_iff : IsCut n cs p ↔ p = takeBytes n cs := by
  constructor
  · intro cut
    have taken := isCut_takeBytes n cs
    exact (taken.longest p cut.initial cut.fits).eq_of_length_le
      (cut.longest _ taken.initial taken.fits).length_le
  · rintro rfl
    exact isCut_takeBytes n cs

/-- What fits into less is cut alike. -/
lemma takeBytes_eq_of_le {m : Nat} (le : m ≤ n) (fits : byteLength (takeBytes n cs) ≤ m) :
    takeBytes n cs = takeBytes m cs := by
  have taken := isCut_takeBytes n cs
  exact isCut_iff.1
    ⟨taken.initial, fits, fun q initial short => taken.longest q initial (Nat.le_trans short le)⟩

/-- Where something is cut off, the next character would not have fitted. -/
lemma lt_byteLength_takeBytes_add (exceeds : n < byteLength cs) :
    n < byteLength (takeBytes n cs) + 4 := by
  induction cs generalizing n with
  | nil => exact absurd exceeds (Nat.not_lt_zero n)
  | cons c cs ih =>
    by_cases fits : c.utf8Size ≤ n
    · have rest := @ih (n - c.utf8Size) (by simp only [byteLength] at exceeds; omega)
      rw [takeBytes, if_pos fits]
      simp only [byteLength]
      omega
    · rw [takeBytes, if_neg fits]
      have := c.utf8Size_le_four
      simp only [byteLength]
      omega

/-- The number of bytes is that of the text as a string. -/
lemma byteLength_eq_utf8ByteSize (s : String) : byteLength s.toList = s.utf8ByteSize := by
  suffices all : ∀ cs, byteLength cs = (String.ofList cs).utf8ByteSize by
    rw [all, String.ofList_toList]
  intro cs
  induction cs with
  | nil => rfl
  | cons c cs ih =>
    have split : String.ofList (c :: cs) = String.singleton c ++ String.ofList cs := by
      rw [String.singleton_eq_ofList, ← String.ofList_append]
      rfl
    rw [byteLength, ih, split, String.utf8ByteSize_append, String.utf8ByteSize_singleton]

namespace Utf8

@[simp] lemma encode_nil : encode [] = [] := rfl

@[simp] lemma encode_cons (c : Char) (cs : List Char) :
    encode (c :: cs) = String.utf8EncodeChar c ++ encode cs := List.flatMap_cons

@[simp] lemma encode_append (a b : List Char) : encode (a ++ b) = encode a ++ encode b :=
  List.flatMap_append

@[simp] lemma length_encode (cs : List Char) : (encode cs).length = byteLength cs := by
  induction cs with
  | nil => rfl
  | cons c cs ih => simp [byteLength, ih]

/-- Whether a place in some bytes lies at a boundary of characters: at the beginning, at the end, or
in front of a byte that continues none. -/
def isBoundary (bs : List UInt8) (i : Nat) : Bool :=
  i == 0 || i == bs.length || bs[i]?.any fun b => !isContinuation b

/-- The last boundary at or below a place, looked for downward. The search has none to go on to
below the beginning. -/
def lastBoundary? (bs : List UInt8) : Nat → Option Nat
  | 0 => if isBoundary bs 0 then some 0 else none
  | i + 1 => if isBoundary bs (i + 1) then some (i + 1) else lastBoundary? bs i

/-- Bytes that are cut at the last boundary within a limit, if they exceed it. -/
def truncated? (bs : List UInt8) (limit : Nat) : Option (List UInt8) :=
  if bs.length ≤ limit then some bs else (lastBoundary? bs limit).map bs.take

lemma isContinuation_iff {b : UInt8} :
    isContinuation b = true ↔ 0x80 ≤ b.toNat ∧ b.toNat ≤ 0xBF := by
  simp [isContinuation, UInt8.le_iff_toNat_le]

/-- The bytes of a character, told by its number. -/
inductive Spells (v : Nat) : List UInt8 → Prop where
  | one {a : UInt8} :
    v < 0x80 →
    a.toNat = v →
    Spells v [a]
  | two {a b : UInt8} :
    0x80 ≤ v → v < 0x800 →
    a.toNat = v / 64 + 192 → b.toNat = v % 64 + 128 →
    Spells v [a, b]
  | three {a b d : UInt8} :
    0x800 ≤ v → v < 0x10000 → v < 0xD800 ∨ 0xDFFF < v →
    a.toNat = v / 4096 + 224 → b.toNat = v / 64 % 64 + 128 → d.toNat = v % 64 + 128 →
    Spells v [a, b, d]
  | four {a b d e : UInt8} :
    0x10000 ≤ v → v < 0x110000 →
    a.toNat = v / 262144 + 240 → b.toNat = v / 4096 % 64 + 128 →
    d.toNat = v / 64 % 64 + 128 → e.toNat = v % 64 + 128 →
    Spells v [a, b, d, e]

lemma spells_encodeChar (c : Char) : Spells c.toNat (String.utf8EncodeChar c) := by
  have valid : c.toNat < 0xD800 ∨ 0xDFFF < c.toNat ∧ c.toNat < 0x110000 := c.valid
  have same : c.val.toNat = c.toNat := rfl
  have byte {x y : Nat} (eq : x = y) (lt : x < 256) : (UInt8.ofNat x).toNat = y := by
    rw [UInt8.toNat_ofNat', Nat.mod_eq_of_lt lt, eq]
  unfold String.utf8EncodeChar
  simp only [same]
  split
  case isTrue => exact .one (by omega) (byte rfl (by omega))
  case isFalse =>
    split
    case isTrue =>
      exact .two (by omega) (by omega) (byte (by omega) (by omega)) (byte rfl (by omega))
    case isFalse =>
      split
      case isTrue =>
        exact .three (by omega) (by omega) (by omega) (byte (by omega) (by omega))
          (byte rfl (by omega)) (byte rfl (by omega))
      case isFalse =>
        exact .four (by omega) (by omega) (byte (by omega) (by omega)) (byte rfl (by omega))
          (byte rfl (by omega)) (byte rfl (by omega))

/-- The first byte of a character continues none, and all others do. -/
lemma encodeChar_eq_cons (c : Char) :
    ∃ first more, String.utf8EncodeChar c = first :: more ∧ isContinuation first = false ∧
      ∀ b ∈ more, isContinuation b = true := by
  have spelt := spells_encodeChar c
  generalize String.utf8EncodeChar c = bs at spelt
  have begins {a : UInt8} (outside : a.toNat < 0x80 ∨ 0xBF < a.toNat) :
      isContinuation a = false := by
    rw [← Bool.not_eq_true, isContinuation_iff]
    omega
  have continued {b : UInt8} {v : Nat} (eb : b.toNat = v % 64 + 128) : isContinuation b = true :=
    isContinuation_iff.2 (by omega)
  cases spelt with
  | one => exact ⟨_, _, rfl, begins (by omega), nofun⟩
  | two _ _ _ eb =>
    refine ⟨_, _, rfl, begins (by omega), ?_⟩
    simp [continued eb]
  | three _ _ _ _ eb ed =>
    refine ⟨_, _, rfl, begins (by omega), ?_⟩
    simp [continued eb, continued ed]
  | four _ _ _ eb ed ee =>
    refine ⟨_, _, rfl, begins (by omega), ?_⟩
    simp [continued eb, continued ed, continued ee]

lemma isBoundary_zero (bs : List UInt8) : isBoundary bs 0 = true := rfl

/-- No place inside a character is a boundary. -/
lemma isBoundary_inside {first : UInt8} {more bs : List UInt8} {i : Nat}
    (continued : ∀ b ∈ more, isContinuation b = true) (lt : i < more.length) :
    isBoundary (first :: more ++ bs) (i + 1) = false := by
  have here : (first :: more ++ bs)[i + 1]? = some more[i] := by
    rw [List.cons_append, List.getElem?_cons_succ, List.getElem?_append_left lt,
      List.getElem?_eq_getElem lt]
  have inside : i + 1 ≠ (first :: more ++ bs).length := by
    simp only [List.cons_append, List.length_cons, List.length_append]
    omega
  rw [isBoundary, here, Option.any_some, continued _ (List.getElem_mem lt),
    beq_eq_false_iff_ne.2 inside]
  rfl

/-- Behind a whole character the boundaries are those of what follows it. -/
lemma isBoundary_behind (a : List UInt8) (cs : List Char) (i : Nat) :
    isBoundary (a ++ encode cs) (a.length + i) = isBoundary (encode cs) i := by
  have there : (a ++ encode cs)[a.length + i]? = (encode cs)[i]? := by
    rw [List.getElem?_append_right (Nat.le_add_right ..), Nat.add_sub_cancel_left]
  cases i with
  | succ i =>
    have last : (a.length + (i + 1) == a.length + (encode cs).length) =
        (i + 1 == (encode cs).length) := by
      rw [Bool.eq_iff_iff, beq_iff_eq, beq_iff_eq, Nat.add_left_cancel_iff]
    rw [isBoundary, isBoundary, there, List.length_append, last]
    rfl
  | zero =>
    -- In front of the next character stands no boundary of its own, unless it is the beginning.
    cases cs with
    | nil => simp [isBoundary]
    | cons c cs =>
      obtain ⟨first, more, spelt, begins, -⟩ := encodeChar_eq_cons c
      rw [isBoundary, there, encode_cons, spelt]
      simp [isBoundary, begins]

/-- A place is a boundary of a text exactly if the text can be cut there. -/
theorem isBoundary_encode_iff (cs : List Char) (i : Nat) :
    isBoundary (encode cs) i = true ↔ byteLength (takeBytes i cs) = i := by
  induction cs generalizing i with
  | nil => cases i <;> simp [isBoundary, takeBytes, byteLength]
  | cons c cs ih =>
    obtain ⟨first, more, spelt, -, continued⟩ := encodeChar_eq_cons c
    have size : more.length + 1 = c.utf8Size := by
      rw [← String.length_utf8EncodeChar, spelt, List.length_cons]
    by_cases fits : c.utf8Size ≤ i
    · obtain ⟨j, rfl⟩ := Nat.exists_eq_add_of_le fits
      have behind := isBoundary_behind (String.utf8EncodeChar c) cs j
      rw [String.length_utf8EncodeChar] at behind
      rw [encode_cons, behind, ih, takeBytes, if_pos fits, Nat.add_sub_cancel_left, byteLength]
      omega
    · rw [takeBytes, if_neg fits, encode_cons, spelt]
      cases i with
      | zero => exact iff_of_true (isBoundary_zero _) rfl
      | succ i =>
        rw [isBoundary_inside continued (by omega)]
        exact iff_of_false Bool.false_ne_true (Nat.succ_ne_zero i).symm

/-- The search from a limit downward ends where the text is cut that is limited so. -/
theorem lastBoundary?_encode (cs : List Char) (n : Nat) :
    lastBoundary? (encode cs) n = some (byteLength (takeBytes n cs)) := by
  induction n with
  | zero =>
    have fits := byteLength_takeBytes_le 0 cs
    rw [lastBoundary?, if_pos (isBoundary_zero _), Nat.le_zero.1 fits]
  | succ n ih =>
    by_cases here : isBoundary (encode cs) (n + 1) = true
    · rw [lastBoundary?, if_pos here, (isBoundary_encode_iff cs (n + 1)).1 here]
    · have short : byteLength (takeBytes (n + 1) cs) ≤ n := by
        have fits := byteLength_takeBytes_le (n + 1) cs
        rw [isBoundary_encode_iff] at here
        omega
      rw [lastBoundary?, if_neg here, ih, takeBytes_eq_of_le (Nat.le_succ n) short]

/-- The bytes of a text up to where it is cut are those of the text that is left. -/
lemma take_encode (cs : List Char) (n : Nat) :
    (encode cs).take (byteLength (takeBytes n cs)) = encode (takeBytes n cs) := by
  obtain ⟨r, whole⟩ := takeBytes_append_isPrefix n cs
  calc
    (encode cs).take (byteLength (takeBytes n cs))
      = (encode (takeBytes n cs) ++ encode r).take (encode (takeBytes n cs)).length := by
        rw [← encode_append, whole, length_encode]
    _ = encode (takeBytes n cs) := List.take_left

/-- Cutting the bytes of a text at a boundary gives the bytes of the text that is cut. -/
theorem truncated?_encode (cs : List Char) (n : Nat) :
    truncated? (encode cs) n = some (encode (takeBytes n cs)) := by
  unfold truncated?
  rw [length_encode]
  by_cases fits : byteLength cs ≤ n
  · rw [if_pos fits, takeBytes_of_le fits]
  · rw [if_neg fits, lastBoundary?_encode, Option.map_some, take_encode]

end Utf8
end SharedSegment.Text
