import SharedSegment.Proofs.Text.Boundaries

/-!
# Reading a text that was cut

The bytes of a text are read as that text (`Utf8.decodeLossyChars_encode`). If they are cut, what is
read is the text as far as it is whole; and if the cut falls inside a character, the bytes that are
left of that are read as one U+FFFD (`Utf8.decodeLossyChars_take`).
-/

namespace SharedSegment.Text.Utf8

/-- The second byte of a character of three or four bytes continues it, and four first bytes admit
only some such bytes. -/
lemma isSecond_iff {first b : UInt8} :
    isSecond first b = true ↔ (0x80 ≤ b.toNat ∧ b.toNat ≤ 0xBF) ∧
      (first.toNat = 0xE0 → 0xA0 ≤ b.toNat) ∧ (first.toNat = 0xED → b.toNat ≤ 0x9F) ∧
      (first.toNat = 0xF0 → 0x90 ≤ b.toNat) ∧ (first.toNat = 0xF4 → b.toNat ≤ 0x8F) := by
  simp only [isSecond, secondRange, Bool.and_eq_true, decide_eq_true_eq, UInt8.le_iff_toNat_le,
    ← UInt8.toNat_inj, UInt8.reduceToNat]
  split
  case isTrue => simp only [UInt8.reduceToNat]; omega
  case isFalse =>
    split
    case isTrue => simp only [UInt8.reduceToNat]; omega
    case isFalse =>
      split
      case isTrue => simp only [UInt8.reduceToNat]; omega
      case isFalse => split <;> (simp only [UInt8.reduceToNat]; omega)

/-- A byte lies in a range of first bytes. -/
lemma within_iff {a low high : UInt8} :
    (low ≤ a && a ≤ high) = true ↔ low.toNat ≤ a.toNat ∧ a.toNat ≤ high.toNat := by
  simp [UInt8.le_iff_toNat_le]

/-- The form of a character tells how it is read, also where bytes of it are missing at the end. -/
structure Reads (v : Nat) (first : UInt8) (more : List UInt8) : Prop where
  whole : ∀ rest, step first (more ++ rest) = .char (Char.ofNat v) more.length
  part : ∀ k < more.length, step first (more.take k) = .bad k

section
variable {v : Nat} {a b d e : UInt8}

lemma reads_one (low : v < 0x80) (ea : a.toNat = v) : Reads v a [] := by
  have narrow : a < 0x80 := by
    rw [UInt8.lt_iff_toNat_lt, ea]
    exact low
  constructor
  · intro rest
    simp only [step, if_pos narrow, ea]
    rfl
  · nofun

/-- The first byte of a character of more than one byte is told by the range it lies in. -/
lemma not_narrow (wide : 0x80 ≤ a.toNat) : ¬a < 0x80 := by
  rw [UInt8.lt_iff_toNat_lt]
  exact Nat.not_lt.2 wide

lemma reads_two (low : 0x80 ≤ v) (high : v < 0x800)
    (ea : a.toNat = v / 64 + 192) (eb : b.toNat = v % 64 + 128) : Reads v a [b] := by
  have wide : ¬a < 0x80 := not_narrow (by omega)
  have range : (0xC2 ≤ a && a ≤ 0xDF) = true := by
    rw [within_iff]
    simp only [UInt8.reduceToNat]
    omega
  have continued : isContinuation b = true := isContinuation_iff.2 (by omega)
  have number : a.toNat % 32 * 64 + low6 b = v := by
    rw [low6]
    omega
  constructor
  · intro rest
    simp only [step, if_neg wide, if_pos range, List.cons_append, continued, number]
    rfl
  · intro k short
    obtain rfl : k = 0 := Nat.lt_one_iff.1 short
    simp only [step, if_neg wide, if_pos range, List.take_zero]

lemma reads_three (low : 0x800 ≤ v) (high : v < 0x10000) (proper : v < 0xD800 ∨ 0xDFFF < v)
    (ea : a.toNat = v / 4096 + 224) (eb : b.toNat = v / 64 % 64 + 128)
    (ed : d.toNat = v % 64 + 128) : Reads v a [b, d] := by
  have wide : ¬a < 0x80 := not_narrow (by omega)
  have above : ¬(0xC2 ≤ a && a ≤ 0xDF) = true := by
    rw [within_iff]
    simp only [UInt8.reduceToNat]
    omega
  have range : (0xE0 ≤ a && a ≤ 0xEF) = true := by
    rw [within_iff]
    simp only [UInt8.reduceToNat]
    omega
  have second : isSecond a b = true := isSecond_iff.2 (by omega)
  have continued : isContinuation d = true := isContinuation_iff.2 (by omega)
  have number : (a.toNat % 16 * 64 + low6 b) * 64 + low6 d = v := by
    rw [low6, low6]
    omega
  constructor
  · intro rest
    simp only [step, if_neg wide, if_neg above, if_pos range, List.cons_append, second, continued,
      number]
    rfl
  · intro k short
    match k, short with
    | 0, _ => simp only [step, if_neg wide, if_neg above, if_pos range, List.take_zero]
    | 1, _ =>
      simp only [step, if_neg wide, if_neg above, if_pos range, List.take_succ_cons, List.take_zero,
        second]
      rfl

lemma reads_four (low : 0x10000 ≤ v) (high : v < 0x110000)
    (ea : a.toNat = v / 262144 + 240) (eb : b.toNat = v / 4096 % 64 + 128)
    (ed : d.toNat = v / 64 % 64 + 128) (ee : e.toNat = v % 64 + 128) : Reads v a [b, d, e] := by
  have wide : ¬a < 0x80 := not_narrow (by omega)
  have above : ¬(0xC2 ≤ a && a ≤ 0xDF) = true := by
    rw [within_iff]
    simp only [UInt8.reduceToNat]
    omega
  have above' : ¬(0xE0 ≤ a && a ≤ 0xEF) = true := by
    rw [within_iff]
    simp only [UInt8.reduceToNat]
    omega
  have range : (0xF0 ≤ a && a ≤ 0xF4) = true := by
    rw [within_iff]
    simp only [UInt8.reduceToNat]
    omega
  have second : isSecond a b = true := isSecond_iff.2 (by omega)
  have third : isContinuation d = true := isContinuation_iff.2 (by omega)
  have fourth : isContinuation e = true := isContinuation_iff.2 (by omega)
  have number : ((a.toNat % 8 * 64 + low6 b) * 64 + low6 d) * 64 + low6 e = v := by
    rw [low6, low6, low6]
    omega
  constructor
  · intro rest
    simp only [step, if_neg wide, if_neg above, if_neg above', if_pos range, List.cons_append,
      second, third, fourth, number]
    rfl
  · intro k short
    match k, short with
    | 0, _ =>
      simp only [step, if_neg wide, if_neg above, if_neg above', if_pos range, List.take_zero]
    | 1, _ =>
      simp only [step, if_neg wide, if_neg above, if_neg above', if_pos range, List.take_succ_cons,
        List.take_zero, second]
      rfl
    | 2, _ =>
      simp only [step, if_neg wide, if_neg above, if_neg above', if_pos range, List.take_succ_cons,
        List.take_zero, second, third]
      rfl

end

lemma reads_of_spells {v : Nat} {bs : List UInt8} (spelt : Spells v bs) :
    ∃ first more, bs = first :: more ∧ Reads v first more := by
  cases spelt with
  | one low ea => exact ⟨_, _, rfl, reads_one low ea⟩
  | two low high ea eb => exact ⟨_, _, rfl, reads_two low high ea eb⟩
  | three low high proper ea eb ed => exact ⟨_, _, rfl, reads_three low high proper ea eb ed⟩
  | four low high ea eb ed ee => exact ⟨_, _, rfl, reads_four low high ea eb ed ee⟩

/-- The bytes of a character, and what comes of reading them. -/
lemma encodeChar_reads (c : Char) :
    ∃ first more, String.utf8EncodeChar c = first :: more ∧
      (∀ rest, step first (more ++ rest) = .char c more.length) ∧
      ∀ k < more.length, step first (more.take k) = .bad k := by
  obtain ⟨first, more, spelt, reads⟩ := reads_of_spells (spells_encodeChar c)
  refine ⟨first, more, spelt, ?_, reads.part⟩
  intro rest
  rw [reads.whole, Char.ofNat_toNat]

/-- A whole character in front is read, and what follows it. -/
lemma decodeLossyChars_append (cs : List Char) (bs : List UInt8) :
    decodeLossyChars (encode cs ++ bs) = cs ++ decodeLossyChars bs := by
  induction cs with
  | nil => rfl
  | cons c cs ih =>
    obtain ⟨first, more, spelt, whole, -⟩ := encodeChar_reads c
    rw [encode_cons, spelt, List.append_assoc, List.cons_append, decodeLossyChars, whole]
    simp only [List.drop_left, ih, List.cons_append]

/-- The bytes of a text are read as the text. -/
theorem decodeLossyChars_encode (cs : List Char) : decodeLossyChars (encode cs) = cs := by
  have read := decodeLossyChars_append cs []
  rwa [List.append_nil, decodeLossyChars, List.append_nil] at read

/-- The first bytes of a character, but not all of them, are read as one U+FFFD. -/
lemma decodeLossyChars_part {c : Char} {n : Nat} (some : 0 < n) (short : n < c.utf8Size) :
    decodeLossyChars ((String.utf8EncodeChar c).take n) = ['\uFFFD'] := by
  obtain ⟨first, more, spelt, -, part⟩ := encodeChar_reads c
  have size : more.length + 1 = c.utf8Size := by
    rw [← String.length_utf8EncodeChar, spelt, List.length_cons]
  obtain ⟨k, rfl⟩ := Nat.exists_eq_add_of_lt some
  rw [Nat.zero_add] at short ⊢
  have missing : k < more.length := by omega
  rw [spelt, List.take_succ_cons, decodeLossyChars, part k missing]
  simp [decodeLossyChars]

/-- A text whose bytes are cut is read as far as it is whole, and what is left of a character that
the cut falls into is read as one U+FFFD. -/
theorem decodeLossyChars_take (cs : List Char) (n : Nat) (within : n ≤ byteLength cs) :
    decodeLossyChars ((encode cs).take n) =
      takeBytes n cs ++ if isBoundary (encode cs) n then [] else ['\uFFFD'] := by
  simp only [isBoundary_encode_iff]
  induction cs generalizing n with
  | nil =>
    obtain rfl : n = 0 := Nat.le_zero.1 within
    simp [decodeLossyChars, takeBytes, byteLength]
  | cons c cs ih =>
    rw [encode_cons, List.take_append, String.length_utf8EncodeChar]
    by_cases fits : c.utf8Size ≤ n
    · have all : (String.utf8EncodeChar c).take n = encode [c] := by
        rw [List.take_of_length_le (by rwa [String.length_utf8EncodeChar])]
        simp
      have rest : n - c.utf8Size ≤ byteLength cs := by
        simp only [byteLength] at within
        omega
      have same : c.utf8Size + byteLength (takeBytes (n - c.utf8Size) cs) = n ↔
          byteLength (takeBytes (n - c.utf8Size) cs) = n - c.utf8Size := by omega
      -- The first character is whole, and the cut falls behind it.
      rw [all, decodeLossyChars_append, ih _ rest, takeBytes, if_pos fits, byteLength]
      simp only [same, List.cons_append, List.nil_append]
    · -- Nothing is left behind the first character, and of that only a part.
      have none : n - c.utf8Size = 0 := by omega
      rw [none, List.take_zero, List.append_nil, takeBytes, if_neg fits]
      cases n with
      | zero => simp [decodeLossyChars, byteLength]
      | succ n =>
        rw [decodeLossyChars_part (Nat.succ_pos n) (Nat.lt_of_not_le fits)]
        simp [byteLength]

end SharedSegment.Text.Utf8
