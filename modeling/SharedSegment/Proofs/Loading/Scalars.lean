import SharedSegment.Proofs.Loading.Numerals
import SharedSegment.Proofs.Loading.Writing

/-!
# Reading what was written for a scalar

Between quotes a text is read back character by character, an escaped one as the number that its
digits form (`Quoted.read_quoted`). Within brackets a plain word goes up to the comma or the colon
behind it (`Plain.read_word`).
-/

namespace SharedSegment.Yaml

namespace Cursor

variable {c : Cursor}

@[simp] lemma skip_rest (c : Cursor) (n : Nat) : (c.skip n).rest = c.rest.drop n := rfl

@[simp] lemma skip_column (c : Cursor) (n : Nat) :
    (c.skip n).mark.column = c.mark.column + n := rfl

lemma skip_skip (c : Cursor) (m n : Nat) : (c.skip m).skip n = c.skip (m + n) := by
  simp [skip, Mark.forward, Nat.add_assoc, List.drop_drop]

/-- Moving over what stands at a cursor leads to what is behind it. -/
lemma skip_length {a b : List Char} (here : c.rest = a ++ b) : (c.skip a.length).rest = b := by
  rw [skip_rest, here, List.drop_left]

lemma at?_of_rest {x : Char} {r : List Char} (here : c.rest = x :: r) : c.at? x = true := by
  simp [at?, peek, here]

lemma atMarker_of_inside (inside : c.mark.column ≠ 0) (x : Char) : c.atMarker x = false := by
  simp [atMarker, inside]

lemma atDocumentMarker_of_inside (inside : c.mark.column ≠ 0) : c.atDocumentMarker = false := by
  simp [atDocumentMarker, atMarker_of_inside inside]

end Cursor

namespace Quoted

variable {c : Cursor} {cs r acc : List Char} {start : Mark}

/-- Behind the digits before it, a number is read from its last digits. -/
lemma hexNumber_hexDigits (k j n : Nat) (r : List Char) :
    hexNumber (k + j) (n / Nat.pow 16 k) (hexDigits k n ++ r) = hexNumber j n r := by
  induction k generalizing j n r with
  | zero =>
    have whole : n / Nat.pow 16 0 = n := Nat.div_one n
    rw [whole, Nat.zero_add]
    rfl
  | succ k ih =>
    -- The last digit is read last: what is in front of it is the number without it.
    have digit : hexDigit? (n % 16).digitChar = some (n % 16) :=
      (Scalar.hexDigit?_of_lt (n % 16) (Nat.mod_lt _ (by decide))).1
    have shifted : n / Nat.pow 16 (k + 1) = n / 16 / Nat.pow 16 k := by
      rw [Nat.div_div_eq_div_mul, Nat.mul_comm]
      rfl
    have whole : n / 16 * 16 + n % 16 = n := by omega
    rw [shifted, hexDigits, List.append_assoc, Nat.add_assoc, Nat.add_comm 1 j, ih,
      List.singleton_append, hexNumber, digit, Option.bind_some, whole]

/-- An escaped character is its number in eight digits. -/
lemma hexNumber_escaped (c : Char) (r : List Char) :
    hexNumber 8 0 (hexDigits 8 c.toNat ++ r) = some c.toNat := by
  have small : c.toNat < 0x110000 := by
    have valid : c.toNat < 0xD800 ∨ 0xDFFF < c.toNat ∧ c.toNat < 0x110000 := c.valid
    omega
  have none : c.toNat / Nat.pow 16 8 = 0 := Nat.div_eq_of_lt (Nat.lt_trans small (by decide))
  have read := hexNumber_hexDigits 8 0 c.toNat r
  rwa [none, hexNumber] at read

lemma isScalarValue_toNat (c : Char) : isScalarValue c.toNat = true := by
  have valid : c.toNat < 0xD800 ∨ 0xDFFF < c.toNat ∧ c.toNat < 0x110000 := c.valid
  simp only [isScalarValue, Bool.or_eq_true, Bool.and_eq_true, decide_eq_true_eq]
  omega

lemma length_hexDigits (k n : Nat) : (hexDigits k n).length = k := by
  induction k generalizing n with
  | zero => rfl
  | succ k ih => simp [hexDigits, ih]

/-- What is not escaped is no blank, no break, no quote and no backslash. -/
lemma ne_of_isWordChar {x y : Char} (word : isWordChar x) (other : isWordChar y = false) :
    x ≠ y := by
  rintro rfl
  rw [word] at other
  cases other

lemma not_endsWord_of_isWordChar {x : Char} (word : isWordChar x) :
    endsWord (some x) = false := by
  simp [endsWord, isBlank, isBreak, ne_of_isWordChar word (y := ' ') rfl,
    ne_of_isWordChar word (y := '\t') rfl, ne_of_isWordChar word (y := '\n') rfl,
    ne_of_isWordChar word (y := '\r') rfl, ne_of_isWordChar word (y := '\x85') rfl,
    ne_of_isWordChar word (y := '\u2028') rfl, ne_of_isWordChar word (y := '\u2029') rfl]

/-- One character is read, escaped or not. -/
lemma run_escapeChar (x : Char) (fuel : Nat) (here : c.rest = escapeChar x ++ r) :
    run .double start (fuel + 1) acc c =
      run .double start fuel (x :: acc) (c.skip (escapeChar x).length) := by
  -- A character of a word stands for itself; any other has eight digits behind its mark.
  by_cases word : isWordChar x
  · have alone : escapeChar x = [x] := by rw [escapeChar, if_pos word]
    rw [alone] at here ⊢
    rw [run]
    simp only [here, List.singleton_append, not_endsWord_of_isWordChar word, Form.quote,
      beq_false_of_ne (ne_of_isWordChar word (y := '"') rfl),
      beq_false_of_ne (ne_of_isWordChar word (y := '\\') rfl)]
    simp
  · have escaped : escapeChar x = '\\' :: 'U' :: hexDigits 8 x.toNat := by
      rw [escapeChar, if_neg word]
    rw [escaped] at here ⊢
    rw [run]
    simp only [here, List.cons_append]
    simp [endsWord, isBlank, isBreak, Form.quote, escape?, hexNumber_escaped, isScalarValue_toNat,
      length_hexDigits]

/-- A run goes up to the quote behind what was written. -/
lemma run_quoted (cs : List Char) (fuel : Nat) (enough : cs.length < fuel)
    (here : c.rest = cs.flatMap escapeChar ++ '"' :: r) :
    run .double start fuel acc c =
      .ok (cs.reverse ++ acc, .word, c.skip (cs.flatMap escapeChar).length) := by
  induction cs generalizing fuel acc c with
  | nil =>
    obtain ⟨fuel, rfl⟩ : ∃ n, fuel = n + 1 := ⟨fuel - 1, by omega⟩
    have same : c.skip 0 = c := rfl
    rw [run]
    simp [here, endsWord, isBlank, isBreak, Form.quote, same]
  | cons x cs ih =>
    obtain ⟨fuel, rfl⟩ : ∃ n, fuel = n + 1 := ⟨fuel - 1, by omega⟩
    rw [List.flatMap_cons, List.append_assoc] at here
    have behind := Cursor.skip_length here
    rw [run_escapeChar x fuel here, ih fuel (by simpa using enough) behind, Cursor.skip_skip]
    simp

lemma length_le_length_flatMap (cs : List Char) : cs.length ≤ (cs.flatMap escapeChar).length := by
  induction cs with
  | nil => exact le_rfl
  | cons x cs ih =>
    have one : 1 ≤ (escapeChar x).length := by
      rw [escapeChar]
      split <;> simp
    rw [List.flatMap_cons, List.length_append, List.length_cons]
    omega

/-- A text between quotes is read back. -/
theorem read_quoted (cs : List Char) (here : c.rest = quoted cs ++ r) :
    read .double c = .ok (String.ofList cs, c.skip (quoted cs).length) := by
  have inner : (c.skip 1).rest = cs.flatMap escapeChar ++ '"' :: r := by
    rw [Cursor.skip_rest, here]
    simp [quoted]
  have enough : cs.length < (c.skip 1).rest.length + 1 := by
    have shorter := length_le_length_flatMap cs
    rw [inner, List.length_append]
    omega
  have marker : (c.skip 1).atDocumentMarker = false :=
    Cursor.atDocumentMarker_of_inside (Nat.succ_ne_zero _)
  have more : (c.skip 1).rest.isEmpty = false := by
    rw [inner]
    simp
  have closed : (c.skip (1 + (cs.flatMap escapeChar).length)).at? '"' = true := by
    rw [← Cursor.skip_skip]
    exact Cursor.at?_of_rest (Cursor.skip_length inner)
  have length : (quoted cs).length = 1 + ((cs.flatMap escapeChar).length + 1) := by
    simp [quoted, Nat.add_comm]
  rw [read, runs]
  simp only [marker, more, run_quoted cs _ enough inner, Form.quote, Cursor.skip_skip, closed,
    length, Bool.false_eq_true, if_false, if_true, List.append_nil, List.reverse_reverse,
    Nat.add_assoc]

end Quoted

namespace Plain

variable {c : Cursor} {w r : List Char}

/-- A word ends within brackets. -/
inductive Ends : List Char → Prop
  | comma (r : List Char) : Ends (',' :: r)
  | colon (r : List Char) : Ends (':' :: ' ' :: r)

/-- A plain character is none that begins or ends something. -/
lemma ne_of_isPlainChar {x : Char} (plain : isPlainChar x) {y : Char}
    (indicates : y ∈ TokenStream.indicators) : x ≠ y := by
  rintro rfl
  simp [isPlainChar, indicates] at plain

lemma not_endsWord_of_isPlainChar {x : Char} (plain : isPlainChar x) :
    endsWord (some x) = false := by
  simp only [isPlainChar, Bool.and_eq_true, Bool.not_eq_true', Bool.or_eq_false_iff] at plain
  exact plain.1.1

lemma word_of_ends (ends : Ends r) : word true r = .ok [] := by
  cases ends with
  | comma r => simp [word, endsWord, isBlank, isBreak, endsInFlow]
  | colon r => simp [word, endsWord, isBlank, isBreak, clashes]

/-- A plain word goes up to where it ends. -/
lemma word_append (plain : w.all isPlainChar) (ends : Ends r) : word true (w ++ r) = .ok w := by
  induction w with
  | nil => exact word_of_ends ends
  | cons x w ih =>
    rw [List.all_cons, Bool.and_eq_true] at plain
    have apart {y : Char} (indicates : y ∈ TokenStream.indicators) : (x == y) = false :=
      beq_false_of_ne (ne_of_isPlainChar plain.1 indicates)
    have inside : endsInFlow x = false := by
      simp [endsInFlow, ne_of_isPlainChar plain.1 (y := ',') (by decide),
        ne_of_isPlainChar plain.1 (y := '[') (by decide),
        ne_of_isPlainChar plain.1 (y := ']') (by decide),
        ne_of_isPlainChar plain.1 (y := '\x7b') (by decide),
        ne_of_isPlainChar plain.1 (y := '\x7d') (by decide)]
    rw [List.cons_append, word, ih plain.2]
    simp [not_endsWord_of_isPlainChar plain.1, apart (y := ':') (by decide), inside]

/-- A plain word is read back. -/
theorem read_word (indent : Nat) (inside : c.mark.column ≠ 0) (some : w ≠ [])
    (plain : w.all isPlainChar) (ends : Ends r) (here : c.rest = w ++ r) :
    ∃ stop, read true indent c = .ok (String.ofList w, false, stop, c.skip w.length) := by
  have marker := Cursor.atDocumentMarker_of_inside inside
  have comment : c.at? '#' = false := by
    obtain ⟨x, w, rfl⟩ := List.exists_cons_of_ne_nil some
    rw [List.all_cons, Bool.and_eq_true] at plain
    simp [Cursor.at?, Cursor.peek, here, ne_of_isPlainChar plain.1 (y := '#') (by decide)]
  have behind := Cursor.skip_length here
  have stops : ((c.skip w.length).atBlank || (c.skip w.length).atBreak) = false := by
    cases ends with
    | comma r => simp only [Cursor.atBlank, Cursor.atBreak, Cursor.peek, behind]; rfl
    | colon r => simp only [Cursor.atBlank, Cursor.atBreak, Cursor.peek, behind]; rfl
  have proper : w.isEmpty = false := by simpa using some
  refine ⟨(c.skip w.length).mark, ?_⟩
  have read : word true c.rest = .ok w := by rw [here, word_append plain ends]
  rw [Plain.read, words]
  simp only [marker, comment, read, stops, proper]
  simp [Gap.none, Gap.text]

end Plain
end SharedSegment.Yaml
