import Mathlib.Data.Nat.Digits.Defs
import SharedSegment.Text.Octal
import SharedSegment.Yaml.Cursor
import SharedSegment.Yaml.Meaning

/-!
# Numerals

The texts that a natural number is written as: digits in base ten without leading zeros, or digits
in base sixteen, eight or two behind a mark (`Numeral`), with or without a plus sign (`Writes`). A
scalar is read as the number that its text writes (`natural?_of_writes`), and a number in octal
behind its mark is one of its texts (`writes_octal`).
-/

namespace SharedSegment.Yaml.Scalar

/-- A character stands for a value below a base. From ten on these are letters, small or capital. -/
def IsDigit (base : Nat) (c : Char) (d : Nat) : Prop :=
  d < base ∧ (c = d.digitChar ∨ c = d.digitChar.toUpper)

/-- At least one digit, each for a value below a base, and the number that they form. -/
inductive Digits (base : Nat) : List Char → Nat → Prop
  | single {c : Char} {d : Nat} (digit : IsDigit base c d) : Digits base [c] d
  | snoc {cs : List Char} {n : Nat} {c : Char} {d : Nat} (digits : Digits base cs n)
      (digit : IsDigit base c d) : Digits base (cs ++ [c]) (n * base + d)

/-- A number in one of the four notations. In base ten a zero leads only by itself. -/
inductive Numeral : List Char → Nat → Prop
  | decimal {cs : List Char} {n : Nat} (digits : Digits 10 cs n)
      (proper : cs.head? = some '0' → cs = ['0']) : Numeral cs n
  | hexadecimal {cs : List Char} {n : Nat} (digits : Digits 16 cs n) :
      Numeral ('0' :: 'x' :: cs) n
  | octal {cs : List Char} {n : Nat} (digits : Digits 8 cs n) : Numeral ('0' :: 'o' :: cs) n
  | binary {cs : List Char} {n : Nat} (digits : Digits 2 cs n) : Numeral ('0' :: 'b' :: cs) n

/-- A text writes a number: it is one of its numerals, perhaps behind a plus sign. -/
def Writes (text : String) (n : Nat) : Prop :=
  ∃ cs, Numeral cs n ∧ (text.toList = cs ∨ text.toList = '+' :: cs)

variable {base n d : Nat} {c : Char} {cs : List Char}

lemma digit?_eq_filter (base : Nat) (c : Char) :
    digit? base c = (hexDigit? c).filter (· < base) := rfl

/-- All digits of the largest base, in either form. -/
lemma hexDigit?_of_lt : ∀ d < 16, hexDigit? d.digitChar = some d ∧
    hexDigit? d.digitChar.toUpper = some d := by
  decide

lemma digit?_of_isDigit (le : base ≤ 16) (digit : IsDigit base c d) : digit? base c = some d := by
  obtain ⟨lt, ec⟩ := digit
  have known := hexDigit?_of_lt d (by omega)
  have value : hexDigit? c = some d := by
    cases ec with
    | inl small => exact small ▸ known.1
    | inr capital => exact capital ▸ known.2
  rw [digit?_eq_filter, value]
  simp [lt]

lemma Digits.ne_nil (digits : Digits base cs n) : cs ≠ [] := by
  cases digits with
  | single => simp
  | snoc => simp

/-- Some digits are read as the number that they form. -/
theorem digits?_of_digits (le : base ≤ 16) (digits : Digits base cs n) :
    digits? base cs = some n := by
  rw [digits?, if_neg (by simpa using digits.ne_nil)]
  induction digits with
  | single digit => simp [digit?_of_isDigit le digit]
  | snoc digits digit ih => simp [List.foldlM_append, ih, digit?_of_isDigit le digit]

/-- The digits of a number write it. -/
theorem digits_toDigits (proper : 1 < base) (n : Nat) : Digits base (Nat.toDigits base n) n := by
  induction n using Nat.strongRecOn with
  | ind n ih =>
    by_cases lt : n < base
    · rw [Nat.toDigits_of_lt_base lt]
      exact .single ⟨lt, .inl rfl⟩
    · have ge : base ≤ n := by omega
      have smaller : n / base < n := Nat.div_lt_self (by omega) proper
      have last : IsDigit base (n % base).digitChar (n % base) :=
        ⟨Nat.mod_lt _ (by omega), .inl rfl⟩
      rw [Nat.toDigits_of_base_le proper ge]
      have digits := (ih _ smaller).snoc last
      rwa [Nat.mul_comm, Nat.div_add_mod] at digits

/-- A digit is no sign. -/
lemma not_isSigned_of_isDigit (le : base ≤ 16) (digit : IsDigit base c d) (r : List Char) :
    isSigned (c :: r) = false := by
  have value := digit?_of_isDigit le digit
  unfold isSigned
  split
  case h_1 same =>
    cases same
    simp [digit?_eq_filter, hexDigit?] at value
  case h_2 same =>
    cases same
    simp [digit?_eq_filter, hexDigit?] at value
  case h_3 => rfl

lemma Digits.not_isSigned (le : base ≤ 16) (digits : Digits base cs n) (r : List Char) :
    isSigned (cs ++ r) = false := by
  induction digits generalizing r with
  | single digit => exact not_isSigned_of_isDigit le digit r
  | snoc digits digit ih =>
    rw [List.append_assoc]
    exact ih _

lemma Numeral.not_isSigned (numeral : Numeral cs n) : isSigned cs = false := by
  cases numeral with
  | decimal digits =>
    rw [← List.append_nil cs]
    exact digits.not_isSigned (by decide) []
  | hexadecimal => rfl
  | octal => rfl
  | binary => rfl

/-- A plus sign in front of a numeral is passed over, and nothing else is. -/
lemma unsigned_of_writes {all : List Char} (bare : isSigned cs = false)
    (written : all = cs ∨ all = '+' :: cs) : unsigned all = cs := by
  cases written with
  | inl same =>
    subst same
    unfold unsigned
    split
    · cases bare
    · rfl
  | inr signed => rw [signed, unsigned]

/-- What writes a number in base ten has no mark of another base. -/
lemma based?_of_proper (proper : cs.head? = some '0' → cs = ['0']) : based? cs = none := by
  unfold based?
  split
  · simp at proper
  · simp at proper
  · simp at proper
  · rfl

/-- A zero by itself does not lead. -/
lemma hasLeadingZero_of_proper {all : List Char} (proper : cs.head? = some '0' → cs = ['0'])
    (bare : isSigned cs = false) (written : all = cs ∨ all = '+' :: cs) :
    hasLeadingZero all = false := by
  have behind : hasLeadingZero all =
      (cs.length > 1 && cs.head? == some '0' && cs.all Char.isDigit) := by
    cases written with
    | inl same =>
      subst same
      unfold hasLeadingZero
      split
      · cases bare
      · cases bare
      · rfl
    | inr signed => rw [signed, hasLeadingZero]
  rw [behind]
  by_cases zero : cs.head? = some '0'
  · rw [proper zero]
    rfl
  · simp [zero]

/-- A scalar is read as the number that its text writes. -/
theorem natural?_of_writes {text : String} (writes : Writes text n) :
    natural? text.toList = some n := by
  obtain ⟨cs, numeral, written⟩ := writes
  have bare := numeral.not_isSigned
  rw [natural?, unsigned_of_writes bare written]
  cases numeral with
  | decimal digits proper =>
    rw [based?_of_proper proper, hasLeadingZero_of_proper proper bare written]
    exact digits?_of_digits (by decide) digits
  | hexadecimal digits => rw [based?, digits?_of_digits (by decide) digits, Option.some_or]
  | octal digits => rw [based?, digits?_of_digits (by decide) digits, Option.some_or]
  | binary digits => rw [based?, digits?_of_digits (by decide) digits, Option.some_or]

/-- A number in octal behind its mark is written. -/
theorem writes_octal (n : Nat) : Writes (Text.octal n) n := by
  refine ⟨'0' :: 'o' :: Nat.toDigits 8 n, .octal (digits_toDigits (by decide) n), .inl ?_⟩
  simp [Text.octal, Text.octalDigits]

end SharedSegment.Yaml.Scalar
