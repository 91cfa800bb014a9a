import SharedSegment.Proofs.Text.Replacing

/-!
# Which bytes are a text

Reading strictly has an answer exactly for the bytes of texts, and the answer is the text
(`Utf8.decode_eq_some_iff`). What stands at the head of some bytes is read as a character only if it
is the form of that character (`Utf8.spells_of_step`), and a character has one form
(`Utf8.Spells.unique`).
-/

namespace SharedSegment.Text.Utf8

variable {v more : Nat} {first : UInt8} {rest bs bs' : List UInt8} {c : Char} {s : String}

/-- The form of a character is told by its number. -/
lemma Spells.unique (spelt : Spells v bs) (spelt' : Spells v bs') : bs = bs' := by
  have same {a b : UInt8} {x : Nat} (ea : a.toNat = x) (eb : b.toNat = x) : a = b :=
    UInt8.toNat_inj.1 (ea.trans eb.symm)
  cases spelt with
  | one low ea =>
    cases spelt' with
    | one _ ea' => rw [same ea ea']
    | two => omega
    | three => omega
    | four => omega
  | two low high ea eb =>
    cases spelt' with
    | one => omega
    | two _ _ ea' eb' => rw [same ea ea', same eb eb']
    | three => omega
    | four => omega
  | three low high proper ea eb ed =>
    cases spelt' with
    | one => omega
    | two => omega
    | three _ _ _ ea' eb' ed' => rw [same ea ea', same eb eb', same ed ed']
    | four => omega
  | four low high ea eb ed ee =>
    cases spelt' with
    | one => omega
    | two => omega
    | three => omega
    | four _ _ ea' eb' ed' ee' => rw [same ea ea', same eb eb', same ed ed', same ee ee']

/-- The number of a form is that of a character. -/
lemma Spells.toNat_ofNat (spelt : Spells v bs) : (Char.ofNat v).toNat = v := by
  have valid : v.isValidChar := by
    cases spelt with
    | one => exact .inl (by omega)
    | two => exact .inl (by omega)
    | three _ _ proper => exact proper.imp (fun low => low) fun high => ⟨high, by omega⟩
    | four => exact .inr ⟨by omega, by omega⟩
  rw [Char.ofNat, dif_pos valid]
  rfl

/-- A character is read only from its form. -/
theorem spells_of_step (reads : step first rest = .char c more) :
    Spells c.toNat (first :: rest.take more) ∧ more ≤ rest.length := by
  have form {v : Nat} {bs : List UInt8} (spelt : Spells v bs) : Spells (Char.ofNat v).toNat bs := by
    rwa [spelt.toNat_ofNat]
  unfold step at reads
  split at reads
  case isTrue narrow =>
    cases reads
    have low : first.toNat < 0x80 := UInt8.lt_iff_toNat_lt.1 narrow
    exact ⟨form (.one low rfl), Nat.zero_le _⟩
  case isFalse =>
    split at reads
    case isTrue range =>
      rw [within_iff] at range
      simp only [UInt8.reduceToNat] at range
      split at reads
      case h_2 => cases reads
      case h_1 b rest =>
        split at reads
        case isFalse => cases reads
        case isTrue continued =>
          cases reads
          rw [isContinuation_iff] at continued
          refine ⟨form (.two ?_ ?_ ?_ ?_), by simp⟩ <;> (simp only [low6]; omega)
    case isFalse =>
      split at reads
      case isTrue range =>
        rw [within_iff] at range
        simp only [UInt8.reduceToNat] at range
        split at reads
        case h_2 => cases reads
        case h_1 b rest =>
          split at reads
          case isFalse => cases reads
          case isTrue second =>
            rw [isSecond_iff] at second
            split at reads
            case h_2 => cases reads
            case h_1 d rest =>
              split at reads
              case isFalse => cases reads
              case isTrue continued =>
                cases reads
                rw [isContinuation_iff] at continued
                refine ⟨form (.three ?_ ?_ ?_ ?_ ?_ ?_), by simp⟩ <;> (simp only [low6]; omega)
      case isFalse =>
        split at reads
        case isFalse => cases reads
        case isTrue range =>
          rw [within_iff] at range
          simp only [UInt8.reduceToNat] at range
          split at reads
          case h_2 => cases reads
          case h_1 b rest =>
            split at reads
            case isFalse => cases reads
            case isTrue second =>
              rw [isSecond_iff] at second
              split at reads
              case h_2 => cases reads
              case h_1 d rest =>
                split at reads
                case isFalse => cases reads
                case isTrue third =>
                  rw [isContinuation_iff] at third
                  split at reads
                  case h_2 => cases reads
                  case h_1 e rest =>
                    split at reads
                    case isFalse => cases reads
                    case isTrue fourth =>
                      cases reads
                      rw [isContinuation_iff] at fourth
                      refine ⟨form (.four ?_ ?_ ?_ ?_ ?_ ?_), by simp⟩ <;>
                        (simp only [low6]; omega)

/-- The bytes of a text are read as the text. -/
lemma decodeChars_encode (cs : List Char) : decodeChars (encode cs) = some cs := by
  induction cs with
  | nil => rw [encode_nil, decodeChars]
  | cons c cs ih =>
    obtain ⟨first, more, spelt, whole, -⟩ := encodeChar_reads c
    rw [encode_cons, spelt, List.cons_append, decodeChars, whole]
    simp only [List.drop_left, ih, Option.map_some]

/-- Bytes that are read as a text are its bytes. -/
lemma encode_of_decodeChars {cs : List Char} (reads : decodeChars bs = some cs) :
    encode cs = bs := by
  induction bs using decodeChars.induct generalizing cs with
  | case1 =>
    rw [decodeChars] at reads
    cases reads
    rfl
  | case2 first rest c more here ih =>
    rw [decodeChars, here] at reads
    obtain ⟨cs, read, rfl⟩ := Option.map_eq_some_iff.1 reads
    have form := (spells_encodeChar c).unique (spells_of_step here).1
    rw [encode_cons, form, ih read, List.cons_append, List.take_append_drop]
  | case3 first rest more here =>
    rw [decodeChars, here] at reads
    cases reads

/-- Exactly the bytes of a text are read, and as that text. -/
theorem decode_eq_some_iff : decode bs = some s ↔ bs = bytes s := by
  rw [decode, Option.map_eq_some_iff]
  constructor
  · rintro ⟨cs, reads, rfl⟩
    rw [bytes, String.toList_ofList]
    exact (encode_of_decodeChars reads).symm
  · rintro rfl
    exact ⟨s.toList, decodeChars_encode _, String.ofList_toList⟩

@[simp] theorem decode_bytes (s : String) : decode (bytes s) = some s :=
  decode_eq_some_iff.2 rfl

end SharedSegment.Text.Utf8
