import SharedSegment.Name
import SharedSegment.Proofs.Text.Boundaries

/-!
# How names are spelled

The name that a raw text stands for is a normal form of it (`Name.IsFormOf`): one separator and what
stands behind those of the text, cut on a boundary of characters where that is too long. It stands
for itself, the separators in front of a raw text do not count, and two raw texts stand for one name
exactly if they are cut to one text (`names_are_normal_forms`). What is appended to a name is kept
whole at the cost of the name (`suffixed_names_fit`).
-/

namespace SharedSegment
open Text

namespace Name

/-- A raw text with one separator in front, before it is cut. -/
def full (raw : String) : List Char :=
  separator :: bare raw.toList

/-- A name is the normal form of a raw text. -/
structure IsFormOf (n : Name) (raw : String) : Prop where
  cut : IsCut 254 (full raw) n.text.toList
  /-- The bytes of the name are found by looking for a boundary from the limit downward. -/
  bytes : Utf8.truncated? (Utf8.encode (full raw)) 254 = some (Utf8.bytes n.text)
  begins : ∃ c cs, n.text.toList = separator :: c :: cs ∧ c ≠ separator
  fits : n.text.utf8ByteSize ≤ 254
  filled : n.text.toList ≠ full raw → 251 ≤ n.text.utf8ByteSize
  again : ofRaw n.text = .ok n

variable {raw : String} {n : Name}

/-- A raw text is no name if nothing stands behind its separators, or a NUL anywhere behind them. -/
lemma ofRaw_eq_error_iff :
    (∃ f, ofRaw raw = .error f) ↔ bare raw.toList = [] ∨ '\x00' ∈ bare raw.toList := by
  unfold ofRaw
  split
  case isTrue empty => exact iff_of_true ⟨_, rfl⟩ (.inl empty)
  case isFalse some =>
    split
    case isTrue nul => exact iff_of_true ⟨_, rfl⟩ (.inr nul)
    case isFalse clean => exact iff_of_false nofun (not_or.2 ⟨some, clean⟩)

/-- What does not fit into a name is cut off. -/
lemma stem_of_ofRaw (named : ofRaw raw = .ok n) :
    n.stem = Text.takeBytes 253 (bare raw.toList) := by
  unfold ofRaw at named
  split at named
  case isTrue => cases named
  case isFalse =>
    split at named
    case isTrue => cases named
    case isFalse =>
      cases named
      rfl

lemma eq_of_stem {n' : Name} (same : n.stem = n'.stem) : n = n' := by
  cases n
  cases n'
  cases same
  rfl

@[simp] lemma toList_text (n : Name) : n.text.toList = separator :: n.stem :=
  String.toList_ofList

/-- A separator takes one byte of the limit. -/
lemma takeBytes_full (raw : String) :
    takeBytes 254 (full raw) = separator :: takeBytes 253 (bare raw.toList) := rfl

lemma chars_of_ofRaw (named : ofRaw raw = .ok n) : n.text.toList = takeBytes 254 (full raw) := by
  rw [toList_text, stem_of_ofRaw named, takeBytes_full]

/-- A raw text is a name exactly if something other than NULs stands behind its separators. -/
lemma ofRaw_eq_ok_iff :
    (∃ n, ofRaw raw = .ok n) ↔ bare raw.toList ≠ [] ∧ '\x00' ∉ bare raw.toList := by
  rw [← not_or, ← ofRaw_eq_error_iff]
  cases ofRaw raw with
  | ok n => simp
  | error f => simp

/-- What stands behind the separators alone decides. -/
lemma ofRaw_congr {raw' : String} (same : bare raw.toList = bare raw'.toList) :
    ofRaw raw = ofRaw raw' := by
  unfold ofRaw
  simp only [same]

lemma bare_replicate_append (k : Nat) (cs : List Char) :
    bare (List.replicate k separator ++ cs) = bare cs := by
  induction k with
  | zero => rfl
  | succ k ih =>
    rw [List.replicate_succ, List.cons_append, bare, List.dropWhile_cons_of_pos (by simp)]
    exact ih

lemma bare_of_head {cs : List Char} (begins : cs.head? ≠ some separator) : bare cs = cs := by
  cases cs with
  | nil => rfl
  | cons c cs =>
    have other : c ≠ separator := fun same => begins (congrArg some same)
    exact List.dropWhile_cons_of_neg (by simpa using other)

/-- The text of a name has the stem behind its separator. -/
lemma bare_text (n : Name) : bare n.text.toList = n.stem := by
  rw [toList_text]
  exact (bare_replicate_append 1 n.stem).trans (bare_of_head n.isStem.head_ne)

/-- The text of a name stands for the name. -/
lemma ofRaw_text (n : Name) : ofRaw n.text = .ok n := by
  have named : ∃ n', ofRaw n.text = .ok n' := by
    rw [ofRaw_eq_ok_iff, bare_text]
    exact ⟨n.isStem.ne_nil, n.isStem.nul_not_mem⟩
  obtain ⟨n', named⟩ := named
  have fits : Text.byteLength n.stem ≤ 253 := Nat.le_of_succ_le_succ n.isStem.byteLength_le
  have same : n'.stem = n.stem := by
    rw [stem_of_ofRaw named, bare_text, takeBytes_of_le fits]
  rw [named, eq_of_stem same]

/-- The name that a raw text stands for is a normal form of it. -/
lemma isFormOf_of_ofRaw (named : ofRaw raw = .ok n) : n.IsFormOf raw where
  cut := isCut_iff.2 (chars_of_ofRaw named)
  bytes := by rw [Utf8.truncated?_encode, ← chars_of_ofRaw named, Utf8.bytes]
  begins := by
    rw [toList_text]
    cases stem : n.stem with
    | nil => exact absurd stem n.isStem.ne_nil
    | cons c cs => exact ⟨c, cs, rfl, fun same => n.isStem.head_ne (by rw [stem, same]; rfl)⟩
  fits := by
    rw [← byteLength_eq_utf8ByteSize, chars_of_ofRaw named]
    exact byteLength_takeBytes_le 254 (full raw)
  filled := by
    intro shorter
    rw [chars_of_ofRaw named] at shorter
    have exceeds : 254 < Text.byteLength (full raw) :=
      Nat.lt_of_not_le fun fits => shorter (takeBytes_of_le fits)
    have filled := lt_byteLength_takeBytes_add exceeds
    rw [← byteLength_eq_utf8ByteSize, chars_of_ofRaw named]
    omega
  again := ofRaw_text n

/-- Two raw texts stand for one name exactly if both are names and are cut to one text. -/
lemma ofRaw_eq_iff {raw' : String} :
    (∃ n, ofRaw raw = .ok n ∧ ofRaw raw' = .ok n) ↔
      (∃ n, ofRaw raw = .ok n) ∧ (∃ n, ofRaw raw' = .ok n) ∧
        ∃ p, IsCut 254 (full raw) p ∧ IsCut 254 (full raw') p := by
  constructor
  · rintro ⟨n, named, named'⟩
    exact ⟨⟨n, named⟩, ⟨n, named'⟩, n.text.toList, (isFormOf_of_ofRaw named).cut,
      (isFormOf_of_ofRaw named').cut⟩
  · rintro ⟨⟨n, named⟩, ⟨n', named'⟩, p, cut, cut'⟩
    have texts : n.text.toList = n'.text.toList := by
      rw [chars_of_ofRaw named, chars_of_ofRaw named', ← isCut_iff.1 cut, ← isCut_iff.1 cut']
    rw [toList_text, toList_text] at texts
    obtain rfl := eq_of_stem (List.cons.inj texts).2
    exact ⟨n, named, named'⟩

end Name

open Name

/-- A raw text is no name if and only if nothing stands behind its separators, or a NUL does, be it
where the name would be cut off. Otherwise it stands for a normal form of itself. Separators in
front change nothing, and two raw texts stand for one name if and only if they are cut to one text.
The search for the boundary at which a text is cut never goes below the beginning. -/
theorem names_are_normal_forms (raw : String) :
    ((∃ f, ofRaw raw = .error f) ↔ bare raw.toList = [] ∨ '\x00' ∈ bare raw.toList) ∧
    (∀ n, ofRaw raw = .ok n → n.IsFormOf raw) ∧
    (∀ k, ofRaw (String.ofList (List.replicate k separator ++ raw.toList)) = ofRaw raw) ∧
    (∀ raw', (∃ n, ofRaw raw = .ok n ∧ ofRaw raw' = .ok n) ↔
      (∃ n, ofRaw raw = .ok n) ∧ (∃ n, ofRaw raw' = .ok n) ∧
        ∃ p, IsCut 254 (full raw) p ∧ IsCut 254 (full raw') p) ∧
    ∀ limit, ∃ cut ≤ limit,
      Utf8.lastBoundary? (Utf8.encode (full raw)) limit = some cut := by
  refine ⟨ofRaw_eq_error_iff, fun n => isFormOf_of_ofRaw, ?_, fun _ => ofRaw_eq_iff, ?_⟩
  · intro k
    refine ofRaw_congr ?_
    rw [String.toList_ofList, bare_replicate_append]
  · intro limit
    exact ⟨_, byteLength_takeBytes_le limit (full raw), Utf8.lastBoundary?_encode (full raw) limit⟩

/-- A text of faces behind two separators is cut inside the sixty-fourth. -/
theorem names_are_normal_forms_of_faces :
    ∃ n, ofRaw (String.ofList ('/' :: '/' :: List.replicate 100 '😀')) = .ok n ∧
      n.IsFormOf (String.ofList ('/' :: '/' :: List.replicate 100 '😀')) ∧
      n.text.utf8ByteSize = 253 := by
  obtain ⟨n, named⟩ :
      ∃ n, ofRaw (String.ofList ('/' :: '/' :: List.replicate 100 '😀')) = .ok n := by
    rw [ofRaw_eq_ok_iff, String.toList_ofList]
    decide +kernel
  refine ⟨n, named, (names_are_normal_forms _).2.1 n named, ?_⟩
  rw [← byteLength_eq_utf8ByteSize, chars_of_ofRaw named, full, String.toList_ofList]
  decide +kernel

namespace Name

/-- What a name is cut to in front of a suffix. -/
def part (n : Name) (suffix : String) : List Char :=
  takeBytes (254 - suffix.utf8ByteSize) n.text.toList

lemma toList_withSuffix (n : Name) (suffix : String) :
    (n.withSuffix suffix).toList = n.part suffix ++ suffix.toList := by
  rw [withSuffix, String.toList_ofList, part, toList_text, ← byteLength_eq_utf8ByteSize]
  rfl

/-- The separator is the last that a suffix can take away. -/
lemma part_ne_nil_iff (n : Name) (suffix : String) :
    n.part suffix ≠ [] ↔ suffix.utf8ByteSize ≤ 253 := by
  have one : separator.utf8Size = 1 := by decide
  rw [part, toList_text, takeBytes, one]
  split
  case isTrue room => exact iff_of_true (List.cons_ne_nil _ _) (by omega)
  case isFalse none => exact iff_of_false (fun ne => ne rfl) (by omega)

lemma head?_part {n : Name} {suffix : String} (ne : n.part suffix ≠ []) :
    (n.part suffix).head? = some separator := by
  obtain ⟨rest, whole⟩ := (isCut_takeBytes (254 - suffix.utf8ByteSize) n.text.toList).initial
  rw [← part, toList_text] at whole
  cases cut : n.part suffix with
  | nil => exact absurd cut ne
  | cons c cs =>
    rw [cut] at whole
    rw [(List.cons.inj whole).1]
    rfl

/-- Where the whole fits, nothing is cut off. -/
lemma withSuffix_of_le {n : Name} {suffix : String}
    (fits : n.text.utf8ByteSize + suffix.utf8ByteSize ≤ 254) :
    n.withSuffix suffix = n.text ++ suffix := by
  have uncut : n.part suffix = n.text.toList :=
    takeBytes_of_le (by rw [byteLength_eq_utf8ByteSize]; omega)
  rw [← String.toList_inj, toList_withSuffix, uncut, String.toList_append]

lemma utf8ByteSize_withSuffix (n : Name) (suffix : String) :
    (n.withSuffix suffix).utf8ByteSize =
      Text.byteLength (n.part suffix) + suffix.utf8ByteSize := by
  rw [← byteLength_eq_utf8ByteSize, toList_withSuffix, Text.byteLength_append,
    byteLength_eq_utf8ByteSize]

end Name

/-- What is appended to a name stands behind the longest part of the name that leaves it room, cut
on a boundary of characters. Up to the longest name the whole fits, and only a suffix of that length
or more leaves nothing of the name. -/
theorem suffixed_names_fit (n : Name) (suffix : String) :
    ∃ p, (n.withSuffix suffix).toList = p ++ suffix.toList ∧
      Utf8.truncated? (Utf8.bytes n.text) (254 - suffix.utf8ByteSize) = some (Utf8.encode p) ∧
      (suffix.utf8ByteSize ≤ 254 →
        IsCut (254 - suffix.utf8ByteSize) n.text.toList p ∧
          (n.withSuffix suffix).utf8ByteSize ≤ 254) ∧
      (254 < suffix.utf8ByteSize → p = []) ∧
      (n.text.utf8ByteSize + suffix.utf8ByteSize ≤ 254 → n.withSuffix suffix = n.text ++ suffix) ∧
      n.withSuffix "" = n.text ∧
      (p ≠ [] ↔ suffix.utf8ByteSize ≤ 253) ∧
      (p ≠ [] → p.head? = some separator) := by
  have fits := byteLength_takeBytes_le (254 - suffix.utf8ByteSize) n.text.toList
  refine ⟨n.part suffix, n.toList_withSuffix suffix, Utf8.truncated?_encode _ _, ?_, ?_,
    withSuffix_of_le, ?_, n.part_ne_nil_iff suffix, head?_part⟩
  · intro short
    refine ⟨isCut_takeBytes _ _, ?_⟩
    rw [utf8ByteSize_withSuffix]
    unfold part
    omega
  · intro long
    have none : ¬ n.part suffix ≠ [] := by
      rw [part_ne_nil_iff]
      omega
    exact Decidable.not_not.1 none
  · have room : n.text.utf8ByteSize + "".utf8ByteSize ≤ 254 :=
      (isFormOf_of_ofRaw (ofRaw_text n)).fits
    rw [withSuffix_of_le room, String.append_empty]

/-- A suffix that is put behind a name of accents is kept whole, at the cost of a byte more. -/
theorem suffixed_names_fit_accents :
    ∃ n p, ofRaw (String.ofList (List.replicate 200 'é')) = .ok n ∧
      (n.withSuffix "_mutex").toList = p ++ "_mutex".toList ∧ IsCut 248 n.text.toList p ∧
      p.head? = some separator ∧ (n.withSuffix "_mutex").utf8ByteSize = 253 := by
  obtain ⟨n, named⟩ : ∃ n, ofRaw (String.ofList (List.replicate 200 'é')) = .ok n := by
    rw [ofRaw_eq_ok_iff, String.toList_ofList]
    decide +kernel
  obtain ⟨p, whole, -, fits, -, -, -, left, begins⟩ := suffixed_names_fit n "_mutex"
  obtain ⟨cut, -⟩ := fits (by decide +kernel)
  refine ⟨n, p, named, whole, cut, begins (left.2 (by decide +kernel)), ?_⟩
  rw [← byteLength_eq_utf8ByteSize, whole, isCut_iff.1 cut, chars_of_ofRaw named, full,
    String.toList_ofList]
  decide +kernel

end SharedSegment
