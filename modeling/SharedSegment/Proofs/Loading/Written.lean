import SharedSegment.Proofs.Loading.Drafts
import SharedSegment.Proofs.Loading.Parsing

/-!
# What was written is read

A mapping that was written on one line is read as a tree that differs from it in its places only
(`Document.ofText_write`). What a document tells does not depend on its places
(`Config.RootGives.of_bare`), so that the settings of a mapping, in whatever order and among
whatever else, are told by the text that is written for it (`Config.tells_write`).
-/

namespace SharedSegment

namespace Yaml

lemma isAllowed_of_isWordChar {c : Char} (word : isWordChar c) : isAllowed c := by
  have bounds : 0x20 ≤ c.toNat ∧ c.toNat ≤ 0x7E := by
    delta isWordChar Char.isAlphanum Char.isAlpha Char.isUpper Char.isLower Char.isDigit at word
    simp only [Bool.or_eq_true, Bool.and_eq_true, decide_eq_true_eq, beq_iff_eq, ge_iff_le,
      UInt32.le_iff_toNat_le] at word
    obtain (((⟨low, high⟩ | ⟨low, high⟩) | ⟨low, high⟩) | rfl) | rfl := word
    · exact ⟨le_trans (by decide) low, le_trans high (by decide)⟩
    · exact ⟨le_trans (by decide) low, le_trans high (by decide)⟩
    · exact ⟨le_trans (by decide) low, le_trans high (by decide)⟩
    · decide
    · decide
  simp [isAllowed, bounds]

lemma isAllowed_digitChar : ∀ d < 16, isAllowed d.digitChar := by
  decide

lemma isAllowed_hexDigits (k n : Nat) : ∀ x ∈ hexDigits k n, isAllowed x := by
  induction k generalizing n with
  | zero => exact nofun
  | succ k ih =>
    rw [hexDigits, List.forall_mem_append]
    refine ⟨ih _, fun x mem => ?_⟩
    rw [List.mem_singleton.1 mem]
    exact isAllowed_digitChar _ (Nat.mod_lt _ (by decide))

lemma isAllowed_escapeChar (c : Char) : ∀ x ∈ escapeChar c, isAllowed x := by
  by_cases word : isWordChar c
  · rw [escapeChar, if_pos word]
    intro x mem
    rw [List.mem_singleton.1 mem]
    exact isAllowed_of_isWordChar word
  · rw [escapeChar, if_neg word, List.forall_mem_cons, List.forall_mem_cons]
    exact ⟨rfl, rfl, isAllowed_hexDigits 8 c.toNat⟩

lemma isAllowed_quoted (cs : List Char) : ∀ x ∈ quoted cs, isAllowed x := by
  intro x mem
  simp only [quoted, List.mem_append, List.mem_cons, List.mem_flatMap, List.not_mem_nil, or_false]
    at mem
  obtain (rfl | ⟨c, -, mem⟩) | rfl := mem
  · rfl
  · exact isAllowed_escapeChar c x mem
  · rfl

lemma forbidden?_of_allowed {cs : List Char} (allowed : ∀ x ∈ cs, isAllowed x) (offset : Nat) :
    forbidden? offset cs = none := by
  induction cs generalizing offset with
  | nil => rfl
  | cons c cs ih =>
    obtain ⟨first, rest⟩ := List.forall_mem_cons.1 allowed
    rw [forbidden?, if_pos first, ih rest]

lemma Scalar.isAllowed_write (s : Scalar) (writable : s.isWritable) :
    ∀ x ∈ s.write, isAllowed x := by
  obtain ⟨text, style, tag⟩ := s
  simp only [isWritable, Bool.and_eq_true, Bool.or_eq_true, beq_iff_eq] at writable
  obtain ⟨-, rfl | ⟨⟨rfl, -⟩, plain⟩⟩ := writable
  · exact isAllowed_quoted text.toList
  · intro x mem
    have one := List.all_eq_true.1 plain x mem
    rw [isPlainChar, Bool.and_eq_true] at one
    exact one.2

namespace Node

mutual

lemma isAllowed_write (n : Node) (writable : n.isWritable) : ∀ x ∈ n.write, isAllowed x := by
  match n with
  | .alias .. => cases writable
  | .scalar m a s =>
    rw [isWritable, Bool.and_eq_true] at writable
    exact s.isAllowed_write writable.2
  | .sequence m a t items =>
    simp only [isWritable, Bool.and_eq_true] at writable
    have inner := isAllowed_writeItems items writable.2
    simp only [write, List.forall_mem_cons, List.forall_mem_append]
    exact ⟨rfl, inner, rfl, nofun⟩
  | .mapping m a t entries =>
    simp only [isWritable, Bool.and_eq_true] at writable
    have inner := isAllowed_writeEntries entries writable.2
    simp only [write, List.forall_mem_cons, List.forall_mem_append]
    exact ⟨rfl, inner, rfl, nofun⟩
  | .cut => cases writable

lemma isAllowed_writeItems (items : List Node) (writable : areWritable items) :
    ∀ x ∈ writeItems items, isAllowed x := by
  cases items with
  | nil => exact nofun
  | cons n r =>
    rw [areWritable, Bool.and_eq_true] at writable
    have first := isAllowed_write n writable.1
    have rest := isAllowed_writeItems r writable.2
    simp only [writeItems, List.forall_mem_cons, List.forall_mem_append]
    exact ⟨first, rfl, rfl, rest⟩

lemma isAllowed_writeEntries (entries : List (Node × Node))
    (writable : areWritableEntries entries) : ∀ x ∈ writeEntries entries, isAllowed x := by
  match entries with
  | [] => exact nofun
  | (k, v) :: r =>
    simp only [areWritableEntries, Bool.and_eq_true] at writable
    have key := isAllowed_write k writable.1.1
    have value := isAllowed_write v writable.1.2
    have rest := isAllowed_writeEntries r writable.2
    simp only [writeEntries, List.forall_mem_cons, List.forall_mem_append]
    exact ⟨rfl, rfl, key, rfl, rfl, value, rfl, rfl, rest⟩

end

mutual

/-- Each word takes a character at least. -/
lemma length_kinds_le (n : Node) (writable : n.isWritable) : n.kinds.length ≤ n.write.length := by
  match n with
  | .alias .. => cases writable
  | .scalar m a ⟨text, style, tag⟩ =>
    simp only [isWritable, Scalar.isWritable, Bool.and_eq_true, Bool.or_eq_true, beq_iff_eq]
      at writable
    obtain ⟨-, -, rfl | ⟨⟨rfl, some⟩, -⟩⟩ := writable
    · simp [kinds, write, Scalar.write, quoted]
    · simpa [kinds, write, Scalar.write, Nat.one_le_iff_ne_zero] using some
  | .sequence m a t items =>
    simp only [isWritable, Bool.and_eq_true] at writable
    have inner := length_itemKinds_le items writable.2
    simp only [kinds, write, List.length_cons, List.length_append, List.length_nil]
    omega
  | .mapping m a t entries =>
    simp only [isWritable, Bool.and_eq_true] at writable
    have inner := length_entryKinds_le entries writable.2
    simp only [kinds, write, List.length_cons, List.length_append, List.length_nil]
    omega
  | .cut => cases writable

lemma length_itemKinds_le (items : List Node) (writable : areWritable items) :
    (itemKinds items).length ≤ (writeItems items).length := by
  cases items with
  | nil => exact le_rfl
  | cons n r =>
    rw [areWritable, Bool.and_eq_true] at writable
    have first := length_kinds_le n writable.1
    have rest := length_itemKinds_le r writable.2
    simp only [itemKinds, writeItems, List.length_cons, List.length_append]
    omega

lemma length_entryKinds_le (entries : List (Node × Node)) (writable : areWritableEntries entries) :
    (entryKinds entries).length ≤ (writeEntries entries).length := by
  match entries with
  | [] => exact le_rfl
  | (k, v) :: r =>
    simp only [areWritableEntries, Bool.and_eq_true] at writable
    have key := length_kinds_le k writable.1.1
    have value := length_kinds_le v writable.1.2
    have rest := length_entryKinds_le r writable.2
    simp only [entryKinds, writeEntries, List.length_cons, List.length_append]
    omega

end

mutual

lemma isWhole_bare (n : Node) : n.bare.isWhole = n.isWhole := by
  match n with
  | .alias .. => rfl
  | .scalar .. => rfl
  | .sequence m a t items => rw [bare, isWhole, isWhole, areWhole_bareItems]
  | .mapping m a t entries => rw [bare, isWhole, isWhole, areWholeEntries_bareEntries]
  | .cut => rfl

lemma areWhole_bareItems (items : List Node) : areWhole (bareItems items) = areWhole items := by
  cases items with
  | nil => rfl
  | cons n r => rw [bareItems, areWhole, areWhole, isWhole_bare, areWhole_bareItems]

lemma areWholeEntries_bareEntries (entries : List (Node × Node)) :
    areWholeEntries (bareEntries entries) = areWholeEntries entries := by
  match entries with
  | [] => rfl
  | (k, v) :: r =>
    rw [bareEntries, areWholeEntries, areWholeEntries, isWhole_bare, isWhole_bare,
      areWholeEntries_bareEntries]

end

mutual

lemma isWhole_of_isWritable (n : Node) (writable : n.isWritable) : n.isWhole := by
  match n with
  | .alias .. => rfl
  | .scalar .. => rfl
  | .sequence m a t items =>
    simp only [isWritable, Bool.and_eq_true] at writable
    exact areWhole_of_areWritable items writable.2
  | .mapping m a t entries =>
    simp only [isWritable, Bool.and_eq_true] at writable
    exact areWholeEntries_of_areWritableEntries entries writable.2
  | .cut => cases writable

lemma areWhole_of_areWritable (items : List Node) (writable : areWritable items) :
    areWhole items := by
  cases items with
  | nil => rfl
  | cons n r =>
    rw [areWritable, Bool.and_eq_true] at writable
    rw [areWhole, isWhole_of_isWritable n writable.1, areWhole_of_areWritable r writable.2]
    rfl

lemma areWholeEntries_of_areWritableEntries (entries : List (Node × Node))
    (writable : areWritableEntries entries) : areWholeEntries entries := by
  match entries with
  | [] => rfl
  | (k, v) :: r =>
    simp only [areWritableEntries, Bool.and_eq_true] at writable
    rw [areWholeEntries, isWhole_of_isWritable k writable.1.1, isWhole_of_isWritable v writable.1.2,
      areWholeEntries_of_areWritableEntries r writable.2]
    rfl

end

lemma isEmpty_events (n : Node) (whole : n.isWhole) : n.events.isEmpty = false := by
  cases n with
  | cut => cases whole
  | _ => rfl

lemma eq_scalar_of_bare {n : Node} {a : Option Nat} {s : Scalar}
    (same : n.bare = .scalar .zero a s) :
    ∃ m, n = .scalar m a s := by
  cases n with
  | scalar m a' s' =>
    cases same
    exact ⟨m, rfl⟩
  | _ => cases same

lemma eq_mapping_of_bare {n : Node} {a : Option Nat} {t : Option Tag} {es : List (Node × Node)}
    (same : n.bare = .mapping .zero a t es) :
    ∃ m es', n = .mapping m a t es' ∧ bareEntries es' = es := by
  cases n with
  | mapping m a' t' es' =>
    rw [bare, mapping.injEq] at same
    obtain ⟨-, rfl, rfl, alike⟩ := same
    exact ⟨m, es', rfl, alike⟩
  | _ => cases same

lemma eq_nil_of_bareEntries {es : List (Node × Node)} (same : bareEntries es = []) : es = [] := by
  match es with
  | [] => rfl
  | (k, v) :: r => cases same

lemma eq_cons_of_bareEntries {es r : List (Node × Node)} {k v : Node}
    (same : bareEntries es = bareEntries ((k, v) :: r)) :
    ∃ k' v' r', es = (k', v') :: r' ∧ k'.bare = k.bare ∧ v'.bare = v.bare ∧
      bareEntries r' = bareEntries r := by
  match es with
  | [] => cases same
  | (k', v') :: r' =>
    rw [bareEntries, bareEntries, List.cons.injEq, Prod.mk.injEq] at same
    exact ⟨k', v', r', rfl, same.1.1, same.1.2, same.2⟩

end Node

namespace Document

lemma ofText_of_allowed {cs : List Char} (allowed : ∀ x ∈ cs, isAllowed x)
    (unmarked : cs.head? ≠ some '\uFEFF') : ofText (String.ofList cs) = ofChars cs := by
  rw [ofText, String.toList_ofList]
  split
  case h_1 lead cs' here =>
    split at here
    case h_1 => exact absurd rfl unmarked
    case h_2 =>
      cases here
      rw [forbidden?_of_allowed allowed]

/-- A text that falls into the words of a tree is read as a tree that differs from it in its places
only. -/
lemma ofChars_of_lexesTo (n : Node) (writable : n.isWritable) {r : List Char}
    (begins : n.write = '{' :: r)
    (words : LexesTo ⟨[.sequence], true, '{' :: r⟩ n.kinds ⟨[.sequence], false, []⟩) :
    ∃ n' : Node, n'.bare = n.bare ∧ ofChars n.write = ⟨some n', none, false⟩ := by
  have enough : n.kinds.length ≤ 10 * (n.write.length + 10) := by
    have length := Node.length_kinds_le n writable
    omega
  rw [begins] at enough ⊢
  have reads : Grammar.Reads ⟨.ofCursor ⟨'{' :: r, .zero⟩, Grammar.standardHandles, [], []⟩
      (n.kinds ++ [.streamEnd]) [] := ⟨TokenStream.delivers_of_lexesTo words, rfl⟩
  obtain ⟨_, last, run, n', same, reads⟩ := Grammar.does_document n writable _ enough reads
  have whole : n'.isWhole := by
    rw [← Node.isWhole_bare, same, Node.isWhole_bare]
    exact Node.isWhole_of_isWritable n writable
  have some : last.events.isEmpty = false := by
    rw [reads.events, List.isEmpty_reverse]
    exact n'.isEmpty_events whole
  refine ⟨n', same, ?_⟩
  -- The equation of `ofChars` is slow to derive, as it has the whole grammar in it.
  delta ofChars
  simp only [run, some, Bool.false_eq_true, if_false]
  rw [reads.events, List.reverse_reverse, Node.ofEvents_events n' whole,
    Grammar.isFollowed_of_delivers reads.tokens]

/-- What is written for a mapping is read as a tree that differs from it in its places only. -/
theorem ofText_write (m : Mark) (a : Option Nat) (t : Option Tag) (entries : List (Node × Node))
    (writable : (Node.mapping m a t entries).isWritable) :
    ∃ n : Node, n.bare = (Node.mapping m a t entries).bare ∧
      ofText (String.ofList (Node.mapping m a t entries).write) = ⟨some n, none, false⟩ := by
  have inner : Node.areWritableEntries entries := by
    rw [Node.isWritable, Bool.and_eq_true] at writable
    exact writable.2
  rw [ofText_of_allowed (Node.isAllowed_write _ writable) (by simp [Node.write])]
  exact ofChars_of_lexesTo _ writable rfl (lexesTo_write_mapping m a t entries inner)

end Document

end Yaml

namespace Config
open Yaml Reading

variable {d d' : Document} {n n' k k' v v' : Node} {s : Scalar} {es es' : List (Node × Node)}
  {g : Draft} {name : String}

lemma target_of_isWritable (writable : n.isWritable) (d : Document) : target d n = n := by
  cases n with
  | scalar | sequence | mapping | cut => rfl
  | _ => cases writable

lemma isScalar_of_bare (writable : n.isWritable) (same : n'.bare = n.bare)
    (scalar : IsScalar d n s) : IsScalar d' n' s := by
  obtain ⟨m, a, here⟩ := scalar
  rw [target_of_isWritable writable] at here
  subst here
  obtain ⟨m', rfl⟩ := Node.eq_scalar_of_bare same
  exact ⟨m', a, rfl⟩

lemma isKey_of_bare (writable : k.isWritable) (same : k'.bare = k.bare) (key : IsKey d k name) :
    IsKey d' k' name := by
  obtain ⟨s, scalar, text⟩ := key
  exact ⟨s, isScalar_of_bare writable same scalar, text⟩

lemma isWhole_of_bare (same : v'.bare = v.bare) (whole : v.isWhole) : v'.isWhole := by
  rwa [← Node.isWhole_bare, same, Node.isWhole_bare]

lemma Sets.of_bare {x : Draft} (sets : Sets d (k, v) x) (writable : k.isWritable)
    (writable' : v.isWritable) (same : k'.bare = k.bare) (same' : v'.bare = v.bare) :
    Sets d' (k', v') x := by
  cases sets with
  | flavor key scalar label =>
    exact .flavor (isKey_of_bare writable same key) (isScalar_of_bare writable' same' scalar) label
  | lockPages key scalar truth =>
    exact .lockPages (isKey_of_bare writable same key) (isScalar_of_bare writable' same' scalar)
      truth
  | mode key scalar text =>
    exact .mode (isKey_of_bare writable same key) (isScalar_of_bare writable' same' scalar) text

lemma Gives.of_bare (gives : Gives d es g) (writable : Node.areWritableEntries es)
    (same : Node.bareEntries es' = Node.bareEntries es) : Gives d' es' g := by
  induction gives generalizing es' with
  | nil =>
    rw [Node.eq_nil_of_bareEntries same]
    exact .nil
  | @known e r x g sets rest once ih =>
    obtain ⟨k, v⟩ := e
    obtain ⟨k', v', r', rfl, alike, alike', rest'⟩ := Node.eq_cons_of_bareEntries same
    simp only [Node.areWritableEntries, Bool.and_eq_true] at writable
    exact .known (sets.of_bare writable.1.1 writable.1.2 alike alike') (ih writable.2 rest') once
  | other key whole unknown rest ih =>
    obtain ⟨k', v', r', rfl, alike, alike', rest'⟩ := Node.eq_cons_of_bareEntries same
    simp only [Node.areWritableEntries, Bool.and_eq_true] at writable
    exact .other (isKey_of_bare writable.1.1 alike key) (isWhole_of_bare alike' whole) unknown
      (ih writable.2 rest')

lemma SegmentGives.of_bare (gives : SegmentGives d v g) (writable : v.isWritable)
    (same : v'.bare = v.bare) : SegmentGives d' v' g := by
  cases gives with
  | mapping here gives =>
    rw [target_of_isWritable writable] at here
    subst here
    simp only [Node.isWritable, Bool.and_eq_true] at writable
    obtain ⟨m', es', rfl, alike⟩ := Node.eq_mapping_of_bare same
    exact .mapping rfl (gives.of_bare writable.2 alike)
  | nothing scalar empty plain => exact .nothing (isScalar_of_bare writable same scalar) empty plain

lemma RootGives.of_bare {og : Option Draft} (gives : RootGives d es og)
    (writable : Node.areWritableEntries es) (same : Node.bareEntries es' = Node.bareEntries es) :
    RootGives d' es' og := by
  induction gives generalizing es' with
  | nil =>
    rw [Node.eq_nil_of_bareEntries same]
    exact .nil
  | segment key gives rest ih =>
    obtain ⟨k', v', r', rfl, alike, alike', rest'⟩ := Node.eq_cons_of_bareEntries same
    simp only [Node.areWritableEntries, Bool.and_eq_true] at writable
    exact .segment (isKey_of_bare writable.1.1 alike key) (gives.of_bare writable.1.2 alike')
      (ih writable.2 rest')
  | other key whole unknown rest ih =>
    obtain ⟨k', v', r', rfl, alike, alike', rest'⟩ := Node.eq_cons_of_bareEntries same
    simp only [Node.areWritableEntries, Bool.and_eq_true] at writable
    exact .other (isKey_of_bare writable.1.1 alike key) (isWhole_of_bare alike' whole) unknown
      (ih writable.2 rest')

/-- What is written for a mapping tells what the mapping tells. -/
theorem tells_write (writable : n.isWritable) (tells : Tells ⟨some n, none, false⟩ g) :
    Tells (.ofText (String.ofList n.write)) g := by
  obtain ⟨-, -, m, a, t, es, og, root, gives, config⟩ := tells
  cases root
  obtain ⟨n', same, read⟩ := Document.ofText_write m a t es writable
  obtain ⟨m', es', rfl, alike⟩ := Node.eq_mapping_of_bare same
  rw [Node.isWritable, Bool.and_eq_true] at writable
  rw [read]
  exact ⟨rfl, rfl, m', a, t, es', og, rfl, gives.of_bare writable.2 alike, config⟩

/-- What is written for a mapping is not blank. -/
theorem isBlank_write (tells : Tells ⟨some n, none, false⟩ g) :
    Text.isBlank (String.ofList n.write) = false := by
  obtain ⟨-, -, m, a, t, es, og, root, -⟩ := tells
  cases root
  rw [Text.isBlank, String.toList_ofList, Node.write, List.all_cons]
  rfl

end Config
end SharedSegment
