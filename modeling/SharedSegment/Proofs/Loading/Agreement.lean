import SharedSegment.Proofs.Loading.Written

/-!
# Loading agrees with validation

A document that gives some of the settings, in whatever order and among whatever else, is loaded
exactly when the settings that it gives, with the standard ones for the others, are valid, and is
refused with the very fault of these settings otherwise (`Config.load_agrees_with_validate`). There
are such documents for all settings and all orders: those that are written for the mappings. A fault
of a mode names it in octal, and what it names is read again as the same mode.
-/

namespace SharedSegment
namespace Config
open Yaml Reading

/-- An entry at the root that is passed over. -/
def IsOther (d : Document) (e : Node × Node) : Prop :=
  ∃ name, IsKey d e.1 name ∧ e.2.isWhole ∧ name ≠ "segment"

/-- A value holds no settings at all: it is an empty mapping, or nothing. -/
def IsEmpty (d : Document) (v : Node) : Prop :=
  (∃ m a t, target d v = .mapping m a t []) ∨
    ∃ s, IsScalar d v s ∧ s.text = "" ∧ s.style = .plain

/-- A document is a mapping without a segment, or with an empty one, and nothing follows it. -/
structure TellsNothing (d : Document) : Prop where
  unbroken : d.failure = none
  alone : d.isFollowed = false
  root : ∃ m a t es, d.root = some (.mapping m a t es) ∧
    ((∀ e ∈ es, IsOther d e) ∨
      ∃ before k v after, es = before ++ (k, v) :: after ∧ (∀ e ∈ before, IsOther d e) ∧
        IsKey d k "segment" ∧ IsEmpty d v ∧ ∀ e ∈ after, IsOther d e)

variable {d : Document} {es before : List (Node × Node)} {v : Node} {g : Draft} {text : String}

lemma rootGives_append {og : Option Draft} (others : ∀ e ∈ before, IsOther d e)
    (gives : RootGives d es og) : RootGives d (before ++ es) og := by
  induction before with
  | nil => exact gives
  | cons e r ih =>
    obtain ⟨first, rest⟩ := List.forall_mem_cons.1 others
    obtain ⟨name, key, whole, unknown⟩ := first
    exact .other key whole unknown (ih rest)

lemma rootGives_none (others : ∀ e ∈ es, IsOther d e) : RootGives d es none := by
  have gives := rootGives_append others (RootGives.nil (d := d))
  rwa [List.append_nil] at gives

lemma segmentGives_of_isEmpty (empty : IsEmpty d v) : SegmentGives d v .empty := by
  obtain ⟨m, a, t, here⟩ | ⟨s, scalar, none, plain⟩ := empty
  · exact .mapping here .nil
  · exact .nothing scalar none plain

lemma tells_of_tellsNothing (nothing : TellsNothing d) : Tells d .empty := by
  obtain ⟨unbroken, alone, m, a, t, es, root, others | segment⟩ := nothing
  · exact ⟨unbroken, alone, m, a, t, es, none, root, rootGives_none others, rfl⟩
  · obtain ⟨before, k, v, after, rfl, front, key, empty, back⟩ := segment
    have gives := rootGives_append front
      (.segment key (segmentGives_of_isEmpty empty) (rootGives_none back))
    exact ⟨unbroken, alone, m, a, t, _, some .empty, root, gives, rfl⟩

lemma validated_eq_ok_iff {c c' : Config} :
    validated c = .ok c' ↔ c' = c ∧ c.validate = .ok () := by
  rw [validated]
  cases valid : c.validate with
  | ok _ => simp [eq_comm]
  | error f => simp

lemma validated_eq_error_iff {c : Config} {e : LoadError} :
    validated c = .error e ↔ ∃ f, c.validate = .error f ∧ e = .invalid f := by
  rw [validated]
  cases valid : c.validate with
  | ok _ => simp
  | error f => simp [eq_comm]

/-- A plain word as a node. -/
def word (text : String) : Node :=
  .scalar .zero none ⟨text, .plain, none⟩

/-- A document that has a segment with some settings, and nothing else. -/
def segmentOf (settings : List (String × String)) : Node :=
  .mapping .zero none none [(word "segment",
    .mapping .zero none none (settings.map fun e => (word e.1, word e.2)))]

lemma isPlainChar_digitChar :
    ∀ d < 16, isPlainChar d.digitChar ∧ isPlainChar d.digitChar.toUpper := by
  decide

lemma isPlainChar_of_isDigit {base d : Nat} {c : Char} (le : base ≤ 16)
    (digit : Scalar.IsDigit base c d) : isPlainChar c := by
  obtain ⟨lt, rfl | rfl⟩ := digit
  · exact (isPlainChar_digitChar d (by omega)).1
  · exact (isPlainChar_digitChar d (by omega)).2

lemma isPlainChar_of_digits {base n : Nat} {cs : List Char} (le : base ≤ 16)
    (digits : Scalar.Digits base cs n) : cs.all isPlainChar := by
  induction digits with
  | single digit => simp [isPlainChar_of_isDigit le digit]
  | snoc digits digit ih => simp [ih, isPlainChar_of_isDigit le digit]

lemma isPlainChar_of_numeral {n : Nat} {cs : List Char} (numeral : Scalar.Numeral cs n) :
    cs.all isPlainChar := by
  cases numeral with
  | decimal digits => exact isPlainChar_of_digits (by decide) digits
  | hexadecimal digits =>
    rw [List.all_cons, List.all_cons, isPlainChar_of_digits (by decide) digits]
    rfl
  | octal digits =>
    rw [List.all_cons, List.all_cons, isPlainChar_of_digits (by decide) digits]
    rfl
  | binary digits =>
    rw [List.all_cons, List.all_cons, isPlainChar_of_digits (by decide) digits]
    rfl

/-- Numbers are plain words, in each of their notations. -/
lemma isWritable_of_writes {n : Nat} (writes : Scalar.Writes text n) : (word text).isWritable := by
  obtain ⟨cs, numeral, written⟩ := writes
  have plain := isPlainChar_of_numeral numeral
  have some : cs.isEmpty = false := by
    cases numeral with
    | decimal digits => simpa using digits.ne_nil
    | _ => rfl
  obtain same | same := written
  · simp [word, Node.isWritable, Scalar.isWritable, same, some, plain]
  · have sign : isPlainChar '+' = true := rfl
    simp [word, Node.isWritable, Scalar.isWritable, same, sign, plain]

lemma isKey_word (d : Document) (name : String) : IsKey d (word name) name :=
  ⟨_, ⟨_, _, rfl⟩, rfl⟩

lemma tells_segmentOf_mode {m : UInt32} (writes : Scalar.Writes text m.toNat) :
    Tells ⟨some (segmentOf [("mode", text)]), none, false⟩ { Draft.empty with mode := some m } := by
  have sets : Sets ⟨some (segmentOf [("mode", text)]), none, false⟩ (word "mode", word text)
      { Draft.empty with mode := some m } :=
    .mode (isKey_word _ _) ⟨_, _, rfl⟩ ⟨rfl, writes⟩
  have gives := Gives.known sets .nil (Draft.apart_empty _).symm
  exact ⟨rfl, rfl, _, _, _, _, _, rfl, .segment (isKey_word _ _) (.mapping rfl gives) .nil, rfl⟩

lemma isWritable_segmentOf_mode (writable : (word text).isWritable) :
    (segmentOf [("mode", text)]).isWritable := by
  have names : (word "segment").isWritable ∧ (word "mode").isWritable := by decide
  simp [segmentOf, Node.isWritable, Node.areWritableEntries, names, writable]

/-- A fault is about the mode, and depends on nothing else. -/
lemma validate_eq_error {c : Config} {f : FieldFault} (fault : c.validate = .error f) :
    f.field = "mode" ∧ f.value = Text.octal c.mode.toNat ∧
      ∀ c' : Config, c'.mode = c.mode → c'.validate = .error f := by
  have alike : ∀ c' : Config, c'.mode = c.mode → c'.validate = .error f := by
    intro c' same
    rw [validate, same]
    exact fault
  rw [validate] at fault
  split at fault
  · cases fault
    exact ⟨rfl, rfl, alike⟩
  · split at fault
    · cases fault
      exact ⟨rfl, rfl, alike⟩
    · cases fault

/-- A document that gives some settings is loaded with these, and the standard ones for the others,
exactly when they are valid, and fails with the very fault of theirs otherwise. What is written for
a mapping gives what the mapping gives, so that there are such texts for all settings, orders and
further entries. A blank text and a document without settings give the standard ones. A fault names
the mode by a number in octal that is read as this mode wherever it is put, and so fails again. -/
theorem load_agrees_with_validate :
    (∀ text g, Text.isBlank text = false → Tells (.ofText text) g →
      (∀ c, load text = .ok c ↔ c = g.config ∧ g.config.validate = .ok ()) ∧
      ∀ e, load text = .error e ↔ ∃ f, g.config.validate = .error f ∧ e = .invalid f) ∧
    (∀ g : Draft, g.config =
      ⟨g.flavor.getD .sysV, g.lockPages.getD true, g.mode.getD 0o600⟩) ∧
    (∀ n g, n.isWritable → Tells ⟨some n, none, false⟩ g →
      Text.isBlank (String.ofList n.write) = false ∧ Tells (.ofText (String.ofList n.write)) g) ∧
    (∀ text, Text.isBlank text ∨ TellsNothing (.ofText text) →
      load text = .ok ⟨.sysV, true, 0o600⟩) ∧
    ∀ (c : Config) f, c.validate = .error f →
      f.field = "mode" ∧ Scalar.Writes f.value c.mode.toNat ∧
      (∀ d v s path, IsScalar d v s → s.style = .plain → s.text = f.value →
        Reading.mode d path v = .ok c.mode) ∧
      load (String.ofList (segmentOf [("mode", f.value)]).write) = .error (.invalid f) := by
  refine ⟨fun text g solid tells => ?given, fun g => rfl, fun n g writable tells => ?written,
    fun text nothing => ?nothing, fun c f fault => ?fault⟩
  case given =>
    rw [load_of_tells solid tells]
    exact ⟨fun c => validated_eq_ok_iff, fun e => validated_eq_error_iff⟩
  case written => exact ⟨isBlank_write tells, tells_write writable tells⟩
  case nothing =>
    by_cases blank : Text.isBlank text
    · exact load_of_blank blank
    · have tells := tells_of_tellsNothing (nothing.resolve_left blank)
      rw [load_of_tells (by simpa using blank) tells]
      exact validated_eq_ok_iff.2 ⟨rfl, validate_standard⟩
  case fault =>
    obtain ⟨field, value, alike⟩ := validate_eq_error fault
    have writes : Scalar.Writes f.value c.mode.toNat := value ▸ Scalar.writes_octal c.mode.toNat
    have writable := isWritable_segmentOf_mode (isWritable_of_writes writes)
    have tells := tells_segmentOf_mode writes
    -- The mode alone decides, so that the standard settings with it have the same fault.
    refine ⟨field, writes, fun d v s path scalar plain same => ?_, ?_⟩
    · exact mode_of_isModeText scalar ⟨plain, same ▸ writes⟩ path
    · rw [load_of_tells (isBlank_write tells) (tells_write writable tells)]
      exact validated_eq_error_iff.2 ⟨f, alike _ rfl, rfl⟩

/-- Two of the settings among further entries, a mode that is refused, and a blank text. -/
theorem some_settings_are_loaded_and_a_mode_is_refused :
    load "\x7b? x: [1, ], ? segment: \x7b? mode: 0x1C0, ? y: z, ? flavor: posix, \x7d, \x7d" =
      .ok ⟨.posix, true, 0o700⟩ ∧
    load "\x7b? segment: \x7b? mode: 0o1777, \x7d, \x7d" =
      .error (.invalid ⟨"mode", "0o1777", "Only permission bits (0o777) are allowed"⟩) ∧
    load " \n" = .ok ⟨.sysV, true, 0o600⟩ := by
  let settings := [(word "mode", word "0x1C0"), (word "y", word "z"), (word "flavor", word "posix")]
  let tree : Node := .mapping .zero none none
    [(word "x", .sequence .zero none none [word "1"]),
      (word "segment", .mapping .zero none none settings)]
  have text : String.ofList tree.write =
      "\x7b? x: [1, ], ? segment: \x7b? mode: 0x1C0, ? y: z, ? flavor: posix, \x7d, \x7d" := by
    decide
  have writable : tree.isWritable := by decide
  let d : Document := ⟨some tree, none, false⟩
  have one : Scalar.IsDigit 16 '1' 1 := ⟨by decide, .inl rfl⟩
  have twelve : Scalar.IsDigit 16 'C' 12 := ⟨by decide, .inr rfl⟩
  have zero : Scalar.IsDigit 16 '0' 0 := ⟨by decide, .inl rfl⟩
  have digits : Scalar.Digits 16 ['1', 'C', '0'] 0o700 := .snoc (.snoc (.single one) twelve) zero
  have mode : Sets d (word "mode", word "0x1C0") { Draft.empty with mode := some 0o700 } :=
    .mode (isKey_word d _) ⟨_, _, rfl⟩ ⟨rfl, _, .hexadecimal digits, .inl rfl⟩
  have flavor : Sets d (word "flavor", word "posix") { Draft.empty with flavor := some .posix } :=
    .flavor (isKey_word d _) ⟨_, _, rfl⟩ ⟨rfl, nofun⟩
  have gives : Gives d settings ⟨some .posix, none, some 0o700⟩ :=
    .known mode
      (.other (isKey_word d _) rfl (by decide) (.known flavor .nil (Draft.apart_empty _).symm))
      ⟨.inl rfl, .inl rfl, .inr rfl⟩
  have tells : Tells d ⟨some .posix, none, some 0o700⟩ :=
    ⟨rfl, rfl, _, _, _, _, _, rfl, .other (isKey_word d _) rfl (by decide)
      (.segment (isKey_word d _) (.mapping rfl gives) .nil), rfl⟩
  obtain ⟨loads, -, written, nothing, faults⟩ := load_agrees_with_validate
  refine ⟨?_, ?_, nothing _ (.inl (by decide))⟩
  · obtain ⟨solid, tells⟩ := written tree _ writable tells
    rw [← text]
    exact ((loads _ _ solid tells).1 _).2 ⟨rfl, by decide⟩
  · have text : String.ofList (segmentOf [("mode", "0o1777")]).write =
        "\x7b? segment: \x7b? mode: 0o1777, \x7d, \x7d" := by
      decide
    have fault : validate ⟨.sysV, true, 0o1777⟩ =
        .error ⟨"mode", "0o1777", "Only permission bits (0o777) are allowed"⟩ := by
      decide
    obtain ⟨-, -, -, refused⟩ := faults _ _ fault
    rwa [text] at refused
end Config
end SharedSegment
