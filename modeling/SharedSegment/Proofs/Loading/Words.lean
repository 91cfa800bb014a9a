import SharedSegment.Proofs.Loading.Scalars

/-!
# Words within brackets

How a text in brackets falls into words (`Lexes`): a word is told by where it stands, that is by the
brackets around it, by whether a key may begin there, and by the text from there on (`Place`). What
is written for a tree falls into the words of the tree (`lexesTo_write`).
-/

namespace SharedSegment.Yaml

/-- How the bracket of a collection begins, and how it ends. -/
def Collection.opener : Collection → Char
  | .sequence => '['
  | .mapping => '{'

def Collection.closer : Collection → Char
  | .sequence => ']'
  | .mapping => '}'

def Collection.openerKind : Collection → Token.Kind
  | .sequence => .flowSequenceStart
  | .mapping => .flowMappingStart

def Collection.closerKind : Collection → Token.Kind
  | .sequence => .flowSequenceEnd
  | .mapping => .flowMappingEnd

/-- A place in a text. -/
structure Place where
  /-- The brackets around it, innermost first; outermost what is outside of all. -/
  levels : List Collection
  /-- Whether a key may begin there without a mark. -/
  allowed : Bool
  text : List Char

/-- There are blanks only. -/
def AreBlank (lead : List Char) : Prop :=
  ∀ x ∈ lead, x = ' '

/-- One word stands at a place, perhaps behind blanks, and leads to another place. In a mapping no
key begins without its mark. -/
inductive Lexes : Place → Token.Kind → Place → Prop
  | opens {l ls allowed lead r} (k : Collection) (blank : AreBlank lead)
      (marked : allowed = true → l = .sequence) :
      Lexes ⟨l :: ls, allowed, lead ++ k.opener :: r⟩ k.openerKind ⟨k :: l :: ls, true, r⟩
  | closes {l l' ls allowed lead r} (k : Collection) (blank : AreBlank lead) :
      Lexes ⟨l :: l' :: ls, allowed, lead ++ k.closer :: r⟩ k.closerKind ⟨l' :: ls, false, r⟩
  | comma {l l' ls allowed lead r} (blank : AreBlank lead) :
      Lexes ⟨l :: l' :: ls, allowed, lead ++ ',' :: r⟩ .flowEntry ⟨l :: l' :: ls, true, r⟩
  | key {l l' ls allowed lead r} (blank : AreBlank lead) :
      Lexes ⟨l :: l' :: ls, allowed, lead ++ '?' :: r⟩ .key ⟨l :: l' :: ls, false, r⟩
  | value {l' ls allowed lead r} (blank : AreBlank lead) :
      Lexes ⟨.mapping :: l' :: ls, allowed, lead ++ ':' :: r⟩ .value
        ⟨.mapping :: l' :: ls, false, r⟩
  | quoted {l l' ls allowed lead cs r} (blank : AreBlank lead)
      (marked : allowed = true → l = .sequence) :
      Lexes ⟨l :: l' :: ls, allowed, lead ++ (quoted cs ++ r)⟩
        (.scalar (String.ofList cs) .doubleQuoted) ⟨l :: l' :: ls, false, r⟩
  | plain {l l' ls allowed lead w r} (blank : AreBlank lead)
      (marked : allowed = true → l = .sequence) (some : w ≠ []) (plain : w.all isPlainChar)
      (ends : Plain.Ends r) :
      Lexes ⟨l :: l' :: ls, allowed, lead ++ (w ++ r)⟩ (.scalar (String.ofList w) .plain)
        ⟨l :: l' :: ls, false, r⟩

/-- Some words lead from one place to another. -/
inductive LexesTo : Place → List Token.Kind → Place → Prop
  | refl {p} : LexesTo p [] p
  | head {p q r k ks} (first : Lexes p k q) (rest : LexesTo q ks r) : LexesTo p (k :: ks) r

lemma LexesTo.trans {p q r : Place} {ks ks' : List Token.Kind} (first : LexesTo p ks q)
    (second : LexesTo q ks' r) : LexesTo p (ks ++ ks') r := by
  induction first with
  | refl => exact second
  | head step _ ih => exact .head step (ih second)

lemma Lexes.single {p q : Place} {k : Token.Kind} (step : Lexes p k q) : LexesTo p [k] q :=
  .head step .refl

lemma areBlank_nil : AreBlank [] := by
  rintro _ ⟨⟩

lemma areBlank_space : AreBlank [' '] :=
  fun _ => List.mem_singleton.1

section
variable {ls : List Collection} {l l' : Collection} {allowed : Bool} {lead r : List Char}

/-- A scalar is one word. -/
lemma lexesTo_scalar (s : Scalar) (writable : s.isWritable) (blank : AreBlank lead)
    (marked : allowed = true → l = .sequence) (ends : Plain.Ends r) :
    LexesTo ⟨l :: l' :: ls, allowed, lead ++ (s.write ++ r)⟩ [.scalar s.text s.style]
      ⟨l :: l' :: ls, false, r⟩ := by
  obtain ⟨text, style, tag⟩ := s
  simp only [Scalar.isWritable, Bool.and_eq_true, Bool.or_eq_true, beq_iff_eq] at writable
  obtain ⟨-, rfl | ⟨⟨rfl, some⟩, plain⟩⟩ := writable
  · have word := @Lexes.quoted l l' ls allowed lead text.toList r blank marked
    rw [String.ofList_toList] at word
    exact word.single
  · have word := @Lexes.plain l l' ls allowed lead text.toList r blank marked (by simpa using some)
      plain ends
    rw [String.ofList_toList] at word
    exact word.single

mutual

/-- What is written for a tree falls into the words of the tree. -/
theorem lexesTo_write (n : Node) (writable : n.isWritable) (ls : List Collection)
    (l l' : Collection) (allowed : Bool) (lead r : List Char) (blank : AreBlank lead)
    (marked : allowed = true → l = .sequence) (ends : Plain.Ends r) :
    LexesTo ⟨l :: l' :: ls, allowed, lead ++ (n.write ++ r)⟩ n.kinds ⟨l :: l' :: ls, false, r⟩ := by
  match n with
  | .alias .. => cases writable
  | .scalar m a s =>
    rw [Node.isWritable, Bool.and_eq_true] at writable
    exact lexesTo_scalar s writable.2 blank marked ends
  | .sequence m a t items =>
    simp only [Node.isWritable, Bool.and_eq_true] at writable
    have inner := lexesTo_writeItems items writable.2 (l' :: ls) l [] r areBlank_nil
    have first := @Lexes.opens l (l' :: ls) allowed lead (Node.writeItems items ++ ']' :: r)
      .sequence blank marked
    have all := LexesTo.head first inner
    simpa [Node.write, Node.kinds, Collection.opener, Collection.openerKind] using all
  | .mapping m a t entries =>
    simp only [Node.isWritable, Bool.and_eq_true] at writable
    have inner := lexesTo_writeEntries entries writable.2 (l' :: ls) l [] r areBlank_nil
    have first := @Lexes.opens l (l' :: ls) allowed lead (Node.writeEntries entries ++ '}' :: r)
      .mapping blank marked
    have all := LexesTo.head first inner
    simpa [Node.write, Node.kinds, Collection.opener, Collection.openerKind] using all
  | .cut => cases writable

theorem lexesTo_writeItems (items : List Node) (writable : Node.areWritable items)
    (ls : List Collection) (l : Collection) (lead r : List Char) (blank : AreBlank lead) :
    LexesTo ⟨.sequence :: l :: ls, true, lead ++ (Node.writeItems items ++ ']' :: r)⟩
      (Node.itemKinds items ++ [.flowSequenceEnd]) ⟨l :: ls, false, r⟩ := by
  cases items with
  | nil => exact (Lexes.closes .sequence blank).single
  | cons n items =>
    rw [Node.areWritable, Bool.and_eq_true] at writable
    have first := lexesTo_write n writable.1 ls .sequence l true lead
      (',' :: ' ' :: (Node.writeItems items ++ ']' :: r)) blank (fun _ => rfl) (.comma _)
    have comma := @Lexes.comma .sequence l ls false [] (' ' :: (Node.writeItems items ++ ']' :: r))
      areBlank_nil
    have rest := lexesTo_writeItems items writable.2 ls l [' '] r areBlank_space
    have all := first.trans (.head comma rest)
    simpa [Node.writeItems, Node.itemKinds] using all

theorem lexesTo_writeEntries (entries : List (Node × Node))
    (writable : Node.areWritableEntries entries) (ls : List Collection) (l : Collection)
    (lead r : List Char) (blank : AreBlank lead) :
    LexesTo ⟨.mapping :: l :: ls, true, lead ++ (Node.writeEntries entries ++ '}' :: r)⟩
      (Node.entryKinds entries ++ [.flowMappingEnd]) ⟨l :: ls, false, r⟩ := by
  match entries with
  | [] => exact (Lexes.closes .mapping blank).single
  | (k, v) :: entries =>
    simp only [Node.areWritableEntries, Bool.and_eq_true] at writable
    -- What stands behind the value, the key and the mark, in this order.
    let third := ',' :: ' ' :: (Node.writeEntries entries ++ '}' :: r)
    let second := ':' :: ' ' :: (v.write ++ third)
    let first := ' ' :: (k.write ++ second)
    have mark := @Lexes.key .mapping l ls true lead first blank
    have key := lexesTo_write k writable.1.1 ls .mapping l false [' '] second areBlank_space
      (by rintro ⟨⟩) (.colon _)
    have colon := @Lexes.value l ls false [] (' ' :: (v.write ++ third)) areBlank_nil
    have value := lexesTo_write v writable.1.2 ls .mapping l false [' '] third areBlank_space
      (by rintro ⟨⟩) (.comma _)
    have comma := @Lexes.comma .mapping l ls false []
      (' ' :: (Node.writeEntries entries ++ '}' :: r)) areBlank_nil
    have rest := lexesTo_writeEntries entries writable.2 ls l [' '] r areBlank_space
    have all := LexesTo.head mark (key.trans (.head colon (value.trans (.head comma rest))))
    simpa [Node.writeEntries, Node.entryKinds, first, second, third] using all

end

/-- What is written for a mapping is a text of its own. -/
theorem lexesTo_write_mapping (m : Mark) (a : Option Nat) (t : Option Tag)
    (entries : List (Node × Node)) (writable : Node.areWritableEntries entries) :
    LexesTo ⟨[.sequence], true, (Node.mapping m a t entries).write⟩
      (Node.mapping m a t entries).kinds ⟨[.sequence], false, []⟩ := by
  have first := @Lexes.opens .sequence [] true [] (Node.writeEntries entries ++ ['}']) .mapping
    areBlank_nil fun _ => rfl
  have rest := lexesTo_writeEntries entries writable [] .sequence [] [] areBlank_nil
  exact .head first rest

end
end SharedSegment.Yaml
