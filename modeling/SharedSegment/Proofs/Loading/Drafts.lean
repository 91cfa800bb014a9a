import SharedSegment.Config.Loader
import SharedSegment.Proofs.Loading.Numerals

/-!
# What a document gives

The settings that the entries of a mapping give, in whatever order they stand and whatever else
stands among them (`Gives`), and those that a document gives in its segment (`Tells`). Both are said
of the nodes of the document, aliases being what they refer to. What a document tells is what is
read from it: entry by entry the draft of the settings goes on as the entries give
(`foldlM_setting`), so that it ends with all of them (`ofDocument_of_tells`).
-/

namespace SharedSegment.Config
open Yaml Reading

/-- A node is a scalar, or an alias of one. -/
def IsScalar (d : Document) (n : Node) (s : Scalar) : Prop :=
  ∃ m a, target d n = .scalar m a s

/-- A key is some text. -/
def IsKey (d : Document) (n : Node) (name : String) : Prop :=
  ∃ s, IsScalar d n s ∧ s.text = name

/-- A scalar is the label of a flavor. The tags that are the document's own are labels already. -/
def IsLabel (s : Scalar) (f : Flavor) : Prop :=
  s.text = f.label ∧ ∀ t, s.tag = some t → Scalar.isLocal t = false

/-- The texts that stand for a truth value. -/
def truths : Bool → List String
  | true => ["true", "True", "TRUE"]
  | false => ["false", "False", "FALSE"]

/-- A scalar is a truth value. -/
def IsTruth (s : Scalar) (b : Bool) : Prop :=
  s.style = .plain ∧ s.text ∈ truths b

/-- A scalar is a mode in one of the notations of numbers. -/
def IsModeText (s : Scalar) (m : UInt32) : Prop :=
  s.style = .plain ∧ Scalar.Writes s.text m.toNat

/-- The settings of two drafts, the first one's where both have some. -/
def Reading.Draft.or (a b : Draft) : Draft :=
  ⟨a.flavor.or b.flavor, a.lockPages.or b.lockPages, a.mode.or b.mode⟩

/-- No setting is in both of two drafts. -/
structure Reading.Draft.Apart (a b : Draft) : Prop where
  flavor : a.flavor = none ∨ b.flavor = none
  lockPages : a.lockPages = none ∨ b.lockPages = none
  mode : a.mode = none ∨ b.mode = none

/-- An entry gives one setting. -/
inductive Sets (d : Document) : Node × Node → Draft → Prop
  | flavor {k v s f} (key : IsKey d k "flavor") (scalar : IsScalar d v s) (label : IsLabel s f) :
      Sets d (k, v) { Draft.empty with flavor := some f }
  | lockPages {k v s b} (key : IsKey d k "lock_pages") (scalar : IsScalar d v s)
      (truth : IsTruth s b) : Sets d (k, v) { Draft.empty with lockPages := some b }
  | mode {k v s m} (key : IsKey d k "mode") (scalar : IsScalar d v s) (text : IsModeText s m) :
      Sets d (k, v) { Draft.empty with mode := some m }

/-- What the entries of a mapping of settings give: each setting perhaps, and at most once. -/
inductive Gives (d : Document) : List (Node × Node) → Draft → Prop
  | nil : Gives d [] .empty
  | known {e r x g} (sets : Sets d e x) (rest : Gives d r g) (once : x.Apart g) :
      Gives d (e :: r) (x.or g)
  | other {k v r g name} (key : IsKey d k name) (whole : v.isWhole)
      (unknown : name ∉ ["flavor", "lock_pages", "mode"]) (rest : Gives d r g) :
      Gives d ((k, v) :: r) g

/-- What the value of the segment gives. Nothing at all is as good as an empty mapping. -/
inductive SegmentGives (d : Document) (n : Node) : Draft → Prop
  | mapping {m a t es g} (here : target d n = .mapping m a t es) (gives : Gives d es g) :
      SegmentGives d n g
  | nothing {s} (scalar : IsScalar d n s) (empty : s.text = "") (plain : s.style = .plain) :
      SegmentGives d n .empty

/-- What the entries at the root give: a segment perhaps, and at most one. -/
inductive RootGives (d : Document) : List (Node × Node) → Option Draft → Prop
  | nil : RootGives d [] none
  | segment {k v r g} (key : IsKey d k "segment") (gives : SegmentGives d v g)
      (rest : RootGives d r none) : RootGives d ((k, v) :: r) (some g)
  | other {k v r og name} (key : IsKey d k name) (whole : v.isWhole)
      (unknown : name ≠ "segment") (rest : RootGives d r og) : RootGives d ((k, v) :: r) og

/-- A document is a mapping that gives some settings, and nothing follows it. -/
structure Tells (d : Document) (g : Draft) : Prop where
  unbroken : d.failure = none
  alone : d.isFollowed = false
  root : ∃ m a t es og, d.root = some (.mapping m a t es) ∧ RootGives d es og ∧
    og.getD .empty = g

variable {d : Document} {n k v : Node} {s : Scalar} {es r : List (Node × Node)} {g draft : Draft}
  {name path : String}

@[simp] lemma within_ok {α : Type} (path : String) (m : Mark) (a : α) :
    within path m (.ok a : Result α) = .ok a := rfl

lemma ofTarget_eq {α : Type} {f : Node → Result α} {t : Node} {a : α} (here : target d n = t)
    (reads : f t = .ok a) : ofTarget d path n f = .ok a := by
  rw [ofTarget, here, reads, within_ok]

lemma key_of_isKey (key : IsKey d k name) (path : String) :
    ∃ inner, Reading.key d path k = .ok (name, inner) := by
  obtain ⟨s, ⟨m, a, here⟩, rfl⟩ := key
  exact ⟨_, ofTarget_eq here rfl⟩

lemma flavorOfLabel_label (f : Flavor) : flavorOfLabel f.label = .ok f := by
  rw [flavorOfLabel, Flavor.ofLabel?_label]

lemma labelOfTag_of_isLabel {f : Flavor} (label : IsLabel s f) : labelOfTag s.tag = none := by
  unfold labelOfTag
  split
  case h_1 rest own =>
    have foreign := label.2 _ own
    simp [Scalar.isLocal] at foreign
  case h_2 => rfl

lemma flavor_of_isLabel {f : Flavor} (scalar : IsScalar d v s) (label : IsLabel s f)
    (path : String) : Reading.flavor d path v = .ok f := by
  obtain ⟨m, a, here⟩ := scalar
  have reads : flavorOfLabel s.text = .ok f := by
    rw [label.1]
    exact flavorOfLabel_label f
  unfold Reading.flavor
  simp only [here, tagOf, labelOfTag_of_isLabel label, reads, within_ok]
  split
  · rfl
  · rfl

lemma bool?_of_mem_truths : ∀ b, ∀ x ∈ truths b, Scalar.bool? x = some b := by
  decide

lemma truth_of_isTruth {b : Bool} (scalar : IsScalar d v s) (truth : IsTruth s b)
    (path : String) : Reading.truth d path v = .ok b := by
  obtain ⟨m, a, here⟩ := scalar
  obtain ⟨plain, mem⟩ := truth
  refine ofTarget_eq here ?_
  have admitted : s.admits "bool" = true := by simp [Scalar.admits, plain]
  simp only [admitted, if_true, bool?_of_mem_truths b _ mem]

lemma mode_of_isModeText {m : UInt32} (scalar : IsScalar d v s) (text : IsModeText s m)
    (path : String) : Reading.mode d path v = .ok m := by
  obtain ⟨mark, a, here⟩ := scalar
  obtain ⟨plain, writes⟩ := text
  refine ofTarget_eq here ?_
  have admitted : s.admits "int" = true := by simp [Scalar.admits, plain]
  have fits : m.toNat < twoTo 32 := m.toNat_lt
  simp only [admitted, if_true, Scalar.natural?_of_writes writes, if_pos fits]
  exact congrArg _ UInt32.ofNat_toNat

namespace Reading.Draft

variable {a b c : Draft}

@[simp] lemma empty_or (a : Draft) : Draft.empty.or a = a := rfl

@[simp] lemma or_empty (a : Draft) : a.or .empty = a := by
  simp [Draft.or, Draft.empty]

lemma or_assoc (a b c : Draft) : (a.or b).or c = a.or (b.or c) := by
  simp [Draft.or, Option.or_assoc]

lemma apart_empty (a : Draft) : Draft.empty.Apart a :=
  ⟨.inl rfl, .inl rfl, .inl rfl⟩

lemma apart_or : a.Apart (b.or c) ↔ a.Apart b ∧ a.Apart c := by
  constructor
  · rintro ⟨flavor, lockPages, mode⟩
    simp only [Draft.or, Option.or_eq_none_iff] at flavor lockPages mode
    exact ⟨⟨flavor.imp_right And.left, lockPages.imp_right And.left, mode.imp_right And.left⟩,
      ⟨flavor.imp_right And.right, lockPages.imp_right And.right, mode.imp_right And.right⟩⟩
  · rintro ⟨first, second⟩
    constructor <;> simp only [Draft.or, Option.or_eq_none_iff]
    · exact or_and_left.2 ⟨first.flavor, second.flavor⟩
    · exact or_and_left.2 ⟨first.lockPages, second.lockPages⟩
    · exact or_and_left.2 ⟨first.mode, second.mode⟩

lemma Apart.symm (apart : a.Apart b) : b.Apart a :=
  ⟨apart.flavor.symm, apart.lockPages.symm, apart.mode.symm⟩

end Reading.Draft

/-- A draft goes on with the setting that an entry gives. -/
lemma setting_of_sets {e : Node × Node} {x : Draft} (sets : Sets d e x) (apart : draft.Apart x) :
    setting d path draft e = .ok (draft.or x) := by
  cases sets with
  | flavor key scalar label =>
    have free : draft.flavor = none := by simpa using apart.flavor
    obtain ⟨inner, reads⟩ := key_of_isKey key path
    simp [setting, reads, free, Reading.once, flavor_of_isLabel scalar label, bind, Except.bind,
      pure, Except.pure, Draft.or, Draft.empty]
  | lockPages key scalar truth =>
    have free : draft.lockPages = none := by simpa using apart.lockPages
    obtain ⟨inner, reads⟩ := key_of_isKey key path
    simp [setting, reads, free, Reading.once, truth_of_isTruth scalar truth, bind, Except.bind,
      pure, Except.pure, Draft.or, Draft.empty]
  | mode key scalar text =>
    have free : draft.mode = none := by simpa using apart.mode
    obtain ⟨inner, reads⟩ := key_of_isKey key path
    simp [setting, reads, free, Reading.once, mode_of_isModeText scalar text, bind, Except.bind,
      pure, Except.pure, Draft.or, Draft.empty]

/-- An entry of another name is passed over. -/
lemma setting_of_unknown (key : IsKey d k name) (whole : v.isWhole)
    (unknown : name ∉ ["flavor", "lock_pages", "mode"]) :
    setting d path draft (k, v) = .ok draft := by
  obtain ⟨inner, reads⟩ := key_of_isKey key path
  have ignored : ignore v = .ok () := by rw [ignore, if_pos whole]
  simp only [List.mem_cons, List.not_mem_nil, or_false, not_or] at unknown
  simp only [setting, reads, bind, Except.bind]
  split
  · exact absurd rfl unknown.1
  · exact absurd rfl unknown.2.1
  · exact absurd rfl unknown.2.2
  · rw [ignored]
    rfl

/-- A draft goes on with what the entries give. -/
theorem foldlM_setting (gives : Gives d es g) (apart : draft.Apart g) :
    es.foldlM (setting d path) draft = .ok (draft.or g) := by
  induction gives generalizing draft with
  | nil => simp [pure, Except.pure]
  | @known e r x g sets rest once ih =>
    -- What comes later is apart from this setting, and so from the draft with it.
    obtain ⟨first, second⟩ := Draft.apart_or.1 apart
    have still : (draft.or x).Apart g := (Draft.apart_or.2 ⟨second.symm, once.symm⟩).symm
    rw [List.foldlM_cons, setting_of_sets sets first, ← Draft.or_assoc]
    exact ih still
  | other key whole unknown rest ih =>
    rw [List.foldlM_cons, setting_of_unknown key whole unknown]
    exact ih apart

lemma segment_of_gives (gives : SegmentGives d v g) (path : String) :
    Reading.segment d path v = .ok g := by
  cases gives with
  | @mapping m a t es g here gives =>
    have reads : es.foldlM (setting d path) .empty = .ok (Draft.empty.or g) :=
      foldlM_setting gives (Draft.apart_empty g)
    rw [Reading.segment, Reading.mapping, ofTarget_eq here reads, Draft.empty_or]
  | nothing scalar empty plain =>
    obtain ⟨m, a, here⟩ := scalar
    rw [Reading.segment, Reading.mapping, ofTarget_eq here]
    simp [empty, plain]

/-- An entry of another name is passed over at the root, too. -/
lemma rootEntry_of_unknown {og : Option Draft} (key : IsKey d k name) (whole : v.isWhole)
    (unknown : name ≠ "segment") : rootEntry d og (k, v) = .ok og := by
  obtain ⟨inner, reads⟩ := key_of_isKey key ""
  have ignored : ignore v = .ok () := by rw [ignore, if_pos whole]
  simp [rootEntry, reads, ignored, bind, Except.bind, pure, Except.pure]

lemma foldlM_rootEntry {og before : Option Draft} (gives : RootGives d es og)
    (apart : before = none ∨ og = none) :
    es.foldlM (rootEntry d) before = .ok (before.or og) := by
  induction gives generalizing before with
  | nil => simp [pure, Except.pure]
  | @segment k v r g key gives rest ih =>
    have free : before = none := by simpa using apart
    subst free
    obtain ⟨inner, reads⟩ := key_of_isKey key ""
    have first : rootEntry d none (k, v) = .ok (some g) := by
      simp [rootEntry, reads, Reading.once, segment_of_gives gives, bind, Except.bind, pure,
        Except.pure]
    rw [List.foldlM_cons, first]
    exact ih (.inr rfl)
  | other key whole unknown rest ih =>
    rw [List.foldlM_cons, rootEntry_of_unknown key whole unknown]
    exact ih apart

/-- What a document tells is read from it. -/
theorem ofDocument_of_tells (tells : Tells d g) : ofDocument d = .ok g.config := by
  obtain ⟨unbroken, alone, m, a, t, es, og, root, gives, rfl⟩ := tells
  have entries : mapping d "" "struct RawConfig" none (rootEntry d) (.mapping m a t es) = .ok og :=
    ofTarget_eq rfl (foldlM_rootEntry gives (.inl rfl))
  have reads : Reading.root d (.mapping m a t es) = .ok (og.getD .empty) := by
    rw [Reading.root, entries]
    rfl
  simp [ofDocument, root, reads, unbroken, alone]

/-- A text whose document tells some settings comes to these, if they are valid. -/
theorem load_of_tells {text : String} (solid : Text.isBlank text = false)
    (tells : Tells (.ofText text) g) : load text = validated g.config := by
  rw [load, if_neg (by simp [solid]), ofDocument_of_tells tells]

theorem load_of_blank {text : String} (blank : Text.isBlank text) : load text = .ok .standard := by
  rw [load, if_pos blank, validated, validate_standard]

end SharedSegment.Config
