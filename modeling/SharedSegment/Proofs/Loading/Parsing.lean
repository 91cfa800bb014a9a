import SharedSegment.Proofs.Loading.Scanning

/-!
# Parsing within brackets

What the rules of the grammar do on tokens of known kinds (`Grammar.Does`). On the words of a tree
they add the events of a tree that differs from it in its places only (`Grammar.does_node`), and a
text of such words is one document with nothing behind it (`Grammar.does_document`).
-/

namespace SharedSegment.Yaml
namespace Grammar

/-- A rule succeeds, and something holds of its result and of the state after it. -/
def Does {α : Type} (p : Grammar α) (s : State) (post : α → State → Prop) : Prop :=
  ∃ a s', p.run s = (.ok a, s') ∧ post a s'

section
variable {α β : Type} {p : Grammar α} {f : α → Grammar β} {s s' : State}
  {post : α → State → Prop} {last : β → State → Prop}

lemma run_bind {a : α} (run : p.run s = (.ok a, s')) : (p >>= f).run s = (f a).run s' := by
  show (ExceptT.bindCont f (p.run s).1).run (p.run s).2 = _
  rw [run]
  rfl

lemma Does.bind (first : Does p s post) (rest : ∀ a s', post a s' → Does (f a) s' last) :
    Does (p >>= f) s last := by
  obtain ⟨a, s', run, holds⟩ := first
  rw [Does, run_bind run]
  exact rest a s' holds

end

/-- The tokens to come are of some kinds, and some events have been added. -/
structure Reads (s : State) (kinds : List Token.Kind) (events : List Event) : Prop where
  tokens : s.tokens.Delivers kinds
  events : s.events = events

/-- The next token has been looked at. -/
structure Shows (s : State) (kind : Token.Kind) (kinds : List Token.Kind) (events : List Event) :
    Prop extends Reads s (kind :: kinds) events where
  behind : s.tokens.drop.Delivers kinds

/-- A node begins. -/
inductive Begins : Token.Kind → Prop
  | scalar (text : String) (style : Style) : Begins (.scalar text style)
  | sequence : Begins .flowSequenceStart
  | mapping : Begins .flowMappingStart

lemma Begins.collection (k : Collection) : Begins k.openerKind := by
  cases k with
  | sequence => exact .sequence
  | mapping => exact .mapping

variable {s : State} {kind : Token.Kind} {kinds : List Token.Kind} {events : List Event}
  {last : Unit → State → Prop} {start : Mark} {fuel : Nat}

lemma does_peek (reads : Reads s (kind :: kinds) events) :
    Does peek s fun t s' => t.kind = kind ∧ Shows s' kind kinds events := by
  obtain ⟨t, ts, peeked, same, delivers, behind⟩ := TokenStream.peek_of_delivers reads.tokens
  have run : peek.run s = (.ok t, { s with tokens := ts }) := by
    have got : (get : Grammar State).run s = (.ok s, s) := rfl
    rw [peek, run_bind got, peeked]
    rfl
  exact ⟨t, _, run, same, ⟨delivers, reads.events⟩, behind⟩

lemma does_drop (shows : Shows s kind kinds events) :
    Does drop s fun _ s' => Reads s' kinds events :=
  ⟨(), _, rfl, shows.behind, shows.events⟩

lemma does_emit (shows : Shows s kind kinds events) (e : Event) :
    Does (emit e) s fun _ s' => Shows s' kind kinds (e :: events) :=
  ⟨(), _, rfl, ⟨shows.tokens, congrArg (e :: ·) shows.events⟩, shows.behind⟩

/-- Where a node begins, there are no properties in front of it. -/
lemma does_properties (reads : Reads s (kind :: kinds) events) (begins : Begins kind) :
    Does properties s fun p s' =>
      p.anchor = none ∧ p.tag = none ∧ Reads s' (kind :: kinds) events := by
  rw [properties]
  apply (does_peek reads).bind
  rintro t s' ⟨same, shows⟩
  refine ⟨⟨none, none, t.start⟩, s', ?_, rfl, rfl, shows.toReads⟩
  cases begins <;> (rw [same]; rfl)

lemma does_resolve {p : Properties} (none : p.tag = none) (reads : Reads s kinds events) :
    Does (resolve p) s fun tag s' => tag = .none ∧ Reads s' kinds events := by
  rw [resolve, none]
  exact ⟨_, s, rfl, rfl, reads⟩

lemma does_register (shows : Shows s kind kinds events) :
    Does (register none) s fun n s' => n = none ∧ Shows s' kind kinds events :=
  ⟨none, s, rfl, rfl, shows⟩

/-- A scalar without properties is one node. -/
lemma does_node_scalar {text : String} {style : Style} (block loose : Bool) (fuel : Nat)
    (reads : Reads s (.scalar text style :: kinds) events) :
    Does (node block loose (fuel + 1)) s fun _ s' =>
      ∃ m, Reads s' kinds (.scalar m none ⟨text, style, none⟩ :: events) := by
  have begins := Begins.scalar text style
  rw [node]
  apply (does_peek reads).bind
  rintro t s1 ⟨same, shows⟩
  simp only [same]
  apply (does_properties shows.toReads begins).bind
  rintro ⟨anchor, tag, start⟩ s2 ⟨rfl, rfl, reads⟩
  apply (does_resolve rfl reads).bind
  rintro _ s3 ⟨rfl, reads⟩
  apply (does_peek reads).bind
  rintro t s4 ⟨same, shows⟩
  simp only [same]
  apply (does_register shows).bind
  rintro _ s5 ⟨rfl, shows⟩
  apply (does_emit shows _).bind
  rintro _ s6 shows
  obtain ⟨_, s7, run, reads⟩ := does_drop shows
  exact ⟨(), s7, run, start, reads⟩

/-- What goes on behind the bracket of a collection. -/
def inner : Collection → Bool → Mark → Nat → Grammar Unit
  | .sequence => flowItems
  | .mapping => flowEntries

/-- A bracket without properties opens a node. -/
lemma does_node_open (k : Collection) (block loose : Bool)
    (reads : Reads s (k.openerKind :: kinds) events)
    (rest : ∀ m start s', Reads s' kinds (.opens k m none none :: events) →
      Does (inner k true start fuel) s' last) :
    Does (node block loose (fuel + 1)) s last := by
  have begins := Begins.collection k
  rw [node]
  apply (does_peek reads).bind
  rintro t s1 ⟨same, shows⟩
  cases k <;> simp only [same, Collection.openerKind]
  all_goals
    apply (does_properties shows.toReads begins).bind
    rintro ⟨anchor, tag, start⟩ s2 ⟨rfl, rfl, reads⟩
    apply (does_resolve rfl reads).bind
    rintro _ s3 ⟨rfl, reads⟩
    apply (does_peek reads).bind
    rintro t s4 ⟨same, shows⟩
    simp only [same, Collection.openerKind]
    apply (does_register shows).bind
    rintro _ s5 ⟨rfl, shows⟩
    apply (does_emit shows _).bind
    rintro _ s6 shows
    apply (does_drop shows).bind
    rintro _ s7 reads
    exact rest _ _ _ reads

/-- Within brackets a comma stands in front of all but the first. -/
def lead (first : Bool) : List Token.Kind :=
  if first then [] else [.flowEntry]

/-- Both collections begin in the same way: unless a bracket closes them, a comma is passed over. -/
lemma does_lead {closer : Token.Kind} {closing rest : Grammar Unit} {refusal : Token → Grammar Unit}
    (first : Bool) (other : closer ≠ .flowEntry) (more : first = true → kind ≠ closer)
    (reads : Reads s (lead first ++ kind :: kinds) events)
    (goes : ∀ s', Reads s' (kind :: kinds) events → Does rest s' last) :
    Does (do
      let t ← peek
      if t.kind ≠ closer then
        if !first then do
          let t ← peek
          if t.kind = .flowEntry then do
            let _ ← drop
            rest
          else do
            let _ ← refusal t
            rest
        else rest
      else closing) s last := by
  cases first with
  | true =>
    apply (does_peek reads).bind
    rintro t s1 ⟨same, shows⟩
    rw [if_pos (same ▸ more rfl)]
    exact goes s1 shows.toReads
  | false =>
    apply (does_peek reads).bind
    rintro t s1 ⟨same, shows⟩
    rw [if_pos (same ▸ other.symm)]
    apply (does_peek shows.toReads).bind
    rintro t s2 ⟨same, shows⟩
    rw [if_pos same]
    apply (does_drop shows).bind
    rintro _ s3 reads
    exact goes s3 reads

/-- A bracket closes the collection at once. -/
lemma does_inner_close (k : Collection) (reads : Reads s (k.closerKind :: kinds) events) :
    Does (inner k true start (fuel + 1)) s fun _ s' => Reads s' kinds (.closes :: events) := by
  cases k
  all_goals
    simp only [inner, flowItems, flowEntries]
    apply (does_peek reads).bind
    rintro t s1 ⟨same, shows⟩
    rw [if_neg (by simp [same, Collection.closerKind])]
    apply (does_emit shows _).bind
    rintro _ s2 shows
    exact does_drop shows

/-- A bracket closes the collection also behind a comma. -/
lemma does_inner_comma_close (k : Collection)
    (reads : Reads s (.flowEntry :: k.closerKind :: kinds) events) :
    Does (inner k false start (fuel + 1)) s fun _ s' => Reads s' kinds (.closes :: events) := by
  cases k
  all_goals
    simp only [inner, flowItems, flowEntries]
    refine does_lead false (by simp) (by simp) reads fun s1 reads => ?_
    apply (does_peek reads).bind
    rintro t s2 ⟨same, shows⟩
    simp only [same, Collection.closerKind]
    apply (does_emit shows _).bind
    rintro _ s3 shows
    exact does_drop shows

/-- An item goes on with the next one behind it. -/
lemma does_flowItems_item (begins : Begins kind) (first : Bool)
    (reads : Reads s (lead first ++ kind :: kinds) events)
    (rest : ∀ s', Reads s' (kind :: kinds) events →
      Does (node false false fuel >>= fun _ => flowItems false start fuel) s' last) :
    Does (flowItems first start (fuel + 1)) s last := by
  simp only [flowItems]
  refine does_lead first (by simp) (fun _ => by cases begins <;> simp) reads fun s1 reads => ?_
  apply (does_peek reads).bind
  rintro t s2 ⟨same, shows⟩
  have goes := rest s2 shows.toReads
  cases begins <;> simpa only [same] using goes

/-- An entry, its key and its value behind their marks, goes on with the next one. -/
lemma does_flowEntries_entry {kind' : Token.Kind} {kinds' : List Token.Kind}
    (between : List Event → Prop) (begins : Begins kind) (begins' : Begins kind') (first : Bool)
    (reads : Reads s (lead first ++ .key :: kind :: kinds) events)
    (key : ∀ s', Reads s' (kind :: kinds) events → Does (node false false fuel) s' fun _ s'' =>
      ∃ es, between es ∧ Reads s'' (.value :: kind' :: kinds') es)
    (value : ∀ es s', between es → Reads s' (kind' :: kinds') es →
      Does (node false false fuel >>= fun _ => flowEntries false start fuel) s' last) :
    Does (flowEntries first start (fuel + 1)) s last := by
  simp only [flowEntries]
  refine does_lead first (by simp) (by simp) reads fun s1 reads => ?_
  apply (does_peek reads).bind
  rintro t s2 ⟨same, shows⟩
  simp only [same]
  apply (does_drop shows).bind
  rintro _ s3 reads
  apply (does_peek reads).bind
  rintro t s4 ⟨same, shows⟩
  -- Behind its mark the key begins at once, and so does the value: none of them is empty.
  rw [if_pos (by cases begins <;> simp [same])]
  apply (key s4 shows.toReads).bind
  rintro _ s5 ⟨es, holds, reads⟩
  apply (does_peek reads).bind
  rintro t s6 ⟨same, shows⟩
  rw [if_pos same]
  apply (does_drop shows).bind
  rintro _ s7 reads
  apply (does_peek reads).bind
  rintro t s8 ⟨same, shows⟩
  rw [if_pos (by cases begins' <;> simp [same])]
  exact value es s8 holds shows.toReads

lemma begins_kinds (n : Node) (writable : n.isWritable) :
    ∃ kind kinds, n.kinds = kind :: kinds ∧ Begins kind := by
  cases n with
  | scalar m a s => exact ⟨_, [], rfl, .scalar s.text s.style⟩
  | sequence m a t items => exact ⟨_, _, rfl, .sequence⟩
  | mapping m a t entries => exact ⟨_, _, rfl, .mapping⟩
  | _ => cases writable

mutual

/-- The words of a tree are read as a tree that differs from it in its places only. -/
theorem does_node (n : Node) (writable : n.isWritable) (block loose : Bool) (fuel : Nat)
    (enough : n.kinds.length ≤ fuel) (s : State) (kinds : List Token.Kind) (events : List Event)
    (reads : Reads s (n.kinds ++ kinds) events) :
    Does (node block loose fuel) s fun _ s' =>
      ∃ n' : Node, n'.bare = n.bare ∧ Reads s' kinds (n'.events.reverse ++ events) := by
  obtain ⟨fuel, rfl⟩ : ∃ f, fuel = f + 1 := by
    obtain ⟨kind, kinds, words, -⟩ := begins_kinds n writable
    rw [words, List.length_cons] at enough
    exact ⟨fuel - 1, by omega⟩
  match n with
  | .alias .. => cases writable
  | .scalar m a ⟨text, style, tag⟩ =>
    simp only [Node.isWritable, Scalar.isWritable, Bool.and_eq_true, Option.isNone_iff_eq_none]
      at writable
    obtain ⟨rfl, rfl, -⟩ := writable
    obtain ⟨_, s', run, m', reads'⟩ := does_node_scalar block loose fuel reads
    exact ⟨(), s', run, .scalar m' none ⟨text, style, none⟩, rfl, reads'⟩
  | .sequence m a t items =>
    simp only [Node.isWritable, Bool.and_eq_true, Option.isNone_iff_eq_none] at writable
    obtain ⟨⟨rfl, rfl⟩, writable⟩ := writable
    simp only [Node.kinds, List.length_cons, List.length_append, List.length_nil] at enough
    rw [Node.kinds, List.cons_append, List.append_assoc] at reads
    apply does_node_open .sequence block loose reads
    intro m' start s1 reads
    obtain ⟨_, s2, run, items', same, reads⟩ :=
      does_flowItems items writable true start fuel (by omega) s1 kinds _ reads
    refine ⟨(), s2, run, .sequence m' none none items', ?_, ?_⟩
    · rw [Node.bare, Node.bare, same]
    · simpa [Node.events] using reads
  | .mapping m a t entries =>
    simp only [Node.isWritable, Bool.and_eq_true, Option.isNone_iff_eq_none] at writable
    obtain ⟨⟨rfl, rfl⟩, writable⟩ := writable
    simp only [Node.kinds, List.length_cons, List.length_append, List.length_nil] at enough
    rw [Node.kinds, List.cons_append, List.append_assoc] at reads
    apply does_node_open .mapping block loose reads
    intro m' start s1 reads
    obtain ⟨_, s2, run, entries', same, reads⟩ :=
      does_flowEntries entries writable true start fuel (by omega) s1 kinds _ reads
    refine ⟨(), s2, run, .mapping m' none none entries', ?_, ?_⟩
    · rw [Node.bare, Node.bare, same]
    · simpa [Node.events] using reads
  | .cut => cases writable

theorem does_flowItems (items : List Node) (writable : Node.areWritable items) (first : Bool)
    (start : Mark) (fuel : Nat) (enough : (Node.itemKinds items).length < fuel) (s : State)
    (kinds : List Token.Kind) (events : List Event)
    (reads : Reads s (lead first ++ (Node.itemKinds items ++ .flowSequenceEnd :: kinds)) events) :
    Does (flowItems first start fuel) s fun _ s' => ∃ items' : List Node,
      Node.bareItems items' = Node.bareItems items ∧
        Reads s' kinds (.closes :: ((Node.itemEvents items').reverse ++ events)) := by
  obtain ⟨fuel, rfl⟩ : ∃ f, fuel = f + 1 := ⟨fuel - 1, by omega⟩
  cases items with
  | nil =>
    have closes : Does (flowItems first start (fuel + 1)) s fun _ s' =>
        Reads s' kinds (.closes :: events) := by
      cases first with
      | true => exact does_inner_close .sequence reads
      | false => exact does_inner_comma_close .sequence reads
    obtain ⟨_, s', run, reads'⟩ := closes
    exact ⟨(), s', run, [], rfl, reads'⟩
  | cons n items =>
    simp only [Node.areWritable, Bool.and_eq_true] at writable
    simp only [Node.itemKinds, List.length_append, List.length_cons] at enough
    obtain ⟨kind, rest, words, begins⟩ := begins_kinds n writable.1
    rw [Node.itemKinds, List.append_assoc, List.cons_append, words, List.cons_append] at reads
    apply does_flowItems_item begins first reads
    intro s1 reads
    rw [← List.cons_append, ← words] at reads
    apply (does_node n writable.1 false false fuel (by omega) s1 _ _ reads).bind
    rintro _ s2 ⟨n', same, reads⟩
    obtain ⟨_, s3, run, items', alike, reads⟩ :=
      does_flowItems items writable.2 false start fuel (by omega) s2 kinds _ reads
    refine ⟨(), s3, run, n' :: items', ?_, ?_⟩
    · rw [Node.bareItems, Node.bareItems, same, alike]
    · simpa [Node.itemEvents] using reads

theorem does_flowEntries (entries : List (Node × Node)) (writable : Node.areWritableEntries entries)
    (first : Bool) (start : Mark) (fuel : Nat) (enough : (Node.entryKinds entries).length < fuel)
    (s : State) (kinds : List Token.Kind) (events : List Event)
    (reads : Reads s (lead first ++ (Node.entryKinds entries ++ .flowMappingEnd :: kinds)) events) :
    Does (flowEntries first start fuel) s fun _ s' => ∃ entries' : List (Node × Node),
      Node.bareEntries entries' = Node.bareEntries entries ∧
        Reads s' kinds (.closes :: ((Node.entryEvents entries').reverse ++ events)) := by
  obtain ⟨fuel, rfl⟩ : ∃ f, fuel = f + 1 := ⟨fuel - 1, by omega⟩
  match entries with
  | [] =>
    have closes : Does (flowEntries first start (fuel + 1)) s fun _ s' =>
        Reads s' kinds (.closes :: events) := by
      cases first with
      | true => exact does_inner_close .mapping reads
      | false => exact does_inner_comma_close .mapping reads
    obtain ⟨_, s', run, reads'⟩ := closes
    exact ⟨(), s', run, [], rfl, reads'⟩
  | (k, v) :: entries =>
    simp only [Node.areWritableEntries, Bool.and_eq_true] at writable
    simp only [Node.entryKinds, List.length_append, List.length_cons] at enough
    obtain ⟨kind, rest, words, begins⟩ := begins_kinds k writable.1.1
    obtain ⟨kind', rest', words', begins'⟩ := begins_kinds v writable.1.2
    -- The words of the entry first, then those of the others behind their comma.
    have all : Node.entryKinds ((k, v) :: entries) ++ .flowMappingEnd :: kinds =
        .key :: kind :: (rest ++ .value :: kind' :: (rest' ++
          (lead false ++ (Node.entryKinds entries ++ .flowMappingEnd :: kinds)))) := by
      simp [Node.entryKinds, words, words', lead]
    rw [all] at reads
    apply does_flowEntries_entry
      (fun es => ∃ k' : Node, k'.bare = k.bare ∧ es = k'.events.reverse ++ events)
      begins begins' first reads
    · intro s1 reads
      rw [← List.cons_append, ← words] at reads
      obtain ⟨_, s2, run, k', same, reads⟩ :=
        does_node k writable.1.1 false false fuel (by omega) s1 _ _ reads
      exact ⟨(), s2, run, _, ⟨k', same, rfl⟩, reads⟩
    · rintro _ s1 ⟨k', same, rfl⟩ reads
      rw [← List.cons_append, ← words'] at reads
      apply (does_node v writable.1.2 false false fuel (by omega) s1 _ _ reads).bind
      rintro _ s2 ⟨v', same', reads⟩
      obtain ⟨_, s3, run, entries', alike, reads⟩ :=
        does_flowEntries entries writable.2 false start fuel (by omega) s2 kinds _ reads
      refine ⟨(), s3, run, (k', v') :: entries', ?_, ?_⟩
      · rw [Node.bareEntries, Node.bareEntries, same, same', alike]
      · simpa [Node.entryEvents] using reads

end

/-- A document without directives and markers is one node. -/
theorem does_document (n : Node) (writable : n.isWritable) (fuel : Nat)
    (enough : n.kinds.length ≤ fuel) (reads : Reads s (n.kinds ++ [.streamEnd]) []) :
    Does (document fuel) s fun _ s' =>
      ∃ n' : Node, n'.bare = n.bare ∧ Reads s' [.streamEnd] n'.events.reverse := by
  obtain ⟨kind, rest, words, begins⟩ := begins_kinds n writable
  rw [words, List.cons_append] at reads
  rw [document]
  apply (does_peek reads).bind
  rintro t s1 ⟨same, shows⟩
  have reads := shows.toReads
  rw [← List.cons_append, ← words] at reads
  rw [if_neg (by cases begins <;> simp [same])]
  simp only []
  rw [if_neg (by cases begins <;> simp [same, isDirective])]
  apply (does_node n writable true false fuel enough s1 _ _ reads).bind
  rintro _ s2 ⟨n', alike, reads⟩
  apply (does_peek reads).bind
  rintro t s3 ⟨same, shows⟩
  rw [if_neg (by simp [same])]
  exact ⟨(), s3, rfl, n', alike, by simpa using shows.toReads⟩

lemma isFollowed_of_delivers {ts : TokenStream} (delivers : ts.Delivers [.streamEnd]) (fuel : Nat) :
    isFollowed fuel ts = false := by
  cases fuel with
  | zero => rfl
  | succ fuel =>
    obtain ⟨t, ts', peeked, same, -⟩ := TokenStream.peek_of_delivers delivers
    simp [isFollowed, peeked, same]

end Grammar
end SharedSegment.Yaml
