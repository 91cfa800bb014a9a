import Mathlib.Data.List.Forall2
import SharedSegment.Proofs.Loading.Words

/-!
# Scanning within brackets

A stream of tokens that stands at a place within brackets reads the word of that place, and stands
behind it (`TokenStream.fetches_of_lexes`). Nothing that it has read before is changed by that:
within brackets whose keys are all marked no candidate ever becomes a key (`TokenStream.Fits`). So
the words of a text are the tokens that the stream gives, however far it reads ahead
(`TokenStream.peek_of_delivers`).
-/

namespace SharedSegment.Yaml.TokenStream

/-- What a candidate may be where it stands: directly within a mapping there is none, and elsewhere
none that has to be a key. -/
def Fits : Collection → Option Candidate → Prop
  | .mapping, k => k = none
  | .sequence, k => ∀ c, k = some c → c.required = false

/-- A stream has come to a place. Only a brace may stand at the start of the line, where words have
meanings of their own. -/
structure Stands (s : TokenStream) (p : Place) : Prop where
  text : s.cursor.rest = p.text
  apart : s.cursor.mark.column = 0 → ∃ r, p.text = '{' :: r
  indent : s.indent = -1
  outer : s.outer = []
  candidates : List.Forall₂ Fits p.levels s.candidates
  allowed : s.keyAllowed = p.allowed

variable {s : TokenStream} {ls : List Collection} {l l' : Collection} {allowed : Bool}
  {lead r : List Char} {k : Option Candidate} {ks : List (Option Candidate)}

lemma fits_none (l : Collection) : Fits l none := by
  cases l with
  | sequence => exact nofun
  | mapping => rfl

lemma Fits.not_required {c : Candidate} (fits : Fits l (some c)) : c.required = false := by
  cases l with
  | sequence => exact fits c rfl
  | mapping => cases fits

lemma refresh_of_fits (fits : Fits l k) (m : Mark) : ∃ k', refresh m k = .ok k' ∧ Fits l k' := by
  cases k with
  | none => exact ⟨none, rfl, fits⟩
  | some c =>
    by_cases stale : Candidate.isStale c m
    · refine ⟨none, ?_, fits_none l⟩
      rw [refresh, if_pos stale, if_neg (by simp [fits.not_required])]
    · exact ⟨some c, by rw [refresh, if_neg stale], fits⟩

lemma mapM_refresh (fits : List.Forall₂ Fits ls ks) (m : Mark) :
    ∃ ks', ks.mapM (refresh m) = .ok ks' ∧ List.Forall₂ Fits ls ks' := by
  induction fits with
  | nil => exact ⟨[], rfl, .nil⟩
  | cons fit _ ih =>
    obtain ⟨k', fresh, fit'⟩ := refresh_of_fits fit m
    obtain ⟨ks', freshes, fits'⟩ := ih
    refine ⟨k' :: ks', ?_, .cons fit' fits'⟩
    simp [List.mapM_cons, fresh, freshes, bind, Except.bind, pure, Except.pure]

/-- Candidates become stale without harm. -/
lemma dropStale_of_fits (fits : List.Forall₂ Fits ls s.candidates) :
    ∃ ks, s.dropStale = .ok { s with candidates := ks } ∧ List.Forall₂ Fits ls ks := by
  obtain ⟨ks, freshes, fits'⟩ := mapM_refresh (List.forall₂_reverse_iff.2 fits) s.cursor.mark
  refine ⟨ks.reverse, ?_, by simpa using List.forall₂_reverse_iff.2 fits'⟩
  simp [dropStale, freshes, bind, Except.bind, pure, Except.pure]

/-- Where a candidate is no key, it is dropped without harm. -/
lemma dropCandidate_of_fits (fits : List.Forall₂ Fits (l :: ls) s.candidates) :
    s.dropCandidate = .ok (s.setCandidate none) := by
  obtain ⟨cursor, queue, taken, candidates, indent, outer, keyAllowed⟩ := s
  cases fits with
  | @cons _ k _ ks fit _ =>
    cases k with
    | none => rfl
    | some c => simp [dropCandidate, candidate?, setCandidate, fit.not_required]

/-- A word begins at once: there is no blank, no comment and no break. -/
def IsWord (r : List Char) : Prop :=
  ∀ x ∈ r.head?, x ≠ ' ' ∧ x ≠ '\t' ∧ x ≠ '#' ∧ isBreak x = false

lemma skipWhile_of_blank {c : Cursor} {tabs : Bool} (blank : AreBlank lead) (word : IsWord r)
    (here : c.rest = lead ++ r) :
    c.skipWhile (fun x => x == ' ' || tabs && x == '\t') = c.skip lead.length := by
  have stop : r.takeWhile (fun x => x == ' ' || tabs && x == '\t') = [] := by
    cases r with
    | nil => rfl
    | cons x r =>
      obtain ⟨space, tab, -⟩ := word x rfl
      simp [space, tab]
  have all : ∀ x ∈ lead, (x == ' ' || tabs && x == '\t') = true := by
    intro x mem
    simp [blank x mem]
  rw [Cursor.skipWhile, here, List.takeWhile_append_of_pos all, stop, List.append_nil]

/-- Blanks in front of a word are passed over, and nothing else. -/
lemma skipToToken_of_word (fuel : Nat) (blank : AreBlank lead) (word : IsWord r)
    (here : s.cursor.rest = lead ++ r)
    (apart : s.cursor.mark.column = 0 → ∃ r', lead ++ r = '{' :: r') :
    skipToToken (fuel + 1) s = { s with cursor := s.cursor.skip lead.length } := by
  have bom : (s.cursor.mark.column == 0 && s.cursor.at? '\uFEFF') = false := by
    rw [Bool.and_eq_false_imp]
    intro column
    obtain ⟨r', brace⟩ := apart (by simpa using column)
    simp [Cursor.at?, Cursor.peek, here, brace]
  have behind : (s.cursor.skip lead.length).rest = r := Cursor.skip_length here
  have comment : (s.cursor.skip lead.length).at? '#' = false := by
    simp only [Cursor.at?, Cursor.peek, behind]
    cases r with
    | nil => rfl
    | cons x r => simp [(word x rfl).2.2.1]
  have line : (s.cursor.skip lead.length).atBreak = false := by
    simp only [Cursor.atBreak, Cursor.peek, behind]
    cases r with
    | nil => rfl
    | cons x r => simp [(word x rfl).2.2.2]
  rw [skipToToken]
  simp only [bom, Bool.false_eq_true, if_false, skipWhile_of_blank blank word here,
    Cursor.skipComment, comment, line]

lemma unroll_of_outer (outer : s.outer = []) (limit : Int) : s.unroll limit = s := by
  obtain ⟨cursor, queue, taken, candidates, indent, outer, keyAllowed⟩ := s
  cases outer
  simp [unroll, closeBlocks]

/-- A stream comes to the word in front of it, with the tokens that it has read before. -/
lemma Stands.settle (stands : Stands s ⟨ls, allowed, lead ++ r⟩) (blank : AreBlank lead)
    (word : IsWord r) :
    ∃ s', (skipToToken (s.cursor.rest.length + 1) s).dropStale = .ok s' ∧
      s'.unroll s'.column = s' ∧ s'.queue = s.queue ∧ Stands s' ⟨ls, allowed, r⟩ := by
  have skipped := skipToToken_of_word s.cursor.rest.length blank word stands.text stands.apart
  rw [skipped]
  obtain ⟨ks, fresh, fits⟩ := dropStale_of_fits
    (s := { s with cursor := s.cursor.skip lead.length }) stands.candidates
  have unrolled := unroll_of_outer
    (s := { s with cursor := s.cursor.skip lead.length, candidates := ks }) stands.outer
  refine ⟨_, fresh, unrolled _, rfl, ?_⟩
  constructor
  case text => exact Cursor.skip_length stands.text
  case apart =>
    intro column
    have none : lead = [] := List.eq_nil_of_length_eq_zero (Nat.eq_zero_of_add_eq_zero_left column)
    subst none
    exact stands.apart column
  case indent => exact stands.indent
  case outer => exact stands.outer
  case candidates => exact fits
  case allowed => exact stands.allowed

/-- No document marker stands within brackets. -/
lemma Stands.not_markers {p : Place} (stands : Stands s p) :
    s.cursor.atMarker '-' = false ∧ s.cursor.atMarker '.' = false := by
  by_cases column : s.cursor.mark.column = 0
  · obtain ⟨r, brace⟩ := stands.apart column
    simp [Cursor.atMarker, stands.text, brace]
  · exact ⟨Cursor.atMarker_of_inside column '-', Cursor.atMarker_of_inside column '.'⟩

/-- Behind a word the stream stands where the word leads. -/
lemma Stands.behind {s' : TokenStream} {ls' : List Collection} {w : List Char} {allowed' : Bool}
    (stands : Stands s ⟨ls, allowed, w ++ r⟩) (some : w ≠ [])
    (cursor : s'.cursor = s.cursor.skip w.length) (indent : s'.indent = s.indent)
    (outer : s'.outer = s.outer) (candidates : List.Forall₂ Fits ls' s'.candidates)
    (allowed : s'.keyAllowed = allowed') : Stands s' ⟨ls', allowed', r⟩ where
  text := by rw [cursor, Cursor.skip_length stands.text]
  apart := by
    intro column
    rw [cursor, Cursor.skip_column] at column
    have length := List.length_pos_of_ne_nil some
    omega
  indent := by rw [indent, stands.indent]
  outer := by rw [outer, stands.outer]
  candidates := candidates
  allowed := allowed

/-- Within brackets a scalar or a bracket becomes a candidate only where it fits. -/
lemma Stands.offerCandidate (stands : Stands s ⟨l :: ls, allowed, r⟩)
    (marked : allowed = true → l = .sequence) :
    ∃ k, s.offerCandidate = .ok (s.setCandidate k) ∧ Fits l k := by
  obtain ⟨k, ks, fit, -, here⟩ := List.forall₂_cons_left_iff.1 stands.candidates
  rw [TokenStream.offerCandidate]
  cases may : s.keyAllowed with
  | false =>
    refine ⟨k, ?_, fit⟩
    rw [setCandidate, here, List.tail_cons, ← here]
    rfl
  | true =>
    cases marked (stands.allowed.symm.trans may)
    -- Outside of all blocks no column is that of the block.
    have outside : (s.indent == s.column) = false := by
      have column : (0 : Int) ≤ s.column := Int.natCast_nonneg _
      rw [stands.indent, beq_eq_false_iff_ne]
      omega
    rw [outside, Bool.and_false, dropCandidate_of_fits stands.candidates]
    refine ⟨_, rfl, fun c same => ?_⟩
    cases same
    rfl

lemma inFlow_of_fits (fits : List.Forall₂ Fits (l :: l' :: ls) s.candidates) :
    s.inFlow = true := by
  have length := fits.length_eq
  simp [TokenStream.inFlow, ← length]

lemma fits_setCandidate (fits : List.Forall₂ Fits (l :: ls) s.candidates) (fit : Fits l k) :
    List.Forall₂ Fits (l :: ls) (s.setCandidate k).candidates := by
  obtain ⟨_, ks, -, fits, here⟩ := List.forall₂_cons_left_iff.1 fits
  rw [setCandidate, here]
  exact .cons fit fits

lemma Stands.peek {x : Char} (stands : Stands s ⟨ls, allowed, x :: r⟩) :
    s.cursor.peek = some x := by
  rw [Cursor.peek, stands.text, List.head?_cons]

/-- A stream reads one token and comes to a place. -/
def Fetches (s : TokenStream) (kind : Token.Kind) (p : Place) : Prop :=
  ∃ s' t, s.fetch = .ok s' ∧ s'.queue = s.queue ++ [t] ∧ t.kind = kind ∧ Stands s' p

lemma fetches_open (kind : Collection) (blank : AreBlank lead)
    (marked : allowed = true → l = .sequence)
    (stands : Stands s ⟨l :: ls, allowed, lead ++ kind.opener :: r⟩) :
    Fetches s kind.openerKind ⟨kind :: l :: ls, true, r⟩ := by
  have word : IsWord (kind.opener :: r) := by
    cases kind <;> simp [IsWord, Collection.opener, isBreak]
  obtain ⟨s', fresh, unrolled, queue, stands'⟩ := stands.settle blank word
  obtain ⟨k, offered, fit⟩ := stands'.offerCandidate marked
  have fetched : s.fetch = s'.fetchOpen kind.openerKind := by
    simp only [fetch, fresh, bind, Except.bind, unrolled, stands'.peek, stands'.not_markers]
    cases kind <;> simp [Collection.opener, Collection.openerKind]
  have candidates := List.Forall₂.cons (fits_none kind) (fits_setCandidate stands'.candidates fit)
  rw [Fetches, fetched, fetchOpen, offered]
  exact ⟨_, _, rfl, congrArg (· ++ [_]) queue, rfl,
    stands'.behind (w := [kind.opener]) (List.cons_ne_nil _ _) rfl rfl rfl candidates rfl⟩

lemma fetches_close (kind : Collection) (blank : AreBlank lead)
    (stands : Stands s ⟨l :: l' :: ls, allowed, lead ++ kind.closer :: r⟩) :
    Fetches s kind.closerKind ⟨l' :: ls, false, r⟩ := by
  have word : IsWord (kind.closer :: r) := by
    cases kind <;> simp [IsWord, Collection.closer, isBreak]
  obtain ⟨s', fresh, unrolled, queue, stands'⟩ := stands.settle blank word
  have fetched : s.fetch = s'.fetchClose kind.closerKind := by
    simp only [fetch, fresh, bind, Except.bind, unrolled, stands'.peek, stands'.not_markers]
    cases kind <;> simp [Collection.closer, Collection.closerKind]
  have dropped := fits_setCandidate stands'.candidates (fits_none l)
  have candidates : List.Forall₂ Fits (l' :: ls) (s'.setCandidate none).candidates.tail :=
    (List.forall₂_cons.1 dropped).2
  rw [Fetches, fetched, fetchClose, dropCandidate_of_fits stands'.candidates]
  simp only [bind, Except.bind, inFlow_of_fits dropped, if_true]
  exact ⟨_, _, rfl, congrArg (· ++ [_]) queue, rfl,
    stands'.behind (w := [kind.closer]) (List.cons_ne_nil _ _) rfl rfl rfl candidates rfl⟩

lemma fetches_comma (blank : AreBlank lead)
    (stands : Stands s ⟨l :: ls, allowed, lead ++ ',' :: r⟩) :
    Fetches s .flowEntry ⟨l :: ls, true, r⟩ := by
  obtain ⟨s', fresh, unrolled, queue, stands'⟩ := stands.settle blank (by simp [IsWord, isBreak])
  have fetched : s.fetch = s'.fetchComma := by
    simp only [fetch, fresh, bind, Except.bind, unrolled, stands'.peek, stands'.not_markers]
    simp
  have candidates := fits_setCandidate stands'.candidates (fits_none l)
  rw [Fetches, fetched, fetchComma, dropCandidate_of_fits stands'.candidates]
  exact ⟨_, _, rfl, congrArg (· ++ [_]) queue, rfl,
    stands'.behind (w := [',']) (List.cons_ne_nil _ _) rfl rfl rfl candidates rfl⟩

lemma fetches_key (blank : AreBlank lead)
    (stands : Stands s ⟨l :: l' :: ls, allowed, lead ++ '?' :: r⟩) :
    Fetches s .key ⟨l :: l' :: ls, false, r⟩ := by
  obtain ⟨s', fresh, unrolled, queue, stands'⟩ := stands.settle blank (by simp [IsWord, isBreak])
  have inside := inFlow_of_fits stands'.candidates
  have fetched : s.fetch = s'.fetchKey := by
    simp only [fetch, fresh, bind, Except.bind, unrolled, stands'.peek, stands'.not_markers,
      inside]
    simp
  have candidates := fits_setCandidate stands'.candidates (fits_none l)
  rw [Fetches, fetched, fetchKey, openHere, if_pos inside]
  simp only [bind, Except.bind, dropCandidate_of_fits stands'.candidates, inFlow_of_fits candidates]
  exact ⟨_, _, rfl, congrArg (· ++ [_]) queue, rfl,
    stands'.behind (w := ['?']) (List.cons_ne_nil _ _) rfl rfl rfl candidates rfl⟩

/-- Directly within a mapping there is no candidate that a colon could make a key. -/
lemma fetches_value (blank : AreBlank lead)
    (stands : Stands s ⟨.mapping :: l' :: ls, allowed, lead ++ ':' :: r⟩) :
    Fetches s .value ⟨.mapping :: l' :: ls, false, r⟩ := by
  obtain ⟨s', fresh, unrolled, queue, stands'⟩ := stands.settle blank (by simp [IsWord, isBreak])
  have inside := inFlow_of_fits stands'.candidates
  have fetched : s.fetch = s'.fetchValue := by
    simp only [fetch, fresh, bind, Except.bind, unrolled, stands'.peek, stands'.not_markers,
      inside]
    simp
  obtain ⟨k, ks, fit, -, here⟩ := List.forall₂_cons_left_iff.1 stands'.candidates
  have none : s'.candidate? = none := by
    rw [candidate?, here, fit]
    rfl
  rw [Fetches, fetched, fetchValue, none]
  simp only [openHere, if_pos inside, bind, Except.bind]
  exact ⟨_, _, rfl, congrArg (· ++ [_]) queue, rfl,
    stands'.behind (w := [':']) (List.cons_ne_nil _ _) rfl rfl rfl stands'.candidates
      (by simp [mark, push, inside])⟩

lemma fetches_quoted {cs : List Char} (blank : AreBlank lead)
    (marked : allowed = true → l = .sequence)
    (stands : Stands s ⟨l :: ls, allowed, lead ++ (quoted cs ++ r)⟩) :
    Fetches s (.scalar (String.ofList cs) .doubleQuoted) ⟨l :: ls, false, r⟩ := by
  obtain ⟨s', fresh, unrolled, queue, stands'⟩ :=
    stands.settle blank (by simp [IsWord, isBreak, quoted])
  obtain ⟨k, offered, fit⟩ := stands'.offerCandidate marked
  have peek : s'.cursor.peek = some '"' := stands'.peek
  have fetched : s.fetch = s'.fetchQuoted .double := by
    simp only [fetch, fresh, bind, Except.bind, unrolled, peek, stands'.not_markers]
    simp
  have read : Quoted.read .double (s'.setCandidate k).cursor = _ :=
    Quoted.read_quoted cs stands'.text
  have candidates := fits_setCandidate stands'.candidates fit
  rw [Fetches, fetched, fetchQuoted, offered]
  simp only [bind, Except.bind, read]
  exact ⟨_, _, rfl, congrArg (· ++ [_]) queue, rfl,
    stands'.behind (w := quoted cs) (List.cons_ne_nil _ _) rfl rfl rfl candidates rfl⟩

lemma isWord_of_isPlainChar {x : Char} (plain : isPlainChar x) : IsWord (x :: r) := by
  have solid := Plain.not_endsWord_of_isPlainChar plain
  have hash : x ≠ '#' := Plain.ne_of_isPlainChar plain (by decide)
  simp only [endsWord, isBlank, Bool.or_eq_false_iff, beq_eq_false_iff_ne] at solid
  rintro _ ⟨⟩
  exact ⟨solid.1.1, solid.1.2, hash, solid.2⟩

/-- A plain character begins none of the other words. -/
lemma fetch_of_isPlainChar {s' : TokenStream} {x : Char} (plain : isPlainChar x)
    (fresh : (skipToToken (s.cursor.rest.length + 1) s).dropStale = .ok s')
    (unrolled : s'.unroll s'.column = s') (stands : Stands s' ⟨ls, allowed, x :: r⟩) :
    s.fetch = s'.fetchPlain := by
  have other {y : Char} (indicates : y ∈ indicators) : (x == y) = false :=
    beq_false_of_ne (Plain.ne_of_isPlainChar plain indicates)
  have begins : beginsPlain s'.inFlow x (s'.cursor.peekAt 1) = true := by
    simp only [isPlainChar, Bool.and_eq_true] at plain
    rw [beginsPlain, plain.1, Bool.true_or, Bool.true_or]
  simp only [fetch, fresh, bind, Except.bind, unrolled, stands.peek, stands.not_markers,
    other (y := '%') (by decide), other (y := '[') (by decide), other (y := ']') (by decide),
    other (y := '\x7b') (by decide), other (y := '\x7d') (by decide), other (y := ',') (by decide),
    other (y := '-') (by decide), other (y := '?') (by decide), other (y := ':') (by decide),
    other (y := '*') (by decide), other (y := '&') (by decide), other (y := '!') (by decide),
    other (y := '|') (by decide), other (y := '>') (by decide), other (y := '\'') (by decide),
    other (y := '"') (by decide), begins]
  simp

lemma fetches_plain {w : List Char} (blank : AreBlank lead)
    (marked : allowed = true → l = .sequence) (some : w ≠ []) (plain : w.all isPlainChar)
    (ends : Plain.Ends r) (stands : Stands s ⟨l :: l' :: ls, allowed, lead ++ (w ++ r)⟩) :
    Fetches s (.scalar (String.ofList w) .plain) ⟨l :: l' :: ls, false, r⟩ := by
  obtain ⟨x, w', rfl⟩ := List.exists_cons_of_ne_nil some
  have first : isPlainChar x := by
    rw [List.all_cons, Bool.and_eq_true] at plain
    exact plain.1
  obtain ⟨s', fresh, unrolled, queue, stands'⟩ := stands.settle blank (isWord_of_isPlainChar first)
  obtain ⟨k, offered, fit⟩ := stands'.offerCandidate marked
  have fetched := fetch_of_isPlainChar first fresh unrolled stands'
  have apart : s'.cursor.mark.column ≠ 0 := by
    intro column
    obtain ⟨_, brace⟩ := stands'.apart column
    cases brace
    cases first
  -- A plain word might go on over the end of a line, at which the column of its block would count.
  obtain ⟨stop, read⟩ := Plain.read_word (s'.indent + 1).toNat apart some plain ends stands'.text
  have candidates := fits_setCandidate stands'.candidates fit
  rw [← inFlow_of_fits candidates] at read
  have word : Plain.read _ ((s'.setCandidate k).indent + 1).toNat (s'.setCandidate k).cursor = _ :=
    read
  rw [Fetches, fetched, fetchPlain, offered]
  simp only [bind, Except.bind, word]
  exact ⟨_, _, rfl, congrArg (· ++ [_]) queue, rfl,
    stands'.behind (w := x :: w') some rfl rfl rfl candidates rfl⟩
/-- The word of a place is the next token. -/
theorem fetches_of_lexes {p q : Place} {kind : Token.Kind} (word : Lexes p kind q)
    (stands : Stands s p) : Fetches s kind q := by
  cases word with
  | opens kind blank marked => exact fetches_open kind blank marked stands
  | closes kind blank => exact fetches_close kind blank stands
  | comma blank => exact fetches_comma blank stands
  | key blank => exact fetches_key blank stands
  | value blank => exact fetches_value blank stands
  | quoted blank marked => exact fetches_quoted blank marked stands
  | plain blank marked some plain ends => exact fetches_plain blank marked some plain ends stands

/-- At the end of the text the last token is taken, and no candidate is left. -/
lemma fetch_of_end (stands : Stands s ⟨[l], allowed, []⟩) :
    ∃ s' t, s.fetch = .ok s' ∧ s'.queue = s.queue ++ [t] ∧ t.kind = .streamEnd ∧
      s'.candidates = [none] := by
  obtain ⟨s', fresh, unrolled, queue, stands'⟩ :=
    @Stands.settle s [l] allowed [] [] stands areBlank_nil nofun
  have peek : s'.cursor.peek = none := by
    rw [Cursor.peek, stands'.text]
    rfl
  have fetched : s.fetch = s'.fetchEnd := by
    simp only [fetch, fresh, bind, Except.bind, unrolled, peek]
  let last : Mark := if s'.cursor.mark.column = 0 then s'.cursor.mark
    else ⟨s'.cursor.mark.index, s'.cursor.mark.line + 1, 0⟩
  have unrolled' := unroll_of_outer (s := { s' with cursor := ⟨[], last⟩ }) stands'.outer (-1)
  have dropped := dropCandidate_of_fits (s := { s' with cursor := ⟨[], last⟩ }) stands'.candidates
  have alone : s'.candidates.tail = [] := by
    have length := stands'.candidates.length_eq
    exact List.eq_nil_of_length_eq_zero (by simp [← length])
  rw [fetched, fetchEnd, unrolled', dropped]
  exact ⟨_, _, rfl, congrArg (· ++ [_]) queue, rfl, congrArg (none :: ·) alone⟩

/-- A stream gives tokens of some kinds: those that it has read, and those of the words in front of
it. At the end there is nothing that could change them. -/
inductive Delivers (s : TokenStream) : List Token.Kind → Prop
  | reads {p l allowed kinds} (stands : Stands s p) (words : LexesTo p kinds ⟨[l], allowed, []⟩) :
      Delivers s (s.queue.map (·.kind) ++ (kinds ++ [.streamEnd]))
  | ended (idle : s.candidates = [none]) : Delivers s (s.queue.map (·.kind))

variable {kinds : List Token.Kind}

lemma Delivers.fetch (delivers : Delivers s kinds) (empty : s.queue = [] ∨ s.isHeldBack)
    (some : kinds ≠ []) : ∃ s', s.fetch = .ok s' ∧ Delivers s' kinds ∧ s'.queue ≠ [] := by
  cases delivers with
  | ended idle =>
    exfalso
    cases empty with
    | inl empty => simp [empty] at some
    | inr held => simp [isHeldBack, idle] at held
  | @reads p l allowed kinds stands words =>
    cases words with
    | refl =>
      obtain ⟨s', t, fetched, queue, kind, idle⟩ := fetch_of_end stands
      have delivers := Delivers.ended idle
      simp only [queue, List.map_append, List.map_cons, List.map_nil, kind] at delivers
      exact ⟨s', fetched, delivers, by simp [queue]⟩
    | @head _ q _ _ kinds word rest =>
      obtain ⟨s', t, fetched, queue, kind, stands'⟩ := fetches_of_lexes word stands
      have delivers := Delivers.reads stands' rest
      simp only [queue, List.map_append, List.map_cons, List.map_nil, kind] at delivers
      exact ⟨s', fetched, by simpa using delivers, by simp [queue]⟩

lemma Delivers.dropStale (delivers : Delivers s kinds) :
    ∃ s', s.dropStale = .ok s' ∧ Delivers s' kinds ∧ s'.queue = s.queue := by
  cases delivers with
  | ended idle =>
    have fresh : s.dropStale = .ok { s with candidates := [none] } := by
      rw [TokenStream.dropStale, idle]
      rfl
    exact ⟨_, fresh, .ended rfl, rfl⟩
  | reads stands words =>
    obtain ⟨ks, fresh, fits⟩ := dropStale_of_fits stands.candidates
    exact ⟨_, fresh, .reads { stands with candidates := fits } words, rfl⟩

/-- However many tokens are read in order to be certain of the first, it stays what it is. -/
lemma Delivers.fill (delivers : Delivers s kinds) (some : kinds ≠ []) (fuel : Nat)
    (begun : fuel = 0 → s.queue ≠ []) :
    ∃ s', fill fuel s = .ok s' ∧ Delivers s' kinds ∧ s'.queue ≠ [] := by
  -- A token that is held back is read behind, too: no colon ever takes up its candidate, so that it
  -- stays at the head of the queue until the fuel or the text ends.
  induction fuel generalizing s with
  | zero => exact ⟨s, rfl, delivers, begun rfl⟩
  | succ fuel ih =>
    rw [TokenStream.fill]
    by_cases empty : s.queue = []
    · obtain ⟨s', fetched, delivers', more⟩ := delivers.fetch (.inl empty) some
      simp only [empty, List.isEmpty_nil, if_true, fetched]
      exact ih delivers' fun _ => more
    · obtain ⟨s', fresh, delivers', same⟩ := delivers.dropStale
      have held : s.queue.isEmpty = false := by simpa using empty
      simp only [held, fresh, bind, Except.bind, Bool.false_eq_true, if_false]
      by_cases back : s'.isHeldBack
      · obtain ⟨s'', fetched, delivers'', more⟩ := delivers'.fetch (.inr back) some
        simp only [back, if_true, fetched]
        exact ih delivers'' fun _ => more
      · simp only [back]
        exact ⟨s', rfl, delivers', same ▸ empty⟩

lemma Stands.drop {p : Place} (stands : Stands s p) : Stands s.drop p :=
  ⟨stands.text, stands.apart, stands.indent, stands.outer, stands.candidates, stands.allowed⟩

/-- What has been read is taken token by token. -/
lemma Delivers.drop {kind : Token.Kind} {t : Token} {queue : List Token}
    (delivers : Delivers s (kind :: kinds)) (here : s.queue = t :: queue) :
    t.kind = kind ∧ Delivers s.drop kinds := by
  have behind : s.drop.queue = queue := by rw [TokenStream.drop, here, List.tail_cons]
  generalize all : kind :: kinds = given at delivers
  cases delivers with
  | reads stands words =>
    rw [here, List.map_cons, List.cons_append, List.cons.injEq] at all
    obtain ⟨rfl, rfl⟩ := all
    exact ⟨rfl, behind ▸ .reads stands.drop words⟩
  | ended idle =>
    rw [here, List.map_cons, List.cons.injEq] at all
    obtain ⟨rfl, rfl⟩ := all
    exact ⟨rfl, behind ▸ .ended idle⟩

/-- The next token is of the first kind, and the others come after it. -/
theorem peek_of_delivers {kind : Token.Kind} (delivers : Delivers s (kind :: kinds)) :
    ∃ t s', s.peek = .ok (t, s') ∧ t.kind = kind ∧ Delivers s' (kind :: kinds) ∧
      Delivers s'.drop kinds := by
  obtain ⟨s', filled, delivers', some⟩ :=
    delivers.fill (List.cons_ne_nil _ _) (s.cursor.rest.length + 2) nofun
  obtain ⟨t, queue, here⟩ := List.exists_cons_of_ne_nil some
  obtain ⟨same, behind⟩ := delivers'.drop here
  refine ⟨t, s', ?_, same, delivers', behind⟩
  simp only [TokenStream.peek, filled, bind, Except.bind, here, pure, Except.pure]

/-- A stream at the start of a text in braces gives its words, and then the end. -/
theorem delivers_of_lexesTo {cs : List Char} (words : LexesTo ⟨[.sequence], true, '{' :: cs⟩ kinds
    ⟨[l], allowed, []⟩) : Delivers (ofCursor ⟨'{' :: cs, .zero⟩) (kinds ++ [.streamEnd]) := by
  -- Outside of all brackets a brace may become a candidate, as an item of a sequence may.
  have outside : List.Forall₂ Fits [.sequence] [none] := .cons (fits_none _) .nil
  exact .reads ⟨rfl, fun _ => ⟨cs, rfl⟩, rfl, rfl, outside, rfl⟩ words

end SharedSegment.Yaml.TokenStream
