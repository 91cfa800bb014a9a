import Mathlib.Data.List.Forall2
import SharedSegment.Proofs.Asking

/-!
# Programs that differ in labels

Two programs are alike if they ask for the same things and put the same things out, apart from the
label of a flavor, and apart from pinning pages and telling that this has failed (`Program.Alike`).
Run side by side on one host, with faults that differ in the pinning of pages at most, they come to
the same point and leave the same host (`run_alike`).
-/

namespace SharedSegment
open Program

/-- Two records say the same, but for the field that names the backend. -/
structure Event.Alike (e e' : Event) : Prop where
  level : e.level = e'.level
  target : e.target = e'.target
  sentence : e.sentence = e'.sentence
  fields : e.fields.filter (·.1 != "backend") = e'.fields.filter (·.1 != "backend")

/-- Whether a record tells that pages could not be pinned. -/
def Output.isPinFailure : Output → Bool
  | .log (.pinFailed ..) => true
  | _ => false

/-- Two outputs are the same, but for the label of a flavor. -/
inductive Output.Alike : Output → Output → Prop where
  | log {e e'} :
    e.Alike e' →
    Alike (.log e) (.log e')
  | line {s} :
    Alike (.line s) (.line s)
  /-- The line that shows the flavor of a segment. -/
  | backend {f f' : Flavor} :
    Alike (.line ("  Backend: " ++ f.label)) (.line ("  Backend: " ++ f'.label))

/-- Two sequences of outputs are alike where they do not tell that pages could not be pinned. -/
def Output.AreAlike (outputs outputs' : List Output) : Prop :=
  List.Forall₂ Output.Alike (outputs.filter fun o => !o.isPinFailure)
    (outputs'.filter fun o => !o.isPinFailure)

/-- Whether a request is one to pin pages. -/
def Request.isPin : Request → Bool
  | .pin _ => true
  | _ => false

/-- Two programs ask for the same and put out what is alike, whatever the answers are. Either of
them may pin pages, and tell that this has failed. -/
inductive Program.Alike {α β : Type} (R : α → β → Prop) : Program α → Program β → Prop where
  | ret {a b} :
    R a b →
    Alike R (.ret a) (.ret b)
  | put {o o' p p'} :
    o.Alike o' →
    o.isPinFailure = false →
    o'.isPinFailure = false →
    Alike R p p' →
    Alike R (.put o p) (.put o' p')
  | putLeft {o p p'} :
    o.isPinFailure →
    Alike R p p' →
    Alike R (.put o p) p'
  | putRight {o p p'} :
    o.isPinFailure →
    Alike R p p' →
    Alike R p (.put o p')
  | ask {r next next'} :
    r.isPin = false →
    (∀ a, Alike R (next a) (next' a)) →
    Alike R (.ask r next) (.ask r next')
  | pinLeft {m next p'} :
    (∀ a, Alike R (next a) p') →
    Alike R (.ask (.pin m) next) p'
  | pinRight {m p next'} :
    (∀ a, Alike R p (next' a)) →
    Alike R p (.ask (.pin m) next')

/-- A program asks for no pages to be pinned. -/
abbrev Program.PinsNothing {α : Type} (p : Program α) : Prop := p.Asks fun r => r.isPin = false

/-- Two results are the same failure, or successes that are related. -/
inductive OkAlike {ε α β : Type} (R : α → β → Prop) : Except ε α → Except ε β → Prop where
  | ok {a b} :
    R a b →
    OkAlike R (.ok a) (.ok b)
  | error {e} :
    OkAlike R (.error e) (.error e)

/-- Two programs under way have come to points that are alike. -/
inductive Progress.Alike {α β : Type} (R : α → β → Prop) : Progress α → Progress β → Prop where
  | ended {a b} :
    R a b →
    Alike R (.ended a) (.ended b)
  | waiting {r next next'} :
    (∀ a, (next a).Alike R (next' a)) →
    Alike R (.waiting r next) (.waiting r next')

/-- Two plans make the same calls fail, but for those that pin pages. -/
structure Faults.Alike (f f' : Faults) : Prop where
  planned : f.planned.filter (·.call != .mlock) = f'.planned.filter (·.call != .mlock)
  made : ∀ c ≠ .mlock, f.made.count c = f'.made.count c

/-- Two programs under way are alike, and so are the faults ahead of them and their outputs. -/
structure Running.Alike {α β : Type} (R : α → β → Prop) (p : Running α) (p' : Running β) :
    Prop where
  progress : p.progress.Alike R p'.progress
  faults : p.faults.Alike p'.faults
  outputs : Output.AreAlike p.outputs p'.outputs

lemma OkAlike.bind {ε α α' β β' : Type} {R : α → α' → Prop} {S : β → β' → Prop} {x : Except ε α}
    {x' : Except ε α'} {f : α → Except ε β} {f' : α' → Except ε β'} (alike : OkAlike R x x')
    (next : ∀ a a', R a a' → OkAlike S (f a) (f' a')) : OkAlike S (x >>= f) (x' >>= f') := by
  cases alike with
  | ok same => exact next _ _ same
  | error => exact .error

namespace Event

variable {n : Name} {f f' : Flavor} {e : Errno} {size : UInt32}

lemma alike_refl (e : Event) : e.Alike e := ⟨rfl, rfl, rfl, rfl⟩

lemma filter_heading (l : List (String × FieldValue)) :
    (heading n f ++ l).filter (·.1 != "backend") =
      ("name", .bare n.text) :: l.filter (·.1 != "backend") := by
  simp [heading]

/-- Two records with a heading differ in the backend only. -/
lemma alike_of_heading {e e' : Event} {l : List (String × FieldValue)} (level : e.level = e'.level)
    (target : e.target = e'.target) (sentence : e.sentence = e'.sentence)
    (fields : e.fields = heading n f ++ l) (fields' : e'.fields = heading n f' ++ l) :
    e.Alike e' :=
  ⟨level, target, sentence, by rw [fields, fields', filter_heading, filter_heading]⟩

end Event

namespace Output

variable {o o' : Output} {outputs outputs' : List Output}

lemma areAlike_nil : AreAlike [] [] := .nil

lemma AreAlike.cons (same : o.Alike o') (tells : o.isPinFailure = false)
    (tells' : o'.isPinFailure = false) (alike : AreAlike outputs outputs') :
    AreAlike (o :: outputs) (o' :: outputs') := by
  unfold AreAlike
  rw [List.filter_cons_of_pos (by simp [tells]), List.filter_cons_of_pos (by simp [tells'])]
  exact .cons same alike

lemma AreAlike.left (tells : o.isPinFailure) (alike : AreAlike outputs outputs') :
    AreAlike (o :: outputs) outputs' := by
  unfold AreAlike
  rwa [List.filter_cons_of_neg (by simp [tells])]

lemma AreAlike.right (tells : o.isPinFailure) (alike : AreAlike outputs outputs') :
    AreAlike outputs (o :: outputs') := by
  unfold AreAlike
  rwa [List.filter_cons_of_neg (by simp [tells])]

lemma AreAlike.reverse (alike : AreAlike outputs outputs') :
    AreAlike outputs.reverse outputs'.reverse := by
  unfold AreAlike
  rw [List.filter_reverse, List.filter_reverse]
  exact List.rel_reverse alike

end Output

namespace Program

variable {α α' β β' : Type} {R : α → α' → Prop} {S : β → β' → Prop} {p : Program α}
  {p' : Program α'} {f : α → Program β} {f' : α' → Program β'}

/-- Records are put out alike. -/
lemma alike_log {e e' : Event} (alike : e.Alike e') (tells : (Output.log e).isPinFailure = false)
    (tells' : (Output.log e').isPinFailure = false) : (Program.log e).Alike Eq (Program.log e') :=
  .put (.log alike) tells tells' (.ret rfl)

/-- What follows a record is alike if the records are. -/
lemma alike_tell {e e' : Event} {q : Unit → Program α} {q' : Unit → Program α'} (alike : e.Alike e')
    (tells : (Output.log e).isPinFailure = false) (tells' : (Output.log e').isPinFailure = false)
    (next : (q ()).Alike R (q' ())) : ((Program.log e).bind q).Alike R ((Program.log e').bind q') :=
  .put (.log alike) tells tells' next

lemma alike_line (s : String) : (Program.line s).Alike Eq (Program.line s) :=
  .put .line rfl rfl (.ret rfl)

lemma alike_ite {d : Prop} [Decidable d] {q : Program α} {q' : Program α'} (yes : p.Alike R p')
    (no : q.Alike R q') : (if d then p else q).Alike R (if d then p' else q') := by
  split
  · exact yes
  · exact no

lemma alike_ask {r : Request} {f : r.Answer → Program α} {f' : r.Answer → Program α'}
    (other : r.isPin = false) (next : ∀ a, (f a).Alike R (f' a)) :
    ((Program.request r).bind f).Alike R ((Program.request r).bind f') :=
  .ask other next

lemma Alike.mono {R' : α → α' → Prop} (alike : p.Alike R p') (weaker : ∀ a a', R a a' → R' a a') :
    p.Alike R' p' := by
  induction alike with
  | ret same => exact .ret (weaker _ _ same)
  | put same tells tells' _ ih => exact .put same tells tells' ih
  | putLeft tells _ ih => exact .putLeft tells ih
  | putRight tells _ ih => exact .putRight tells ih
  | ask other _ ih => exact .ask other ih
  | pinLeft _ ih => exact .pinLeft ih
  | pinRight _ ih => exact .pinRight ih

lemma Alike.bind (alike : p.Alike R p') (next : ∀ a a', R a a' → (f a).Alike S (f' a')) :
    (p.bind f).Alike S (p'.bind f') := by
  induction alike with
  | ret same => exact next _ _ same
  | put same tells tells' _ ih => exact .put same tells tells' ih
  | putLeft tells _ ih => exact .putLeft tells ih
  | putRight tells _ ih => exact .putRight tells ih
  | ask other _ ih => exact .ask other ih
  | pinLeft _ ih => exact .pinLeft ih
  | pinRight _ ih => exact .pinRight ih

lemma Alike.bind_eq {p' : Program α} {f' : α → Program β'} (alike : p.Alike Eq p')
    (next : ∀ a, (f a).Alike S (f' a)) : (p.bind f).Alike S (p'.bind f') := by
  refine alike.bind ?_
  rintro a _ rfl
  exact next a

lemma alike_logFailure {e e' : Errno → Event} (r : Except Errno Unit)
    (alike : ∀ x, (e x).Alike (e' x)) (tells : ∀ x, (Output.log (e x)).isPinFailure = false)
    (tells' : ∀ x, (Output.log (e' x)).isPinFailure = false) :
    (Program.logFailure r e).Alike Eq (Program.logFailure r e') := by
  cases r with
  | ok => exact .ret rfl
  | error x => exact alike_log (alike x) (tells x) (tells' x)

/-- A program that pins nothing is like itself. -/
lemma PinsNothing.alike (asks : p.PinsNothing) : p.Alike Eq p := by
  induction p with
  | ret a => exact .ret rfl
  | put o rest ih =>
    cases tells : o.isPinFailure with
    | true => exact .putLeft tells (.putRight tells (ih asks))
    | false =>
      refine .put ?_ tells tells (ih asks)
      cases o with
      | log e => exact .log e.alike_refl
      | line s => exact .line
  | ask r next ih => exact .ask asks.1 fun a => ih a (asks.2 a () trivial)

/-- What is recorded of programs that are alike is alike, if it is chosen alike. -/
lemma Alike.keepLogs {keep : Event → Bool} (alike : p.Alike R p')
    (chosen : ∀ e e' : Event, e.Alike e' → keep e = keep e') :
    (p.keepLogs keep).Alike R (p'.keepLogs keep) := by
  induction alike with
  | ret same => exact .ret same
  | put same tells tells' _ ih =>
    cases same with
    | @log e e' same =>
      simp only [Program.keepLogs, ← chosen e e' same]
      cases keep e with
      | true => exact .put (.log same) tells tells' ih
      | false => exact ih
    | line => exact .put .line rfl rfl ih
    | backend => exact .put .backend rfl rfl ih
  | @putLeft o p p' tells _ ih =>
    cases o with
    | line => cases tells
    | log e =>
      simp only [Program.keepLogs]
      cases keep e with
      | true => exact .putLeft tells ih
      | false => exact ih
  | @putRight o p p' tells _ ih =>
    cases o with
    | line => cases tells
    | log e =>
      simp only [Program.keepLogs]
      cases keep e with
      | true => exact .putRight tells ih
      | false => exact ih
  | ask other _ ih => exact .ask other ih
  | pinLeft _ ih => exact .pinLeft ih
  | pinRight _ ih => exact .pinRight ih

end Program

namespace Faults

variable {f f' f'' : Faults} {c : Call}

lemma alike_refl (f : Faults) : f.Alike f := ⟨rfl, fun _ _ => rfl⟩

lemma Alike.symm (alike : f.Alike f') : f'.Alike f :=
  ⟨alike.planned.symm, fun c other => (alike.made c other).symm⟩

lemma Alike.trans (alike : f.Alike f') (alike' : f'.Alike f'') : f.Alike f'' :=
  ⟨alike.planned.trans alike'.planned, fun c other => (alike.made c other).trans (alike'.made c other)⟩

/-- A call that pins pages counts for no other. -/
lemma after_mlock (f : Faults) : (f.after .mlock).Alike f :=
  ⟨rfl, fun _ other => List.count_cons_of_ne other.symm⟩

lemma Alike.after (alike : f.Alike f') (c : Call) : (f.after c).Alike (f'.after c) := by
  refine ⟨alike.planned, ?_⟩
  intro c' other
  change (c :: f.made).count c' = (c :: f'.made).count c'
  rw [List.count_cons, List.count_cons, alike.made c' other]

lemma Alike.next? (alike : f.Alike f') (other : c ≠ .mlock) : f.next? c = f'.next? c := by
  have found (g : Faults) (n : Nat) : g.planned.find? (fun x => x.call == c && x.nth == n) =
      (g.planned.filter (·.call != .mlock)).find? fun x => x.call == c && x.nth == n := by
    rw [List.find?_filter]
    congr 1
    funext x
    by_cases same : x.call = c
    · simp [same, other, Bool.beq_eq_decide_eq]
    · simp [same]
  rw [Faults.next?, Faults.next?, found, found, alike.planned, alike.made c other]

/-- How many faults of a call may be ahead. -/
def ahead (f : Faults) (c : Call) : Nat :=
  f.planned.countP fun x => x.call == c && f.made.count c < x.nth

lemma next?_of_ahead (none : f.ahead c = 0) : f.next? c = Option.none := by
  rw [next?, Option.map_eq_none_iff, List.find?_eq_none]
  intro x mem here
  have there := List.countP_eq_zero.1 none x mem
  simp only [Bool.and_eq_true, beq_iff_eq, decide_eq_true_eq] at here there
  exact there ⟨here.1, by omega⟩

/-- A fault that is met is not ahead any more. -/
lemma ahead_after {e : Errno} (met : f.next? c = some e) : (f.after c).ahead c < f.ahead c := by
  obtain ⟨x, found, -⟩ := Option.map_eq_some_iff.1 met
  have mem := List.mem_of_find?_eq_some found
  have here := List.find?_some found
  simp only [Bool.and_eq_true, beq_iff_eq] at here
  have count : (f.after c).made.count c = f.made.count c + 1 := List.count_cons_self
  have fewer (l : List Fault) :
      (l.countP fun x => x.call == c && (f.after c).made.count c < x.nth) ≤
        l.countP fun x => x.call == c && f.made.count c < x.nth := by
    refine List.countP_mono_left fun y _ there => ?_
    simp only [Bool.and_eq_true, decide_eq_true_eq] at there ⊢
    exact ⟨there.1, by omega⟩
  obtain ⟨l, r, planned⟩ := List.append_of_mem mem
  have before := fewer l
  have behind := fewer r
  have same : (f.after c).planned = f.planned := rfl
  rw [ahead, ahead, same, planned, List.countP_append, List.countP_append,
    List.countP_cons_of_neg (by simp [count, here]), List.countP_cons_of_pos (by simp [here])]
  omega

/-- What comes of a call does not depend on how often it could be made again. -/
lemma Alike.meetWithin {i j : Nat} (alike : f.Alike f') (other : c ≠ .mlock) (le : f.ahead c ≤ i)
    (le' : f'.ahead c ≤ j) : (Faults.meetWithin i f c).1 = (Faults.meetWithin j f' c).1 ∧
      (Faults.meetWithin i f c).2.Alike (Faults.meetWithin j f' c).2 := by
  have next := alike.next? other
  have after := alike.after c
  induction i generalizing j f f' with
  | zero =>
    have none := next?_of_ahead (Nat.le_zero.1 le)
    cases j with
    | zero => exact ⟨next, after⟩
    | succ j =>
      rw [Faults.meetWithin, Faults.meetWithin, ← next, none]
      exact ⟨rfl, after⟩
  | succ i ih =>
    cases j with
    | zero =>
      have none := next?_of_ahead (Nat.le_zero.1 le')
      rw [Faults.meetWithin, Faults.meetWithin, next, none]
      exact ⟨rfl, after⟩
    | succ j =>
      rw [Faults.meetWithin, Faults.meetWithin]
      cases met : f.next? c with
      | none =>
        rw [← next, met]
        exact ⟨rfl, after⟩
      | some e =>
        have met' := next.symm.trans met
        rw [met']
        dsimp only
        split
        · have less := ahead_after met
          have less' := ahead_after met'
          exact ih after (by omega) (by omega) (after.next? other) (after.after c)
        · exact ⟨rfl, after⟩

lemma Alike.meet (alike : f.Alike f') (other : c ≠ .mlock) :
    (f.meet c).1 = (f'.meet c).1 ∧ (f.meet c).2.Alike (f'.meet c).2 :=
  alike.meetWithin other List.countP_le_length List.countP_le_length

/-- A call that pins pages is made once. -/
lemma meet_mlock (f : Faults) : (f.meet .mlock).2.Alike f := by
  unfold Faults.meet
  cases f.planned.length with
  | zero => exact f.after_mlock
  | succ n =>
    rw [Faults.meetWithin]
    cases f.next? .mlock with
    | none => exact f.after_mlock
    | some e => exact f.after_mlock

/-- A request that pins nothing fails in both plans or in none. -/
lemma Alike.strike {r : Request} (alike : f.Alike f') (other : r.isPin = false) :
    (f.strike r).1 = (f'.strike r).1 ∧ (f.strike r).2.Alike (f'.strike r).2 := by
  have called (c : Call) (fail : Errno → r.Answer) (ec : r.call? = some (c, fail)) :
      c ≠ .mlock := by
    rintro rfl
    cases r with
    | pin => cases other
    | _ => cases ec
  unfold Faults.strike
  cases ec : r.call? with
  | none => exact ⟨rfl, alike⟩
  | some x =>
    obtain ⟨c, fail⟩ := x
    obtain ⟨same, after⟩ := alike.meet (called c fail ec)
    dsimp only
    cases em : f.meet c with
    | mk e g =>
      cases em' : f'.meet c with
      | mk e' g' =>
        rw [em, em'] at same after
        obtain rfl : e = e' := same
        cases e with
        | none => exact ⟨rfl, after⟩
        | some e => exact ⟨rfl, after⟩

lemma strike_pin (f : Faults) (m : MappingId) : (f.strike (.pin m)).2.Alike f := by
  have met := f.meet_mlock
  unfold Faults.strike
  dsimp only [Request.call?]
  cases em : f.meet .mlock with
  | mk e g =>
    rw [em] at met
    cases e with
    | none => exact met
    | some e => exact met

end Faults

section
variable {α β : Type} {R : α → β → Prop} {p : Program α} {p' : Program β} {t : ThreadId}
  {f f' : Faults} {outputs outputs' : List Output} {h : Host}

/-- Pages are pinned without anything changing, whether that fails or not. -/
lemma Program.run_pin {m : MappingId} {next : (Request.pin m).Answer → Program α} :
    ∃ a g, g.Alike f ∧
      (Program.ask (.pin m) next).run t f outputs h = (next a).run t g outputs h := by
  have after := f.strike_pin m
  rw [Program.run]
  cases es : f.strike (.pin m) with
  | mk struck g =>
    rw [es] at after
    cases struck with
    | some a => exact ⟨a, g, after, rfl⟩
    | none => exact ⟨.ok (), g, after, rfl⟩

/-- Programs that are alike come to the same point, and leave the same host. -/
theorem run_alike (alike : p.Alike R p') (faults : f.Alike f')
    (told : Output.AreAlike outputs outputs') :
    (p.run t f outputs h).1.Alike R (p'.run t f' outputs' h).1 ∧
      (p.run t f outputs h).2 = (p'.run t f' outputs' h).2 := by
  induction alike generalizing f f' outputs outputs' h with
  | ret same => exact ⟨⟨.ended same, faults, told⟩, rfl⟩
  | put same tells tells' _ ih => exact ih faults (told.cons same tells tells')
  | putLeft tells _ ih => exact ih faults (told.left tells)
  | putRight tells _ ih => exact ih faults (told.right tells)
  | @ask r next next' other alike ih =>
    obtain ⟨same, after⟩ := faults.strike other
    rw [Program.run, Program.run]
    cases es : f.strike r with
    | mk struck g =>
      cases es' : f'.strike r with
      | mk struck' g' =>
        rw [es, es'] at same after
        obtain rfl : struck = struck' := same
        cases struck with
        | some a => exact ih a after told
        | none =>
          dsimp only
          cases h.step t r with
          | done a h' => exact ih a after told
          | wait h' => exact ⟨⟨.waiting alike, after, told⟩, rfl⟩
  | pinLeft _ ih =>
    obtain ⟨a, g, after, same⟩ := Program.run_pin (t := t) (f := f) (h := h)
    rw [same]
    exact ih a (after.trans faults) told
  | pinRight _ ih =>
    obtain ⟨a, g, after, same⟩ := Program.run_pin (t := t) (f := f') (h := h)
    rw [same]
    exact ih a (faults.trans after.symm) told

end

namespace Running.Alike

variable {α β : Type} {R : α → β → Prop} {p : Running α} {p' : Running β}

/-- A program that waits goes on like one that is like it. -/
lemma resume (alike : p.Alike R p') (t : ThreadId) (h : Host) :
    (p.resume t h).1.Alike R (p'.resume t h).1 ∧ (p.resume t h).2 = (p'.resume t h).2 := by
  obtain ⟨progress, f, outputs⟩ := p
  obtain ⟨progress', f', outputs'⟩ := p'
  obtain ⟨same, faults, told⟩ := alike
  cases same with
  | ended same => exact ⟨⟨.ended same, faults, told⟩, rfl⟩
  | @waiting r next next' alike =>
    simp only [Running.resume]
    cases h.step t r with
    | done a h' => exact run_alike (alike a) faults told
    | wait h' => exact ⟨⟨.waiting alike, faults, told⟩, rfl⟩

lemma release (alike : p.Alike R p') (t : ThreadId) (h : Host) :
    (p.release t h).1.Alike R (p'.release t h).1 ∧ (p.release t h).2 = (p'.release t h).2 := by
  obtain ⟨progress, f, outputs⟩ := p
  obtain ⟨progress', f', outputs'⟩ := p'
  obtain ⟨same, faults, told⟩ := alike
  cases same with
  | ended same => exact ⟨⟨.ended same, faults, told⟩, rfl⟩
  | @waiting r next next' alike =>
    cases r with
    | hold seconds => exact run_alike (alike ()) faults told
    | _ => exact ⟨⟨.waiting alike, faults, told⟩, rfl⟩

lemma hold? (alike : p.Alike R p') : p.hold? = p'.hold? := by
  obtain ⟨progress, f, outputs⟩ := p
  obtain ⟨progress', f', outputs'⟩ := p'
  obtain ⟨same, -, -⟩ := alike
  cases same with
  | ended => rfl
  | @waiting r next next' =>
    cases r with
    | _ => rfl

/-- Programs that are alike have ended with values that are alike, or both wait. -/
lemma value? (alike : p.Alike R p') : Option.Rel R p.value? p'.value? := by
  obtain ⟨progress, f, outputs⟩ := p
  obtain ⟨progress', f', outputs'⟩ := p'
  obtain ⟨same, -, -⟩ := alike
  cases same with
  | ended same => exact .some same
  | waiting => exact .none

lemma output (alike : p.Alike R p') : Output.AreAlike p.output p'.output :=
  alike.outputs.reverse

end Running.Alike
end SharedSegment
