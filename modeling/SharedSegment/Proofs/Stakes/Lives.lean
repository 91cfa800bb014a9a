import SharedSegment.Proofs.Custody.Publication
import SharedSegment.Proofs.Naming.Owning
import SharedSegment.Proofs.Stakes.Holders

/-!
# The lives of mutexes and conditions

What is done to the mutex or the condition of an object over time is read off the deeds of a run
(`Deed.turns`): it is set up once at most, and taken down once at most after that, through the same
mapping (`Session.IsAged.of_run`). Who does so has made the object in the call that it is in, or
tears down the handle with that mapping (`Session.IsAged.turned_by`).
-/

namespace SharedSegment
open Function Scenario Program

/-- What is done to a part of an object. -/
inductive Turn where
  | setUp
  /-- It is taken down, or a call to that end fails. -/
  | takenDown
deriving DecidableEq

namespace SyncPart

/-- What an answered request does to a part of an object, and through which mapping. -/
def answered? : SyncPart → (r : Request) → r.Answer → Option (MappingId × Turn)
  | .mutex, .mutexInit m, .ok () => some (m, .setUp)
  | .mutex, .mutexDestroy m, _ => some (m, .takenDown)
  | .condition, .condInit m, .ok () => some (m, .setUp)
  | .condition, .condDestroy m, _ => some (m, .takenDown)
  | _, _, _ => none

/-- What a move does to a part of an object, and through which mapping. A call that fails sets
nothing up. -/
def turn? : SyncPart → Move → Option (MappingId × Turn)
  | part, .answered r a => part.answered? r a
  | .mutex, .struck (.mutexDestroy m) _ => some (m, .takenDown)
  | .condition, .struck (.condDestroy m) _ => some (m, .takenDown)
  | _, _ => none

end SyncPart

/-- What a deed does to a part of an object, and through which mapping. -/
def Deed.turn? (part : SyncPart) (k : ObjectId) : Deed → Option (MappingId × Turn)
  | .moved _ h m => (part.turn? m).filter fun x => h.shows x.1 k
  | _ => none

/-- What was done to a part of an object, the latest first. -/
def Deed.turns (part : SyncPart) (k : ObjectId) (past : List Deed) : List (MappingId × Turn) :=
  past.filterMap (Deed.turn? part k)

/-- Something is set up once at most, and taken down once at most after that. -/
def Turn.AreProper (turns : List (MappingId × Turn)) : Prop :=
  turns = [] ∨ ∃ m, turns = [(m, .setUp)] ∨ turns = [(m, .takenDown), (m, .setUp)]

/-- A part of its object as a party has left it. -/
def Stake.life (c : Stake) : SyncPart → Life
  | .mutex => c.mutex
  | .condition => c.condition

/-- What a party has done to a part of its object is what was done to it. -/
inductive Stake.Records (c : Stake) (part : SyncPart) : List (MappingId × Turn) → Prop where
  | blank :
    c.life part = .blank →
    Records c part []
  | live {m} :
    c.life part = .live →
    c.Has (.mapping m) →
    Records c part [(m, .setUp)]
  | tried {m} :
    c.life part = .destroyed →
    c.Has (.mapping m) →
    Records c part [(m, .setUp)]
  | destroyed {m} :
    c.life part = .destroyed →
    c.Has (.mapping m) →
    Records c part [(m, .takenDown), (m, .setUp)]

namespace Stake.Records

variable {c c' : Stake} {part : SyncPart} {turns : List (MappingId × Turn)} {h h' : Host}
  {m : MappingId} {k : ObjectId} {t : ThreadId}

lemma areProper (records : c.Records part turns) : Turn.AreProper turns := by
  cases records with
  | blank => exact .inl rfl
  | live => exact .inr ⟨_, .inl rfl⟩
  | tried => exact .inr ⟨_, .inl rfl⟩
  | destroyed => exact .inr ⟨_, .inr rfl⟩

lemma mono (records : c.Records part turns) (same : c'.life part = c.life part)
    (has : ∀ m, c.Has (.mapping m) → c'.Has (.mapping m)) : c'.Records part turns := by
  cases records with
  | blank life => exact .blank (same.trans life)
  | live life mine => exact .live (same.trans life) (has _ mine)
  | tried life mine => exact .tried (same.trans life) (has _ mine)
  | destroyed life mine => exact .destroyed (same.trans life) (has _ mine)

/-- What works was set up through the one mapping that its maker has. -/
lemma of_live (records : c.Records part turns) (fits : c.Fits h) (made : c.made)
    (live : c.life part = .live) (has : c.Has (.mapping m)) : turns = [(m, .setUp)] := by
  cases records with
  | blank life => cases life.symm.trans live
  | tried life | destroyed life => cases life.symm.trans live
  | @live m' _ mine =>
    obtain ⟨len, mem⟩ := has
    obtain ⟨len', mem'⟩ := mine
    cases fits.single made _ mem _ mem'
    rfl

/-- What works may be taken down, if its mapping still shows the object. -/
lemma takeDown (records : c.Records part turns) (fits : c.Fits h) (made : c.made)
    (live : c.life part = .live) (has : c.Has (.mapping m)) (life' : c'.life part = .destroyed)
    (has' : c'.Has (.mapping m)) :
    c'.Records part
      (((some (m, Turn.takenDown)).filter fun x => h.shows x.1 k).toList ++ turns) := by
  rw [records.of_live fits made live has]
  cases e : h.shows m k with
  | true =>
    simp only [Option.filter, e, if_true]
    exact .destroyed life' has'
  | false =>
    simp only [Option.filter, e]
    exact .tried life' has'

lemma of_blank (records : c.Records part turns) (blank : c.life part = .blank) : turns = [] := by
  cases records with
  | blank => rfl
  | live life | tried life | destroyed life => cases life.symm.trans blank

/-- What was blank may be set up. -/
lemma setUp (records : c.Records part turns) (blank : c.life part = .blank) (shows : h.shows m k)
    (life' : c'.life part = .live) (has' : c'.Has (.mapping m)) :
    c'.Records part
      (((some (m, Turn.setUp)).filter fun x => h.shows x.1 k).toList ++ turns) := by
  rw [records.of_blank blank]
  simp only [Option.filter, shows, if_true]
  exact .live life' has'

/-- A party that keeps to the protocol goes on to record what is done to its object. -/
lemma moves {α : Type} {p p' : Program α} {move : Move} (fits : c.Fits h)
    (st : p.Step t h move p' h') (may : ∀ r next, p = .ask r next → c.Permits r)
    (made : (c.moves h move).made) (ek : (c.moves h move).object? = some k)
    (old : c.made → c.object? = some k → c.Records part turns)
    (new : h.objects.length ≤ k → turns = []) :
    (c.moves h move).Records part (((Deed.moved t h move).turn? part k).toList ++ turns) := by
  cases st with
  | tell | wait => exact old made ek
  | @strike r next =>
    have may := may r next rfl
    cases r with
    | mutexDestroy m =>
      have has := may.through _ rfl
      cases part with
      | mutex => exact (old made ek).takeDown fits made may.further.2 has rfl has
      | condition => exact (old made ek).mono rfl fun _ has => has
    | condDestroy m =>
      have has := may.through _ rfl
      cases part with
      | mutex => exact (old made ek).mono rfl fun _ has => has
      | condition => exact (old made ek).takeDown fits made may.further.2 has rfl has
    | _ => cases part <;> exact old made ek
  | @answer r next _ a _ eh =>
    have may := may r next rfl
    cases r with
    | openNew n mode =>
      cases a with
      | error e => cases part <;> exact old made ek
      | ok f =>
        have length : h.ledger.outlines.length = h.objects.length := by simp [Host.ledger]
        obtain rfl : h.objects.length = k := by
          rw [← length]
          exact Option.some.inj ek
        rw [new (Nat.le_refl _)]
        cases part <;> exact .blank rfl
    | openExisting n =>
      cases a with
      | error e => cases part <;> exact old made ek
      | ok f => cases made
    | map f len =>
      cases a with
      | error e => cases part <;> exact old made ek
      | ok m =>
        have more (i : MappingId) (has : c.Has (.mapping i)) :
            Stake.Has { c with mappings := (m, len) :: c.mappings } (.mapping i) := by
          obtain ⟨len', mem⟩ := has
          exact ⟨len', .tail _ mem⟩
        cases part <;> exact (old made ek).mono rfl more
    | mutexInit m =>
      cases a with
      | error e => cases part <;> exact old made ek
      | ok =>
        have has := may.through _ rfl
        cases part with
        | condition => exact (old made ek).mono rfl fun _ has => has
        | mutex =>
          exact (old made ek).setUp may.further.2 (fits.shows_of_setUp has ek eh) rfl has
    | condInit m =>
      cases a with
      | error e => cases part <;> exact old made ek
      | ok =>
        have has := may.through _ rfl
        cases part with
        | mutex => exact (old made ek).mono rfl fun _ has => has
        | condition =>
          exact (old made ek).setUp may.further.2 (fits.shows_of_setUp has ek eh) rfl has
    | mutexDestroy m =>
      have has := may.through _ rfl
      have down : c.moves h (.answered (.mutexDestroy m) a) = { c with mutex := .destroyed } := by
        cases a <;> rfl
      rw [down] at made ek ⊢
      cases part with
      | mutex => exact (old made ek).takeDown fits made may.further.2 has rfl has
      | condition => exact (old made ek).mono rfl fun _ has => has
    | condDestroy m =>
      have has := may.through _ rfl
      have down :
          c.moves h (.answered (.condDestroy m) a) = { c with condition := .destroyed } := by
        cases a <;> rfl
      rw [down] at made ek ⊢
      cases part with
      | mutex => exact (old made ek).mono rfl fun _ has => has
      | condition => exact (old made ek).takeDown fits made may.further.2 has rfl has
    | _ => cases part <;> exact old made ek

end Stake.Records

/-- A thread has made an object in the call that it has begun last. -/
inductive Deed.JustMade (t : ThreadId) (k : ObjectId) : List Deed → Prop where
  | here {d past} :
    d.makes? t = some k →
    JustMade t k (d :: past)
  | later {d past} :
    JustMade t k past →
    (∀ a, d ≠ .began t a) →
    JustMade t k (d :: past)

section
variable {part : SyncPart} {k : ObjectId} {d : Deed} {past : List Deed}

lemma Deed.turns_cons :
    turns part k (d :: past) = (d.turn? part k).toList ++ turns part k past := by
  rw [turns, List.filterMap_cons]
  cases d.turn? part k <;> rfl

lemma Deed.turns_append {later : List Deed} :
    turns part k (later ++ past) = turns part k later ++ turns part k past :=
  List.filterMap_append

end

section
variable {c : Stake} {h : Host} {move : Move} {k : ObjectId} {x : MappingId × Turn}
  {part : SyncPart} {t : ThreadId}

/-- What is done to a part of an object is done by a request to set it up or to take it down. -/
lemma SyncPart.turn?_inv (does : part.turn? move = some x) :
    ∃ r, ((∃ a, move = .answered r a) ∨ ∃ e, move = .struck r e) ∧
      (r = .mutexInit x.1 ∨ r = .condInit x.1 ∨
        (r = .mutexDestroy x.1 ∨ r = .condDestroy x.1) ∧ x.2 = .takenDown) := by
  cases move with
  | told | waited => cases part <;> cases does
  | struck r e =>
    refine ⟨r, .inr ⟨e, rfl⟩, ?_⟩
    cases part with
    | mutex =>
      cases r with
      | mutexDestroy m =>
        cases does
        exact .inr (.inr ⟨.inl rfl, rfl⟩)
      | _ => cases does
    | condition =>
      cases r with
      | condDestroy m =>
        cases does
        exact .inr (.inr ⟨.inr rfl, rfl⟩)
      | _ => cases does
  | answered r a =>
    refine ⟨r, .inl ⟨a, rfl⟩, ?_⟩
    cases part with
    | mutex =>
      cases r with
      | mutexInit m =>
        cases a <;> cases does
        exact .inl rfl
      | mutexDestroy m =>
        cases does
        exact .inr (.inr ⟨.inl rfl, rfl⟩)
      | _ => cases does
    | condition =>
      cases r with
      | condInit m =>
        cases a <;> cases does
        exact .inr (.inl rfl)
      | condDestroy m =>
        cases does
        exact .inr (.inr ⟨.inr rfl, rfl⟩)
      | _ => cases does

/-- Whoever does something to a part of an object asks for setting it up or for taking it down. -/
lemma Program.Step.asks_of_turn {α : Type} {p p' : Program α} {h' : Host}
    (st : p.Step t h move p' h') (does : part.turn? move = some x) :
    ∃ r next, p = .ask r next ∧ (r = .mutexInit x.1 ∨ r = .condInit x.1 ∨
      (r = .mutexDestroy x.1 ∨ r = .condDestroy x.1) ∧ x.2 = .takenDown) := by
  obtain ⟨r, ⟨a, rfl⟩ | ⟨e, rfl⟩, asks⟩ := SyncPart.turn?_inv does
  · cases st
    exact ⟨r, _, rfl, asks⟩
  · cases st
    exact ⟨r, _, rfl, asks⟩

/-- Whatever is done to a part of an object, a party has the same object as before. -/
lemma Stake.same_of_turn (does : part.turn? move = some x) :
    (c.moves h move).made = c.made ∧ (c.moves h move).object? = c.object? := by
  obtain ⟨r, ⟨a, rfl⟩ | ⟨e, rfl⟩, asks⟩ := SyncPart.turn?_inv does
  · obtain rfl | rfl | ⟨rfl | rfl, -⟩ := asks <;> cases a <;> exact ⟨rfl, rfl⟩
  · obtain rfl | rfl | ⟨rfl | rfl, -⟩ := asks <;> exact ⟨rfl, rfl⟩

/-- Whoever does something to a part of an object has made the object, and goes on to have made
it. -/
lemma Stake.made_of_turn {α : Type} {p p' : Program α} {h' : Host} (fits : c.Fits h)
    (st : p.Step t h move p' h') (may : ∀ r next, p = .ask r next → c.Permits r)
    (turned : (Deed.moved t h move).turn? part k = some x) :
    c.made ∧ c.object? = some k ∧ (c.moves h move).made ∧ (c.moves h move).object? = some k := by
  obtain ⟨does, shows⟩ := Option.filter_eq_some_iff.1 turned
  obtain ⟨made', object'⟩ := Stake.same_of_turn (c := c) (h := h) does
  obtain ⟨r, next, ep, asks⟩ := st.asks_of_turn does
  have may := may r next ep
  have made : c.made := by
    obtain rfl | rfl | ⟨rfl | rfl, -⟩ := asks <;> exact may.further.1
  have has : c.Has (.mapping x.1) := by
    obtain rfl | rfl | ⟨rfl | rfl, -⟩ := asks <;> exact may.through _ rfl
  have ek := fits.object?_of_shows has shows
  exact ⟨made, ek, made' ▸ made, object'.trans ek⟩

/-- Whoever has made an object after a move had made it before, or has just made it. -/
lemma Stake.made_of_moves (made : (c.moves h move).made) (ek : (c.moves h move).object? = some k) :
    c.made ∧ c.object? = some k ∨ (Deed.moved t h move).makes? t = some k := by
  cases move with
  | told | waited => exact .inl ⟨made, ek⟩
  | struck r e =>
    obtain ⟨opened, -, same⟩ := c.alike_tried r
    refine .inl ⟨same ▸ made, ?_⟩
    rw [← ek]
    exact congrArg (Option.map Prod.snd) opened.symm
  | answered r a =>
    cases r with
    | openNew n mode =>
      cases a with
      | error e => exact .inl ⟨made, ek⟩
      | ok f => exact .inr (Deed.makes?_moved.2 ⟨rfl, ek⟩)
    | openExisting n =>
      cases a with
      | error e => exact .inl ⟨made, ek⟩
      | ok f => cases made
    | map | mutexInit | condInit | mutexDestroy | condDestroy => cases a <;> exact .inl ⟨made, ek⟩
    | _ => exact .inl ⟨made, ek⟩

end

namespace Session

variable {b : ObjectId} {s s' : Session} {ρ : ThreadId ⊕ String → Stake} {d : Deed}
  {past : List Deed}

lemma Touches.objects_le (touches : s.Touches s' d) :
    s.host.objects.length ≤ s'.host.objects.length := by
  cases touches with
  | nothing same => exact Nat.le_of_eq (by rw [same])
  | @answered t c r a next ec alive ep eh =>
    have le := s.host.objects_length_le t r
    rwa [eh] at le
  | @waited t r eh =>
    have le := s.host.objects_length_le t r
    rwa [eh] at le
  | died same =>
    rw [same]
    exact Nat.le_of_eq (by simp [Host.bury])

/-- A stake goes on with a party only by a move of that party; otherwise it stays with some party,
or is given up. -/
lemma restake_eq (other : ∀ t h m, d ≠ .moved t h m) (i : ThreadId ⊕ String) :
    s.restake ρ d i = .nothing ∨ ∃ j, s.restake ρ d i = ρ j := by
  have updated {ρ' : ThreadId ⊕ String → Stake} (e : ThreadId ⊕ String → ThreadId ⊕ String)
      (same : ρ' = fun j => ρ (e j)) (j : ThreadId ⊕ String) :
      update ρ' j .nothing i = .nothing ∨ ∃ j', update ρ' j Stake.nothing i = ρ j' := by
    by_cases ei : i = j
    · subst ei
      exact .inl (update_self ..)
    · rw [update_of_ne ei, same]
      exact .inr ⟨_, rfl⟩
  have stays : s.restake ρ d = ρ → s.restake ρ d i = .nothing ∨ ∃ j, s.restake ρ d i = ρ j :=
    fun same => .inr ⟨i, congrFun same i⟩
  cases d with
  | died => exact stays rfl
  | moved t h m => exact absurd rfl (other t h m)
  | began t a =>
    cases a with
    | openHandle => exact updated id rfl _
    | onHandle h op =>
      cases op with
      | drop => exact updated _ rfl _
      | _ => exact stays rfl
    | _ => exact stays rfl
  | returned t a o =>
    cases a with
    | openHandle =>
      obtain ⟨result, effect⟩ := o
      cases effect with
      | setHandle => exact updated _ rfl _
      | _ => exact stays rfl
    | _ => exact stays rfl

/-- The stake of a thread changes by deeds of that thread only. -/
lemma restake_of_ne {t : ThreadId} (ne : t ≠ d.thread) : s.restake ρ d (.inl t) = ρ (.inl t) := by
  have other : (Sum.inl t : ThreadId ⊕ String) ≠ .inl d.thread := fun e => ne (Sum.inl.inj e)
  cases d with
  | died => rfl
  | moved t' h m =>
    simp only [restake]
    cases s.calls t' with
    | some c => exact update_of_ne (Underway.party_ne_call (Ne.symm ne)).symm _ _
    | none => rfl
  | began t' a =>
    cases a with
    | openHandle => exact update_of_ne other _ _
    | onHandle h op =>
      cases op with
      | drop => exact (update_of_ne (by simp) _ _).trans (handOver_call_ne ρ ne)
      | _ => rfl
    | _ => rfl
  | returned t' a o =>
    cases a with
    | openHandle =>
      obtain ⟨result, effect⟩ := o
      cases effect with
      | setHandle => exact (update_of_ne other _ _).trans (handOver_call_ne ρ ne)
      | _ => rfl
    | _ => rfl

/-- What was done to the parts of objects was done by who has made them. -/
structure IsAged (s : Session) (past : List Deed) (ρ : ThreadId ⊕ String → Stake) : Prop where
  makers : ∀ i part k, (ρ i).made → (ρ i).object? = some k →
    (ρ i).Records part (Deed.turns part k past)
  proper : ∀ part k, Turn.AreProper (Deed.turns part k past)
  new : ∀ part k, s.host.objects.length ≤ k → Deed.turns part k past = []
  making : ∀ t c k, s.calls t = some c → c.act.opensHandle → (ρ (.inl t)).made →
    (ρ (.inl t)).object? = some k → Deed.JustMade t k past

namespace IsAged

/-- A thread makes a step in its call. -/
lemma move {t : ThreadId} {c : Underway} {m : Move} {p' : Program Outcome} {h' : Host}
    (aged : s.IsAged past ρ) (regular : s.IsRegular b ρ) (ec : s.calls t = some c)
    (alive : s.dead t = false) (st : c.program.Step t s.host m p' h') :
    (s.move t c p' h').IsAged (.moved t s.host m :: past)
      (update ρ (c.party t) ((ρ (c.party t)).moves s.host m)) := by
  have fits := regular.staked.holders.fits (c.party t)
  have may r next (ep : c.program = .ask r next) : (ρ (c.party t)).Permits r :=
    regular.staked.permits regular.confined ec alive ep
  have goesOn part k (made : ((ρ (c.party t)).moves s.host m).made)
      (ek : ((ρ (c.party t)).moves s.host m).object? = some k) :
      ((ρ (c.party t)).moves s.host m).Records part
        (Deed.turns part k (.moved t s.host m :: past)) := by
    rw [Deed.turns_cons]
    exact Stake.Records.moves fits st may made ek (aged.makers _ part k) (aged.new part k)
  have turned part k x (e : (Deed.moved t s.host m).turn? part k = some x) :=
    Stake.made_of_turn fits st may e
  refine ⟨?_, ?_, ?_, ?_⟩
  · intro i part k made ek
    by_cases ei : i = c.party t
    · subst ei
      rw [update_self] at made ek ⊢
      exact goesOn part k made ek
    · rw [update_of_ne ei] at made ek ⊢
      rw [Deed.turns_cons]
      cases e : (Deed.moved t s.host m).turn? part k with
      | none => exact aged.makers i part k made ek
      | some x =>
        -- Nobody else has made the object.
        obtain ⟨made', ek', -⟩ := turned part k x e
        exact absurd (regular.staked.holders.sole i _ k made made' ek ek') ei
  · intro part k
    cases e : (Deed.moved t s.host m).turn? part k with
    | none =>
      rw [Deed.turns_cons, e]
      exact aged.proper part k
    | some x =>
      obtain ⟨-, -, made, ek⟩ := turned part k x e
      exact (goesOn part k made ek).areProper
  · intro part k le
    have le' := Nat.le_trans (Step.move ec alive st).touches.objects_le le
    rw [Deed.turns_cons, aged.new part k le']
    cases e : (Deed.moved t s.host m).turn? part k with
    | none => rfl
    | some x =>
      obtain ⟨-, ek, -⟩ := turned part k x e
      exact absurd (regular.staked.holders.object?_lt ek) (Nat.not_lt.2 le')
  · intro t' c' k ec' opens made ek
    obtain ⟨rfl, rfl⟩ | ⟨ne, ec'⟩ := move_calls_inv ec'
    · have mine : c.party t' = .inl t' := Underway.party_of_opensHandle opens
      rw [mine, update_self] at made ek
      obtain ⟨made, ek⟩ | makes := Stake.made_of_moves made ek
      · refine .later (aged.making t' c k ec opens made ek) ?_
        rintro _ ⟨⟩
      · exact .here makes
    · rw [update_of_ne (Underway.party_ne_call ne.symm).symm] at made ek
      refine .later (aged.making t' c' k ec' opens made ek) ?_
      rintro _ ⟨⟩

/-- What is no move does nothing to objects. -/
lemma rest (aged : s.IsAged past ρ) (st : s.Step d s') (other : ∀ t h m, d ≠ .moved t h m)
    (calls : ∀ t c, s'.calls t = some c → c.act.opensHandle →
      (∃ a, d = .began t a) ∧ s.restake ρ d (.inl t) = .nothing ∨
        s.calls t = some c ∧ s.restake ρ d (.inl t) = ρ (.inl t) ∧ ∀ a, d ≠ .began t a) :
    s'.IsAged (d :: past) (s.restake ρ d) := by
  have turns part k : Deed.turns part k (d :: past) = Deed.turns part k past := by
    rw [Deed.turns_cons]
    cases d with
    | moved t h m => exact absurd rfl (other t h m)
    | _ => rfl
  refine ⟨?_, ?_, ?_, ?_⟩
  · intro i part k made ek
    rw [turns]
    obtain none | ⟨j, same⟩ := restake_eq other i
    · rw [none] at made
      cases made
    · rw [same] at made ek ⊢
      exact aged.makers j part k made ek
  · intro part k
    rw [turns]
    exact aged.proper part k
  · intro part k le
    rw [turns]
    exact aged.new part k (Nat.le_trans st.touches.objects_le le)
  · intro t c k ec opens made ek
    obtain ⟨-, none⟩ | ⟨ec, same, ne⟩ := calls t c ec opens
    · rw [none] at made
      cases made
    · rw [same] at made ek
      exact .later (aged.making t c k ec opens made ek) ne

theorem step (aged : s.IsAged past ρ) (regular : s.IsRegular b ρ) (st : s.Step d s') :
    s'.IsAged (d :: past) (s.restake ρ d) := by
  have begun {t : ThreadId} {a : Act} {c : Underway} {handles : String → Option Handle}
      (opening : c.act.opensHandle → s.restake ρ (.began t a) (.inl t) = .nothing) (t' : ThreadId)
      (c' : Underway) (ec : ({ s with handles }.begin t c).calls t' = some c')
      (opens : c'.act.opensHandle) :
      (∃ a', Deed.began t a = .began t' a') ∧ s.restake ρ (.began t a) (.inl t') = .nothing ∨
        s.calls t' = some c' ∧ s.restake ρ (.began t a) (.inl t') = ρ (.inl t') ∧
          ∀ a', Deed.began t a ≠ .began t' a' := by
    obtain ⟨rfl, rfl⟩ | ⟨ne, ec⟩ := begin_calls_inv ec
    · exact .inl ⟨⟨a, rfl⟩, opening opens⟩
    · refine .inr ⟨ec, restake_of_ne ne, ?_⟩
      rintro _ ⟨⟩
      exact ne rfl
  have whole := st
  cases st with
  | openHandle =>
    refine aged.rest whole ?_ (begun fun _ => update_self ..)
    rintro _ _ _ ⟨⟩
  | onHandle | drop | onGuard =>
    refine aged.rest whole ?_ (begun ?_)
    · rintro _ _ _ ⟨⟩
    · rintro ⟨⟩
  | @move t c m p' h' ec alive st =>
    rw [restake_moved ec]
    exact aged.move regular ec alive st
  | finish =>
    refine aged.rest whole ?_ ?_
    · rintro _ _ _ ⟨⟩
    · intro t' c' ec' _
      obtain ⟨ne, ec'⟩ := conclude_calls_inv ec'
      refine .inr ⟨ec', restake_of_ne ne, ?_⟩
      rintro _ ⟨⟩
  | die =>
    refine aged.rest whole ?_ ?_
    · rintro _ _ _ ⟨⟩
    · intro t' c' ec' _
      refine .inr ⟨ec', rfl, ?_⟩
      rintro _ ⟨⟩

lemma init (h : Host) : (Session.ofHost h).IsAged [] fun _ => .nothing := by
  refine ⟨?_, fun _ _ => .inl rfl, fun _ _ _ => rfl, ?_⟩
  · rintro i part k ⟨⟩
  · rintro t c k ⟨⟩

theorem of_run {h : Host} (run : Run Session.Step (.ofHost h) past s) :
    ∃ ρ, s.IsRegular h.objects.length ρ ∧ s.IsAged past ρ := by
  induction run with
  | nil => exact ⟨_, .init h, .init h⟩
  | cons run st ih =>
    obtain ⟨ρ, regular, aged⟩ := ih
    exact ⟨_, regular.step st, aged.step regular st⟩

end IsAged
end Session

/-- What was set up may have been taken down once since. -/
lemma Turn.AreProper.of_append {turns : List (MappingId × Turn)} {m : MappingId}
    (proper : Turn.AreProper (turns ++ [(m, .setUp)])) :
    turns = [] ∨ turns = [(m, .takenDown)] := by
  obtain none | ⟨m', e | e⟩ := proper
  · cases (List.append_eq_nil_iff.1 none).2
  · exact .inl (List.append_inj_left' (e.trans (List.nil_append _).symm) rfl)
  · have same : turns ++ [(m, Turn.setUp)] = [(m', .takenDown)] ++ [(m', .setUp)] := e
    obtain ⟨first, last⟩ := List.append_inj' same rfl
    cases last
    exact .inr first

namespace Session.IsAged

variable {b : ObjectId} {s s' : Session} {ρ : ThreadId ⊕ String → Stake} {d : Deed}
  {past : List Deed} {part : SyncPart} {k : ObjectId} {m : MappingId} {g : Segment}

/-- What a stake backs that is the creator's was set up by the creator, and that is all so far. -/
lemma turns_of_backs {i : ThreadId ⊕ String} (aged : s.IsAged past ρ) (regular : s.IsRegular b ρ)
    (backs : (ρ i).Backs g) (whole : g.IsWhole) (role : g.role = .creator)
    (em : g.mapping = some m) (shows : s.host.shows m k) :
    (ρ i).made ∧ (ρ i).object? = some k ∧ Deed.turns part k past = [(m, .setUp)] := by
  have some : g.mapping.isSome := by
    rw [em]
    rfl
  have fits := regular.staked.holders.fits i
  have has := backs.has em
  have made := (backs.made some).2 role
  have ek := fits.object?_of_shows has shows
  obtain ⟨mutex, condition⟩ := backs.sync role (whole role some) some
  have live : (ρ i).life part = .live := by
    cases part with
    | mutex => exact mutex
    | condition => exact condition
  exact ⟨made, ek, (aged.makers i part k made ek).of_live fits made live has⟩

/-- Whoever does something to a part of an object has just made the object, or tears the handle
down that has the mapping. -/
theorem turned_by {x : MappingId × Turn} (aged : s.IsAged past ρ) (regular : s.IsRegular b ρ)
    (st : s.Step d s') (turned : d.turn? part k = some x) :
    ∃ c, s.calls d.thread = some c ∧ (c.act.opensHandle ∧ Deed.JustMade d.thread k past ∨
      c.act.opensHandle = false ∧ x.2 = .takenDown ∧ ∃ y g, c.subject = some y ∧
        y.segment? = some g ∧ g.role = .creator ∧ g.mapping = some x.1) := by
  cases st with
  | openHandle | onHandle | drop | onGuard | finish | die => cases turned
  | @move t c move p' h' ec alive st =>
    have may r next (ep : c.program = .ask r next) : (ρ (c.party t)).Permits r :=
      regular.staked.permits regular.confined ec alive ep
    obtain ⟨made, ek, -⟩ :=
      Stake.made_of_turn (regular.staked.holders.fits (c.party t)) st may turned
    refine ⟨c, ec, ?_⟩
    cases opens : c.act.opensHandle with
    | true =>
      rw [Underway.party_of_opensHandle opens] at made ek
      exact .inl ⟨rfl, aged.making t c k ec opens made ek⟩
    | false =>
      obtain ⟨r, next, ep, asks⟩ := st.asks_of_turn (Option.filter_eq_some_iff.1 turned).1
      have mayAsk := regular.confined.asks ec ep
      cases staking : c.act.isStaking with
      | true =>
        obtain ⟨y, g, sub, eg, tears⟩ := Underway.tears_of_mayAsk mayAsk staking opens
        obtain rfl | rfl | ⟨rfl | rfl, down⟩ := asks
        · cases tears
        · cases tears
        · exact .inr ⟨rfl, down, y, g, sub, eg, tears.1, tears.2.2⟩
        · exact .inr ⟨rfl, down, y, g, sub, eg, tears.1, tears.2.2⟩
      | false =>
        obtain ⟨y, g, -, -, uses⟩ := Underway.uses_of_mayAsk mayAsk staking
        obtain rfl | rfl | ⟨rfl | rfl, -⟩ := asks <;> cases uses

/-- A creator that comes back has made the object that its handle shows in this call, and has set
its parts up. -/
theorem made_of_returned {t : ThreadId} {h raw : String} {size : UInt32} {via : Via} {o : Outcome}
    (aged : s.IsAged past ρ) (regular : s.IsRegular b ρ)
    (back : s.Step (.returned t (.openHandle h raw size via) o) s')
    (eg : o.effect.segment? = some g) (role : g.role = .creator) (em : g.mapping = some m)
    (shows : s.host.shows m k) :
    Deed.JustMade t k past ∧ Deed.turns part k past = [(m, .setUp)] := by
  obtain ⟨σ, kept⟩ := regular.kept
  obtain ⟨c, ec, alive, act, ep, -⟩ := back.returned_inv
  have yields := kept.calls t c ec alive
  have settles := regular.staked.programs t c ec alive (by rw [act]; rfl)
  have opens : c.act.opensHandle := by
    rw [act]
    rfl
  rw [ep, act] at yields
  rw [ep, Underway.party_of_opensHandle opens, act] at settles
  have backs : (ρ (.inl t)).Backs g := settles g eg
  have whole : g.IsWhole := by
    obtain ⟨result, effect⟩ := o
    cases effect with
    | setHandle h x => exact (yields h x rfl g eg).1.2
    | _ => cases eg
  obtain ⟨made, ek, turns⟩ := aged.turns_of_backs regular backs whole role em shows
  exact ⟨aged.making t c k ec opens made ek, turns⟩

end Session.IsAged
end SharedSegment
