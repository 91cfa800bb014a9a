import SharedSegment.Proofs.Alone.Recovery
import SharedSegment.Proofs.Custody.Names

/-!
# Bids for a name

Whoever creates a segment bids for its name: where the name is refused, what is bound to it is taken
away, and the bid is made once more. How a bid comes out is told from the deeds. It is forestalled
if, after the name was refused, somebody else is the next to take it away (`IsForestalled`).

`Protocol.bid` says what a bid is answered by a host on which nobody else binds the name, and
`Segment.ensures_create_bid` what comes of creation then: a segment, unless the bid was
forestalled. That an answer is one which the protocol knows is told from what is bound to the name
(`Bid.Fits.answer`), and the deeds of others leave the bid as it is (`Bid.Fits.others`).
-/

namespace SharedSegment
open Header Scenario Program

namespace Deed

/-- Whether something is bound to a name. -/
def binds (n : Name) : Deed → Bool
  | .moved _ _ (.answered (.openNew n' _) (.ok _)) => n' = n
  | _ => false

/-- Whether a name is taken away. -/
def frees (n : Name) : Deed → Bool
  | .moved _ _ (.answered (.unlink n') (.ok _)) => n' = n
  | _ => false

/-- Whether a thread is refused a name under which it makes an object. -/
def refuses (n : Name) (t : ThreadId) : Deed → Bool
  | .moved u _ (.answered (.openNew n' _) (.error _)) => u = t ∧ n' = n
  | _ => false

lemma thread_of_refuses {n : Name} {t : ThreadId} {d : Deed} (refuses : d.refuses n t) :
    d.thread = t := by
  unfold Deed.refuses at refuses
  split at refuses
  case h_1 => exact (of_decide_eq_true refuses).1
  case h_2 => cases refuses

/-- What a deed does with what a name is bound to. -/
inductive Rebinds (n : Name) (d : Deed) : Option Binding → Option Binding → Prop where
  | binds {x} :
    d.binds n →
    d.Rebinds n none (some x)
  | frees {x} :
    d.frees n →
    d.Rebinds n (some x) none
  | spares {x} :
    ¬d.binds n →
    ¬d.frees n →
    d.Rebinds n x x

/-- A deed that is no answer does nothing with a name. -/
lemma rebinds_of_silent {n : Name} {x : Option Binding} {d : Deed}
    (silent : ∀ t h r a, d ≠ .moved t h (.answered r a)) : d.Rebinds n x x := by
  cases d with
  | moved t h m =>
    cases m with
    | answered r a => exact absurd rfl (silent t h r a)
    | _ => exact .spares (by rintro ⟨⟩) (by rintro ⟨⟩)
  | _ => exact .spares (by rintro ⟨⟩) (by rintro ⟨⟩)

end Deed

/-- A thread was refused a name, and nobody has taken that away since. -/
def IsBarred (n : Name) (t : ThreadId) (past : List Deed) : Prop :=
  ∃ since d earlier, past = since ++ d :: earlier ∧ d.refuses n t ∧ ∀ d' ∈ since, ¬d'.frees n

/-- After a thread was refused a name, another one was the next to take it away. -/
def IsForestalled (n : Name) (t : ThreadId) (past : List Deed) : Prop :=
  ∃ since d earlier, past = since ++ d :: earlier ∧ d.frees n ∧ d.thread ≠ t ∧ IsBarred n t earlier

section
variable {n : Name} {t : ThreadId} {past : List Deed} {d : Deed}

lemma not_isBarred_nil : ¬IsBarred n t [] := by simp [IsBarred]

lemma isBarred_cons :
    IsBarred n t (d :: past) ↔ d.refuses n t ∨ IsBarred n t past ∧ ¬d.frees n := by
  constructor
  · rintro ⟨since, d', earlier, cut, refuses, spared⟩
    cases since with
    | nil =>
      cases cut
      exact .inl refuses
    | cons d₁ since =>
      cases cut
      exact .inr ⟨⟨since, d', earlier, rfl, refuses, fun d mem => spared d (.tail _ mem)⟩,
        spared d (.head _)⟩
  · rintro (refuses | ⟨⟨since, d', earlier, rfl, refuses, spared⟩, spares⟩)
    · exact ⟨[], d, past, rfl, refuses, List.forall_mem_nil _⟩
    · exact ⟨d :: since, d', earlier, rfl, refuses, List.forall_mem_cons.2 ⟨spares, spared⟩⟩

lemma not_isForestalled_nil : ¬IsForestalled n t [] := by simp [IsForestalled]

lemma isForestalled_cons : IsForestalled n t (d :: past) ↔
    IsForestalled n t past ∨ d.frees n ∧ d.thread ≠ t ∧ IsBarred n t past := by
  constructor
  · rintro ⟨since, d', earlier, cut, here⟩
    cases since with
    | nil =>
      cases cut
      exact .inr here
    | cons d₁ since =>
      cases cut
      exact .inl ⟨since, d', earlier, rfl, here⟩
  · rintro (⟨since, d', earlier, rfl, here⟩ | here)
    · exact ⟨d :: since, d', earlier, rfl, here⟩
    · exact ⟨[], d, past, rfl, here⟩

end

/-- How far a bid for a name has come. -/
inductive Bid where
  /-- The name was not refused. -/
  | fresh
  /-- The name was refused. -/
  | barred
  /-- What was bound to the name was taken away. -/
  | cleared
  /-- There was nothing any more to take away. -/
  | lost
  /-- The name is bound to an object of the bidder's own. -/
  | placed

/-- Whether a request is made when an object that was made for a segment is finished. -/
def Request.isFurnishing : Request → Bool
  | .resize .. | .map .. | .pin .. | .storeSize .. | .mutexInit .. | .condInit .. => true
  | r => r ∈ attributeRequests

/-- How a bidder and its host behave where nobody else binds the name and no call fails by
itself. -/
def Protocol.bid (n : Name) : Protocol Bid where
  Permits b
    | .openNew n' _ => n' = n ∧ (b = .fresh ∨ b = .cleared)
    | .unlink n' => n' = n ∧ b = .barred
    | r => b = .placed ∧ r.isFurnishing
  Answers b
    | .openNew .., a, b' =>
      (∃ f, a = .ok f) ∧ b' = .placed ∨ b = .fresh ∧ a = .error .eexist ∧ b' = .barred
    | .unlink _, a, b' =>
      a = .ok () ∧ b' = .cleared ∨ a = .error .enoent ∧ b' = .lost
    | r, a, b' => r.failure? a = none ∧ b' = b
  tells b _ := b

/-- How a bid that has come so far goes with the deeds, and with what the name is bound to. -/
inductive Bid.Fits (n : Name) (t : ThreadId) (past : List Deed) :
    Bid → Option Binding → Prop where
  | fresh {x} :
    ¬IsBarred n t past →
    ¬IsForestalled n t past →
    Fits n t past .fresh x
  | barred {x} :
    IsBarred n t past →
    ¬IsForestalled n t past →
    Fits n t past .barred (some x)
  | forestalled :
    IsForestalled n t past →
    Fits n t past .barred none
  | cleared :
    ¬IsBarred n t past →
    ¬IsForestalled n t past →
    Fits n t past .cleared none
  | lost {x} :
    IsForestalled n t past →
    Fits n t past .lost x
  | placed {x} :
    ¬IsBarred n t past →
    ¬IsForestalled n t past →
    Fits n t past .placed x

namespace Bid.Fits

variable {n : Name} {t : ThreadId} {past : List Deed} {d : Deed} {b : Bid} {x y : Option Binding}

/-- A deed that does nothing with the name and refuses it to nobody leaves a bid as it is. -/
lemma spared (fits : b.Fits n t past x) (keeps : ¬d.frees n) (grants : ¬d.refuses n t) :
    b.Fits n t (d :: past) x := by
  have barred : IsBarred n t (d :: past) ↔ IsBarred n t past := by
    simp [isBarred_cons, keeps, grants]
  have forestalled : IsForestalled n t (d :: past) ↔ IsForestalled n t past := by
    simp [isForestalled_cons, keeps]
  cases fits with
  | fresh free early => exact .fresh (mt barred.1 free) (mt forestalled.1 early)
  | barred waits early => exact .barred (barred.2 waits) (mt forestalled.1 early)
  | forestalled late => exact .forestalled (forestalled.2 late)
  | cleared free early => exact .cleared (mt barred.1 free) (mt forestalled.1 early)
  | lost late => exact .lost (forestalled.2 late)
  | placed free early => exact .placed (mt barred.1 free) (mt forestalled.1 early)

/-- Others may take the name away, and forestall a bid that was refused. -/
lemma others (fits : b.Fits n t past x) (rebinds : d.Rebinds n x y) (ne : d.thread ≠ t)
    (grants : ¬d.refuses n t) (alone : ¬d.binds n) : b.Fits n t (d :: past) y := by
  cases rebinds with
  | binds binds => exact absurd binds alone
  | spares _ keeps => exact fits.spared keeps grants
  | frees frees =>
    have free : ¬IsBarred n t (d :: past) := by simp [isBarred_cons, frees, grants]
    have forestalled :
        IsForestalled n t (d :: past) ↔ IsForestalled n t past ∨ IsBarred n t past := by
      simp [isForestalled_cons, frees, ne]
    cases fits with
    | fresh idle early => exact .fresh free (by simp [forestalled, idle, early])
    | barred waits => exact .forestalled (forestalled.2 (.inr waits))
    | lost late => exact .lost (forestalled.2 (.inl late))
    | placed idle early => exact .placed free (by simp [forestalled, idle, early])

end Bid.Fits

section
variable {n : Name} {t : ThreadId} {past : List Deed} {h h' : Host} {r : Request} {a : r.Answer}
  {b : Bid} {x : Option Binding}

/-- The answer to a request binds a name that was free, takes a name away that was bound, or leaves
it as it is. -/
lemma Host.rebinds_name (place : h.store.place n = .file x) (e : h.step t r = .done a h') :
    ∃ y, h'.store.place n = .file y ∧ (Deed.moved t h (.answered r a)).Rebinds n x y := by
  cases rebinds_step e with
  | @made n' mode free =>
    by_cases same : n' = n
    · subst same
      cases place.symm.trans free
      exact ⟨_, Store.place_insert free, .binds (decide_eq_true rfl)⟩
    · have ne : n.file ≠ n'.file := fun same' => same (Name.file_injective same').symm
      exact ⟨x, (Store.place_congr (Store.get?_insert_of_ne ne)).trans place,
        .spares (mt of_decide_eq_true same) (by rintro ⟨⟩)⟩
  | refused => exact ⟨x, place, .spares (by rintro ⟨⟩) (by rintro ⟨⟩)⟩
  | @taken n' there bound =>
    by_cases same : n' = n
    · subst same
      cases place.symm.trans bound
      exact ⟨none, Store.place_erase bound, .frees (decide_eq_true rfl)⟩
    · have ne : n.file ≠ n'.file := fun same' => same (Name.file_injective same').symm
      exact ⟨x, (Store.place_congr (Store.get?_erase_of_ne ne)).trans place,
        .spares (by rintro ⟨⟩) (mt of_decide_eq_true same)⟩
  | kept made taken same =>
    refine ⟨x, (congrArg (Store.place · n) same).trans place, .spares ?_ ?_⟩
    · cases r with
      | openNew n' mode => exact absurd rfl (made n' mode)
      | _ => rintro ⟨⟩
    · cases r with
      | unlink n' =>
        obtain ⟨err, refused⟩ | ⟨b, bound⟩ := h.step_unlink_cases t n'
        · cases refused.symm.trans e
          rintro ⟨⟩
        · exact absurd bound (taken n' b rfl)
      | _ => rintro ⟨⟩

/-- A bidder is answered at once, whatever the host is like. -/
lemma Protocol.bid_answered (may : (Protocol.bid n).Permits b r) (h : Host) (t : ThreadId) :
    ∃ a h', h.step t r = .done a h' := by
  cases r with
  | lock | awake | condDestroy | hold => cases may.2
  | _ => exact ⟨_, _, rfl⟩

/-- A bidder never has to wait. -/
lemma Program.Ensures.prompt {α : Type} {post : α → Bid → Prop} {p p' : Program α} {m : Move}
    (en : p.Ensures (.bid n) post b) (st : p.Step t h m p' h') : ∀ r, m ≠ .waited r := by
  rintro r rfl
  cases st with
  | wait eh =>
    obtain ⟨a, h'', eh'⟩ := Protocol.bid_answered en.1 h t
    cases eh.symm.trans eh'

/-- An answer to a bidder is one that the protocol of bids knows. -/
theorem Bid.Fits.answer (fits : b.Fits n t past x) (place : h.store.place n = .file x)
    (e : h.step t r = .done a h') (may : (Protocol.bid n).Permits b r)
    (granted : r.isFurnishing → r.failure? a = none) :
    ∃ b' y, (Protocol.bid n).Answers b r a b' ∧ h'.store.place n = .file y ∧
      b'.Fits n t (.moved t h (.answered r a) :: past) y := by
  cases r with
  | openNew n' mode =>
    obtain ⟨rfl, stage⟩ := may
    cases x with
    | none =>
      cases (Host.step_openNew place).symm.trans e
      -- Nobody asks for the name again between a refusal and the removal.
      have idle : ¬IsBarred n' t past ∧ ¬IsForestalled n' t past := by
        cases fits with
        | fresh free early | cleared free early => exact ⟨free, early⟩
        | _ => simp at stage
      exact ⟨.placed, _, .inl ⟨⟨_, rfl⟩, rfl⟩, Store.place_insert place,
        (Fits.placed idle.1 idle.2).spared (by rintro ⟨⟩) (by rintro ⟨⟩)⟩
    | some z =>
      cases (Host.step_openNew_of_bound place mode).symm.trans e
      -- A name that the bidder has freed stays free, so this is its first attempt.
      cases fits with
      | fresh free early =>
        exact ⟨.barred, some z, .inr ⟨rfl, rfl, rfl⟩, place,
          .barred (isBarred_cons.2 (.inl (decide_eq_true ⟨rfl, rfl⟩)))
            (by simp [isForestalled_cons, early, free])⟩
      | _ => simp at stage
  | unlink n' =>
    obtain ⟨rfl, rfl⟩ := may
    -- Others can have been here between the refusal and this removal.
    cases fits with
    | barred waits early =>
      cases (Host.step_unlink place).symm.trans e
      exact ⟨.cleared, none, .inl ⟨rfl, rfl⟩, Store.place_erase place,
        .cleared (by simp [isBarred_cons, Deed.frees, Deed.refuses])
          (by simp [isForestalled_cons, early, Deed.thread])⟩
    | forestalled late =>
      cases (Host.step_unlink_of_free place).symm.trans e
      exact ⟨.lost, none, .inr ⟨rfl, rfl⟩, place, .lost (isForestalled_cons.2 (.inl late))⟩
  | _ =>
    obtain ⟨rfl, furnishing⟩ := may
    obtain ⟨y, place', rebinds⟩ := Host.rebinds_name place e
    cases rebinds with
    | binds binds => cases binds
    | frees frees => cases frees
    | spares _ keeps =>
      exact ⟨.placed, x, ⟨granted furnishing, rfl⟩, place', fits.spared keeps (by rintro ⟨⟩)⟩

end

namespace Segment

variable {n : Name} {c : Config} {size : UInt32} {m : MappingId} {α : Type}

/-- What finishes an object that was just made is granted. -/
lemma ensures_granted {r : Request} {next : r.Answer → Program α} {post : α → Bid → Prop}
    (furnishing : r.isFurnishing)
    (goesOn : ∀ a, r.failure? a = none → (next a).Ensures (.bid n) post .placed) :
    (Program.ask r next).Ensures (.bid n) post .placed := by
  cases r with
  | openNew | unlink => cases furnishing
  | _ =>
    refine ⟨⟨rfl, furnishing⟩, ?_⟩
    rintro a _ ⟨granted, rfl⟩
    exact goesOn a granted

lemma ensures_prepare_bid : (prepare m size).Ensures (.bid n)
    (fun r b => b = .placed ∧ r = .ok ()) .placed := by
  -- Eleven calls come before the size is published.
  iterate 11
    refine ensures_granted rfl ?_
    rintro (e | ⟨⟩) ⟨⟩
  refine ensures_granted rfl ?_
  rintro a -
  exact ⟨rfl, rfl⟩

lemma ensures_pin_bid : (pin n c m size).Ensures (.bid n) (fun _ b => b = .placed) .placed := by
  unfold pin
  split
  case isTrue =>
    refine ensures_granted rfl ?_
    rintro (e | ⟨⟩) ⟨⟩
    exact rfl
  case isFalse => exact rfl

/-- What comes of a bid: a segment of some size that was made under the name, unless there was
nothing any more to take away. -/
def Obtains (n : Name) (size : UInt32) (r : Except SegmentError Segment) (b : Bid) : Prop :=
  b = .placed ∧ (∃ g, r = .ok g ∧ g.name = n ∧ g.role = .creator ∧ g.size = size ∧
    g.file.isSome ∧ g.mapping.isSome) ∨
  b = .lost ∧ r = .error (createError n .eexist (some .enoent))

lemma ensures_furnish_bid {f : FileId} :
    (furnish n f size c).Ensures (.bid n) (Obtains n size) .placed := by
  refine ensures_granted rfl ?_
  rintro (e | ⟨⟩) ⟨⟩
  refine ensures_granted rfl ?_
  rintro (e | m) ⟨⟩
  refine ensures_prepare_bid.bind ?_
  rintro _ _ ⟨rfl, rfl⟩
  refine ensures_pin_bid.bind ?_
  rintro _ _ rfl
  exact .inl ⟨rfl, _, rfl, rfl, rfl, rfl, rfl, rfl⟩

lemma ensures_openExclusive_bid : (openExclusive n c).Ensures (.bid n)
    (fun r b => b = .placed ∧ (∃ f, r = .ok f) ∨
      b = .lost ∧ r = .error (createError n .eexist (some .enoent))) .fresh := by
  refine ⟨⟨rfl, .inl rfl⟩, ?_⟩
  rintro _ _ (⟨⟨f, rfl⟩, rfl⟩ | ⟨-, rfl, rfl⟩)
  · exact .inl ⟨rfl, f, rfl⟩
  refine ⟨⟨rfl, rfl⟩, ?_⟩
  rintro _ _ (⟨rfl, rfl⟩ | ⟨rfl, rfl⟩)
  · refine ⟨⟨rfl, .inr rfl⟩, ?_⟩
    rintro _ _ (⟨⟨f, rfl⟩, rfl⟩ | ⟨⟨⟩, -⟩)
    exact .inl ⟨rfl, f, rfl⟩
  · exact .inr ⟨rfl, rfl⟩

/-- Creation makes a segment, unless its bid is lost. -/
theorem ensures_create_bid : (create n size c).Ensures (.bid n) (Obtains n size) .fresh := by
  rw [create_eq]
  refine ensures_openExclusive_bid.bind ?_
  rintro _ _ (⟨rfl, f, rfl⟩ | ⟨rfl, rfl⟩)
  · exact ensures_furnish_bid
  · exact .inr ⟨rfl, rfl⟩

end Segment

/-- A call that creates a segment comes to what its bid for the name comes to. -/
theorem ensures_openCall_bid {toggle : Option String} {x raw : String} {n : Name} {size : UInt32}
    {via : Via} (named : Name.ofRaw raw = .ok n) (creates : via.creates size) (positive : size ≠ 0)
    (admitted : via.isChecked → (via.settings toggle).validate = .ok ()) :
    (openCall toggle x raw size via).Ensures (.bid n)
      (fun o b => ∃ r, o = .ofOpening x (via.wrap toggle size r) ∧ Segment.Obtains n size r b)
      .fresh := by
  rw [openCall_eq named creates positive admitted]
  refine Segment.ensures_create_bid.bind ?_
  intro r b obtains
  unfold Via.report
  split
  case h_1 => exact ⟨_, rfl, obtains⟩
  case h_2 => exact ⟨r, rfl, obtains⟩

end SharedSegment
