import SharedSegment.Proofs.Naming.Holding
import SharedSegment.Proofs.Stakes.Confinement
import SharedSegment.Proofs.Stakes.Programs

/-!
# Who has which stake

In a session the stakes are with the calls that open or drop handles, and with handles. A call that
opens a handle passes its stake on to the handle, and a call that drops a handle takes the stake
over; all other calls work with the stake of the handle that they use. How stakes go on can be read
off the deeds (`Session.restake`), and they always back the calls and handles that have them
(`Session.IsStaked.step`), whichever calls fail and whoever dies.
-/

namespace SharedSegment
open Function Scenario Program

/-- The party whose stake a call works with. -/
def Underway.party (t : ThreadId) (c : Underway) : ThreadId ⊕ String :=
  match c.act, c.uses with
  | .openHandle .., _ => .inl t
  | _, some h => .inr h
  | _, none => .inl t

/-- Whether an act may change a stake: it opens a handle or tears one down. -/
def Scenario.Act.isStaking : Act → Bool
  | .openHandle .. | .onHandle _ .drop | .onHandle _ .destroy => true
  | _ => false

/-- Whether an act opens a handle. -/
def Scenario.Act.opensHandle : Act → Bool
  | .openHandle .. => true
  | _ => false

namespace Underway

variable {c : Underway} {r : Request}

/-- What a call asks for that neither opens a handle nor tears one down. -/
lemma uses_of_mayAsk (may : c.MayAsk r) (staking : c.act.isStaking = false) :
    ∃ x g, c.subject = some x ∧ x.segment? = some g ∧ g.Uses c.act.writes r := by
  obtain ⟨act, uses, subject, program⟩ := c
  cases act with
  | openHandle => cases staking
  | onHandle h op =>
    cases op with
    | drop | destroy => cases staking
    | _ => exact may
  | _ => exact may

/-- What a call asks for that tears a handle down. -/
lemma tears_of_mayAsk (may : c.MayAsk r) (staking : c.act.isStaking)
    (opens : c.act.opensHandle = false) :
    ∃ x g, c.subject = some x ∧ x.segment? = some g ∧ g.Tears r := by
  obtain ⟨act, uses, subject, program⟩ := c
  cases act with
  | openHandle => cases opens
  | onHandle h op =>
    cases op with
    | drop | destroy => exact may
    | _ => cases staking
  | _ => cases staking

end Underway

/-- What a call comes to: a handle that its stake backs, if it has opened one. -/
def Scenario.Act.Settles (a : Act) (o : Outcome) (c : Stake) : Prop :=
  match a with
  | .openHandle .. => ∀ g, o.effect.segment? = some g → c.Backs g
  | _ => True

lemma Scenario.Act.not_opensHandle {a : Act} (staking : a.isStaking = false) :
    a.opensHandle = false := by
  cases a with
  | openHandle => cases staking
  | _ => rfl

/-- A stake after a move on some host. -/
def Stake.moves (c : Stake) (h : Host) : Move → Stake
  | .answered r a => c.next ((h.ledger.opens? r a).getD 0) r a
  | .struck r _ => c.tried r
  | .told _ | .waited _ => c

/-- The stakes after a deed. -/
def Session.restake (s : Session) (ρ : ThreadId ⊕ String → Stake) :
    Deed → ThreadId ⊕ String → Stake
  | .began t (.openHandle ..) => update ρ (.inl t) .nothing
  | .began t (.onHandle h .drop) => update (handOver ρ t h) (.inr h) .nothing
  | .moved t h m =>
    match s.calls t with
    | some c => update ρ (c.party t) ((ρ (c.party t)).moves h m)
    | none => ρ
  | .returned t (.openHandle ..) ⟨_, .setHandle h _⟩ =>
    update (handOver ρ t h) (.inl t) .nothing
  | _ => ρ

/-- The stakes of calls and handles in a session back them. -/
structure Session.IsStaked (s : Session) (ρ : ThreadId ⊕ String → Stake) : Prop where
  holders : Stakeholders s.host ρ
  handles : ∀ h x g, s.handles h = some x → x.segment? = some g → (ρ (.inr h)).Holds g
  backed : ∀ h x g, s.handles h = some x → x.segment? = some g → ¬s.IsDestroying h →
    (ρ (.inr h)).Backs g
  subjects : ∀ t c x g, s.calls t = some c → c.act.opensHandle = false → c.subject = some x →
    x.segment? = some g → (ρ (c.party t)).Holds g
  programs : ∀ t c, s.calls t = some c → s.dead t = false → c.act.isStaking →
    c.program.Ensures .staking c.act.Settles (ρ (c.party t))
  lone : ∀ t t' c c', s.calls t = some c → s.calls t' = some c' → c.act.isStaking →
    c'.act.isStaking → c.party t = c'.party t' → t = t'
  destroys : ∀ t c h, s.calls t = some c → c.act.isStaking → c.party t = .inr h →
    c.act = .onHandle h .destroy

namespace Underway

variable {t t' : ThreadId} {c : Underway} {h : String}

/-- A call works with a stake of its thread, or with the one of the handle that it uses. -/
lemma party_cases (t : ThreadId) (c : Underway) :
    c.party t = .inl t ∨ ∃ h, c.uses = some h ∧ c.party t = .inr h := by
  obtain ⟨act, uses, subject, program⟩ := c
  cases act with
  | openHandle => exact .inl rfl
  | _ =>
    cases uses with
    | none => exact .inl rfl
    | some h => exact .inr ⟨h, rfl, rfl⟩

lemma party_ne_call (ne : t' ≠ t) : c.party t' ≠ .inl t := by
  obtain e | ⟨h, -, e⟩ := c.party_cases t'
  · rw [e]
    simpa using ne
  · rw [e]
    nofun

lemma party_of_opensHandle (opens : c.act.opensHandle) : c.party t = .inl t := by
  obtain ⟨act, uses, subject, program⟩ := c
  cases act with
  | openHandle => rfl
  | _ => cases opens

lemma uses_of_party (e : c.party t = .inr h) : c.uses = some h := by
  obtain e' | ⟨h', uses, e'⟩ := c.party_cases t
  · cases e'.symm.trans e
  · cases e'.symm.trans e
    exact uses

end Underway

namespace Session

variable {s : Session} {ρ : ThreadId ⊕ String → Stake} {t : ThreadId} {c : Underway} {a : Act}
  {o : Outcome} {y : String}

lemma restake_moved {h : Host} {m : Move} (ec : s.calls t = some c) :
    s.restake ρ (.moved t h m) = update ρ (c.party t) ((ρ (c.party t)).moves h m) := by
  simp only [restake, ec]

/-- Whoever opens a handle goes on with the stake of its thread. -/
lemma restake_moved_opening {h : Host} {m : Move} (ec : s.calls t = some c)
    (opens : c.act.opensHandle) :
    s.restake ρ (.moved t h m) (.inl t) = (ρ (.inl t)).moves h m := by
  rw [restake_moved ec, Underway.party_of_opensHandle opens, update_self]

lemma restake_onHandle {op : Operation} (nodrop : op ≠ .drop) :
    s.restake ρ (.began t (.onHandle y op)) = ρ := by
  cases op with
  | drop => exact absurd rfl nodrop
  | _ => rfl

/-- Whoever brings no handle leaves all stakes as they are. -/
lemma restake_of_spares (spares : o.effect.sparesHandles) :
    s.restake ρ (.returned t a o) = ρ := by
  obtain ⟨result, effect⟩ := o
  cases effect with
  | setHandle => cases spares
  | _ => cases a <;> rfl

lemma restake_of_not_opens (other : a.opensHandle = false) :
    s.restake ρ (.returned t a o) = ρ := by
  cases a with
  | openHandle => cases other
  | _ => rfl

/-- The stake of a call that has opened a handle goes to the handle. -/
lemma restake_of_opens {x : Handle} (opens : a.opensHandle) (ee : o.effect = .setHandle y x) :
    s.restake ρ (.returned t a o) = update (SharedSegment.handOver ρ t y) (.inl t) .nothing := by
  obtain ⟨result, effect⟩ := o
  cases ee
  cases a with
  | openHandle => rfl
  | _ => cases opens

end Session

namespace Stake

variable {c : Stake} {h h' : Host} {r : Request}

/-- What has to be taken down is tried, and the numbers stay. -/
lemma alike_of_tears {g : Segment} (tears : g.Tears r) (a : r.Answer) (k : ObjectId) :
    c.Alike (c.next k r a) ∧ c.Alike (c.tried r) := by
  cases r with
  | broadcast | condDestroy | mutexDestroy | unmap | unlink =>
    cases a <;> exact ⟨⟨rfl, rfl, rfl⟩, rfl, rfl, rfl⟩
  | close => exact ⟨⟨rfl, rfl, rfl⟩, rfl, rfl, rfl⟩
  | _ => cases tears

lemma alike_tried (c : Stake) (r : Request) : c.Alike (c.tried r) := by
  cases r <;> exact ⟨rfl, rfl, rfl⟩

/-- Using a segment is no matter of stakes. -/
lemma Holds.mayUse {g : Segment} {writes : Bool} (holds : c.Holds g) (uses : g.Uses writes r) :
    c.MayUse r := by
  cases r with
  | lock m | unlock m | makeConsistent m | park m | awake m | broadcast m | read m =>
    exact mayUse_mapping rfl rfl (holds.has uses.2)
  | write m off bs => exact mayUse_mapping rfl rfl (holds.has uses.2.1)
  | _ => cases uses

/-- What a host does without its ledger changing concerns no stake. -/
lemma Fits.of_ledger (fits : c.Fits h) (same : h'.ledger = h.ledger) : c.Fits h' := by
  have count : h'.objects.length = h.objects.length := by
    simpa [Host.ledger] using congrArg (fun l => l.outlines.length) same
  refine fits.keep (.of_tables (congrArg Ledger.files same) (congrArg Ledger.mappings same))
    (fun k lt => count ▸ lt) rfl rfl rfl ?_
  intro _ k o o' _ here here' isAt
  have shape := Host.outline?_of_object here'
  rw [same, Host.outline?_of_object here] at shape
  have same := Option.some.inj shape
  exact ⟨fun ne => (congrArg Outline.mutex same).symm.trans (isAt.mutex ne),
    fun ne => (congrArg Outline.condition same).symm.trans (isAt.condition ne)⟩

/-- What was tried is down for who has tried it. -/
lemma Fits.tried (fits : c.Fits h) (r : Request) : (c.tried r).Fits h := by
  obtain ⟨opened, mappings, made⟩ := c.alike_tried r
  refine fits.keep (.of_tables rfl rfl) (fun _ lt => lt) opened mappings made ?_
  intro _ k o o' _ here here' isAt
  cases here.symm.trans here'
  cases r with
  | mutexDestroy => exact ⟨fun ne => absurd rfl ne, isAt.condition⟩
  | condDestroy => exact ⟨isAt.mutex, fun ne => absurd rfl ne⟩
  | _ => exact isAt

end Stake

namespace Stakeholders

variable {ι : Type} [DecidableEq ι] {h h' : Host} {ρ : ι → Stake} {i j : ι}

omit [DecidableEq ι] in
lemma of_ledger (holders : Stakeholders h ρ) (same : h'.ledger = h.ledger) : Stakeholders h' ρ :=
  ⟨fun i => (holders.fits i).of_ledger same, holders.apart, holders.sole⟩

lemma tried (holders : Stakeholders h ρ) (i : ι) (r : Request) :
    Stakeholders h (Function.update ρ i ((ρ i).tried r)) := by
  obtain ⟨opened, mappings, made⟩ := (ρ i).alike_tried r
  refine holders.update (fun j _ => holders.fits j) ((holders.fits i).tried r) ?_ ?_
  · exact fun ν has => .inl (Stake.has_tried.1 has)
  · intro mine k ek
    rw [Stake.object?, opened] at ek
    exact .inl ⟨made ▸ mine, ek⟩

/-- A party gives its stake up. -/
lemma forget (holders : Stakeholders h ρ) (i : ι) :
    Stakeholders h (Function.update ρ i Stake.nothing) := by
  refine holders.update (fun j _ => holders.fits j) (Stake.fits_nothing h) ?_ nofun
  exact fun ν has => absurd has (Stake.not_has_nothing ν)

omit [DecidableEq ι] in
/-- Stakes may be handed over, as long as no two are merged. -/
lemma reindex {κ : Type} {e : κ → ι} (holders : Stakeholders h ρ) (inj : Injective e) :
    Stakeholders h fun j => ρ (e j) :=
  ⟨fun j => holders.fits (e j), fun _ _ ν has has' => inj (holders.apart _ _ ν has has'),
    fun _ _ k made made' ek ek' => inj (holders.sole _ _ k made made' ek ek')⟩

end Stakeholders

section
variable {h raw : String} {size : UInt32} {via : Via} {t : ThreadId} {x : Handle} {c : Stake}
  {p : Program Outcome}

/-- A call that opens a handle ends with a stake that backs the handle. -/
lemma ensures_openCall_staking (toggle : Option String) :
    (openCall toggle h raw size via).Ensures .staking
      (Act.Settles (.openHandle h raw size via)) .nothing := by
  refine (Ensures.openCall (fun og c => ∀ g, og = some g → c.Backs g) toggle (fun _ _ here => here)
    (fun _ _ _ _ _ => Segment.ensures_create_staking)
    (fun _ _ _ _ => Segment.ensures_attach_staking) nofun).mono ?_
  rintro o c ⟨-, backs⟩
  exact backs

/-- A call that tears a handle down works with a stake that backs the handle. -/
lemma ensures_teardown_staking {op : Operation} (tears : op = .drop ∨ op = .destroy)
    (backs : ∀ g, x.segment? = some g → c.Backs g) (ep : handleCall? t h x op = some p) :
    p.Ensures .staking (Act.Settles (.onHandle h op)) c := by
  have torn (g : Segment) (eg : x.segment? = some g) :
      g.destroy.Ensures .staking (fun _ _ => True) c :=
    (Segment.ensures_destroy_staking (backs g eg)).mono fun _ _ _ => trivial
  obtain rfl | rfl := tears
  · exact (Ensures.dropCall torn (fun _ => trivial) ep).mono fun _ _ _ => trivial
  · have torn (g : Segment) (eg : x = .segment g) :
        g.destroy.Ensures .staking (fun _ _ => True) c :=
      torn g (by rw [eg]; rfl)
    exact (Ensures.destroyCall torn ep).mono fun _ _ _ => trivial

end

namespace Session.IsStaked

variable {s s' : Session} {ρ ρ' : ThreadId ⊕ String → Stake} {d : Deed} {t : ThreadId}
  {c : Underway} {b : ObjectId} {σ : ThreadId ⊕ String → Custody}

/-- A thread begins a call, and no other call works with a stake that changes. -/
lemma begin {handles : String → Option Handle} (staked : s.IsStaked ρ) (free : s.calls t = none)
    (holders : Stakeholders s.host ρ')
    (others : ∀ t' c', s.calls t' = some c' → ρ' (c'.party t') = ρ (c'.party t'))
    (kept : ∀ h x, handles h = some x → s.handles h = some x ∧ ρ' (.inr h) = ρ (.inr h))
    (subject : ∀ x g, c.subject = some x → x.segment? = some g → (ρ' (c.party t)).Holds g)
    (program : c.act.isStaking → c.program.Ensures .staking c.act.Settles (ρ' (c.party t)))
    (lone : c.act.isStaking → ∀ t' c', s.calls t' = some c' → c'.party t' ≠ c.party t)
    (destroys : ∀ h, c.act.isStaking → c.party t = .inr h → c.act = .onHandle h .destroy) :
    ({ s with handles }.begin t c).IsStaked ρ' := by
  refine ⟨holders, ?_, ?_, ?_, ?_, ?_, ?_⟩
  · intro h x g ex eg
    obtain ⟨there, same⟩ := kept h x ex
    exact same ▸ staked.handles h x g there eg
  · intro h x g ex eg idle
    obtain ⟨there, same⟩ := kept h x ex
    exact same ▸ staked.backed h x g there eg fun busy =>
      idle ((isDestroying_begin free).2 (.inl busy))
  · intro t' c' x g ec uses sub eg
    obtain ⟨rfl, rfl⟩ | ⟨-, ec⟩ := begin_calls_inv ec
    · exact subject x g sub eg
    · exact others t' c' ec ▸ staked.subjects t' c' x g ec uses sub eg
  · intro t' c' ec alive staking
    obtain ⟨rfl, rfl⟩ | ⟨-, ec⟩ := begin_calls_inv ec
    · exact program staking
    · exact others t' c' ec ▸ staked.programs t' c' ec alive staking
  · intro t₁ t₂ c₁ c₂ ec₁ ec₂ staking₁ staking₂ same
    obtain ⟨rfl, rfl⟩ | ⟨-, there₁⟩ := begin_calls_inv ec₁ <;>
      obtain ⟨rfl, rfl⟩ | ⟨-, there₂⟩ := begin_calls_inv ec₂
    · rfl
    · exact absurd same.symm (lone staking₁ t₂ c₂ there₂)
    · exact absurd same (lone staking₂ t₁ c₁ there₁)
    · exact staked.lone t₁ t₂ c₁ c₂ there₁ there₂ staking₁ staking₂ same
  · intro t' c' h ec staking party
    obtain ⟨rfl, rfl⟩ | ⟨-, there⟩ := begin_calls_inv ec
    · exact destroys h staking party
    · exact staked.destroys t' c' h there staking party

/-- No call works with the stake of a handle that is not in use. -/
lemma party_ne_handle {h : String} {t' : ThreadId} {c' : Underway} (unused : ¬s.IsInUse h)
    (ec : s.calls t' = some c') : c'.party t' ≠ .inr h := by
  intro e
  exact unused (.inr ⟨t', c', ec, Underway.uses_of_party e⟩)

/-- No call works with a stake of a thread that is idle. -/
lemma party_ne_idle {t' : ThreadId} {c' : Underway} (free : s.calls t = none)
    (ec : s.calls t' = some c') : c'.party t' ≠ .inl t := by
  refine Underway.party_ne_call ?_
  rintro rfl
  cases free.symm.trans ec

lemma begin_open {toggle : Option String} {h raw : String} {size : UInt32} {via : Via}
    (staked : s.IsStaked ρ) (free : s.calls t = none) :
    (s.begin t ⟨.openHandle h raw size via, some h, none,
      openCall toggle h raw size via⟩).IsStaked (update ρ (.inl t) .nothing) := by
  refine staked.begin free (staked.holders.forget (.inl t)) ?_ ?_ ?_ ?_ ?_ nofun
  · intro t' c' ec
    exact update_of_ne (party_ne_idle free ec) _ _
  · intro h x ex
    exact ⟨ex, update_of_ne (by simp) _ _⟩
  · rintro _ _ ⟨⟩
  · intro _
    have fresh : update ρ (.inl t) Stake.nothing (.inl t) = .nothing := update_self ..
    change (openCall toggle h raw size via).Ensures _ _ (update ρ (.inl t) Stake.nothing (.inl t))
    rw [fresh]
    exact ensures_openCall_staking toggle
  · intro _ t' c' ec
    exact party_ne_idle free ec

lemma begin_drop {h : String} {x : Handle} {p : Program Outcome} (staked : s.IsStaked ρ)
    (free : s.calls t = none) (ex : s.handles h = some x) (unused : ¬s.IsInUse h)
    (ep : handleCall? t h x .drop = some p) :
    ({ s with handles := update s.handles h none }.begin t
      ⟨.onHandle h .drop, none, some x, p⟩).IsStaked
        (update (handOver ρ t h) (.inr h) .nothing) := by
  have taken : update (handOver ρ t h) (.inr h) .nothing (.inl t) = ρ (.inr h) :=
    (update_of_ne (by simp) _ _).trans (handOver_call ρ)
  have backs (g : Segment) (eg : x.segment? = some g) : (ρ (.inr h)).Backs g := by
    refine staked.backed h x g ex eg ?_
    rintro ⟨t', c', ec, -, uses⟩
    exact unused (.inr ⟨t', c', ec, uses⟩)
  refine staked.begin free ((staked.holders.reindex (Equiv.swap _ _).injective).forget _) ?_ ?_ ?_
    ?_ ?_ nofun
  · intro t' c' ec
    have ne := party_ne_handle unused ec
    rw [update_of_ne ne, handOver, Equiv.swap_apply_of_ne_of_ne (party_ne_idle free ec) ne]
  · intro h' x' ex'
    obtain ⟨-, ⟨⟩⟩ | ⟨ne, ex'⟩ := update_inv ex'
    exact ⟨ex', (update_of_ne (by simpa using ne) _ _).trans (handOver_handle_ne ρ ne)⟩
  · rintro _ g ⟨⟩ eg
    exact taken.symm ▸ (backs g eg).toHolds
  · intro _
    exact taken.symm ▸ ensures_teardown_staking (.inl rfl) backs ep
  · intro _ t' c' ec
    exact party_ne_idle free ec

/-- A thread begins to use a handle, or to destroy it. -/
lemma begin_use {h : String} {x : Handle} (staked : s.IsStaked ρ) (free : s.calls t = none)
    (ex : s.handles h = some x) (party : c.party t = .inr h) (subject : c.subject = some x)
    (program : c.act.isStaking → c.program.Ensures .staking c.act.Settles (ρ (.inr h)))
    (destroys : c.act.isStaking → ¬s.IsInUse h ∧ c.act = .onHandle h .destroy) :
    (s.begin t c).IsStaked ρ := by
  refine staked.begin free staked.holders (fun _ _ _ => rfl) (fun h x ex => ⟨ex, rfl⟩) ?_ ?_ ?_ ?_
  · intro x' g sub eg
    cases subject.symm.trans sub
    exact party ▸ staked.handles h x g ex eg
  · exact party.symm ▸ program
  · intro staking t' c' ec
    rw [party]
    exact party_ne_handle (destroys staking).1 ec
  · intro h' staking party'
    cases party.symm.trans party'
    exact (destroys staking).2

/-- A thread makes a step in its call, by which no stake changes but the one that it works with. -/
lemma progress {p' : Program Outcome} {h' : Host} {x : Stake} (staked : s.IsStaked ρ)
    (ec : s.calls t = some c) (holders : Stakeholders h' (update ρ (c.party t) x))
    (program : c.act.isStaking → p'.Ensures .staking c.act.Settles x)
    (alike : c.act.opensHandle = false → (ρ (c.party t)).Alike x)
    (same : c.act.isStaking = false → x = ρ (c.party t)) :
    (s.move t c p' h').IsStaked (update ρ (c.party t) x) := by
  have holds (i : ThreadId ⊕ String) (g : Segment) (holds : (ρ i).Holds g)
      (other : c.party t = i → c.act.opensHandle = false) :
      (update ρ (c.party t) x i).Holds g := by
    by_cases ei : i = c.party t
    · subst ei
      rw [update_self]
      exact (alike (other rfl)).holds holds
    · rwa [update_of_ne ei]
  have uses' {i : ThreadId ⊕ String} (ne : i ≠ .inl t) (e : c.party t = i) :
      c.act.opensHandle = false := by
    cases opens : c.act.opensHandle with
    | false => rfl
    | true => exact absurd (e.symm.trans (Underway.party_of_opensHandle opens)) ne
  refine ⟨holders, ?_, ?_, ?_, ?_, ?_, ?_⟩
  · intro h y g ey eg
    exact holds _ g (staked.handles h y g ey eg) (uses' (by simp))
  · intro h y g ey eg idle
    have idle' : ¬s.IsDestroying h := fun busy => idle ((isDestroying_move ec).2 busy)
    have backs := staked.backed h y g ey eg idle'
    by_cases e : c.party t = .inr h
    · rw [e, update_self]
      cases staking : c.act.isStaking with
      | true =>
        exact absurd ⟨t, c, ec, staked.destroys t c h ec staking e, Underway.uses_of_party e⟩ idle'
      | false => exact same staking ▸ e.symm ▸ backs
    · rwa [update_of_ne (Ne.symm e)]
  · intro t' c' y g ec' uses sub eg
    obtain ⟨rfl, rfl⟩ | ⟨ne, ec'⟩ := move_calls_inv ec'
    · exact holds _ g (staked.subjects t' c y g ec uses sub eg) fun _ => uses
    · exact holds _ g (staked.subjects t' c' y g ec' uses sub eg)
        (uses' (Underway.party_ne_call ne))
  · intro t' c' ec' alive staking
    obtain ⟨rfl, rfl⟩ | ⟨ne, ec'⟩ := move_calls_inv ec'
    · exact (update_self (c.party t') x ρ).symm ▸ program staking
    · have program' := staked.programs t' c' ec' alive staking
      by_cases e : c'.party t' = c.party t
      · cases staking' : c.act.isStaking with
        | true => exact absurd (staked.lone t' t c' c ec' ec staking staking' e) ne
        | false => rwa [e, update_self, same staking', ← e]
      · rwa [update_of_ne e]
  · intro t₁ t₂ c₁ c₂ ec₁ ec₂ staking₁ staking₂ eq
    obtain ⟨rfl, rfl⟩ | ⟨-, there₁⟩ := move_calls_inv ec₁ <;>
      obtain ⟨rfl, rfl⟩ | ⟨-, there₂⟩ := move_calls_inv ec₂
    · rfl
    · exact staked.lone t₁ t₂ c c₂ ec there₂ staking₁ staking₂ eq
    · exact staked.lone t₁ t₂ c₁ c there₁ ec staking₁ staking₂ eq
    · exact staked.lone t₁ t₂ c₁ c₂ there₁ there₂ staking₁ staking₂ eq
  · intro t' c' h ec' staking party
    obtain ⟨rfl, rfl⟩ | ⟨-, there⟩ := move_calls_inv ec'
    · exact staked.destroys t' c h ec staking party
    · exact staked.destroys t' c' h there staking party

/-- A call does only what its stake permits. -/
lemma permits {r : Request} {next : r.Answer → Program Outcome} (staked : s.IsStaked ρ)
    (confined : s.IsConfined) (ec : s.calls t = some c) (alive : s.dead t = false)
    (ep : c.program = .ask r next) : (ρ (c.party t)).Permits r := by
  cases staking : c.act.isStaking with
  | true =>
    have en := staked.programs t c ec alive staking
    rw [ep] at en
    exact en.1
  | false =>
    obtain ⟨x, g, sub, eg, uses⟩ := c.uses_of_mayAsk (confined.asks ec ep) staking
    have holds := staked.subjects t c x g ec (Act.not_opensHandle staking) sub eg
    exact (Stake.spares (holds.mayUse uses).1 (holds.mayUse uses).2).1

lemma move {m : Move} {p' : Program Outcome} {h' : Host} (staked : s.IsStaked ρ)
    (confined : s.IsConfined) (ec : s.calls t = some c)
    (alive : s.dead t = false) (st : c.program.Step t s.host m p' h') :
    (s.move t c p' h').IsStaked
      (update ρ (c.party t) ((ρ (c.party t)).moves s.host m)) := by
  -- Who neither opens a handle nor tears one down asks for nothing that changes its stake.
  have uses {r : Request} (may : c.MayAsk r) (staking : c.act.isStaking = false) :
      r.isStaking = false := by
    obtain ⟨x, g, sub, eg, uses⟩ := c.uses_of_mayAsk may staking
    exact ((staked.subjects t c x g ec (Act.not_opensHandle staking) sub eg).mayUse uses).1
  have quiet (h' : Host) (same : h'.ledger = s.host.ledger) :
      Stakeholders h' (update ρ (c.party t) (ρ (c.party t))) := by
    rw [update_eq_self]
    exact staked.holders.of_ledger same
  cases c with
  | mk act used subject program =>
    cases st with
    | tell =>
      exact staked.progress ec (quiet _ rfl) (staked.programs t _ ec alive) (fun _ => .refl _)
        fun _ => rfl
    | wait eh =>
      exact staked.progress ec (quiet _ (Host.ledger_wait eh)) (staked.programs t _ ec alive)
        (fun _ => .refl _) fun _ => rfl
    | @answer r next _ a _ eh =>
      have may := confined.asks ec rfl
      refine staked.progress ec (staked.holders.answer (staked.permits confined ec alive rfl) eh)
        ?_ ?_ ?_
      · intro staking
        exact (staked.programs t _ ec alive staking).2 a _ ⟨_, rfl⟩
      · intro opens
        cases staking : act.isStaking with
        | true =>
          obtain ⟨x, g, -, -, tears⟩ := Underway.tears_of_mayAsk may staking opens
          exact (Stake.alike_of_tears tears a _).1
        | false =>
          change Stake.Alike _ (Stake.next _ _ _ _)
          rw [Stake.next_of_not_isStaking (uses may staking)]
          exact .refl _
      · exact fun staking => Stake.next_of_not_isStaking (uses may staking) a
    | @strike r next _ call fail e er =>
      have may := confined.asks ec rfl
      refine staked.progress ec (staked.holders.tried _ r) ?_ (fun _ => Stake.alike_tried _ r) ?_
      · intro staking
        have struck := (staked.programs t _ ec alive staking).2 (fail e) _ ⟨0, rfl⟩
        rwa [Stake.next_fail er] at struck
      · intro staking
        have other := uses may staking
        cases r with
        | mutexDestroy | condDestroy => cases other
        | _ => rfl

/-- A thread comes back from its call, and no call or handle that stays has another stake then. -/
lemma finish {o : Outcome} (staked : s.IsStaked ρ) (ec : s.calls t = some c)
    (holders : Stakeholders s.host ρ')
    (others : ∀ t' c', t' ≠ t → s.calls t' = some c' → ρ' (c'.party t') = ρ (c'.party t'))
    (backed : ∀ h x g, (s.conclude t o).handles h = some x → x.segment? = some g →
      (ρ' (.inr h)).Backs g ∨ s.handles h = some x ∧ ρ' (.inr h) = ρ (.inr h) ∧
        c.act ≠ .onHandle h .destroy) : (s.conclude t o).IsStaked ρ' := by
  refine ⟨?_, ?_, ?_, ?_, ?_, ?_, ?_⟩
  · rw [conclude_host]
    exact holders
  · intro h x g ex eg
    obtain backs | ⟨there, same, -⟩ := backed h x g ex eg
    · exact backs.toHolds
    · exact same ▸ staked.handles h x g there eg
  · intro h x g ex eg idle
    obtain backs | ⟨there, same, other⟩ := backed h x g ex eg
    · exact backs
    · exact same ▸ staked.backed h x g there eg fun busy =>
        idle ((isDestroying_conclude ec other).2 busy)
  · intro t' c' x g ec' uses sub eg
    obtain ⟨ne, there⟩ := conclude_calls_inv ec'
    exact others t' c' ne there ▸ staked.subjects t' c' x g there uses sub eg
  · intro t' c' ec' alive staking
    obtain ⟨ne, there⟩ := conclude_calls_inv ec'
    rw [conclude_dead] at alive
    exact others t' c' ne there ▸ staked.programs t' c' there alive staking
  · intro t₁ t₂ c₁ c₂ ec₁ ec₂
    exact staked.lone t₁ t₂ c₁ c₂ (conclude_calls_inv ec₁).2 (conclude_calls_inv ec₂).2
  · intro t' c' h ec'
    exact staked.destroys t' c' h (conclude_calls_inv ec').2

/-- A thread comes back from any call. -/
lemma conclude {o : Outcome} (staked : s.IsStaked ρ) (kept : s.IsKeptFrom b σ) (lent : s.IsLent)
    (ec : s.calls t = some c) (alive : s.dead t = false) (ep : c.program = .ret o) :
    (s.conclude t o).IsStaked (s.restake ρ (.returned t c.act o)) := by
  have yields := kept.calls t c ec alive
  rw [ep] at yields
  obtain ⟨result, effect⟩ := o
  cases Act.Yields.returns yields with
  | spares spares other =>
    rw [restake_of_spares spares]
    refine staked.finish ec staked.holders (fun _ _ _ _ => rfl) ?_
    intro h x g ex eg
    rw [conclude_handles spares] at ex
    exact .inr ⟨ex, rfl, other h⟩
  | @opens _ _ _ _ h x act ee =>
    cases ee
    have settles := staked.programs t c ec alive (by rw [act]; rfl)
    rw [ep, act] at settles
    have mine : c.party t = .inl t := Underway.party_of_opensHandle (by rw [act]; rfl)
    rw [mine] at settles
    obtain ⟨uses, free⟩ := lent.opening_inv ec act ep rfl
    rw [restake_of_opens (by rw [act]; rfl) rfl]
    refine staked.finish ec ((staked.holders.reindex (Equiv.swap _ _).injective).forget _) ?_ ?_
    · intro t' c' ne ec'
      have other : c'.party t' ≠ .inr h := by
        intro e
        exact ne (lent.sole t' t c' c h free ec' (Underway.uses_of_party e) ec uses)
      have other' : c'.party t' ≠ .inl t := Underway.party_ne_call ne
      rw [update_of_ne other', SharedSegment.handOver, Equiv.swap_apply_of_ne_of_ne other' other]
    · intro h' x' g ex' eg
      rw [conclude_setHandle rfl] at ex'
      obtain ⟨rfl, new⟩ | ⟨ne, ex'⟩ := update_inv ex'
      · cases new
        rw [update_of_ne (by simp), handOver_handle]
        exact .inl (settles g eg)
      · refine .inr ⟨ex', ?_, by simp [act]⟩
        rw [update_of_ne (by simp), handOver_handle_ne ρ ne]
  | @destroys h g act ee =>
    cases ee
    rw [restake_of_not_opens (by rw [act]; rfl)]
    refine staked.finish ec staked.holders (fun _ _ _ _ => rfl) ?_
    intro h' x' g' ex' eg'
    rw [conclude_setHandle rfl] at ex'
    obtain ⟨-, new⟩ | ⟨ne, ex'⟩ := update_inv ex'
    · cases new
      cases eg'
      exact .inl (Stake.backs_empty _ g)
    · refine .inr ⟨ex', rfl, ?_⟩
      rw [act]
      rintro ⟨⟩
      exact ne rfl

/-- The stakes go on to back calls and handles, as the deeds tell. -/
theorem step (staked : s.IsStaked ρ) (kept : s.IsKeptFrom b σ) (lent : s.IsLent)
    (confined : s.IsConfined) (st : s.Step d s') : s'.IsStaked (s.restake ρ d) := by
  cases st with
  | openHandle idle => exact staked.begin_open idle.calls
  | @onHandle t h op x p idle ex excl taken nodrop ep =>
    rw [restake_onHandle nodrop]
    by_cases destroys : op = .destroy
    · subst destroys
      have unused := excl rfl
      refine staked.begin_use idle.calls ex rfl rfl ?_ fun _ => ⟨unused, rfl⟩
      intro _
      refine ensures_teardown_staking (.inr rfl) (fun g eg => staked.backed h x g ex eg ?_) ep
      rintro ⟨t', c', ec, -, uses⟩
      exact unused (.inr ⟨t', c', ec, uses⟩)
    · have other : Act.isStaking (.onHandle h op) = false := by
        cases op with
        | drop => exact absurd rfl nodrop
        | destroy => exact absurd rfl destroys
        | _ => rfl
      refine staked.begin_use idle.calls ex rfl rfl ?_ ?_
      · exact fun staking => absurd staking (by simp [other])
      · exact fun staking => absurd staking (by simp [other])
  | drop idle ex unused ep => exact staked.begin_drop idle.calls ex unused ep
  | @onGuard t g x f op idle eg ex => exact staked.begin_use idle.calls ex rfl rfl nofun nofun
  | @move t c m p' h' ec alive st =>
    rw [restake_moved ec]
    exact staked.move confined ec alive st
  | finish ec alive ep => exact staked.conclude kept lent ec alive ep
  | @die t alive =>
    refine ⟨staked.holders.of_ledger Host.ledger_bury, staked.handles, staked.backed,
      staked.subjects, ?_, staked.lone, staked.destroys⟩
    intro t' c ec alive'
    exact staked.programs t' c ec (bury_dead_inv alive').2

lemma init (h : Host) : (Session.ofHost h).IsStaked fun _ => .nothing := by
  refine ⟨⟨fun _ => Stake.fits_nothing h, ?_, nofun⟩, ?_, ?_, ?_, ?_, ?_, ?_⟩
  · exact fun i j ν has => absurd has (Stake.not_has_nothing ν)
  · intro h x g ex
    cases ex
  · intro h x g ex
    cases ex
  · intro t c x g ec
    cases ec
  · intro t c ec
    cases ec
  · intro t t' c c' ec
    cases ec
  · intro t c h ec
    cases ec

end Session.IsStaked

/-- What holds in every session of its calls and handles: what they have in custody, what they
borrow, what they may ask for, and which stakes they have. -/
structure Session.IsRegular (b : ObjectId) (s : Session) (ρ : ThreadId ⊕ String → Stake) :
    Prop where
  kept : ∃ σ, s.IsKeptFrom b σ
  lent : s.IsLent
  confined : s.IsConfined
  staked : s.IsStaked ρ

namespace Session.IsRegular

variable {b : ObjectId} {s s' : Session} {ρ : ThreadId ⊕ String → Stake} {d : Deed}

theorem step (regular : s.IsRegular b ρ) (st : s.Step d s') : s'.IsRegular b (s.restake ρ d) := by
  obtain ⟨σ, kept⟩ := regular.kept
  exact ⟨kept.step st, regular.lent.step st, regular.confined.step st,
    regular.staked.step kept regular.lent regular.confined st⟩

lemma init (h : Host) : (Session.ofHost h).IsRegular h.objects.length fun _ => .nothing := by
  refine ⟨⟨_, .init h⟩, .init h, ?_, .init h⟩
  rintro t c ⟨⟩

theorem of_run {h : Host} {past : List Deed} (run : Run Session.Step (.ofHost h) past s) :
    ∃ ρ, s.IsRegular h.objects.length ρ := by
  induction run with
  | nil => exact ⟨_, .init h⟩
  | cons run st ih =>
    obtain ⟨ρ, regular⟩ := ih
    exact ⟨_, regular.step st⟩

end Session.IsRegular
end SharedSegment
