import SharedSegment.Proofs.Stakes.Holders
import SharedSegment.Proofs.Stakes.Likeness

/-!
# Handles that are discarded

A handle of an attacher is torn down through its own numbers, and nobody else goes through these
(`Session.Avoids`). So a run in which such a handle is torn down can be replayed where it was put
aside instead: all others do what they did, with the same results, on a host that differs in these
numbers only (`Session.IsAside.run`).
-/

namespace SharedSegment
open Function Scenario Program

/-- Whether an effect leaves all guards as they are. -/
def Scenario.Effect.sparesGuards : Effect → Bool
  | .setGuard _ | .removeGuard _ => false
  | _ => true

/-- The handles after an effect. -/
def Scenario.Effect.rehandle (e : Effect) (handles : String → Option Handle) :
    String → Option Handle :=
  match e with
  | .setHandle h x => update handles h (some x)
  | _ => handles

/-- The same deed, on another host. -/
def Deed.onHost (h : Host) : Deed → Deed
  | .moved t _ m => .moved t h m
  | d => d

/-- Deeds without those by which a thread finishes the call that it is in at the beginning. All
others are done as they were, on whatever host; `busy` tells whether the thread is still in that
call. -/
inductive Deed.Skips (t : ThreadId) : (busy : Bool) → List Deed → List Deed → Prop where
  | nil :
    Skips t true [] []
  | moved {h m past past'} :
    Skips t true past past' →
    Skips t true (.moved t h m :: past) past'
  | returned {a o past past'} :
    Skips t true past past' →
    Skips t false (.returned t a o :: past) past'
  | other {busy d h past past'} :
    Skips t busy past past' →
    (busy → d.thread = t → d = .died t) →
    Skips t busy (d :: past) (d.onHost h :: past')

section
variable {e : Effect} {handles : String → Option Handle} {h : String} {x : Option Handle}

lemma Scenario.Effect.rehandle_of_ne (ne : ∀ y z, e = .setHandle y z → h ≠ y) :
    e.rehandle handles h = handles h := by
  cases e with
  | setHandle y z => exact update_of_ne (ne y z rfl) _ _
  | _ => rfl

lemma Scenario.Effect.rehandle_update (ne : ∀ y z, e = .setHandle y z → h ≠ y) :
    e.rehandle (update handles h x) = update (e.rehandle handles) h x := by
  cases e with
  | setHandle y z => exact update_comm (ne y z rfl) _ _ _
  | _ => rfl

end

/-- A session in which a call is over, with what it changes of handles. -/
def Session.ended (s : Session) (t : ThreadId) (e : Effect) : Session :=
  { s with calls := update s.calls t none, handles := e.rehandle s.handles }

/-- A deed has nothing to do with a handle that is there. -/
structure Session.Bypasses (s : Session) (y : String) (d : Deed) : Prop where
  there : s.handles y ≠ none
  begins : ∀ t op, d ≠ .began t (.onHandle y op)
  guards : ∀ t g x, s.guards t g = some x → x.handle ≠ y
  returns : ∀ t a o x, d = .returned t a o → o.effect ≠ .setHandle y x

namespace Session

variable {s s' : Session} {t t' : ThreadId} {c : Underway} {d : Deed} {e : Effect}

lemma conclude_eq_ended {o : Outcome} (spares : o.effect.sparesGuards) :
    s.conclude t o = s.ended t o.effect := by
  obtain ⟨r, e⟩ := o
  cases e with
  | setGuard | removeGuard => cases spares
  | _ => rfl

lemma inUse_ended {h : String} (used : (s.ended t e).IsInUse h) : s.IsInUse h := by
  obtain guarded | ⟨t', c, ec, uses⟩ := used
  · exact .inl guarded
  · obtain ⟨-, ⟨⟩⟩ | ⟨-, ec⟩ := update_inv ec
    exact .inr ⟨t', c, ec, uses⟩

lemma idle_ended (idle : s.IsIdle t') (ne : t' ≠ t) : (s.ended t e).IsIdle t' :=
  ⟨(update_of_ne ne _ _).trans idle.calls, idle.dead⟩

lemma ended_begin (ne : t' ≠ t) : (s.begin t' c).ended t e = (s.ended t e).begin t' c :=
  congrArg (fun calls => { s with calls, handles := e.rehandle s.handles }) (update_comm ne ..)

lemma ended_move {p : Program Outcome} {h : Host} (ne : t' ≠ t) :
    (s.move t' c p h).ended t e = (s.ended t e).move t' c p h :=
  congrArg (fun calls => { s with host := h, calls, handles := e.rehandle s.handles })
    (update_comm ne ..)

/-- Who comes back may do so when another call is already over. -/
lemma ended_conclude {o : Outcome} (ne : t' ≠ t)
    (other : ∀ y x z, e = .setHandle y x → o.effect ≠ .setHandle y z) :
    (s.conclude t' o).ended t e = (s.ended t e).conclude t' o := by
  obtain ⟨r, e'⟩ := o
  have calls : update (update s.calls t' none) t none = update (update s.calls t none) t' none :=
    update_comm ne ..
  cases e' with
  | setHandle h x =>
    have handles : e.rehandle (update s.handles h (some x)) =
        update (e.rehandle s.handles) h (some x) := by
      refine Effect.rehandle_update ?_
      rintro y z e rfl
      exact other _ _ _ e rfl
    simp only [conclude, apply, ended, calls, handles]
  | _ => simp only [conclude, apply, ended, calls]

/-- What others do that has nothing to do with what a call changes can be done as well when that
call is already over. -/
theorem Step.ended (st : s.Step d s') (other : d.thread = t → d = .died t)
    (bypasses : ∀ y x, e = .setHandle y x → s.Bypasses y d) :
    (s.ended t e).Step d (s'.ended t e) := by
  cases st with
  | @openHandle t' toggle h raw size via idle unnamed unused =>
    have et : t' ≠ t := fun et => nomatch other et
    rw [ended_begin et]
    refine .openHandle (idle_ended idle et) ?_ fun used => unused (inUse_ended used)
    refine (Effect.rehandle_of_ne ?_).trans unnamed
    rintro y x e rfl
    exact (bypasses _ _ e).there unnamed
  | @onHandle t' h op x p idle ex excl taken nodrop ep =>
    have et : t' ≠ t := fun et => nomatch other et
    rw [ended_begin et]
    refine .onHandle (idle_ended idle et) ?_ (fun ex used => excl ex (inUse_ended used)) taken nodrop
      ep
    refine (Effect.rehandle_of_ne ?_).trans ex
    rintro y x e rfl
    exact (bypasses _ _ e).begins t' op rfl
  | @drop t' h x p idle ex unused ep =>
    have et : t' ≠ t := fun et => nomatch other et
    have ne y x (ee : e = .setHandle y x) : h ≠ y := by
      rintro rfl
      exact (bypasses _ _ ee).begins t' .drop rfl
    have drops := Step.drop (s := s.ended t e) (idle_ended idle et)
      ((Effect.rehandle_of_ne ne).trans ex) (fun used => unused (inUse_ended used)) ep
    rw [ended_begin et]
    have same : Session.ended { s with handles := update s.handles h none } t e =
        { s.ended t e with handles := update (s.ended t e).handles h none } :=
      congrArg (fun handles => { s with calls := update s.calls t none, handles })
        (Effect.rehandle_update ne)
    rw [same]
    exact drops
  | @onGuard t' g x f op idle eg ex =>
    have et : t' ≠ t := fun et => nomatch other et
    rw [ended_begin et]
    refine .onGuard (idle_ended idle et) eg ((Effect.rehandle_of_ne ?_).trans ex)
    rintro y z e
    exact (bypasses y z e).guards t' g x eg
  | @move t' c m p' h' ec alive st =>
    have et : t' ≠ t := fun et => nomatch other et
    rw [ended_move et]
    exact .move (s := s.ended t e) ((update_of_ne et _ _).trans ec) alive st
  | @finish t' c o ec alive ep =>
    have et : t' ≠ t := fun et => nomatch other et
    rw [ended_conclude et]
    · exact .finish ((update_of_ne et _ _).trans ec) alive ep
    · exact fun y x z ee => (bypasses y x ee).returns t' c.act o z rfl
  | die alive => exact .die (s := s.ended t e) alive

/-- A session on another host. -/
def onHost (s : Session) (h : Host) : Session := { s with host := h }

lemma onHost_conclude {h : Host} {o : Outcome} :
    (s.conclude t o).onHost h = (s.onHost h).conclude t o := by
  obtain ⟨r, e⟩ := o
  cases e <;> rfl

/-- What is done on a host can be done on another one that replies alike. -/
theorem Step.onHost {R : Host → Host → Prop} {h : Host} (st : s.Step d s') (like : R s.host h)
    (replies : ∀ t c m r next, d = .moved t s.host m → s.calls t = some c → s.dead t = false →
      c.program = .ask r next → (s.host.step t r).Like R (h.step t r))
    (buries : ∀ t, R (s.host.bury t) (h.bury t)) :
    ∃ h', (s.onHost h).Step (d.onHost h) (s'.onHost h') ∧ R s'.host h' := by
  cases st with
  | openHandle idle unnamed unused =>
    exact ⟨h, .openHandle ⟨idle.calls, idle.dead⟩ unnamed unused, like⟩
  | onHandle idle ex excl taken nodrop ep =>
    exact ⟨h, .onHandle ⟨idle.calls, idle.dead⟩ ex excl taken nodrop ep, like⟩
  | drop idle ex unused ep =>
    exact ⟨h, .drop (s := s.onHost h) ⟨idle.calls, idle.dead⟩ ex unused ep, like⟩
  | onGuard idle eg ex => exact ⟨h, .onGuard ⟨idle.calls, idle.dead⟩ eg ex, like⟩
  | @move t c m p' h' ec alive st =>
    obtain ⟨g, st', like'⟩ := st.mirror like fun r next ep =>
      replies t c m r next rfl ec alive ep
    exact ⟨g, .move (s := s.onHost h) ec alive st', like'⟩
  | @finish t c o ec alive ep =>
    refine ⟨h, ?_, by rwa [conclude_host]⟩
    rw [onHost_conclude]
    exact .finish (s := s.onHost h) ec alive ep
  | @die t alive => exact ⟨h.bury t, .die (s := s.onHost h) alive, buries t⟩

end Session

/-- The numbers that a segment holds. -/
def Segment.Numbers (g : Segment) : Number → Prop
  | .file f => g.file = some f
  | .mapping m => g.mapping = some m

/-- A host has given a number already. -/
def Host.HasGiven (h : Host) : Number → Prop
  | .file f => f < h.files.length
  | .mapping m => m < h.mappings.length

section
variable {g : Segment} {r : Request} {ν : Number} {c : Stake} {h h' : Host} {t : ThreadId}

lemma Segment.Tears.numbers (tears : g.Tears r) (through : r.through? = some ν) : g.Numbers ν := by
  cases r with
  | broadcast | condDestroy | mutexDestroy =>
    cases through
    exact tears.2.2
  | unmap | close =>
    cases through
    exact tears
  | unlink => cases through
  | _ => cases tears

lemma Segment.Uses.numbers {writes : Bool} (uses : g.Uses writes r)
    (through : r.through? = some ν) : g.Numbers ν := by
  cases r with
  | lock | unlock | makeConsistent | park | awake | broadcast | read =>
    cases through
    exact uses.2
  | write =>
    cases through
    exact uses.2.1
  | _ => cases uses

lemma Stake.Holds.numbers (holds : c.Holds g) (has : g.Numbers ν) : c.Has ν := by
  cases ν with
  | file f => exact holds.file f has
  | mapping m => exact holds.has has

lemma Host.Numbers.hasGiven (numbers : h.Numbers h') (given : h.HasGiven ν) : h'.HasGiven ν := by
  cases ν with
  | file f => exact Nat.lt_of_lt_of_le given numbers.files.more
  | mapping m => exact Nat.lt_of_lt_of_le given numbers.mappings.more

/-- A party gains no number by an answer but one that was just given. -/
lemma Stake.has_of_next {k : ObjectId} {a : r.Answer} (e : h.step t r = .done a h')
    (has : (c.next k r a).Has ν) : c.Has ν ∨ ¬h.HasGiven ν := by
  have st := Host.ledger_step e
  cases r with
  | openNew n mode =>
    obtain ⟨err, rfl, -⟩ | ⟨rfl, -⟩ := st
    · exact .inl has
    · refine .inr ?_
      cases ν with
      | file f =>
        obtain ⟨_, ⟨⟩⟩ := has
        exact Nat.lt_irrefl _
      | mapping m => obtain ⟨_, ⟨⟩⟩ := has
  | openExisting n =>
    obtain ⟨err, rfl, -⟩ | ⟨k, y, -, -, rfl, -⟩ := st
    · exact .inl has
    · refine .inr ?_
      cases ν with
      | file f =>
        obtain ⟨_, ⟨⟩⟩ := has
        exact Nat.lt_irrefl _
      | mapping m => obtain ⟨_, ⟨⟩⟩ := has
  | map f len =>
    obtain ⟨err, rfl, -⟩ | ⟨k, y, -, rfl, -⟩ := st
    · exact .inl has
    · cases ν with
      | file f => exact .inl has
      | mapping m =>
        obtain ⟨l, _ | ⟨_, mem⟩⟩ := has
        · exact .inr (Nat.lt_irrefl _)
        · exact .inl ⟨l, mem⟩
  | mutexInit | condInit => cases a <;> exact .inl (by cases ν <;> exact has)
  | _ => exact .inl (Stake.has_tried.1 has)

lemma Stake.has_of_moves {m : Move} {p p' : Program Outcome} (st : p.Step t h m p' h')
    (has : (c.moves h m).Has ν) : c.Has ν ∨ ¬h.HasGiven ν := by
  cases st with
  | tell | wait => exact .inl has
  | strike => exact .inl (Stake.has_tried.1 has)
  | answer e => exact Stake.has_of_next e has

end

/-- Nobody in a session goes through any of some numbers. -/
structure Session.Avoids (N : Number → Prop) (ρ : ThreadId ⊕ String → Stake) (s : Session) :
    Prop where
  handles : ∀ h x g ν, s.handles h = some x → x.segment? = some g → g.Numbers ν → ¬N ν
  subjects : ∀ t c x g ν, s.calls t = some c → c.act.opensHandle = false → c.subject = some x →
    x.segment? = some g → g.Numbers ν → ¬N ν
  openings : ∀ t c ν, s.calls t = some c → c.act.opensHandle → (ρ (.inl t)).Has ν → ¬N ν

namespace Session.Avoids

variable {N : Number → Prop} {b : ObjectId} {s s₀ s₀' : Session} {ρ : ThreadId ⊕ String → Stake}
  {d : Deed} {t : ThreadId} {c : Underway} {ν : Number}

/-- What is asked for goes through none of the numbers. -/
lemma through {r : Request} {next : r.Answer → Program Outcome} (avoids : s₀.Avoids N ρ)
    (regular : s.IsRegular b ρ) (ec₀ : s₀.calls t = some c) (ec : s.calls t = some c)
    (alive : s.dead t = false) (ep : c.program = .ask r next) (through : r.through? = some ν) :
    ¬N ν := by
  cases opens : c.act.opensHandle with
  | true =>
    have may := regular.staked.permits regular.confined ec alive ep
    rw [Underway.party_of_opensHandle opens] at may
    exact avoids.openings t c ν ec₀ opens (may.through ν through)
  | false =>
    have may := regular.confined.asks ec ep
    cases staking : c.act.isStaking with
    | true =>
      obtain ⟨x, g, sub, eg, tears⟩ := Underway.tears_of_mayAsk may staking opens
      exact avoids.subjects t c x g ν ec₀ opens sub eg (tears.numbers through)
    | false =>
      obtain ⟨x, g, sub, eg, uses⟩ := Underway.uses_of_mayAsk may staking
      exact avoids.subjects t c x g ν ec₀ opens sub eg (uses.numbers through)

/-- A thread begins a call on a handle that is there. -/
lemma begin {handles : String → Option Handle} {ρ' : ThreadId ⊕ String → Stake}
    (avoids : s₀.Avoids N ρ) (fewer : ∀ h x, handles h = some x → s₀.handles h = some x)
    (subject : ∀ x, c.subject = some x → ∃ h, s₀.handles h = some x)
    (opening : c.act.opensHandle → ∀ ν, ¬(ρ' (.inl t)).Has ν)
    (others : ∀ t' ≠ t, ρ' (.inl t') = ρ (.inl t')) :
    ({ s₀ with handles }.begin t c).Avoids N ρ' := by
  refine ⟨fun h x g ν ex => avoids.handles h x g ν (fewer h x ex), ?_, ?_⟩
  · intro t' c' x g ν ec other sub
    obtain ⟨-, rfl⟩ | ⟨-, ec⟩ := begin_calls_inv ec
    · obtain ⟨h, ex⟩ := subject x sub
      exact avoids.handles h x g ν ex
    · exact avoids.subjects t' c' x g ν ec other sub
  · intro t' c' ν ec opens has
    obtain ⟨rfl, rfl⟩ | ⟨ne, ec⟩ := begin_calls_inv ec
    · exact absurd has (opening opens ν)
    · exact avoids.openings t' c' ν ec opens (others t' ne ▸ has)

/-- Who makes a step goes through nothing new but what it was just given. -/
lemma move {m : Move} {p' : Program Outcome} {h' : Host} (avoids : s₀.Avoids N ρ)
    (ec : s₀.calls t = some c) (st : c.program.Step t s₀.host m p' h')
    (given : ∀ ν, N ν → s₀.host.HasGiven ν) :
    (s₀.move t c p' h').Avoids N
      (update ρ (c.party t) ((ρ (c.party t)).moves s₀.host m)) := by
  refine ⟨avoids.handles, ?_, ?_⟩
  · intro t' c' x g ν ec' other sub
    obtain ⟨rfl, rfl⟩ | ⟨-, ec'⟩ := move_calls_inv ec'
    · exact avoids.subjects t' c x g ν ec other sub
    · exact avoids.subjects t' c' x g ν ec' other sub
  · intro t' c' ν ec' opens has
    obtain ⟨rfl, rfl⟩ | ⟨ne, ec'⟩ := move_calls_inv ec'
    · rw [Underway.party_of_opensHandle (c := c) opens, update_self] at has
      obtain old | new := Stake.has_of_moves st has
      · exact avoids.openings t' c ν ec opens old
      · exact fun mine => new (given ν mine)
    · rw [update_of_ne (Underway.party_ne_call ne.symm).symm] at has
      exact avoids.openings t' c' ν ec' opens has

/-- A call comes back. What it opened goes through nothing else than the call did. -/
lemma conclude {o : Outcome} (avoids : s₀.Avoids N ρ) (regular : s.IsRegular b ρ)
    (ec : s₀.calls t = some c) (ec' : s.calls t = some c) (alive : s.dead t = false)
    (ep : c.program = .ret o) :
    (s₀.conclude t o).Avoids N (s.restake ρ (.returned t c.act o)) := by
  obtain ⟨σ, kept⟩ := regular.kept
  have yields := kept.calls t c ec' alive
  rw [ep] at yields
  have ends {ρ' : ThreadId ⊕ String → Stake} (others : ∀ t' ≠ t, ρ' (.inl t') = ρ (.inl t'))
      (handles : ∀ h x g ν, (s₀.conclude t o).handles h = some x → x.segment? = some g →
        g.Numbers ν → ¬N ν) : (s₀.conclude t o).Avoids N ρ' := by
    refine ⟨handles, fun t' c' x g ν ec' =>
      avoids.subjects t' c' x g ν (conclude_calls_inv ec').2, ?_⟩
    intro t' c' ν ec' opens has
    obtain ⟨ne, there⟩ := conclude_calls_inv ec'
    exact avoids.openings t' c' ν there opens (others t' ne ▸ has)
  obtain ⟨result, effect⟩ := o
  cases Act.Yields.returns yields with
  | spares spares other =>
    rw [restake_of_spares spares]
    refine ends (fun _ _ => rfl) ?_
    rw [conclude_handles spares]
    exact avoids.handles
  | @opens _ _ _ _ h x act ee =>
    cases ee
    have settles := regular.staked.programs t c ec' alive (by rw [act]; rfl)
    rw [ep, act, Underway.party_of_opensHandle (by rw [act]; rfl)] at settles
    rw [restake_of_opens (by rw [act]; rfl) rfl]
    refine ends ?_ ?_
    · intro t' ne
      exact (update_of_ne (by simpa using ne) _ _).trans (handOver_call_ne ρ ne)
    · intro h' x' g ν ex' eg has
      rw [conclude_setHandle rfl] at ex'
      obtain ⟨rfl, ⟨⟩⟩ | ⟨ne, ex'⟩ := update_inv ex'
      · exact avoids.openings t c ν ec (by rw [act]; rfl) ((settles g eg).toHolds.numbers has)
      · exact avoids.handles h' x' g ν ex' eg has
  | @destroys h g act ee =>
    cases ee
    rw [restake_of_not_opens (by rw [act]; rfl)]
    refine ends (fun _ _ => rfl) ?_
    intro h' x' g' ν ex' eg' has
    rw [conclude_setHandle rfl] at ex'
    obtain ⟨rfl, ⟨⟩⟩ | ⟨ne, ex'⟩ := update_inv ex'
    · cases eg'
      cases ν <;> cases has
    · exact avoids.handles h' x' g' ν ex' eg' has

/-- What nobody goes through stays so. -/
theorem step (avoids : s₀.Avoids N ρ) (regular : s.IsRegular b ρ) (st : s₀.Step d s₀')
    (host : s₀.host = s.host) (dead : s₀.dead = s.dead)
    (within : ∀ t c, s₀.calls t = some c → s.calls t = some c)
    (given : ∀ ν, N ν → s.host.HasGiven ν) : s₀'.Avoids N (s.restake ρ d) := by
  cases st with
  | @openHandle t toggle h raw size via idle =>
    have fresh : update ρ (.inl t) Stake.nothing (.inl t) = .nothing := update_self ..
    refine avoids.begin (fun _ _ ex => ex) ?_ ?_ ?_
    · rintro _ ⟨⟩
    · intro _ ν has
      exact Stake.not_has_nothing ν (fresh ▸ has)
    · intro t' ne
      exact update_of_ne (by simpa using ne) _ _
  | @onHandle t h op x p idle ex excl taken nodrop ep =>
    rw [restake_onHandle nodrop]
    refine avoids.begin (fun _ _ ex => ex) ?_ nofun fun _ _ => rfl
    rintro _ ⟨⟩
    exact ⟨h, ex⟩
  | @drop t h x p idle ex unused ep =>
    refine avoids.begin ?_ ?_ nofun ?_
    · intro h' x' ex'
      obtain ⟨-, ⟨⟩⟩ | ⟨-, ex'⟩ := update_inv ex'
      exact ex'
    · rintro _ ⟨⟩
      exact ⟨h, ex⟩
    · intro t' ne
      exact (update_of_ne (by simp) _ _).trans (handOver_call_ne ρ ne)
  | @onGuard t g x f op idle eg ex =>
    refine avoids.begin (fun _ _ ex => ex) ?_ nofun fun _ _ => rfl
    rintro _ ⟨⟩
    exact ⟨x.handle, ex⟩
  | @move t c m p' h' ec alive st =>
    rw [restake_moved (within t c ec)]
    exact avoids.move ec st fun ν mine => host ▸ given ν mine
  | @finish t c o ec alive ep =>
    exact avoids.conclude regular ec (within t c ec) (dead ▸ alive) ep
  | @die t alive => exact ⟨avoids.handles, avoids.subjects, avoids.openings⟩

end Session.Avoids

/-- What tearing a handle down leaves in its place. -/
def Segment.leaves (g : Segment) (y : String) : Operation → Effect
  | .destroy => .setHandle y (.segment g.empty)
  | _ => .none

/-- A thread tears a handle down, which stays in use if it is destroyed. -/
structure Session.IsTearing (s : Session) (c : Underway) (t : ThreadId) (g : Segment) (y : String)
    (op : Operation) : Prop where
  calls : s.calls t = some c
  act : c.act = .onHandle y op
  program : c.program.Ensures (.asking g.Tears) (fun o _ => o.effect = g.leaves y op) ()
  uses : op = .destroy → c.uses = some y
  there : op = .destroy → ∃ g, s.handles y = some (.segment g)

/-- A step by which nobody begins a call on a handle that is being destroyed. -/
def Session.ExclusiveStep (s : Session) (d : Deed) (s' : Session) : Prop :=
  s.Step d s' ∧ ∀ t h op, d = .began t (.onHandle h op) → ¬s.IsDestroying h

/-- A session in which a call may be over already. -/
def Session.aside (s : Session) (t : ThreadId) (e : Effect) : Bool → Session
  | true => s.ended t e
  | false => s

lemma Segment.leaves_eq_setHandle {g : Segment} {y z : String} {op : Operation} {x : Handle}
    (e : g.leaves y op = .setHandle z x) : op = .destroy ∧ z = y := by
  cases op with
  | destroy =>
    cases e
    exact ⟨rfl, rfl⟩
  | _ => cases e

/-- A deed that has nothing to do with a handle leaves it as it is. -/
lemma Session.Bypasses.handles {s s' : Session} {y : String} {d : Deed} (bypasses : s.Bypasses y d)
    (st : s.Step d s') : s'.handles y = s.handles y := by
  cases st with
  | openHandle | onHandle | onGuard | move | die => rfl
  | @drop t h x p idle ex unused ep =>
    refine update_of_ne ?_ _ _
    rintro rfl
    exact bypasses.begins t .drop rfl
  | @finish t c o ec alive ep =>
    cases ee : o.effect with
    | setHandle h x =>
      rw [conclude_setHandle ee]
      refine update_of_ne ?_ _ _
      rintro rfl
      exact bypasses.returns t c.act o x rfl ee
    | _ => rw [conclude_handles (by rw [ee]; rfl)]

namespace Session.IsTearing

variable {b : ObjectId} {s s' : Session} {ρ : ThreadId ⊕ String → Stake} {d : Deed} {t : ThreadId}
  {c : Underway} {g : Segment} {y : String} {op : Operation}

/-- Nobody else has to do with a handle that is being destroyed. -/
lemma bypasses (tearing : s.IsTearing c t g y op) (regular : s.IsRegular b ρ)
    (st : s.ExclusiveStep d s') (other : d.thread = t → d = .died t) (destroys : op = .destroy) :
    s.Bypasses y d := by
  subst destroys
  have uses := tearing.uses rfl
  obtain ⟨g', there⟩ := tearing.there rfl
  refine ⟨?_, ?_, ?_, ?_⟩
  · rw [there]
    nofun
  · rintro t' op rfl
    exact st.2 t' y op rfl ⟨t, c, tearing.calls, tearing.act, uses⟩
  · rintro t' n x eg rfl
    obtain ⟨-, -, f, ef, -⟩ := regular.lent.guards t' n x eg
    cases there.symm.trans ef
  · rintro t' a o x rfl ee
    have ne : t' ≠ t := fun et => nomatch other et
    obtain ⟨c', ec', alive, rfl, ep, -⟩ := st.1.returned_inv
    obtain ⟨σ, kept⟩ := regular.kept
    have yields := kept.calls t' c' ec' alive
    rw [ep] at yields
    have brings := (regular.lent.calls t' c' ec').brings ep
    rw [ee] at brings
    cases brings with
    | handle kind uses' replaced =>
    cases Act.Yields.returns yields with
    | spares spares =>
      rw [ee] at spares
      cases spares
    | opens act ee' =>
      cases ee.symm.trans ee'
      obtain ⟨-, free⟩ := regular.lent.opening_inv ec' act ep ee
      cases there.symm.trans free
    | destroys act ee' =>
      cases ee.symm.trans ee'
      have party {u : ThreadId} {v : Underway} (act : v.act = .onHandle y .destroy)
          (uses : v.uses = some y) : v.party u = .inr y := by
        rw [Underway.party, act, uses]
      refine ne (regular.staked.lone t' t c' c ec' tearing.calls ?_ ?_ ?_)
      · rw [act]
        rfl
      · rw [tearing.act]
        rfl
      · rw [party act uses', party tearing.act uses]

/-- A handle goes on to be torn down as long as others only do something. -/
lemma others (tearing : s.IsTearing c t g y op) (regular : s.IsRegular b ρ)
    (st : s.ExclusiveStep d s') (other : d.thread = t → d = .died t) :
    s'.IsTearing c t g y op := by
  refine ⟨?_, tearing.act, tearing.program, tearing.uses, ?_⟩
  · by_cases et : d.thread = t
    · obtain rfl := other et
      have st := st.1
      cases st with
      | die => exact tearing.calls
    · rw [(regular.lent.others_step st.1 (Ne.symm et)).1]
      exact tearing.calls
  · intro destroys
    rw [(tearing.bypasses regular st other destroys).handles st.1]
    exact tearing.there destroys

end Session.IsTearing

/-- A handle of an attacher is torn down in a session, or was, and on another host it was put aside
instead; nobody else goes through its numbers. -/
structure Session.IsAside (b : ObjectId) (ρ : ThreadId ⊕ String → Stake) (t : ThreadId)
    (g : Segment) (y : String) (op : Operation) (busy : Bool) (s : Session) (h : Host) : Prop where
  regular : s.IsRegular b ρ
  avoids : (s.aside t (g.leaves y op) busy).Avoids g.Numbers ρ
  like : s.host.IsLike (fun ν => ¬g.Numbers ν) h
  given : ∀ ν, g.Numbers ν → s.host.HasGiven ν
  tearing : busy → ∃ c, s.IsTearing c t g y op

/-- What an attacher takes down is nobody else's. -/
lemma Host.IsLike.tear {g : Segment} {r : Request} {h h'' : Host} {t : ThreadId}
    (like : h.IsLike (fun ν => ¬g.Numbers ν) h'') (role : g.role = .attacher) (tears : g.Tears r) :
    ∃ a h', h.step t r = .done a h' ∧ h'.IsLike (fun ν => ¬g.Numbers ν) h'' := by
  cases r with
  | broadcast | condDestroy | mutexDestroy | unlink =>
    obtain ⟨creator, -⟩ := tears
    cases role.symm.trans creator
  | unmap m =>
    refine ⟨_, _, rfl, ⟨⟨like.files, ?_, like.objects, ?_, ?_, like.filesCount, ?_⟩, like.store⟩⟩
    · intro m' free
      have ne : m ≠ m' := by
        rintro rfl
        exact free tears
      refine (like.mappings m' free).trans ?_
      simp only [Host.mapping?, Host.join_set, if_neg ne]
    · exact fun _ _ _ _ => trivial
    · exact fun _ _ _ _ => trivial
    · simpa using like.mappingsCount
  | close f =>
    refine ⟨_, _, rfl, ⟨⟨?_, like.mappings, like.objects, ?_, ?_, ?_, like.mappingsCount⟩,
      like.store⟩⟩
    · intro f' free
      have ne : f ≠ f' := by
        rintro rfl
        exact free tears
      refine (like.files f' free).trans ?_
      simp only [Host.file?, Host.join_set, if_neg ne]
    · exact fun _ _ _ _ => trivial
    · exact fun _ _ _ _ => trivial
    · simpa using like.filesCount
  | _ => cases tears

lemma Stake.Fits.hasGiven {c : Stake} {h : Host} {ν : Number} (fits : c.Fits h) (has : c.Has ν) :
    h.HasGiven ν := by
  cases ν with
  | file f =>
    obtain ⟨k, opened⟩ := has
    exact (fits.file f k opened).1
  | mapping m =>
    obtain ⟨len, mem⟩ := has
    exact (fits.mapping m len mem).1

/-- Nobody else goes through the numbers of a handle that is not in use. -/
lemma Session.IsStaked.avoids {s : Session} {ρ ρ' : ThreadId ⊕ String → Stake} {t : ThreadId}
    {handles : String → Option Handle} {y : String} {x : Handle} {g : Segment}
    (staked : s.IsStaked ρ) (ex : s.handles y = some x) (eg : x.segment? = some g)
    (unused : ¬s.IsInUse y)
    (left : ∀ z x', handles z = some x' →
      z ≠ y ∧ s.handles z = some x' ∨ x' = .segment g.empty)
    (others : ∀ t' ≠ t, ρ' (.inl t') = ρ (.inl t')) :
    Avoids g.Numbers ρ' { s with handles, calls := update s.calls t none } := by
  have mine {ν : Number} (has : g.Numbers ν) : (ρ (.inr y)).Has ν :=
    (staked.handles y x g ex eg).numbers has
  have apart {i : ThreadId ⊕ String} {ν : Number} (ne : i ≠ .inr y) (has : (ρ i).Has ν) :
      ¬g.Numbers ν :=
    fun has' => ne (staked.holders.apart i _ ν has (mine has'))
  refine ⟨?_, ?_, ?_⟩
  · intro z x' g' ν ex' eg' has
    obtain ⟨ne, ex'⟩ | rfl := left z x' ex'
    · exact apart (by simpa using ne) ((staked.handles z x' g' ex' eg').numbers has)
    · cases eg'
      cases ν <;> cases has
  · intro t' c x' g' ν ec other sub eg' has
    obtain ⟨-, ⟨⟩⟩ | ⟨-, ec⟩ := update_inv ec
    exact apart (IsStaked.party_ne_handle unused ec)
      ((staked.subjects t' c x' g' ec other sub eg').numbers has)
  · intro t' c ν ec opens has
    obtain ⟨-, ⟨⟩⟩ | ⟨ne, -⟩ := update_inv ec
    exact apart (by simp) (others t' ne ▸ has)

namespace Session.IsAside

variable {b : ObjectId} {ρ : ThreadId ⊕ String → Stake} {t : ThreadId} {g : Segment} {y : String}
  {op : Operation} {busy : Bool} {s s' : Session} {h : Host} {d : Deed}

/-- Where a handle begins to be torn down it may as well be put aside. -/
lemma begin {ρ : ThreadId ⊕ String → Stake} {x : Handle} (regular : s.IsRegular b ρ)
    (tears : op = .drop ∨ op = .destroy) (ex : s.handles y = some x) (eg : x.segment? = some g)
    (st : s.Step (.began t (.onHandle y op)) s') :
    IsAside b (s.restake ρ (.began t (.onHandle y op))) t g y op true s' s'.host := by
  have asks {p : Program Outcome} (ep : handleCall? t y x op = some p) :
      p.Ensures (.asking g.Tears) (fun o _ => o.effect = g.leaves y op) () := by
    have torn (g' : Segment) (eg' : x.segment? = some g') :
        g'.destroy.Ensures (.asking g.Tears) (fun g'' _ => g'' = g.empty) () := by
      cases eg.symm.trans eg'
      exact g.ensures_destroy_asking
    obtain rfl | rfl := tears
    · have torn' (g' : Segment) (eg' : x.segment? = some g') : g'.destroy.Asks g.Tears :=
        (torn g' eg').mono fun _ _ _ => trivial
      exact (Ensures.dropCall torn' (fun _ => trivial) ep).mono fun _ _ ends => ends.1
    · refine (Ensures.destroyCall (fun g' e => torn g' (by rw [e]; rfl)) ep).mono ?_
      rintro o _ ⟨g', ee, rfl⟩
      exact ee
  have mine ν (has : g.Numbers ν) : s.host.HasGiven ν :=
    (regular.staked.holders.fits _).hasGiven ((regular.staked.handles y x g ex eg).numbers has)
  have given ν (has : g.Numbers ν) := st.touches.numbers.hasGiven (mine ν has)
  have regular' := regular.step st
  cases st with
  | @onHandle _ _ _ x' p idle ex' excl taken nodrop ep =>
    cases ex.symm.trans ex'
    obtain rfl := tears.resolve_left nodrop
    refine ⟨regular', ?_, .refl _, given, fun _ => ⟨_, update_self .., rfl, asks ep, fun _ => rfl,
      fun _ => ?_⟩⟩
    · have calls :
          update (update s.calls t (some ⟨.onHandle y .destroy, some y, some x, p⟩)) t none =
            update s.calls t none := update_idem ..
      simp only [Session.aside, Session.ended, Session.begin, calls]
      refine regular.staked.avoids ex eg (excl rfl) ?_ fun _ _ => rfl
      intro z x' ez
      exact (update_inv ez).symm.imp_right fun here => Option.some.inj here.2.symm
    · cases x with
      | facade f => cases ep
      | segment g' => exact ⟨g', ex⟩
  | @drop _ _ x' p idle ex' unused ep =>
    cases ex.symm.trans ex'
    refine ⟨regular', ?_, .refl _, given, fun _ => ⟨_, update_self .., rfl, asks ep, nofun, nofun⟩⟩
    have calls : update (update s.calls t (some ⟨.onHandle y .drop, none, some x, p⟩)) t none =
        update s.calls t none := update_idem ..
    simp only [Session.aside, Session.ended, Session.begin, calls]
    refine regular.staked.avoids ex eg unused ?_ ?_
    · intro z x' ez
      obtain ⟨-, ⟨⟩⟩ | there := update_inv ez
      exact .inl there
    · intro t' ne
      exact (update_of_ne (by simp) _ _).trans (handOver_call_ne ρ ne)

/-- What others do, they can do as well where the handle was put aside. -/
lemma others (aside : IsAside b ρ t g y op busy s h) (st : s.ExclusiveStep d s')
    (other : busy → d.thread = t → d = .died t) :
    ∃ h', ((s.aside t (g.leaves y op) busy).onHost h).Step (d.onHost h)
        ((s'.aside t (g.leaves y op) busy).onHost h') ∧
      IsAside b (s.restake ρ d) t g y op busy s' h' := by
  have st₀ : (s.aside t (g.leaves y op) busy).Step d (s'.aside t (g.leaves y op) busy) := by
    cases busy with
    | false => exact st.1
    | true =>
      obtain ⟨c, tearing⟩ := aside.tearing rfl
      refine st.1.ended (other rfl) ?_
      intro z x e
      obtain ⟨destroys, rfl⟩ := Segment.leaves_eq_setHandle e
      exact tearing.bypasses aside.regular st (other rfl) destroys
  have host (s : Session) : (s.aside t (g.leaves y op) busy).host = s.host := by
    cases busy <;> rfl
  have dead : (s.aside t (g.leaves y op) busy).dead = s.dead := by
    cases busy <;> rfl
  have within t' c (ec : (s.aside t (g.leaves y op) busy).calls t' = some c) :
      s.calls t' = some c := by
    cases busy with
    | false => exact ec
    | true =>
      obtain ⟨-, ⟨⟩⟩ | ⟨-, ec⟩ := update_inv ec
      exact ec
  have like : (s.aside t (g.leaves y op) busy).host.IsLike (fun ν => ¬g.Numbers ν) h :=
    (host s).symm ▸ aside.like
  obtain ⟨h', st', like'⟩ := st₀.onHost like (fun t' c m r next _ ec alive ep =>
    like.step t' fun ν through => aside.avoids.through aside.regular ec (within t' c ec)
      (dead ▸ alive) ep through) like.bury
  refine ⟨h', st', aside.regular.step st.1, ?_, host s' ▸ like', ?_, ?_⟩
  · exact aside.avoids.step aside.regular st₀ (host s) dead within aside.given
  · exact fun ν has => st.1.touches.numbers.hasGiven (aside.given ν has)
  · intro still
    obtain ⟨c, tearing⟩ := aside.tearing still
    exact ⟨c, tearing.others aside.regular st (other still)⟩

/-- What the teardown itself does, is not done where the handle was put aside. -/
lemma own (aside : IsAside b ρ t g y op true s h) (role : g.role = .attacher)
    (st : s.ExclusiveStep d s') (mine : d.thread = t) (alive : d ≠ .died t) :
    ∃ busy, (s'.aside t (g.leaves y op) busy).onHost h =
        (s.aside t (g.leaves y op) true).onHost h ∧
      IsAside b (s.restake ρ d) t g y op busy s' h ∧
      (busy = true ∧ (∃ h m, d = .moved t h m) ∨ busy = false ∧ ∃ a o, d = .returned t a o) := by
  obtain ⟨c, tearing⟩ := aside.tearing rfl
  have ec := tearing.calls
  have regular := aside.regular.step st.1
  have given ν (has : g.Numbers ν) := st.1.touches.numbers.hasGiven (aside.given ν has)
  have st' := st.1
  cases st' with
  | openHandle idle | onHandle idle | drop idle | onGuard idle =>
    cases mine
    cases idle.calls.symm.trans ec
  | die =>
    cases mine
    exact absurd rfl alive
  | @move t' c' m p' h' ec' awake st' =>
    obtain rfl : t = t' := Eq.symm mine
    cases ec.symm.trans ec'
    have calls : update (update s.calls t (some { c with program := p' })) t none =
        update s.calls t none := update_idem ..
    have put : (s.move t c p' h').ended t (g.leaves y op) =
        { s.ended t (g.leaves y op) with host := h' } := by
      simp only [Session.ended, Session.move, calls]
    refine ⟨true, ?_, ⟨regular, ?_, ?_, given, fun _ => ⟨{ c with program := p' }, ?_⟩⟩,
      .inl ⟨rfl, _, _, rfl⟩⟩
    · exact congrArg (fun s => s.onHost h) put
    · change ((s.move t c p' h').ended t (g.leaves y op)).Avoids _ _
      rw [put, restake_moved ec]
      refine ⟨aside.avoids.handles, aside.avoids.subjects, ?_⟩
      intro t' c' ν ec' opens has
      obtain ⟨-, ⟨⟩⟩ | ⟨ne, -⟩ := update_inv ec'
      rw [update_of_ne (Underway.party_ne_call ne.symm).symm] at has
      exact aside.avoids.openings t' c' ν ec' opens has
    · obtain ⟨act, uses, subject, program⟩ := c
      have asks := tearing.program
      cases st' with
      | tell | strike => exact aside.like
      | answer eh =>
        obtain ⟨a, h'', eh', like⟩ := aside.like.tear (t := t) role asks.1
        cases eh'.symm.trans eh
        exact like
      | wait eh =>
        obtain ⟨a, h'', eh', like⟩ := aside.like.tear (t := t) role asks.1
        cases eh'.symm.trans eh
    · exact ⟨update_self .., tearing.act, ensures_asking_step tearing.program st', tearing.uses,
        tearing.there⟩
  | @finish t' c' o ec' awake ep =>
    obtain rfl : t = t' := Eq.symm mine
    cases ec.symm.trans ec'
    have ends := tearing.program
    rw [ep] at ends
    have ends : o.effect = g.leaves y op := ends
    have same : s.conclude t o = s.ended t (g.leaves y op) := by
      rw [conclude_eq_ended, ends]
      rw [ends]
      cases op <;> rfl
    refine ⟨false, ?_, ⟨regular, ?_, ?_, given, ?_⟩, .inr ⟨rfl, _, _, rfl⟩⟩
    · exact congrArg (fun s => s.onHost h) same
    · rw [restake_of_not_opens (by rw [tearing.act]; rfl)]
      change (s.conclude t o).Avoids _ ρ
      rw [same]
      exact aside.avoids
    · rw [conclude_host]
      exact aside.like
    · rintro ⟨⟩

/-- Whatever happens after a handle began to be torn down, happens as well where it was put
aside. -/
theorem run {later : List Deed} (aside : IsAside b ρ t g y op true s h)
    (role : g.role = .attacher) (run : Run ExclusiveStep s later s') :
    ∃ ρ' busy later' h', Run Step ((s.aside t (g.leaves y op) true).onHost h) later'
        ((s'.aside t (g.leaves y op) busy).onHost h') ∧
      Deed.Skips t busy later later' ∧ IsAside b ρ' t g y op busy s' h' := by
  induction run with
  | nil => exact ⟨ρ, true, [], h, .nil, .nil, aside⟩
  | @cons past s' d s'' run st ih =>
    obtain ⟨ρ', busy, later', h', run', skips, aside'⟩ := ih
    have goesOn (other : busy → d.thread = t → d = .died t) :
        ∃ ρ'' busy' later'' h'', Run Step ((s.aside t (g.leaves y op) true).onHost h) later''
            ((s''.aside t (g.leaves y op) busy').onHost h'') ∧
          Deed.Skips t busy' (d :: past) later'' ∧ IsAside b ρ'' t g y op busy' s'' h'' := by
      obtain ⟨h'', st', aside''⟩ := aside'.others st other
      exact ⟨_, busy, _, h'', run'.cons st', skips.other other, aside''⟩
    cases busy with
    | false => exact goesOn nofun
    | true =>
      by_cases other : d.thread = t → d = .died t
      · exact goesOn fun _ => other
      · obtain ⟨mine, alive⟩ := Classical.not_imp.1 other
        obtain ⟨busy', same, aside'', ⟨rfl, g', m, rfl⟩ | ⟨rfl, a, o, rfl⟩⟩ :=
          aside'.own role st mine alive
        · exact ⟨_, true, later', h', same.symm ▸ run', skips.moved, aside''⟩
        · exact ⟨_, false, later', h', same.symm ▸ run', skips.returned, aside''⟩

end Session.IsAside
end SharedSegment
