import SharedSegment.Proofs.Stakes.Discarding
import SharedSegment.Proofs.Stakes.Lives

/-!
# Creators and attachers

Tearing down the handle of an attacher is of no consequence to anybody else: no name, object, mutex
or condition changes by it, and all other calls go as if the handle had been put aside. The mutex
and the condition of an object are set up and taken down by its creator, each once
(`teardown_is_asymmetric`).
-/

namespace SharedSegment
open Function Scenario

/-- What is known in a session of how mutexes and conditions were set up and taken down. -/
structure Session.HasProperLives (s : Session) (past : List Deed) : Prop where
  /-- Each is set up once at most, and taken down once at most after that. -/
  proper : ∀ part k, Turn.AreProper (Deed.turns part k past)
  /-- A creator comes back with a handle on the object that it has made, whose parts it has set
  up. -/
  created : ∀ t h raw size via o s' g m k,
    s.Step (.returned t (.openHandle h raw size via) o) s' → o.effect.segment? = some g →
    g.role = .creator → g.mapping = some m → s.host.shows m k →
      Deed.JustMade t k past ∧ ∀ part, Deed.turns part k past = [(m, .setUp)]
  /-- Both parts stay set up until the handle of the creator is torn down, whatever happens, and
  are taken down once at most after that. -/
  creators : ∀ y x g m k part later s', s.handles y = some x → x.segment? = some g →
    g.role = .creator → g.mapping = some m → s.host.shows m k → ¬s.IsDestroying y →
    Run Session.Step s later s' →
      Deed.turns part k past = [(m, .setUp)] ∧
        (Deed.turns part k later = [] ∨ Deed.turns part k later = [(m, .takenDown)])
  /-- Nobody does anything to them but who has just made the object, and who tears the handle of
  the creator down. -/
  turned : ∀ d s' part k x, s.Step d s' → d.turn? part k = some x →
    ∃ c, s.calls d.thread = some c ∧ (c.act.opensHandle ∧ Deed.JustMade d.thread k past ∨
      c.act.opensHandle = false ∧ x.2 = .takenDown ∧ ∃ y g, c.subject = some y ∧
        y.segment? = some g ∧ g.role = .creator ∧ g.mapping = some x.1)
  /-- No two handles have the same mapping. -/
  alone : ∀ y y' x x' g g' m, s.handles y = some x → s.handles y' = some x' →
    x.segment? = some g → x'.segment? = some g' → g.mapping = some m → g'.mapping = some m → y = y'

namespace Session

variable {s s' : Session} {t : ThreadId} {c : Underway} {x : Handle} {g : Segment} {y : String}
  {op : Operation} {d : Deed}

theorem hasProperLives {h₀ : Host} {past : List Deed} (run : Run Step (.ofHost h₀) past s) :
    s.HasProperLives past := by
  obtain ⟨ρ, regular, aged⟩ := IsAged.of_run run
  refine ⟨aged.proper, ?_, ?_, fun d s' part k x => aged.turned_by regular, ?_⟩
  · intro t h raw size via o s' g m k back eg role em shows
    have made part : Deed.JustMade t k past ∧ Deed.turns part k past = [(m, .setUp)] :=
      aged.made_of_returned regular back eg role em shows
    exact ⟨(made .mutex).1, fun part => (made part).2⟩
  · intro y x g m k part later s' ex eg role em shows idle later'
    obtain ⟨σ, kept⟩ := regular.kept
    have whole : g.IsWhole := (((kept.handles y x ex).resolve_right fun busy => idle busy.1) g eg).2
    have turns : Deed.turns part k past = [(m, .setUp)] :=
      (aged.turns_of_backs regular (regular.staked.backed y x g ex eg idle) whole role em shows).2.2
    obtain ⟨ρ', -, aged'⟩ := IsAged.of_run (run.trans later')
    have proper := aged'.proper part k
    rw [Deed.turns_append, turns] at proper
    exact ⟨turns, proper.of_append⟩
  · intro y y' x x' g g' m ex ex' eg eg' em em'
    have mine := (regular.staked.handles y x g ex eg).has em
    have other := (regular.staked.handles y' x' g' ex' eg').has em'
    exact Sum.inr.inj (regular.staked.holders.apart _ _ _ mine other)

/-- What is asked for to tear an attacher's handle down is answered, and changes no name and no
object. -/
lemma quiet_tears {h : Host} {r : Request} (role : g.role = .attacher) (tears : g.Tears r)
    (t : ThreadId) :
    ∃ a h', h.step t r = .done a h' ∧ h'.store = h.store ∧ h'.objects = h.objects := by
  cases r with
  | broadcast | condDestroy | mutexDestroy | unlink =>
    obtain ⟨creator, -⟩ := tears
    cases role.symm.trans creator
  | unmap | close => exact ⟨_, _, rfl, rfl, rfl⟩
  | _ => cases tears

/-- What a thread does that tears an attacher's handle down changes no name and no object. -/
lemma IsConfined.tears_quietly (confined : s.IsConfined) (ec : s.calls t = some c)
    (tears : c.act = .onHandle y .drop ∨ c.act = .onHandle y .destroy) (sub : c.subject = some x)
    (eg : x.segment? = some g) (role : g.role = .attacher) (st : s.Step d s') (mine : d.thread = t)
    (alive : d ≠ .died t) :
    s'.host.store = s.host.store ∧ s'.host.objects = s.host.objects := by
  have asked {r : Request} {next : r.Answer → Program Outcome} (ep : c.program = .ask r next) :
      g.Tears r := by
    have staking : c.act.isStaking ∧ c.act.opensHandle = false := by
      obtain act | act := tears <;> rw [act] <;> exact ⟨rfl, rfl⟩
    obtain ⟨x', g', sub', eg', tears⟩ :=
      Underway.tears_of_mayAsk (confined.asks ec ep) staking.1 staking.2
    cases sub.symm.trans sub'
    cases eg.symm.trans eg'
    exact tears
  cases st with
  | openHandle | onHandle | drop | onGuard => exact ⟨rfl, rfl⟩
  | finish => simp only [conclude_host, and_self]
  | die =>
    cases mine
    exact absurd rfl alive
  | move ec' awake st =>
    cases mine
    cases ec.symm.trans ec'
    obtain ⟨act, uses, subject, program⟩ := c
    cases st with
    | tell | strike => exact ⟨rfl, rfl⟩
    | answer eh =>
      obtain ⟨a, h', eh', quiet⟩ := quiet_tears role (asked rfl) _
      cases eh'.symm.trans eh
      exact quiet
    | wait eh =>
      obtain ⟨a, h', eh', -⟩ := quiet_tears role (asked rfl) _
      cases eh'.symm.trans eh

end Session

/-- At any point of any run, destroying or dropping the handle of an attacher changes no name and
no object, neither its bytes and length nor its mutex and condition; and whatever happens from then
on happens as well, with the same results, where no step of the teardown is made, because the
handle was put aside instead. (Whoever destroys a handle has it for himself.) The mutex and the
condition of an object are set up once by the creator that comes back with a handle on it, and
taken down once at most by that creator; they are never taken down without having been set up. -/
theorem teardown_is_asymmetric {h₀ : Host} {past : List Deed} {s : Session}
    (run : Run Session.Step (.ofHost h₀) past s) :
    (∀ t c y x g d s', s.calls t = some c →
      c.act = .onHandle y .drop ∨ c.act = .onHandle y .destroy → c.subject = some x →
      x.segment? = some g → g.role = .attacher → s.Step d s' → d.thread = t → d ≠ .died t →
        s'.host.store = s.host.store ∧ s'.host.objects = s.host.objects) ∧
    (∀ t y x g op s₁ later s₂, s.handles y = some x → x.segment? = some g → g.role = .attacher →
      op = .drop ∨ op = .destroy → s.Step (.began t (.onHandle y op)) s₁ →
      Run Session.ExclusiveStep s₁ later s₂ →
        s₁.host = s.host ∧ ∃ later' busy h,
          Run Session.Step (s₁.ended t (g.leaves y op)) later'
            ((s₂.aside t (g.leaves y op) busy).onHost h) ∧
          Deed.Skips t busy later later' ∧ h.store = s₂.host.store ∧ h.objects = s₂.host.objects) ∧
    s.HasProperLives past := by
  obtain ⟨ρ, regular⟩ := Session.IsRegular.of_run run
  refine ⟨?_, ?_, Session.hasProperLives run⟩
  · intro t c y x g d s' ec tears sub eg role st mine alive
    exact regular.confined.tears_quietly ec tears sub eg role st mine alive
  · intro t y x g op s₁ later s₂ ex eg role tears st run'
    have same : s₁.host = s.host := by
      cases st <;> rfl
    obtain ⟨ρ', busy, later', h, run'', skips, aside⟩ :=
      (Session.IsAside.begin regular tears ex eg st).run role run'
    exact ⟨same, later', busy, h, run'', skips, aside.like.store, aside.like.objects_eq⟩

namespace Session

/-- The facade of a thread that has attached begins to be dropped. -/
def parting : Session :=
  let x := Handle.facade (.ofSegment 0 .standard
    { Segment.numbered 1 with role := .attacher, mapping := some 2, ownsSync := false })
  { joined.2 with handles := update joined.2.handles "b" none }.begin 1 (.ofDrop "b" x)

/-- While it is dropped, the creator locks the segment. -/
def parted : List Deed × Session :=
  let x := Handle.facade (.ofSegment 8 .standard (.numbered 0))
  let c := Underway.ofUse "a" .lock x (giving x.lock .status)
  let unmapped := play [(1, none)] [] parting
  play [(0, none), (1, none), (0, none), (1, none), (1, none), (1, none)]
    (.began 0 c.act :: unmapped.1) (unmapped.2.begin 0 c)

lemma exclusiveStep_turn {s s' : Session} {t : ThreadId} {fault : Option Errno} {d : Deed}
    (e : s.turn t fault = some (d, s')) : s.ExclusiveStep d s' :=
  ⟨step_turn e, fun t' _ _ ed => absurd ed (turn_ne_began e t' _)⟩

lemma run_parted : Run ExclusiveStep parting parted.1 parted.2 := by
  have locks : (play [(1, none)] [] parting).2.Step (.began 0 (.onHandle "a" .lock)) _ :=
    .onHandle ⟨rfl, rfl⟩ rfl nofun nofun nofun rfl
  have idle h : ¬(play [(1, none)] [] parting).2.IsDestroying h := by
    rintro ⟨t', c, ec, act, -⟩
    match t' with
    | 0 | t' + 2 => cases ec
    | 1 =>
      cases ec
      cases act
  exact run_play_of exclusiveStep_turn
    (.cons (run_play_of exclusiveStep_turn .nil _) ⟨locks, fun _ h _ _ => idle h⟩) _

/-- A facade that has attached is dropped while its creator locks the segment, and the lock comes
about as well without that. -/
theorem an_attached_facade_is_dropped :
    ∃ x g d s, Run Step .empty joined.1 joined.2 ∧ joined.2.handles "b" = some x ∧
      x.segment? = some g ∧ g.role = .attacher ∧ joined.2.Step d parting ∧
      Run ExclusiveStep parting parted.1 parted.2 ∧
      .returned 1 (.onHandle "b" .drop) ⟨.ok, .none⟩ ∈ parted.1 ∧
      .returned 0 (.onHandle "a" .lock) ⟨.status .acquired, .none⟩ ∈ parted.1 ∧
      (∃ later' busy h, Run Step s later' ((parted.2.aside 1 .none busy).onHost h) ∧
        Deed.Skips 1 busy parted.1 later' ∧ h.objects = parted.2.host.objects) ∧
      Deed.turns .mutex 0 joined.1 = [(0, .setUp)] := by
  have resting t : joined.2.calls t = none := by
    match t with
    | 0 | 1 | t + 2 => rfl
  have idle : ¬joined.2.IsDestroying "a" := by
    rintro ⟨t, c, ec, -⟩
    cases (resting t).symm.trans ec
  have drops : joined.2.Step (.began 1 (.onHandle "b" .drop)) parting :=
    .drop (s := joined.2) (t := 1) (h := "b") ⟨rfl, rfl⟩ rfl
      (not_isInUse (fun _ _ => rfl) resting) rfl
  have run : Run Step (.ofHost .empty) joined.1 joined.2 := run_joined
  obtain ⟨-, discards, lives⟩ := teardown_is_asymmetric run
  obtain ⟨-, later', busy, h, run', skips, -, objects⟩ :=
    discards 1 "b" _ _ .drop parting _ _ rfl rfl rfl (.inl rfl) drops run_parted
  obtain ⟨turns, -⟩ := lives.creators "a" _ _ 0 0 .mutex [] _ rfl rfl rfl rfl rfl idle .nil
  have back : parted.1[0]? = some (.returned 1 (.onHandle "b" .drop) ⟨.ok, .none⟩) := rfl
  have locked : parted.1[2]? =
      some (.returned 0 (.onHandle "a" .lock) ⟨.status .acquired, .none⟩) := rfl
  exact ⟨_, _, _, _, run_joined, rfl, rfl, rfl, drops, run_parted, List.mem_of_getElem? back,
    List.mem_of_getElem? locked, ⟨later', busy, h, run', skips, objects⟩, turns⟩

end Session
end SharedSegment
