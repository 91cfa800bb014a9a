import SharedSegment.Proofs.Ownership.Course
import SharedSegment.Proofs.Waiting.Monitor

/-!
# Waking up

Who has parked on an object stays parked until there is a broadcast on it, and then nobody is parked
on it any more (`Session.only_broadcasts_wake`). Whoever parks has the mutex until it is parked, so
that no broadcast is lost on a thread that is about to park.
-/

namespace SharedSegment
open Function Scenario Program

/-- A thread has parked on an object, and has only waited since. -/
def HasParked (k : ObjectId) (t : ThreadId) (later past : List Deed) : Prop :=
  ∃ d earlier, past = later ++ d :: earlier ∧ d.parks? k = some t ∧
    ∀ e ∈ later, e.thread = t → ∃ h r, e = .moved t h (.waited r)

/-- A thread that has parked and only waited since sleeps unless it was woken. -/
lemma HasParked.isAsleep_iff {k : ObjectId} {t : ThreadId} {later past : List Deed}
    (parked : HasParked k t later past) : IsAsleep k t past ↔ ∀ e ∈ later, ¬e.wakes k := by
  obtain ⟨d, earlier, rfl, parks, waited⟩ := parked
  induction later with
  | nil =>
    rw [List.nil_append, isAsleep_cons]
    exact iff_of_true (.inl parks) (by simp)
  | cons e later ih =>
    obtain ⟨last, waited⟩ := List.forall_mem_cons.1 waited
    have rests : e.parks? k ≠ some t := by
      intro again
      obtain ⟨h, m, rfl, -⟩ := Deed.parks?_inv again
      obtain ⟨h', r, e⟩ := last rfl
      cases e
    rw [List.cons_append, isAsleep_cons, or_iff_right rests, ih waited, List.forall_mem_cons,
      and_comm]

lemma Host.exists_of_hasPart {h : Host} {k : ObjectId} {part : SyncPart}
    (has : h.ledger.HasPart k part) : ∃ o, h.object? k = some o ∧ o.outline.life part ≠ .blank := by
  obtain ⟨x, here, set⟩ := has
  rw [Host.ledger_outline?, Option.map_eq_some_iff] at here
  obtain ⟨o, here, rfl⟩ := here
  exact ⟨o, here, set⟩

/-- Whoever comes out of a wait is not parked. -/
lemma Host.not_parked_of_awake {h h' : Host} {t : ThreadId} {m : MappingId} {k : ObjectId}
    {a : Except Errno Unit} (shows : h.shows m k) (e : h.step t (.awake m) = .done a h') :
    t ∉ h.parkedOn k := by
  intro parked
  cases here : h.object? k with
  | none =>
    rw [parkedOn_of_absent here] at parked
    cases parked
  | some o =>
    rw [parkedOn_of_object here] at parked
    rw [step_awake (under?_eq_some_iff.2 ⟨shows, here⟩),
      if_pos (List.contains_iff_mem.2 parked)] at e
    cases e

namespace Session

variable {b : ObjectId} {s s' s₀ : Session} {past : List Deed} {σ : ThreadId ⊕ String → Custody}
  {d : Deed} {t u : ThreadId} {m : MappingId} {k : ObjectId} {c : Underway}

namespace IsMonitored

variable (mon : s.IsMonitored b past) (le : b ≤ k)
include mon le

/-- Whoever parks has the mutex until then, and is parked from then on. -/
lemma parks_step (kept : s.IsKeptFrom b σ) (st : s.Step d s') (parks : d.parks? k = some t) :
    s.host.owner? k = some t ∧ s'.host.owner? k = none ∧ t ∈ s'.host.parkedOn k ∧
      ∃ c m, s.calls t = some c ∧ c.act.waits ∧ c.IsThrough m ∧ s.host.shows m k := by
  have set := mon.parts_of_parks st parks le
  obtain ⟨own, free⟩ := (kept.hands_step st (Host.exists_of_hasPart (set .mutex))).of_gives
    (Deed.gives?_of_parks? parks)
  obtain ⟨h, m, rfl, shows⟩ := Deed.parks?_inv parks
  obtain ⟨rfl, -, c, next, ec, alive, ep⟩ := st.answered_inv
  refine ⟨own, free, ?_, ?_⟩
  · rw [kept.parkedOn_step st (mon.deserted k le) fun _ _ => set .condition,
      Deed.mem_leaves (by simp)]
    exact .inl parks
  · obtain ⟨_, ⟨⟩, -⟩ | ⟨⟨through, waits⟩, -⟩ := mon.asks ec alive ep
    exact ⟨c, m, ec, waits, through, shows⟩

/-- A broadcast wakes all who are parked on its object, nobody else, and does nothing besides. -/
lemma wakes_step (st : s.Step d s') (wakes : d.wakes k) :
    s'.host.parkedOn k = [] ∧ (∀ k' ≠ k, s'.host.object? k' = s.host.object? k') ∧
      (s.host.parkedOn k = [] → s'.host = s.host) ∧
      ∃ t c m, s.calls t = some c ∧ c.Notifies ∧ c.IsThrough m ∧ s.host.shows m k := by
  obtain ⟨t, h, m, a, rfl, shows⟩ := Deed.wakes_inv wakes
  obtain ⟨rfl, eh, c, next, ec, alive, ep⟩ := st.answered_inv
  obtain ⟨_, ⟨⟩, -⟩ | ⟨⟨through, notifies⟩, -⟩ := mon.asks ec alive ep
  have fits := mon.through t c m ec through
  obtain ⟨o, here, -⟩ := Host.exists_of_hasPart (fits.parts k le shows .condition)
  have sees := Host.under?_eq_some_iff.2 ⟨shows, here⟩
  have after : s'.host = s.host.setObject k (o.withCondition o.condition.broadcast) := by
    rw [Host.step_broadcast sees] at eh
    injection eh with _ e
    exact e.symm
  refine ⟨?_, ?_, ?_, t, c, m, ec, notifies, through, shows⟩
  · rw [after, Host.parkedOn_of_object (Host.object?_setObject_self here)]
    rfl
  · intro k' ne
    rw [after]
    exact List.getElem?_set_ne ne.symm
  · intro nobody
    rw [Host.parkedOn_of_object here] at nobody
    have same : o.condition.broadcast = o.condition := by
      rw [Condition.broadcast, ← nobody]
    rw [after, same]
    exact Host.setObject_self here

end IsMonitored

/-- A thread that is not awake yet has parked, and has only waited since. -/
lemma hasParked {h : Host} {next : (Request.awake m).Answer → Program Outcome}
    (run : Run Step (.ofHost h) past s) (ec : s.calls t = some c) (alive : s.dead t = false)
    (ep : c.program = .ask (.awake m) next) (shows : s.host.shows m k) :
    ∃ later, HasParked k t later past := by
  obtain ⟨m', ⟨⟩, rests⟩ | ⟨-, other⟩ := (IsMonitored.of_run run).asks ec alive ep
  case inr => exact absurd rfl (other m)
  obtain ⟨later, h', earlier, rfl, waited⟩ := restsOn_inv rests
  refine ⟨later, _, earlier, rfl, ?_, waited⟩
  -- The mapping has shown the same object when the thread parked.
  obtain ⟨s₁, s₂, before, st, after⟩ := run.split
  have old : s₁.host.shows m k := by
    obtain ⟨-, -, c', next', ec', alive', ep'⟩ := st.answered_inv
    have fits := (IsMonitored.of_run before).fits ec' alive' ep' And.left nofun
    exact (numbers_run ((Run.nil.cons st).trans after)).shown fits.old shows
  obtain ⟨rfl, -⟩ := st.answered_inv
  simp [Deed.parks?, old, isGranted]

/-- Who is parked and lives has parked, and nobody has woken it since. -/
lemma mem_parkedOn_iff {h : Host} (run : Run Step (.ofHost h) past s) (le : h.objects.length ≤ k)
    (alive : s.dead t = false) : t ∈ s.host.parkedOn k ↔ IsAsleep k t past := by
  rw [(IsMonitored.of_run run).parked k le, mem_parkers (not_died run alive)]

/-- Whoever has lost the mutex without dying has given it back. -/
lemma gives_of_lost {h : Host} {since : List Deed} (run : Run Step (.ofHost h) past s)
    (le : h.objects.length ≤ k) (run' : Run Step s since s') (own : s.host.owner? k = some t)
    (lost : s'.host.owner? k ≠ some t) (alive : .died t ∉ since) :
    ∃ d ∈ since, d.gives? k = some t := by
  induction run' with
  | nil => exact absurd own lost
  | @cons since s₁ d s₂ run' st ih =>
    have alive' := fun mem => alive (List.mem_cons_of_mem _ mem)
    by_cases own₁ : s₁.host.owner? k = some t
    case neg =>
      obtain ⟨e, mem, gives⟩ := ih own₁ alive'
      exact ⟨e, List.mem_cons_of_mem _ mem, gives⟩
    refine ⟨d, List.mem_cons_self, ?_⟩
    by_contra keeps
    have mon := IsMonitored.of_run (run.trans run')
    obtain ⟨σ, kept⟩ := IsKeptFrom.of_run (run.trans run')
    have setUp : s₁.host.IsSetUp k := by
      by_contra bare
      have unowned := mon.unowned k le fun has => bare (Host.exists_of_hasPart has)
      cases own₁.symm.trans unowned
    have hands := kept.hands_step st setUp
    rw [own₁] at hands
    exact lost (hands.owns keeps fun e => alive (e ▸ List.mem_cons_self))

/-- Whoever begins to notify through a handle of an object does so with its first turn. -/
lemma Step.turn_of_notify {n : String} {x : Handle}
    (st : s.Step (.began t (.onHandle n .notifyAll)) s') (ex : s.handles n = some x)
    (has : HasMapping x m) (shows : s.host.shows m k) :
    ∃ d s'', s'.turn t none = some (d, s'') ∧ d.wakes k := by
  obtain ⟨g, eg, em⟩ := has
  obtain ⟨next, asks⟩ :
      ∃ next, (giving g.notifyAll fun _ => .ok) = .ask (.broadcast m) next := by
    unfold Segment.notifyAll
    rw [em]
    exact ⟨_, rfl⟩
  cases st with
  | @onHandle _ _ _ y p idle ey excl taken nodrop ep =>
    cases ex.symm.trans ey
    have eq : p = .ask (.broadcast m) next := by
      rw [← asks, ← (Handle.calls_of_segment eg).2.2.2]
      exact (Option.some.inj ep).symm
    subst eq
    obtain ⟨a, h', eh⟩ : ∃ a h', s.host.step t (.broadcast m) = .done a h' := ⟨_, _, rfl⟩
    exact ⟨_, _, turn_of_answer (update_self ..) idle.dead rfl eh, shows⟩

/-- How threads wait on an object in a session, and how they are woken. -/
structure HasMonitor (k : ObjectId) (past : List Deed) (s : Session) : Prop where
  /-- Whoever has parked is parked until there is a broadcast. -/
  parked : ∀ t, s.dead t = false → (t ∈ s.host.parkedOn k ↔ IsAsleep k t past)
  /-- Whoever is not awake yet has parked, and goes on only after a broadcast since. -/
  sleeps : ∀ t c m next, s.calls t = some c → s.dead t = false →
    c.program = .ask (.awake m) next → s.host.shows m k →
    ∃ later, HasParked k t later past ∧ (t ∈ s.host.parkedOn k ↔ ∀ e ∈ later, ¬e.wakes k) ∧
      ∀ a s', s.Step (.moved t s.host (.answered (.awake m) a)) s' → ∃ e ∈ later, e.wakes k
  /-- Only a call that waits parks, and it has the mutex up to the step by which it is parked. -/
  parks : ∀ d s' t, s.Step d s' → d.parks? k = some t →
    s.host.owner? k = some t ∧ s'.host.owner? k = none ∧ t ∈ s'.host.parkedOn k ∧
      ∃ c m, s.calls t = some c ∧ c.act.waits ∧ c.IsThrough m ∧ s.host.shows m k
  /-- A broadcast leaves nobody parked and touches nothing else, and nothing at all if nobody was
  parked. It is made to notify, or to tear the handle of a creator down. -/
  wakes : ∀ d s', s.Step d s' → d.wakes k →
    s'.host.parkedOn k = [] ∧ (∀ k' ≠ k, s'.host.object? k' = s.host.object? k') ∧
      (s.host.parkedOn k = [] → s'.host = s.host) ∧
      ∃ t c m, s.calls t = some c ∧ c.Notifies ∧ c.IsThrough m ∧ s.host.shows m k
  /-- Whoever begins to notify makes a broadcast in its first turn. -/
  notifies : ∀ t n x m s', s.Step (.began t (.onHandle n .notifyAll)) s' → s.handles n = some x →
    HasMapping x m → s.host.shows m k → ∃ d s'', s'.turn t none = some (d, s'') ∧ d.wakes k
  /-- Whoever had the mutex and has given it back only to wait is parked when another has it, or has
  been woken. -/
  reaches : ∀ since s' t u, Run Step s since s' → s.host.owner? k = some t →
    s'.host.owner? k = some u → u ≠ t → .died t ∉ since →
    (∀ d ∈ since, d.gives? k = some t → d.parks? k = some t) →
    ∃ later d earlier, since = later ++ d :: earlier ∧ d.parks? k = some t ∧
      (t ∈ s'.host.parkedOn k ∨ ∃ e ∈ later, e.wakes k)

/-- Another thread waits through the facade of the first. -/
def resting : List Deed × Session :=
  let x := Handle.facade (.ofSegment 8 .standard (.numbered 0))
  let c := Underway.ofUse "a" .wait x (giving x.wait fun _ => .ok)
  after started.1 1 c.act (started.2.begin 1 c) 3

/-- The first thread has notified. -/
def roused : List Deed × Session :=
  let x := Handle.facade (.ofSegment 8 .standard (.numbered 0))
  let c := Underway.ofUse "a" .notifyAll x (giving x.notifyAll fun _ => .ok)
  after resting.1 0 c.act (resting.2.begin 0 c) 3

lemma run_roused : Run Step .empty roused.1 roused.2 := by
  have waits : started.2.Step (.began 1 (.onHandle "a" .wait)) _ :=
    .onHandle ⟨rfl, rfl⟩ rfl nofun nofun nofun rfl
  have notifies : resting.2.Step (.began 0 (.onHandle "a" .notifyAll)) _ :=
    .onHandle ⟨rfl, rfl⟩ rfl nofun nofun nofun rfl
  exact run_after (run_after run_started waits 3) notifies 3

end Session
end SharedSegment
