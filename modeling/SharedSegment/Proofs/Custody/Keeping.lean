import Mathlib.Logic.Equiv.Basic
import SharedSegment.Proofs.Custody.Calls
import SharedSegment.Proofs.Custody.Deeds

/-!
# Keeping things in custody

In a session that begins on any host, threads open, use, drop and destroy handles in any order and
all at the same time; any of their calls may fail and any of them may die. Through all of this,
every call under way and every handle has in custody what it needs (`Session.IsKeptFrom.of_run`). So
a handle shows its segment as long as it is there, and a thread alters an object only in the way
that its custody permits.
-/

namespace SharedSegment
open Function Scenario

/-- What a call ends with, besides its result: a handle that it has opened, one that holds nothing
any more, or none. -/
def Scenario.Act.Yields (a : Act) (o : Outcome) (c : Custody) : Prop :=
  match a with
  | .openHandle .. => ∀ h x, o.effect = .setHandle h x → c.Opens x
  | .onHandle h .destroy => ∃ g, o.effect = .setHandle h (.segment (Segment.empty g))
  | _ => o.effect.sparesHandles

/-- How a call comes back: it leaves all handles as they are, has opened one, or has destroyed
one. -/
inductive Scenario.Act.Returns (a : Act) (o : Outcome) (c : Custody) : Prop where
  | spares :
    o.effect.sparesHandles →
    (∀ h, a ≠ .onHandle h .destroy) →
    Returns a o c
  | opens {h raw size via h' x} :
    a = .openHandle h raw size via →
    o.effect = .setHandle h' x →
    c.Opens x →
    Returns a o c
  | destroys {h g} :
    a = .onHandle h .destroy →
    o.effect = .setHandle h (.segment (Segment.empty g)) →
    Returns a o c

lemma Scenario.Act.Yields.returns {a : Act} {o : Outcome} {c : Custody} (yields : a.Yields o c) :
    a.Returns o c := by
  unfold Act.Yields at yields
  split at yields
  case h_1 =>
    cases ee : o.effect with
    | setHandle h x => exact .opens rfl ee (yields h x ee)
    | none | setGuard | removeGuard => exact .spares (by rw [ee]; rfl) (by simp)
  case h_2 =>
    obtain ⟨g, ee⟩ := yields
    exact .destroys rfl ee
  case h_3 other => exact .spares yields other

/-- A call under way destroys a handle. -/
def Session.IsDestroying (s : Session) (h : String) : Prop :=
  ∃ t c, s.calls t = some c ∧ c.act = .onHandle h .destroy ∧ c.uses = some h

/-- Calls and handles have in custody what they need, on a host whose objects are sound from some
number on. -/
structure Session.IsKeptFrom (b : ObjectId) (s : Session) (σ : ThreadId ⊕ String → Custody) :
    Prop where
  custodians : Custodians True b s.host.ledger σ
  calls : ∀ t c, s.calls t = some c → s.dead t = false →
    c.program.Ensures (.custody True True) c.act.Yields (σ (.inl t))
  handles : ∀ h x, s.handles h = some x →
    (σ (.inr h)).Supports x ∨ s.IsDestroying h ∧ ∃ g, x = .segment g

/-- A call and a handle exchange what they have. -/
def handOver {α : Type} (σ : ThreadId ⊕ String → α) (t : ThreadId) (h : String) :
    ThreadId ⊕ String → α :=
  fun j => σ (Equiv.swap (.inl t) (.inr h) j)

section
variable {α : Type} (σ : ThreadId ⊕ String → α) {t t' : ThreadId} {h h' : String}

lemma handOver_call : handOver σ t h (.inl t) = σ (.inr h) := by
  rw [handOver, Equiv.swap_apply_left]

lemma handOver_handle : handOver σ t h (.inr h) = σ (.inl t) := by
  rw [handOver, Equiv.swap_apply_right]

lemma handOver_call_ne (ne : t' ≠ t) : handOver σ t h (.inl t') = σ (.inl t') := by
  rw [handOver, Equiv.swap_apply_of_ne_of_ne (by simpa using ne) (by simp)]

lemma handOver_handle_ne (ne : h' ≠ h) : handOver σ t h (.inr h') = σ (.inr h') := by
  rw [handOver, Equiv.swap_apply_of_ne_of_ne (by simp) (by simpa using ne)]

end

namespace Session

variable {s : Session} {t : ThreadId} {c : Underway} {h : String}

/-- Who destroys a handle after a call has begun. -/
lemma isDestroying_begin {handles : String → Option Handle} (free : s.calls t = none) :
    ({ s with handles }.begin t c).IsDestroying h ↔
      s.IsDestroying h ∨ c.act = .onHandle h .destroy ∧ c.uses = some h := by
  constructor
  · rintro ⟨t', c', ec, act, uses⟩
    obtain ⟨-, rfl⟩ | ⟨-, ec⟩ := begin_calls_inv ec
    · exact .inr ⟨act, uses⟩
    · exact .inl ⟨t', c', ec, act, uses⟩
  · rintro (⟨t', c', ec, act, uses⟩ | ⟨act, uses⟩)
    · have ne : t' ≠ t := by
        rintro rfl
        cases free.symm.trans ec
      exact ⟨t', c', (update_of_ne ne _ _).trans ec, act, uses⟩
    · exact ⟨t, c, update_self .., act, uses⟩

lemma isDestroying_move {p : Program Outcome} {h' : Host} (ec : s.calls t = some c) :
    (s.move t c p h').IsDestroying h ↔ s.IsDestroying h := by
  constructor
  · rintro ⟨t', c', ec', act, uses⟩
    obtain ⟨rfl, rfl⟩ | ⟨-, ec'⟩ := move_calls_inv ec'
    · exact ⟨t', c, ec, act, uses⟩
    · exact ⟨t', c', ec', act, uses⟩
  · rintro ⟨t', c', ec', act, uses⟩
    by_cases et : t' = t
    · subst et
      cases ec.symm.trans ec'
      exact ⟨t', _, update_self .., act, uses⟩
    · exact ⟨t', c', (update_of_ne et _ _).trans ec', act, uses⟩

/-- Who destroys a handle after another call is over. -/
lemma isDestroying_conclude {o : Outcome} (ec : s.calls t = some c)
    (other : c.act ≠ .onHandle h .destroy) :
    (s.conclude t o).IsDestroying h ↔ s.IsDestroying h := by
  constructor
  · rintro ⟨t', c', ec', act, uses⟩
    exact ⟨t', c', (conclude_calls_inv ec').2, act, uses⟩
  · rintro ⟨t', c', ec', act, uses⟩
    have et : t' ≠ t := by
      rintro rfl
      cases ec.symm.trans ec'
      exact other act
    refine ⟨t', c', ?_, act, uses⟩
    rw [conclude_calls, update_of_ne et]
    exact ec'

end Session

namespace Session.IsKeptFrom

variable {b : ObjectId} {s s' : Session} {σ σ' : ThreadId ⊕ String → Custody} {t : ThreadId}
  {c : Underway} {d : Deed}

lemma handOver (kept : s.IsKeptFrom b σ) (t : ThreadId) (h : String) :
    Custodians True b s.host.ledger (handOver σ t h) :=
  kept.custodians.reindex (Equiv.swap _ _).injective

lemma begin {handles : String → Option Handle} (kept : s.IsKeptFrom b σ)
    (free : s.calls t = none) (custodians : Custodians True b s.host.ledger σ')
    (mine : c.program.Ensures (.custody True True) c.act.Yields (σ' (.inl t)))
    (others : ∀ t' ≠ t, σ' (.inl t') = σ (.inl t'))
    (supports : ∀ h x, handles h = some x → (σ' (.inr h)).Supports x ∨
      (s.IsDestroying h ∨ c.act = .onHandle h .destroy ∧ c.uses = some h) ∧ ∃ g, x = .segment g) :
    ({ s with handles }.begin t c).IsKeptFrom b σ' := by
  refine ⟨custodians, ?_, ?_⟩
  · intro t' c' ec alive
    obtain ⟨rfl, rfl⟩ | ⟨et, ec⟩ := begin_calls_inv ec
    · exact mine
    · rw [others t' et]
      exact kept.calls t' c' ec alive
  · intro h x ex
    exact (supports h x ex).imp id fun busy => ⟨(isDestroying_begin free).2 busy.1, busy.2⟩

/-- Nobody destroys a handle that is not in use. -/
lemma supports (kept : s.IsKeptFrom b σ) {h : String} {x : Handle} (ex : s.handles h = some x)
    (free : ¬s.IsInUse h) : (σ (.inr h)).Supports x := by
  obtain supports | ⟨⟨t, c, ec, -, uses⟩, -⟩ := kept.handles h x ex
  · exact supports
  · exact absurd (.inr ⟨t, c, ec, uses⟩) free

/-- Nobody destroys a facade. -/
lemma supports_facade (kept : s.IsKeptFrom b σ) {h : String} {f : Facade}
    (ex : s.handles h = some (.facade f)) : (σ (.inr h)).Supports (.facade f) := by
  obtain supports | ⟨-, g, eg⟩ := kept.handles h _ ex
  · exact supports
  · cases eg

/-- A thread begins a call that needs nothing in custody. -/
lemma begin_use (kept : s.IsKeptFrom b σ) (free : s.calls t = none)
    (mine : c.program.Ensures (.custody True True) c.act.Yields (σ (.inl t))) :
    (s.begin t c).IsKeptFrom b σ :=
  kept.begin free kept.custodians mine (fun _ _ => rfl) fun h x ex =>
    (kept.handles h x ex).imp id fun busy => ⟨.inl busy.1, busy.2⟩

/-- A thread begins to open a handle. -/
lemma begin_open {h raw : String} {size : UInt32} {via : Via} {toggle : Option String}
    (kept : s.IsKeptFrom b σ) (free : s.calls t = none) :
    (s.begin t ⟨.openHandle h raw size via, some h, none,
      openCall toggle h raw size via⟩).IsKeptFrom b (update σ (.inl t) (.nothing size)) := by
  refine kept.begin free (kept.custodians.forget (.inl t) size) ?_ ?_ ?_
  · rw [update_self]
    exact ensures_openCall toggle via
  · intro t' ne
    rw [update_of_ne (by simpa using ne)]
  · intro h' x ex
    rw [update_of_ne (by simp)]
    exact (kept.handles h' x ex).imp id fun busy => ⟨.inl busy.1, busy.2⟩

/-- A thread begins to destroy a handle. -/
lemma begin_destroy {h : String} {x : Handle} {p : Program Outcome} (kept : s.IsKeptFrom b σ)
    (free : s.calls t = none) (ex : s.handles h = some x) (unused : ¬s.IsInUse h)
    (ep : handleCall? t h x .destroy = some p) :
    (s.begin t ⟨.onHandle h .destroy, some h, some x, p⟩).IsKeptFrom b
      (SharedSegment.handOver σ t h) := by
  refine kept.begin free (kept.handOver t h) ?_ ?_ ?_
  · rw [handOver_call]
    exact ensures_destroyCall (kept.supports ex unused) ep
  · intro t' ne
    exact handOver_call_ne σ ne
  · intro h' x' ex'
    by_cases eh : h' = h
    · subst eh
      refine .inr ⟨.inr ⟨rfl, rfl⟩, ?_⟩
      cases ex.symm.trans ex'
      cases x with
      | facade => cases ep
      | segment g => exact ⟨g, rfl⟩
    · rw [handOver_handle_ne σ eh]
      exact (kept.handles h' x' ex').imp id fun busy => ⟨.inl busy.1, busy.2⟩

/-- A thread begins to drop a handle. -/
lemma begin_drop {h : String} {x : Handle} {p : Program Outcome} (kept : s.IsKeptFrom b σ)
    (free : s.calls t = none) (ex : s.handles h = some x) (unused : ¬s.IsInUse h)
    (ep : handleCall? t h x .drop = some p) :
    ({ s with handles := update s.handles h none }.begin t
      ⟨.onHandle h .drop, none, some x, p⟩).IsKeptFrom b (SharedSegment.handOver σ t h) := by
  refine kept.begin free (kept.handOver t h) ?_ ?_ ?_
  · rw [handOver_call]
    exact ensures_dropCall (kept.supports ex unused) ep
  · intro t' ne
    exact handOver_call_ne σ ne
  · intro h' x' ex'
    obtain ⟨-, e⟩ | ⟨eh, ex'⟩ := update_inv ex'
    · cases e
    · rw [handOver_handle_ne σ eh]
      exact (kept.handles h' x' ex').imp id fun busy => ⟨.inl busy.1, busy.2⟩

/-- A thread makes a step in its call. -/
lemma progress {p' : Program Outcome} {h' : Host} (kept : s.IsKeptFrom b σ)
    (ec : s.calls t = some c) (custodians : Custodians True b h'.ledger σ')
    (mine : p'.Ensures (.custody True True) c.act.Yields (σ' (.inl t)))
    (others : ∀ j ≠ .inl t, σ' j = σ j) : (s.move t c p' h').IsKeptFrom b σ' := by
  refine ⟨custodians, ?_, ?_⟩
  · intro t' c' ec' alive
    obtain ⟨rfl, rfl⟩ | ⟨et, ec'⟩ := move_calls_inv ec'
    · exact mine
    · rw [others (.inl t') (by simpa using et)]
      exact kept.calls t' c' ec' alive
  · intro h x ex
    rw [others (.inr h) (by simp)]
    exact (kept.handles h x ex).imp id fun busy => ⟨(isDestroying_move ec).2 busy.1, busy.2⟩

lemma move {m : Move} {p' : Program Outcome} {h' : Host} (kept : s.IsKeptFrom b σ)
    (ec : s.calls t = some c) (alive : s.dead t = false) (st : c.program.Step t s.host m p' h') :
    ∃ σ', (s.move t c p' h').IsKeptFrom b σ' := by
  have en := kept.calls t c ec alive
  have cu := kept.custodians
  cases c with
  | mk act uses subject program =>
    cases st with
    | @answer r next _ a _ eh =>
      have may : (σ (.inl t)).Permits True r := en.1
      obtain ⟨c', ans, custodians, -⟩ := cu.answer may (Host.ledger_step eh)
      refine ⟨update σ (.inl t) c', kept.progress ec custodians ?_ ?_⟩
      · rw [update_self]
        exact en.2 a c' (.inl ans)
      · intro j ne
        exact update_of_ne ne _ _
    | tell => exact ⟨σ, kept.progress ec cu en fun _ _ => rfl⟩
    | wait eh => exact ⟨σ, kept.progress ec (Host.ledger_wait eh ▸ cu) en fun _ _ => rfl⟩
    | @strike r next _ call fail e er =>
      have struck := en.2 _ _ (.inr ⟨trivial, rfl, call, fail, e, er, rfl⟩)
      exact ⟨σ, kept.progress ec cu struck fun _ _ => rfl⟩

/-- A thread comes back from a call, with some handles and what these need in custody. -/
lemma finish {o : Outcome} (kept : s.IsKeptFrom b σ) (ec : s.calls t = some c)
    (custodians : Custodians True b s.host.ledger σ')
    (others : ∀ t' ≠ t, σ' (.inl t') = σ (.inl t'))
    (supports : ∀ h x, (s.conclude t o).handles h = some x → (σ' (.inr h)).Supports x ∨
      (s.IsDestroying h ∧ c.act ≠ .onHandle h .destroy) ∧ ∃ g, x = .segment g) :
    (s.conclude t o).IsKeptFrom b σ' := by
  refine ⟨?_, ?_, ?_⟩
  · rw [conclude_host]
    exact custodians
  · intro t' c' ec' alive
    rw [conclude_dead] at alive
    obtain ⟨et, ec'⟩ := conclude_calls_inv ec'
    rw [others t' et]
    exact kept.calls t' c' ec' alive
  · intro h x ex
    exact (supports h x ex).imp id fun busy =>
      ⟨(isDestroying_conclude ec busy.1.2).2 busy.1.1, busy.2⟩

/-- A thread comes back from any call. -/
lemma conclude {o : Outcome} (kept : s.IsKeptFrom b σ) (ec : s.calls t = some c)
    (yields : c.act.Yields o (σ (.inl t))) : ∃ σ', (s.conclude t o).IsKeptFrom b σ' := by
  cases yields.returns with
  | spares spares other =>
    refine ⟨σ, kept.finish ec kept.custodians (fun _ _ => rfl) ?_⟩
    intro h x ex
    rw [conclude_handles spares] at ex
    exact (kept.handles h x ex).imp id fun busy => ⟨⟨busy.1, other h⟩, busy.2⟩
  | @opens _ _ _ _ h x act ee opened =>
    -- What the call has in custody goes over to the handle that it has opened.
    refine ⟨_, kept.finish ec (kept.handOver t h) (fun t' ne => handOver_call_ne σ ne) ?_⟩
    intro h' x' ex'
    rw [conclude_setHandle ee] at ex'
    obtain ⟨rfl, new⟩ | ⟨eh, ex'⟩ := update_inv ex'
    · cases new
      rw [handOver_handle]
      exact .inl fun g eg => (opened g eg).1
    · rw [handOver_handle_ne σ eh]
      exact (kept.handles h' x' ex').imp id fun busy => ⟨⟨busy.1, by simp [act]⟩, busy.2⟩
  | @destroys h g act ee =>
    refine ⟨σ, kept.finish ec kept.custodians (fun _ _ => rfl) ?_⟩
    intro h' x' ex'
    rw [conclude_setHandle ee] at ex'
    obtain ⟨-, ex'⟩ | ⟨eh, ex'⟩ := update_inv ex'
    · cases ex'
      refine .inl ?_
      rintro _ ⟨⟩
      exact ⟨Custody.covers_empty _ g, g.isWhole_empty⟩
    · refine (kept.handles h' x' ex').imp id fun busy => ⟨⟨busy.1, ?_⟩, busy.2⟩
      rw [act]
      rintro ⟨⟩
      exact eh rfl

/-- A step keeps everything in custody. -/
theorem step (kept : s.IsKeptFrom b σ) (st : s.Step d s') : ∃ σ', s'.IsKeptFrom b σ' := by
  cases st with
  | openHandle idle => exact ⟨_, kept.begin_open idle.calls⟩
  | @onHandle t h op x p idle ex excl taken nodrop ep =>
    by_cases destroys : op = .destroy
    · subst destroys
      exact ⟨_, kept.begin_destroy idle.calls ex (excl rfl) ep⟩
    · refine ⟨_, kept.begin_use idle.calls ((ensures_handleUse ep nodrop destroys).mono ?_)⟩
      intro o c spares
      cases op with
      | destroy => exact absurd rfl destroys
      | _ => exact spares
  | drop idle ex unused ep => exact ⟨_, kept.begin_drop idle.calls ex unused ep⟩
  | @onGuard t g x f op idle eg ex =>
    exact ⟨_, kept.begin_use idle.calls (ensures_guardUse x f op)⟩
  | move ec alive st => exact kept.move ec alive st
  | @finish t c o ec alive ep =>
    have yields := kept.calls t c ec alive
    rw [ep] at yields
    exact kept.conclude ec yields
  | @die t alive =>
    have same : (s.bury t).host.ledger = s.host.ledger := Host.ledger_bury
    refine ⟨σ, same ▸ kept.custodians, ?_, kept.handles⟩
    intro t' c ec alive'
    exact kept.calls t' c ec (bury_dead_inv alive').2

/-- Nothing is in custody at the beginning, and objects that were there before may be anything. -/
lemma init (h : Host) : (Session.ofHost h).IsKeptFrom h.objects.length fun _ => .nothing 0 := by
  refine ⟨.init _ ?_, ?_, ?_⟩
  · intro k o le here
    have absent : h.ledger.outline? k = none := by
      rw [Ledger.outline?, List.getElem?_eq_none]
      simpa [Host.ledger] using le
    cases here.symm.trans absent
  · intro t c ec
    cases ec
  · intro h' x ex
    cases ex

theorem of_run {h : Host} {past : List Deed} (run : Run Session.Step (.ofHost h) past s) :
    ∃ σ, s.IsKeptFrom h.objects.length σ := by
  induction run with
  | nil => exact ⟨_, init h⟩
  | cons run st ih =>
    obtain ⟨σ, kept⟩ := ih
    exact kept.step st

/-- What a thread that is in a call asks for is permitted by what it has in custody. -/
lemma permits {r : Request} {next : r.Answer → Program Outcome} (kept : s.IsKeptFrom b σ)
    (ec : s.calls t = some c) (alive : s.dead t = false) (ep : c.program = .ask r next) :
    (σ (.inl t)).Permits True r := by
  have en := kept.calls t c ec alive
  rw [ep] at en
  exact en.1

/-- What a segment in custody shows is of its size, with a mutex and a condition that were set
up. -/
lemma under_of_covers {i : ThreadId ⊕ String} {g : Segment} {m : MappingId}
    (kept : s.IsKeptFrom b σ) (covers : (σ i).Covers g) (whole : g.IsWhole)
    (em : g.mapping = some m) :
    ∃ k o, s.host.under? m = some (k, o) ∧ o.sizeField = g.size ∧
      (b ≤ k → o.mutex.life ≠ .blank ∧ o.condition.life ≠ .blank) := by
  have cu := kept.custodians
  obtain ⟨x, emap⟩ := covers.mapping m em
  have mapped : s.host.mapping? m = some x := cu.mappings.known _ _ _ emap
  obtain ⟨y, here⟩ := Option.isSome_iff_exists.1 ((cu.knows i).mapping m x emap)
  have shaped : y.size = g.size ∧ (b ≤ x.object → y.mutex ≠ .blank ∧ y.condition ≠ .blank) := by
    cases er : g.role with
    | creator =>
      obtain ⟨x', y', emap', own, set, set', size⟩ :=
        covers.sync er (whole er (by rw [em]; rfl)) m em
      cases emap.symm.trans emap'
      cases (cu.owns.known _ _ _ own).symm.trans here
      exact ⟨size, fun _ => ⟨set, set'⟩⟩
    | attacher =>
      obtain ⟨x', emap', seen, published⟩ := covers.found er m em
      cases emap.symm.trans emap'
      obtain ⟨y', here', size⟩ := (cu.knows i).seen _ _ seen published
      cases here.symm.trans here'
      have set {l : Life} (up : l = .live ∨ True ∧ l = .destroyed) : l ≠ .blank := by
        obtain rfl | ⟨-, rfl⟩ := up
        · nofun
        · nofun
      refine ⟨size, fun le => ?_⟩
      have sane := cu.sane _ _ le here
      exact ⟨set (sane.mutex (size ▸ published)), set (sane.condition (size ▸ published))⟩
  rw [Host.ledger_outline?, Option.map_eq_some_iff] at here
  obtain ⟨o, here, rfl⟩ := here
  refine ⟨x.object, o, ?_, shaped.1, shaped.2⟩
  rw [Host.under?, mapped, Option.bind_some, here]
  rfl

/-- A facade that still shows its segment shows one of its size, with a mutex that was set up. -/
lemma under_of_facade {h : String} {f : Facade} {m : MappingId} (kept : s.IsKeptFrom b σ)
    (ex : s.handles h = some (.facade f)) (em : f.data = some m) :
    ∃ g k o, f.segment = some g ∧ s.host.under? m = some (k, o) ∧ o.sizeField = g.size ∧
      (b ≤ k → o.mutex.life ≠ .blank) := by
  obtain ⟨g, eg, em⟩ := Option.bind_eq_some_iff.1 em
  obtain ⟨covers, whole⟩ := kept.supports_facade ex g eg
  obtain ⟨k, o, sees, size, set⟩ := kept.under_of_covers covers whole em
  exact ⟨g, k, o, eg, sees, size, fun le => (set le).1⟩

/-- A part of an object that was set up is not made anew. -/
lemma hasPart_step (kept : s.IsKeptFrom b σ) (st : s.Step d s') {k : ObjectId} {part : SyncPart}
    (has : s.host.ledger.HasPart k part) : s'.host.ledger.HasPart k part := by
  cases st.touches with
  | nothing same =>
    rw [same]
    exact has
  | answered ec alive ep eh =>
    exact kept.custodians.hasPart (kept.permits ec alive ep) (Host.ledger_step eh) has
  | waited eh =>
    rw [Host.ledger_wait eh]
    exact has
  | died same =>
    rw [same, Host.ledger_bury]
    exact has

/-- A part of an object is down after a step if it was before, or if it was just taken down. -/
lemma destroyed_iff_of_step (kept : s.IsKeptFrom b σ) (st : s.Step d s') (k : ObjectId)
    (part : SyncPart) :
    (∃ o, s'.host.ledger.outline? k = some o ∧ o.life part = .destroyed) ↔
      d.TakesDown part k ∨ ∃ o, s.host.ledger.outline? k = some o ∧ o.life part = .destroyed := by
  have rest {d : Deed} (same : s'.host.ledger = s.host.ledger) (none : ¬d.TakesDown part k) :
      (∃ o, s'.host.ledger.outline? k = some o ∧ o.life part = .destroyed) ↔ d.TakesDown part k ∨
        ∃ o, s.host.ledger.outline? k = some o ∧ o.life part = .destroyed := by
    rw [same]
    exact (or_iff_right none).symm
  cases st.touches with
  | nothing same none =>
    refine rest (congrArg Host.ledger same) ?_
    intro down
    unfold Deed.TakesDown at down
    split at down
    · exact none _ _ _ _ rfl
    · exact down
  | answered ec alive ep eh =>
    exact kept.custodians.destroyed_iff (kept.permits ec alive ep) (Host.ledger_step eh)
  | waited eh => exact rest (Host.ledger_wait eh) id
  | died same => exact rest (same ▸ Host.ledger_bury) id

end Session.IsKeptFrom
end SharedSegment
