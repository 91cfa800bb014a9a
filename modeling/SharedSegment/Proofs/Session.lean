import SharedSegment.Proofs.Interleaving

/-!
# Sessions

In a session threads call whatever they like on handles and guards, in any order and all at the same
time: `Session.Step` lets any thread begin a call, make a step in it, come back from it, or die. A
call that takes a handle away or changes it needs the handle for itself; besides, nothing keeps
threads apart.

`Session.play` gives the run of a schedule, in which calls may be made to fail.
-/

namespace SharedSegment
open Function Scenario

def Scenario.Handle.segment? : Handle → Option Segment
  | .facade f => f.segment
  | .segment s => some s

/-- Whether an effect leaves all handles as they are. -/
def Scenario.Effect.sparesHandles : Effect → Bool
  | .setHandle .. => false
  | _ => true

/-- A call under way. -/
structure Underway where
  act : Act
  /-- The handle that the call keeps in use. -/
  uses : Option String
  /-- The handle that the call was made on. -/
  subject : Option Handle
  program : Program Outcome

/-- Threads with their calls, and the handles and guards that they share. -/
structure Session where
  host : Host
  handles : String → Option Handle
  guards : ThreadId → String → Option Guard
  calls : ThreadId → Option Underway
  dead : ThreadId → Bool

namespace Session

/-- A session in which nothing has happened. -/
def empty : Session :=
  ⟨.empty, fun _ => none, fun _ _ => none, fun _ => none, fun _ => false⟩

/-- A session on some host, in which nothing has happened. -/
def ofHost (h : Host) : Session :=
  ⟨h, fun _ => none, fun _ _ => none, fun _ => none, fun _ => false⟩

/-- What is there after a change was just put in, or was there before. -/
lemma update_inv {α β : Type} [DecidableEq α] {f : α → Option β} {a a' : α} {x : Option β} {y : β}
    (e : update f a x a' = some y) : a' = a ∧ x = some y ∨ a' ≠ a ∧ f a' = some y := by
  by_cases ea : a' = a
  · subst ea
    rw [update_self] at e
    exact .inl ⟨rfl, e⟩
  · rw [update_of_ne ea] at e
    exact .inr ⟨ea, e⟩

/-- The guard that a thread has after one of its guards was changed. -/
lemma guards_update_inv {guards : ThreadId → String → Option Guard} {t t' : ThreadId}
    {g g' : String} {x : Option Guard} {y : Guard}
    (e : update guards t (update (guards t) g x) t' g' = some y) :
    (t' = t ∧ g' = g ∧ x = some y) ∨ (t' = t → g' ≠ g) ∧ guards t' g' = some y := by
  by_cases et : t' = t
  · subst et
    rw [update_self] at e
    obtain ⟨rfl, new⟩ | ⟨ne, old⟩ := update_inv e
    · exact .inl ⟨rfl, rfl, new⟩
    · exact .inr ⟨fun _ => ne, old⟩
  · rw [update_of_ne et] at e
    exact .inr ⟨fun same => absurd same et, e⟩

/-- A thread can begin a call. -/
structure IsIdle (s : Session) (t : ThreadId) : Prop where
  calls : s.calls t = none
  dead : s.dead t = false

/-- A guard or a call keeps a handle in use. -/
def IsInUse (s : Session) (h : String) : Prop :=
  (∃ t g x, s.guards t g = some x ∧ x.handle = h) ∨ ∃ t c, s.calls t = some c ∧ c.uses = some h

lemma not_isInUse {s : Session} {h : String} (guards : ∀ t g, s.guards t g = none)
    (calls : ∀ t, s.calls t = none) : ¬s.IsInUse h := by
  rintro (⟨t, g, x, eg, -⟩ | ⟨t, c, ec, -⟩)
  · cases (guards t g).symm.trans eg
  · cases (calls t).symm.trans ec

/-- A thread has begun a call. -/
def begin (s : Session) (t : ThreadId) (c : Underway) : Session :=
  { s with calls := update s.calls t (some c) }

/-- A session with an effect of a call. -/
def apply (s : Session) : Effect → Session
  | .none => s
  | .setHandle h x => { s with handles := update s.handles h (some x) }
  | .setGuard g =>
    { s with guards := update s.guards g.owner (update (s.guards g.owner) g.name (some g)) }
  | .removeGuard g =>
    { s with guards := update s.guards g.owner (update (s.guards g.owner) g.name none) }

/-- A thread has come back from its call. -/
def conclude (s : Session) (t : ThreadId) (o : Outcome) : Session :=
  { s with calls := update s.calls t none }.apply o.effect

/-- A thread has made a step in its call. -/
def move (s : Session) (t : ThreadId) (c : Underway) (p : Program Outcome) (h : Host) : Session :=
  { s with host := h, calls := update s.calls t (some { c with program := p }) }

/-- A thread has died. It comes back from no call, and what its call uses stays in use. -/
def bury (s : Session) (t : ThreadId) : Session :=
  { s with host := s.host.bury t, dead := update s.dead t true }

section
variable {s : Session} {t : ThreadId} {c : Underway} {p : Program Outcome} {h : Host} {o : Outcome}

@[simp] lemma begin_host : (s.begin t c).host = s.host := rfl
@[simp] lemma begin_handles : (s.begin t c).handles = s.handles := rfl
@[simp] lemma begin_dead : (s.begin t c).dead = s.dead := rfl
@[simp] lemma begin_calls : (s.begin t c).calls = update s.calls t (some c) := rfl

@[simp] lemma move_host : (s.move t c p h).host = h := rfl
@[simp] lemma move_handles : (s.move t c p h).handles = s.handles := rfl
@[simp] lemma move_dead : (s.move t c p h).dead = s.dead := rfl

@[simp] lemma move_calls :
    (s.move t c p h).calls = update s.calls t (some { c with program := p }) := rfl

@[simp] lemma bury_host : (s.bury t).host = s.host.bury t := rfl
@[simp] lemma bury_handles : (s.bury t).handles = s.handles := rfl
@[simp] lemma bury_dead : (s.bury t).dead = update s.dead t true := rfl
@[simp] lemma bury_calls : (s.bury t).calls = s.calls := rfl

/-- Whoever is in a call after a thread has begun one is that thread, or was in it before. -/
lemma begin_calls_inv {t' : ThreadId} {c' : Underway} (ec : (s.begin t c).calls t' = some c') :
    t' = t ∧ c = c' ∨ t' ≠ t ∧ s.calls t' = some c' := by
  rw [begin_calls] at ec
  exact (update_inv ec).imp_left fun same => ⟨same.1, Option.some.inj same.2⟩

/-- Whoever is in a call after a thread has made a step was in it before. -/
lemma move_calls_inv {t' : ThreadId} {c' : Underway} (ec : (s.move t c p h).calls t' = some c') :
    t' = t ∧ { c with program := p } = c' ∨ t' ≠ t ∧ s.calls t' = some c' := by
  rw [move_calls] at ec
  exact (update_inv ec).imp_left fun same => ⟨same.1, Option.some.inj same.2⟩

/-- Whoever is alive after a thread has died is another thread. -/
lemma bury_dead_inv {t' : ThreadId} (alive : (s.bury t).dead t' = false) :
    t' ≠ t ∧ s.dead t' = false := by
  have ne : t' ≠ t := by
    rintro rfl
    rw [bury_dead, update_self] at alive
    cases alive
  rw [bury_dead, update_of_ne ne] at alive
  exact ⟨ne, alive⟩

@[simp] lemma conclude_host : (s.conclude t o).host = s.host := by
  unfold conclude apply
  split <;> rfl

@[simp] lemma conclude_calls : (s.conclude t o).calls = update s.calls t none := by
  unfold conclude apply
  split <;> rfl

/-- Whoever is in a call after a thread has come back is another thread. -/
lemma conclude_calls_inv {t' : ThreadId} {c' : Underway}
    (ec : (s.conclude t o).calls t' = some c') : t' ≠ t ∧ s.calls t' = some c' := by
  rw [conclude_calls] at ec
  obtain ⟨-, e⟩ | other := update_inv ec
  · cases e
  · exact other

@[simp] lemma conclude_dead : (s.conclude t o).dead = s.dead := by
  unfold conclude apply
  split <;> rfl

lemma conclude_handles (spares : o.effect.sparesHandles) :
    (s.conclude t o).handles = s.handles := by
  unfold conclude apply
  cases ee : o.effect with
  | setHandle h x => simp [ee, Effect.sparesHandles] at spares
  | _ => rfl

lemma conclude_setHandle {n : String} {x : Handle} (e : o.effect = .setHandle n x) :
    (s.conclude t o).handles = update s.handles n (some x) := by
  unfold conclude apply
  rw [e]

end

/-- One thread begins a call, makes a step in it, comes back from it, or dies. -/
inductive Step : Session → Deed → Session → Prop where
  | openHandle {s : Session} {t toggle h raw size via} :
    s.IsIdle t →
    s.handles h = none →
    ¬s.IsInUse h →
    Step s (.began t (.openHandle h raw size via))
      (s.begin t ⟨.openHandle h raw size via, some h, none, openCall toggle h raw size via⟩)
  | onHandle {s : Session} {t h op x p} :
    s.IsIdle t →
    s.handles h = some x →
    (op.isExclusive → ¬s.IsInUse h) →
    (∀ g, op = .guard g → s.guards t g = none) →
    op ≠ .drop →
    handleCall? t h x op = some p →
    Step s (.began t (.onHandle h op)) (s.begin t ⟨.onHandle h op, some h, some x, p⟩)
  | drop {s : Session} {t h x p} :
    s.IsIdle t →
    s.handles h = some x →
    ¬s.IsInUse h →
    handleCall? t h x .drop = some p →
    Step s (.began t (.onHandle h .drop))
      ({ s with handles := update s.handles h none }.begin t
        ⟨.onHandle h .drop, none, some x, p⟩)
  | onGuard {s : Session} {t g x f op} :
    s.IsIdle t →
    s.guards t g = some x →
    s.handles x.handle = some (.facade f) →
    Step s (.began t (.onGuard g op))
      (s.begin t ⟨.onGuard g op, some x.handle, some (.facade f), guardOperationCall x f op⟩)
  | move {s : Session} {t c m p' h'} :
    s.calls t = some c →
    s.dead t = false →
    c.program.Step t s.host m p' h' →
    Step s (.moved t s.host m) (s.move t c p' h')
  | finish {s : Session} {t c o} :
    s.calls t = some c →
    s.dead t = false →
    c.program = .ret o →
    Step s (.returned t c.act o) (s.conclude t o)
  | die {s : Session} {t} :
    s.dead t = false →
    Step s (.died t) (s.bury t)

/-- Whoever is alive after a step was alive before, and has not died by it. -/
lemma Step.alive {s s' : Session} {d : Deed} {t : ThreadId} (st : s.Step d s')
    (alive : s'.dead t = false) : s.dead t = false ∧ d ≠ .died t := by
  cases st with
  | openHandle | onHandle | drop | onGuard | move => exact ⟨alive, by simp⟩
  | finish =>
    rw [conclude_dead] at alive
    exact ⟨alive, by simp⟩
  | die =>
    obtain ⟨ne, alive⟩ := bury_dead_inv alive
    exact ⟨alive, by simp [ne.symm]⟩

/-- A thread that is alive has not died. -/
lemma not_died {s₀ s : Session} {past : List Deed} {t : ThreadId} (run : Run Step s₀ past s)
    (alive : s.dead t = false) : .died t ∉ past := by
  induction run with
  | nil => exact List.not_mem_nil
  | cons run st ih =>
    obtain ⟨alive, ne⟩ := st.alive alive
    exact List.not_mem_cons_of_ne_of_not_mem ne.symm (ih alive)

/-- A thread comes back from the call that it has begun, with what its program has ended with. -/
lemma Step.returned_inv {s s' : Session} {t : ThreadId} {a : Act} {o : Outcome}
    (st : s.Step (.returned t a o) s') :
    ∃ c, s.calls t = some c ∧ s.dead t = false ∧ c.act = a ∧ c.program = .ret o ∧
      s' = s.conclude t o := by
  cases st with
  | @finish _ c _ ec alive ep => exact ⟨c, ec, alive, rfl, ep, rfl⟩

/-- What the call of a thread has ended with, if it is over. -/
def outcome? (s : Session) (t : ThreadId) : Option Outcome :=
  (s.calls t).bind fun c => match c.program with
    | .ret o => some o
    | _ => none

lemma outcome?_eq_some {s : Session} {t : ThreadId} {o : Outcome} :
    s.outcome? t = some o ↔ ∃ c, s.calls t = some c ∧ c.program = .ret o := by
  rw [outcome?, Option.bind_eq_some_iff]
  refine exists_congr fun c => and_congr_right fun _ => ?_
  split
  case h_1 ep => rw [ep, Option.some.injEq, Program.ret.injEq]
  case h_2 other => exact iff_of_false nofun (other o)

/-- What a step does to the host: a request of some call is answered or has to wait, a thread dies,
or nothing happens. -/
inductive Touches (s : Session) (s' : Session) : Deed → Prop where
  | nothing {d} :
    s'.host = s.host →
    (∀ t h r a, d ≠ .moved t h (.answered r a)) →
    (∀ t, d ≠ .died t) →
    Touches s s' d
  | answered {t c r a next} :
    s.calls t = some c →
    s.dead t = false →
    c.program = .ask r next →
    s.host.step t r = .done a s'.host →
    Touches s s' (.moved t s.host (.answered r a))
  | waited {t r} :
    s.host.step t r = .wait s'.host →
    Touches s s' (.moved t s.host (.waited r))
  | died {t} :
    s'.host = s.host.bury t →
    Touches s s' (.died t)

lemma Step.touches {s s' : Session} {d : Deed} (st : s.Step d s') : s.Touches s' d := by
  cases st with
  | openHandle | onHandle | drop | onGuard => exact .nothing rfl nofun nofun
  | finish => exact .nothing conclude_host nofun nofun
  | die => exact .died rfl
  | @move t c m p' h' ec alive st =>
    cases c with
    | mk act uses subject program =>
      cases st with
      | tell => exact .nothing rfl (fun _ _ _ _ => nofun) nofun
      | strike => exact .nothing rfl (fun _ _ _ _ => nofun) nofun
      | wait eh => exact .waited eh
      | answer eh => exact .answered ec alive rfl eh

/-- Who is answered is in a call that asks for it. -/
lemma Step.answered_inv {s s' : Session} {t : ThreadId} {h : Host} {r : Request}
    {a : r.Answer} (st : s.Step (.moved t h (.answered r a)) s') :
    h = s.host ∧ s.host.step t r = .done a s'.host ∧
      ∃ c next, s.calls t = some c ∧ s.dead t = false ∧ c.program = .ask r next := by
  cases st.touches with
  | nothing same none => exact absurd rfl (none _ _ _ _)
  | answered ec alive ep eh => exact ⟨rfl, eh, _, _, ec, alive, ep⟩

/-- A call goes on until its thread comes back from it: the thread makes a step in it, or leaves it
as it is. -/
lemma Step.call_goesOn {s s' : Session} {d : Deed} {t : ThreadId} {c : Underway} (st : s.Step d s')
    (ec : s.calls t = some c) (stays : ∀ a o, d ≠ .returned t a o) :
    (s'.calls t = some c ∧ ∀ h m, d ≠ .moved t h m) ∨
      ∃ m p', d = .moved t s.host m ∧ c.program.Step t s.host m p' s'.host ∧
        s'.calls t = some { c with program := p' } := by
  have other {u : ThreadId} (ne : t ≠ u) {z : Option Underway} : update s.calls u z t = some c :=
    (update_of_ne ne _ _).trans ec
  have begun {u : ThreadId} (idle : s.IsIdle u) : t ≠ u := by
    rintro rfl
    cases idle.calls.symm.trans ec
  cases st with
  | openHandle idle | onHandle idle | drop idle | onGuard idle =>
    refine .inl ⟨other (begun idle), ?_⟩
    rintro _ _ ⟨⟩
  | @move u c' m p' h' ec' alive st =>
    by_cases eu : t = u
    · subst eu
      cases ec.symm.trans ec'
      exact .inr ⟨m, p', rfl, st, update_self ..⟩
    · refine .inl ⟨other eu, ?_⟩
      rintro _ _ ⟨⟩
      exact eu rfl
  | @finish u c' o =>
    refine .inl ⟨?_, by rintro _ _ ⟨⟩⟩
    rw [conclude_calls]
    refine other ?_
    rintro rfl
    exact stays c'.act o rfl
  | die => exact .inl ⟨ec, by rintro _ _ ⟨⟩⟩

/-- A thread is in one and the same call until it comes back. -/
lemma call_run {s s' : Session} {mid : List Deed} {t : ThreadId} {c : Underway}
    (run : Run Step s mid s') (ec : s.calls t = some c) (stays : ∀ a o, .returned t a o ∉ mid) :
    ∃ c', s'.calls t = some c' ∧ c'.act = c.act ∧ c'.subject = c.subject := by
  induction run with
  | nil => exact ⟨c, ec, rfl, rfl⟩
  | cons run st ih =>
    obtain ⟨c', ec', act, sub⟩ := ih fun a o mem => stays a o (.tail _ mem)
    obtain ⟨same, -⟩ | ⟨m, p', -, -, there⟩ :=
      st.call_goesOn ec' fun a o ed => stays a o (ed ▸ .head _)
    · exact ⟨c', same, act, sub⟩
    · exact ⟨_, there, act, sub⟩

/-- One turn of a thread in its call, in which what it asks for may be made to fail; a thread that
has nothing to do lets it pass. -/
def turn (s : Session) (t : ThreadId) (fault : Option Errno) : Option (Deed × Session) :=
  if s.dead t then none
  else
    (s.calls t).bind fun c =>
      match c.program, fault with
      | .ret o, _ => some (.returned t c.act o, s.conclude t o)
      | .ask r next, some e =>
        r.call?.map fun x => (.moved t s.host (.struck r e), s.move t c (next (x.2 e)) s.host)
      | p, _ => (p.advance t s.host).map fun x => (.moved t s.host x.1, s.move t c x.2.1 x.2.2)

/-- The run in which threads take turns by a schedule, behind some deeds. -/
def play : List (ThreadId × Option Errno) → List Deed → Session → List Deed × Session
  | [], past, s => (past, s)
  | (t, fault) :: ts, past, s =>
    match s.turn t fault with
    | some (d, s') => play ts (d :: past) s'
    | none => play ts past s

lemma step_turn {s s' : Session} {t fault d} (e : s.turn t fault = some (d, s')) :
    s.Step d s' := by
  unfold turn at e
  split at e
  case isTrue => cases e
  case isFalse dead =>
    obtain ⟨c, ec, e⟩ := Option.bind_eq_some_iff.1 e
    have alive : s.dead t = false := by simpa using dead
    cases ep : c.program with
    | ret o =>
      rw [ep] at e
      cases e
      exact .finish ec alive ep
    | put o rest =>
      rw [ep] at e
      obtain ⟨⟨m, p', h'⟩, ea, e⟩ := Option.map_eq_some_iff.1 e
      cases e
      exact .move ec alive (ep ▸ Program.step_advance ea)
    | ask r next =>
      rw [ep] at e
      cases fault with
      | none =>
        obtain ⟨⟨m, p', h'⟩, ea, e⟩ := Option.map_eq_some_iff.1 e
        cases e
        exact .move ec alive (ep ▸ Program.step_advance ea)
      | some err =>
        obtain ⟨⟨call, fail⟩, er, e⟩ := Option.map_eq_some_iff.1 e
        cases e
        exact .move ec alive (ep ▸ .strike er)

/-- The turn of a thread whose request is answered. -/
lemma turn_of_answer {s : Session} {t : ThreadId} {c : Underway} {r : Request} {a : r.Answer}
    {next : r.Answer → Program Outcome} {h' : Host} (ec : s.calls t = some c)
    (alive : s.dead t = false) (ep : c.program = .ask r next)
    (eh : s.host.step t r = .done a h') :
    s.turn t none = some (.moved t s.host (.answered r a), s.move t c (next a) h') := by
  simp [turn, alive, ec, ep, Program.advance, eh]

/-- Nobody begins a call by a turn in one. -/
lemma turn_ne_began {s s' : Session} {t fault d} (e : s.turn t fault = some (d, s'))
    (t' : ThreadId) (a : Act) : d ≠ .began t' a := by
  unfold turn at e
  split at e
  case isTrue => cases e
  case isFalse =>
    obtain ⟨c, -, e⟩ := Option.bind_eq_some_iff.1 e
    split at e
    case h_1 =>
      cases e
      nofun
    all_goals
      obtain ⟨x, -, e⟩ := Option.map_eq_some_iff.1 e
      cases e
      nofun

/-- Playing a schedule goes on with a run, in which steps may have to be of some kind. -/
lemma run_play_of {R : Session → Deed → Session → Prop} {s₀ s : Session} {past}
    (turns : ∀ {s s' t fault d}, turn s t fault = some (d, s') → R s d s') (run : Run R s₀ past s)
    (schedule : List (ThreadId × Option Errno)) :
    Run R s₀ (play schedule past s).1 (play schedule past s).2 := by
  induction schedule generalizing past s with
  | nil => exact run
  | cons x ts ih =>
    rw [play]
    split
    case h_1 d s' e => exact ih (.cons run (turns e))
    case h_2 => exact ih run

/-- While a schedule is played nobody begins a call. -/
lemma play_ne_began {s : Session} {past d} (schedule : List (ThreadId × Option Errno))
    (mem : d ∈ (play schedule past s).1) : d ∈ past ∨ ∀ t a, d ≠ .began t a := by
  induction schedule generalizing past s with
  | nil => exact .inl mem
  | cons x ts ih =>
    rw [play] at mem
    split at mem
    case h_1 e =>
      obtain mem | other := ih mem
      · obtain rfl | mem := List.mem_cons.1 mem
        · exact .inr (turn_ne_began e)
        · exact .inl mem
      · exact .inr other
    case h_2 => exact ih mem

/-- Playing a schedule goes on with a run. -/
theorem run_play {s₀ s : Session} {past} (run : Run Step s₀ past s)
    (schedule : List (ThreadId × Option Errno)) :
    Run Step s₀ (play schedule past s).1 (play schedule past s).2 :=
  run_play_of step_turn run schedule

/-- The run in which a thread begins a call and takes turns in it, behind some deeds. -/
def after (past : List Deed) (t : ThreadId) (act : Act) (begun : Session) (turns : Nat) :
    List Deed × Session :=
  play (List.replicate turns (t, none)) (.began t act :: past) begun

lemma run_after {s₀ s begun : Session} {past} {t : ThreadId} {act : Act} (run : Run Step s₀ past s)
    (begins : s.Step (.began t act) begun) (turns : Nat) :
    Run Step s₀ (after past t act begun turns).1 (after past t act begun turns).2 :=
  run_play (.cons run begins) _

end Session

/-- The call that opens a handle. -/
def Underway.ofOpen (h raw : String) (size : UInt32) (via : Via) : Underway :=
  ⟨.openHandle h raw size via, some h, none, openCall none h raw size via⟩

/-- The call that uses a handle without changing it. -/
def Underway.ofUse (h : String) (op : Operation) (x : Handle) (p : Program Outcome) : Underway :=
  ⟨.onHandle h op, some h, some x, p⟩

/-- The call that drops a handle. -/
def Underway.ofDrop (h : String) (x : Handle) : Underway :=
  ⟨.onHandle h .drop, none, some x, giving x.drop fun _ => .ok⟩

namespace Session

/-- For examples of runs: a thread has opened a facade on a new segment. -/
def started : List Deed × Session :=
  let c := Underway.ofOpen "a" "/s" 8 (.facade (some .standard))
  after [] 0 c.act (empty.begin 0 c) 30

lemma run_started : Run Step .empty started.1 started.2 :=
  run_after .nil
    (.openHandle ⟨rfl, rfl⟩ rfl (not_isInUse (fun _ _ => rfl) fun _ => rfl)) 30

/-- Another thread has attached to the segment. -/
def joined : List Deed × Session :=
  let c := Underway.ofOpen "b" "/s" 0 (.facade (some .standard))
  after started.1 1 c.act (started.2.begin 1 c) 30

lemma run_joined : Run Step .empty joined.1 joined.2 := by
  have resting t : started.2.calls t = none := by
    cases t <;> rfl
  have joins : started.2.Step _
      (started.2.begin 1 (.ofOpen "b" "/s" 0 (.facade (some .standard)))) :=
    .openHandle ⟨rfl, rfl⟩ rfl (not_isInUse (fun _ _ => rfl) resting)
  exact run_after run_started joins 30

end Session
end SharedSegment
