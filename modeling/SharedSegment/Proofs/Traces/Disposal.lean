import SharedSegment.Proofs.Aftermath.Dismantling
import SharedSegment.Proofs.Stakes.Agreement
import SharedSegment.Proofs.Traces.GivingUp

/-!
# Disposal

A handle that is there was opened with all that it holds, so it is known what tearing it down has to
ask for (`Scenario.Handle.IsFormed`). Whoever drops or destroys it does all of that, whatever fails,
and waits only for those who are parked on its condition. What a creation that fails has made by
then is torn down in the same way (`teardown_is_whole`).
-/

namespace SharedSegment
open Function Scenario Program

/-- Whatever its calls are answered, tearing a handle down comes to an end, with all done. -/
def Segment.TearsDown (g : Segment) (calls : List Request) : Prop :=
  (∀ answers : (r : Request) → r.Answer,
    ∃ es g', g.destroy.GoesThrough es g' ∧ Entry.Follow answers es) ∧
  ∀ es g', g.destroy.GoesThrough es g' → g.IsTornDown calls es g'

lemma Segment.Requires.tearsDown {g : Segment} {calls : List Request}
    (requires : g.Requires calls) :
    g.TearsDown calls :=
  ⟨fun answers => g.destroy.exists_goesThrough answers,
    fun _ _ goes => Segment.isTornDown_of_goesThrough requires goes⟩

/-- A handle has what it takes to tear its segment down, and synchronization of its own if it is a
creator's. -/
def Scenario.Handle.IsFormed (x : Handle) : Prop :=
  ∀ g, x.segment? = some g → ∃ calls, g.Requires calls ∧ (g.ownsSync ↔ g.role = .creator)

lemma openCall_formed (toggle : Option String) (h raw : String) (size : UInt32) (via : Via) :
    (openCall toggle h raw size via).Ensures (.asking fun _ => True)
      (fun o _ => ∀ h' x, o.effect = .setHandle h' x → x.IsFormed) () := by
  refine (Ensures.openCall (fun og _ => ∀ g, og = some g →
    ∃ calls, g.Requires calls ∧ (g.ownsSync ↔ g.role = .creator)) toggle (fun _ _ here => here)
    ?_ ?_ nofun).mono ?_
  · intro _ n c _ _
    refine (Segment.create_forms n c size).mono ?_
    intro r _ forms g eg
    obtain ⟨f, m, rfl⟩ := forms g eg
    exact ⟨_, .creator, iff_of_true rfl rfl⟩
  · intro _ n c _
    refine (Segment.attach_forms n c).mono ?_
    intro r _ forms g eg
    obtain ⟨size, f, m, -, rfl⟩ := forms g eg
    exact ⟨_, .attacher, iff_of_false nofun nofun⟩
  · rintro o _ ⟨-, formed⟩ h' x e g eg
    have put : o.effect.segment? = some g := by rwa [e]
    exact formed g put

/-- Whoever drops or destroys a handle tears it down as a whole. -/
lemma ensures_teardown_tracing {t : ThreadId} {y : String} {x : Handle} {g : Segment}
    {op : Operation} {p : Program Outcome} {calls : List Request}
    (tears : op = .drop ∨ op = .destroy)
    (ep : handleCall? t y x op = some p) (eg : x.segment? = some g) (requires : g.Requires calls) :
    p.Ensures .tracing (fun o es => ∃ g', g.IsTornDown calls es g' ∧
      (op = .destroy → o.effect = .setHandle y (.segment g'))) [] := by
  have torn : g.destroy.Ensures .tracing (fun g' es => g.IsTornDown calls es g') [] :=
    ensures_tracing_iff.2 fun es g' goes => Segment.isTornDown_of_goesThrough requires goes
  obtain rfl | rfl := tears
  · have dropped (g' : Segment) (eg' : x.segment? = some g') : g'.destroy.Ensures .tracing
        (fun _ es => ∃ g', g.IsTornDown calls es g') [] := by
      cases eg.symm.trans eg'
      exact torn.mono fun g' _ done => ⟨g', done⟩
    refine (Ensures.dropCall dropped (fun none => nomatch none.symm.trans eg) ep).mono ?_
    rintro o es ⟨-, g', done⟩
    exact ⟨g', done, nofun⟩
  · have destroyed (g' : Segment) (ex : x = .segment g') : g'.destroy.Ensures .tracing
        (fun g' es => g.IsTornDown calls es g') [] := by
      subst ex
      cases eg
      exact torn
    refine (Ensures.destroyCall destroyed ep).mono ?_
    rintro o es ⟨g', effect, done⟩
    exact ⟨g', done, fun _ => effect⟩

/-- What tearing a handle down asks for is answered at once, unless somebody is parked on its
condition. -/
lemma Host.step_of_tears {g : Segment} {r : Request} (tears : g.Tears r) (h : Host) (t : ThreadId) :
    (∃ a h', h.step t r = .done a h') ∨
      ∃ m k o, r = .condDestroy m ∧ h.under? m = some (k, o) ∧ o.condition.parked ≠ [] := by
  cases r with
  | condDestroy m =>
    cases sees : h.under? m with
    | none =>
      refine .inl ⟨.error .einval, h, ?_⟩
      simp only [step, onCondition, sees]
      rfl
    | some x =>
      by_cases nobody : x.2.condition.parked = []
      · refine .inl ⟨.ok (), h.setObject x.1
          { x.2 with condition := { x.2.condition with life := .destroyed } }, ?_⟩
        simp only [step, onCondition, sees, Condition.destroy, nobody, List.isEmpty_nil, if_true]
        rfl
      · exact .inr ⟨m, x.1, x.2, rfl, sees, nobody⟩
  | broadcast | mutexDestroy | unmap | close | unlink => exact .inl ⟨_, _, rfl⟩
  | _ => cases tears

namespace Session

/-- A thread can go on in its call, or come back from it, without a failure of its own. -/
def GoesOn (s : Session) (t : ThreadId) : Prop :=
  ∃ d s', s.Step d s' ∧ d.thread = t ∧ d.isCalm ∧ ∀ h r, d ≠ .moved t h (.waited r)

/-- A thread is about to take down a condition that somebody is parked on. -/
def AwaitsSleepers (s : Session) (t : ThreadId) : Prop :=
  ∃ c m next k o, s.calls t = some c ∧ c.program = .ask (.condDestroy m) next ∧
    s.host.under? m = some (k, o) ∧ o.condition.parked ≠ []

variable {s s₁ s₂ s₃ : Session} {t : ThreadId} {c : Underway} {g : Segment} {x : Handle}
  {h₀ : Host} {past mid : List Deed} {y : String} {op : Operation} {o : Outcome}

lemma goesOn_of_tears (ec : s.calls t = some c) (alive : s.dead t = false)
    (tears : ∀ r next, c.program = .ask r next → g.Tears r) : s.GoesOn t ∨ s.AwaitsSleepers t := by
  obtain ⟨act, uses, subject, program⟩ := c
  cases program with
  | ret o => exact .inl ⟨_, _, .finish ec alive rfl, rfl, rfl, nofun⟩
  | put o rest => exact .inl ⟨_, _, .move ec alive .tell, rfl, rfl, fun _ _ => nofun⟩
  | ask r next =>
    obtain ⟨a, h', eh⟩ | ⟨m, k, o, rfl, sees, parked⟩ :=
      Host.step_of_tears (tears r next rfl) s.host t
    · exact .inl ⟨_, _, .move ec alive (.answer eh), rfl, rfl, fun _ _ => nofun⟩
    · exact .inr ⟨_, m, next, k, o, ec, rfl, sees, parked⟩

section
variable (tears : op = .drop ∨ op = .destroy) (st : s.Step (.began t (.onHandle y op)) s₁)
  (run₁ : Run Step s₁ mid s₂) (stays : ∀ a o, .returned t a o ∉ mid) (ex : s.handles y = some x)
  (eg : x.segment? = some g)
include tears st run₁ stays ex eg

/-- Whoever tears a handle down waits for nobody but those who are parked. -/
lemma goesOn_of_teardown (run : Run Step (.ofHost h₀) past s) (alive : s₂.dead t = false) :
    s₂.GoesOn t ∨ s₂.AwaitsSleepers t := by
  obtain ⟨c, ec, act, sub, -⟩ := st.call_of_teardown tears ex
  obtain ⟨c', ec', act', sub'⟩ := call_run run₁ ec stays
  have confined := IsConfined.of_run ((run.cons st).trans run₁)
  have staking : c'.act.isStaking ∧ c'.act.opensHandle = false := by
    rw [act', act]
    obtain rfl | rfl := tears <;> exact ⟨rfl, rfl⟩
  refine goesOn_of_tears (g := g) ec' alive ?_
  intro r next ep
  obtain ⟨x', g', sub'', eg', tearing⟩ :=
    Underway.tears_of_mayAsk (confined.asks ec' ep) staking.1 staking.2
  cases (sub'.trans sub).symm.trans sub''
  cases eg.symm.trans eg'
  exact tearing

/-- Whoever comes back from tearing a handle down has done it as a whole. -/
lemma tornDown_of_teardown {calls : List Request} (requires : g.Requires calls)
    (back : s₂.Step (.returned t (.onHandle y op) o) s₃) :
    ∃ g', g.IsTornDown calls (Deed.trace t mid) g' ∧ (op = .drop → s₁.handles y = none) ∧
      (op = .destroy → s₃.handles y = some (.segment g')) := by
  obtain ⟨c, ec, -, -, ep, -⟩ := st.call_of_teardown tears ex
  have goes := trace_returned run₁ ec stays back
  obtain ⟨g', torn, leaves⟩ :=
    ensures_tracing_iff.1 (ensures_teardown_tracing tears ep eg requires) _ o goes
  refine ⟨g', torn, ?_, ?_⟩
  · rintro rfl
    cases st with
    | onHandle _ _ _ _ nodrop => exact absurd rfl nodrop
    | drop => exact update_self ..
  · intro destroys
    obtain ⟨_, -, -, -, -, rfl⟩ := back.returned_inv
    rw [conclude_setHandle (leaves destroys)]
    exact update_self ..

end

/-- Whoever comes back from opening a handle has a segment, has made none, or has given up what it
has made. -/
lemma settles_of_opening {h raw : String} {size : UInt32} {via : Via}
    (st : s.Step (.began t (.openHandle h raw size via)) s₁) (run₁ : Run Step s₁ mid s₂)
    (stays : ∀ a o, .returned t a o ∉ mid)
    (back : s₂.Step (.returned t (.openHandle h raw size via) o) s₃) :
    Segment.Settles o.effect.segment? (Deed.trace t mid) := by
  cases st with
  | openHandle =>
    have goes := trace_returned run₁ (update_self ..) stays back
    exact ensures_tracing_iff.1 (Segment.ensures_openCall_settling _ h raw via) _ o goes

end Session

/-- Tearing down never stops half-way. In every reachable state, whoever tears a handle down that is
not destroyed asks for all that it has to ask for, by its role and once and in order, records every
failure, and keeps nothing; so it is whatever its calls are answered, whoever comes between, and it
never gets stuck, but for threads that are parked on its condition. Opening a handle that fails
after it has made an object tears down in the same way what it has made by then. -/
theorem teardown_is_whole {h₀ : Host} {past : List Deed} {s : Session}
    (run : Run Session.Step (.ofHost h₀) past s) :
    (∀ y x g, s.handles y = some x → ¬x.IsDestroyed → x.segment? = some g →
      ∃ calls, g.Requires calls ∧ (g.ownsSync ↔ g.role = .creator) ∧ g.TearsDown calls ∧
        ∀ t op s₁ mid s₂, op = .drop ∨ op = .destroy → s.Step (.began t (.onHandle y op)) s₁ →
          Run Session.Step s₁ mid s₂ → (∀ a o, .returned t a o ∉ mid) →
          (s₂.dead t = false → s₂.GoesOn t ∨ s₂.AwaitsSleepers t) ∧
          ∀ o s₃, s₂.Step (.returned t (.onHandle y op) o) s₃ →
            ∃ g', g.IsTornDown calls (Deed.trace t mid) g' ∧ (op = .drop → s₁.handles y = none) ∧
              (op = .destroy → s₃.handles y = some (.segment g'))) ∧
    ∀ t h raw size via s₁ mid s₂ o s₃, s.Step (.began t (.openHandle h raw size via)) s₁ →
      Run Session.Step s₁ mid s₂ → (∀ a o, .returned t a o ∉ mid) →
      s₂.Step (.returned t (.openHandle h raw size via) o) s₃ →
      (∃ g, o.effect.segment? = some g) ∨ (Deed.trace t mid).filterMap Entry.made? = [] ∨
        ∃ (g g' : Segment) (calls : List Request) (es₁ es₂ es₃ : List Entry),
          Deed.trace t mid = es₁ ++ es₂ ++ es₃ ∧ g.IsHalfMade es₁ ∧ g.Requires calls ∧
          g.TearsDown calls ∧ g.IsTornDown calls es₂ g' ∧ Entry.requests es₃ = [] := by
  refine ⟨?_, ?_⟩
  · intro y x g ex standing eg
    have opened := Session.HasOpened.of_run openCall_formed run
    obtain ⟨calls, requires, owns⟩ := (opened.handles y x ex).resolve_left standing g eg
    refine ⟨calls, requires, owns, requires.tearsDown, ?_⟩
    intro t op s₁ mid s₂ tears st run₁ stays
    exact ⟨Session.goesOn_of_teardown tears st run₁ stays ex eg run, fun o s₃ back =>
      Session.tornDown_of_teardown tears st run₁ stays ex eg requires back⟩
  · intro t h raw size via s₁ mid s₂ o s₃ st run₁ stays back
    have settles := Session.settles_of_opening st run₁ stays back
    generalize o.effect.segment? = og at settles ⊢
    generalize Deed.trace t mid = es at settles ⊢
    cases settles with
    | opened => exact .inl ⟨_, rfl⟩
    | nothing none => exact .inr (.inl none)
    | gaveUp half torn silent =>
      obtain ⟨calls, requires⟩ := half.requires
      exact .inr (.inr ⟨_, _, calls, _, _, _, rfl, half, requires, requires.tearsDown,
        Segment.isTornDown_of_goesThrough requires torn, silent⟩)

namespace Session

/-- The creator's facade begins to be dropped. -/
def discarding : Session :=
  { started.2 with handles := update started.2.handles "a" none }.begin 0
    (.ofDrop "a" (.facade (.ofSegment 8 .standard (.numbered 0))))

/-- Neither the broadcast nor the condition goes well, and the name is gone already. -/
def discarded : List Deed × Session :=
  play [(0, some .ebusy), (0, some .einval), (0, none), (0, none), (0, none), (0, none), (0, none),
    (0, some .enoent), (0, none)] [] discarding

/-- A facade is dropped as a whole though three of its calls fail, of which two are recorded. -/
theorem a_facade_is_dropped_whatever_fails :
    ∃ x s g', Run Step .empty started.1 started.2 ∧ started.2.handles "a" = some x ∧
      ¬x.IsDestroyed ∧ x.segment? = some (.numbered 0) ∧
      started.2.Step (.began 0 (.onHandle "a" .drop)) discarding ∧
      Run Step discarding discarded.1 discarded.2 ∧
      discarded.2.Step (.returned 0 (.onHandle "a" .drop) ⟨.ok, .none⟩) s ∧
      (Segment.numbered 0).IsTornDown [.broadcast 0, .condDestroy 0, .mutexDestroy 0, .unmap 0,
        .close 0, .unlink .sample] (Deed.trace 0 discarded.1) g' ∧
      Entry.outputs (Deed.trace 0 discarded.1) =
        [.log (.syncFailed .sample .standard .condBroadcast .ebusy),
          .log (.syncFailed .sample .standard .condDestroy .einval),
          .log (.released .sample .standard .creator)] := by
  have resting t : started.2.calls t = none := by
    cases t <;> rfl
  have drops : started.2.Step (.began 0 (.onHandle "a" .drop)) discarding :=
    .drop (s := started.2) (t := 0) (h := "a") ⟨rfl, rfl⟩ rfl
      (not_isInUse (fun _ _ => rfl) resting) rfl
  have goes : Run Step discarding discarded.1 discarded.2 := run_play .nil _
  have turned : discarded.2.turn 0 none = some (.returned 0 (.onHandle "a" .drop) ⟨.ok, .none⟩,
      discarded.2.conclude 0 ⟨.ok, .none⟩) := rfl
  have moves : ∀ d ∈ discarded.1, d.isMove := List.all_eq_true.1 rfl
  have stays a o : .returned 0 a o ∉ discarded.1 := by
    intro mem
    cases moves _ mem
  have run : Run Step (.ofHost .empty) started.1 started.2 := run_started
  obtain ⟨calls, requires, -, -, tears⟩ :=
    (teardown_is_whole run).1 "a" (.facade (.ofSegment 8 .standard (.numbered 0))) (.numbered 0) rfl
      nofun rfl
  cases requires
  obtain ⟨g', torn, -⟩ :=
    (tears 0 .drop _ _ _ (.inl rfl) drops goes stays).2 _ _ (step_turn turned)
  exact ⟨_, _, g', run_started, rfl, nofun, rfl, drops, goes, step_turn turned, torn, rfl⟩

end Session
end SharedSegment
