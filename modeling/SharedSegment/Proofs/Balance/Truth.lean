import SharedSegment.Proofs.Balance.Calls
import SharedSegment.Proofs.Guards.Soundness

/-!
# The truth of a lock status

Whoever locks, waits or waits under a guard is told whether it has the mutex. What it is told of the
mutex is true. Where it is told that the mutex is not to be had, it may have it all the same: a wait
that fails before it has given the mutex back leaves its thread with what it had
(`a_status_tells_of_the_mutex_unless_it_was_kept`).
-/

namespace SharedSegment
open Function Scenario Program

/-- Whether an act comes to a status of the lock. -/
def Scenario.Act.tellsStatus : Act → Bool
  | .onHandle _ .lock | .onHandle _ .waitLocked | .onGuard _ .wait => true
  | _ => false

/-- The status of the lock that a call has come to. -/
def Scenario.Result.status? : Result → Option LockStatus
  | .status s | .waited s => some s
  | _ => none

namespace Session

variable {h₀ : Host} {past mid : List Deed} {s s₁ s₂ s₃ : Session} {t : ThreadId} {a : Act}
  {o : Outcome} {c : Underway} {m : MappingId} {k : ObjectId}

/-- Whoever begins a call leaves the host as it is. -/
lemma Step.host_of_began (st : s.Step (.began t a) s₁) : s₁.host = s.host := by
  cases st.touches with
  | nothing same => exact same

/-- A call that comes to a status tells the truth. -/
lemma told_of_began (sincere : Prop) (st : s.Step (.began t a) s₁) (ec : s₁.calls t = some c)
    (through : c.IsThrough m) (tells : a.tellsStatus) (g : Grasp) :
    c.act.isStaking = false ∧
      c.program.Ensures (.grasp m sincere False)
        (fun o g' => ∃ status, o.result.status? = some status ∧
          Told sincere False g status g') g := by
  obtain ⟨x, j, sub, ej, em⟩ := through
  cases st with
  | openHandle | drop => cases tells
  | @onHandle t h op y p idle ey excl taken nodrop ep =>
    cases (update_self ..).symm.trans ec
    cases sub
    have lock := (Handle.calls_of_segment ej).1
    cases op with
    | lock =>
      have eq : p = giving j.lock .status := by
        rw [← lock]
        cases x <;> exact (Option.some.inj ep).symm
      subst eq
      refine ⟨rfl, (Segment.told_lock em False.elim).bind ?_⟩
      rintro status g' ⟨told, -⟩
      exact ⟨status, rfl, told⟩
    | waitLocked =>
      cases x with
      | facade f => cases ep
      | segment j =>
        cases ej
        cases ep
        refine ⟨rfl, (Segment.told_waitLocked em False.elim).bind ?_⟩
        intro status g' told
        exact ⟨status, rfl, told⟩
    | _ => cases tells
  | @onGuard t n y f op idle ey ef =>
    cases (update_self ..).symm.trans ec
    cases sub
    cases op with
    | wait =>
      have wait : f.guardWait y.status = j.waitLocked := Facade.onSegment_eq ej _ _
      rw [guardOperationCall, Program.bind_eq, wait]
      refine ⟨rfl, (Segment.told_waitLocked em False.elim).bind ?_⟩
      intro status g' told
      exact ⟨status, rfl, told⟩
    | _ => cases tells

/-- Whatever other threads do and whatever fails, unless a lock that fails feigns success: when a
call has come to a status of the lock, its thread has the mutex exactly if the status says so, or if
it had the mutex when it began and has not given it back on the way. -/
theorem a_status_tells_of_the_mutex_unless_it_was_kept
    (run : Run ExclusiveStep (.ofHost h₀) past s) (begins : s.ExclusiveStep (.began t a) s₁)
    (ec : s₁.calls t = some c) (through : c.IsThrough m) (shows : s.host.shows m k)
    (new : h₀.objects.length ≤ k) (tells : a.tellsStatus) (later : Run ExclusiveStep s₁ mid s₂)
    (stays : ∀ a o, .returned t a o ∉ mid) (ends : s₂.Step (.returned t a o) s₃)
    (honest : ∀ d ∈ mid, d.thread = t → ¬d.Feigns k) :
    ∃ status, o.result.status? = some status ∧
      (s₃.host.owner? k = some t ↔
        status.isHeld ∨ s.host.owner? k = some t ∧ ∀ d ∈ mid, d.gives? k ≠ some t) := by
  have host := begins.1.host_of_began
  obtain ⟨uses, -⟩ := told_of_began True begins.1 ec through tells .drop
  have engages : s₁.Engages h₀ (.began t a :: past) t c m k :=
    ⟨run.cons begins, ec, uses, through, host ▸ shows, new⟩
  obtain ⟨x, before⟩ := engages.exists_hold
  obtain ⟨g, fits, owned⟩ := Grasp.exists_fits x t
  obtain ⟨-, en⟩ := told_of_began True begins.1 ec through tells g
  obtain ⟨c', ec', alive, -, ep, rfl⟩ := ends.returned_inv
  obtain ⟨c₂, g', y, engages', after, fits', kept, en'⟩ := engages.grasp_run before fits en later
    stays alive (fun _ => honest) False.elim
  cases engages'.call.symm.trans ec'
  rw [ep] at en'
  obtain ⟨status, tells, told⟩ := en'
  refine ⟨status, tells, ?_⟩
  have owns : s.host.owner? k = x.owner? := by
    rw [← host, Host.owner?_eq, before, Option.bind_some]
  calc (s₂.conclude t o).host.owner? k = some t
    _ ↔ y.owner? = some t := by rw [conclude_host, Host.owner?_eq, after, Option.bind_some]
    _ ↔ g'.stand ≠ .out := fits'.stand.symm
    _ ↔ status.isHeld ∨ g'.kept := told.truth trivial (owned.trans fits.stand.symm)
    _ ↔ _ := by rw [kept, owned, owns]

/-- Where no call is under way any step may be made. -/
lemma Step.exclusive_of_rest {d : Deed} (st : s.Step d s₁) (rest : ∀ t, s.calls t = none) :
    s.ExclusiveStep d s₁ := by
  refine ⟨st, ?_⟩
  rintro t h op rfl ⟨u, c, ec, -⟩
  cases (rest u).symm.trans ec

lemma exclusiveRun_opened : Run ExclusiveStep (.ofHost .empty) opened.1 opened.2 := by
  have opens : empty.Step _ (empty.begin 0 .opening) :=
    .openHandle ⟨rfl, rfl⟩ rfl (not_isInUse (fun _ _ => rfl) fun _ => rfl)
  exact run_play_of exclusiveStep_turn (.cons .nil (opens.exclusive_of_rest fun _ => rfl)) _

lemma exclusiveRun_guarded : Run ExclusiveStep (.ofHost .empty) guarded.1 guarded.2 := by
  have guards : opened.2.Step _ (opened.2.begin 0 (.guarding 0)) :=
    .onHandle ⟨rfl, rfl⟩ rfl nofun (fun _ _ => rfl) nofun rfl
  have resting t : opened.2.calls t = none := by
    cases t <;> rfl
  exact run_play_of exclusiveStep_turn
    (.cons exclusiveRun_opened (guards.exclusive_of_rest resting)) _

/-- The call of a thread that waits under its guard. -/
def waitingUnderGuard : Underway :=
  let x : Guard := ⟨0, "g", "a", .acquired⟩
  ⟨.onGuard "g" .wait, some "a", some (.facade .created), guardOperationCall x .created .wait⟩

/-- The wait fails before the mutex was given back. -/
def refusedWait : List Deed × Session :=
  play [(0, some .einval), (0, none)] [] (guarded.2.begin 0 waitingUnderGuard)

lemma refusedWait_deeds :
    ∃ h h' e, refusedWait.1 =
      [.moved 0 h (.told (.log e)), .moved 0 h' (.struck (.park 0) .einval)] :=
  ⟨_, _, _, rfl⟩

/-- A wait under a guard that fails before the mutex was given back is told that the mutex is not to
be had, while its thread has it. -/
theorem a_wait_that_fails_keeps_the_mutex :
    ∃ s₁ s₂ s₃ mid x, guarded.2.ExclusiveStep (.began 0 (.onGuard "g" .wait)) s₁ ∧
      Run ExclusiveStep s₁ mid s₂ ∧ (∀ d ∈ mid, d.thread = 0 → ¬d.Feigns 0) ∧
      s₂.Step (.returned 0 (.onGuard "g" .wait) ⟨.waited .unavailable, .setGuard x⟩) s₃ ∧
      s₃.host.owner? 0 = some 0 := by
  have resting t : guarded.2.calls t = none := by
    cases t <;> rfl
  have begins : guarded.2.Step (.began 0 (.onGuard "g" .wait))
      (guarded.2.begin 0 waitingUnderGuard) :=
    .onGuard (x := ⟨0, "g", "a", .acquired⟩) (f := .created) ⟨rfl, rfl⟩ rfl rfl
  have exclusive := begins.exclusive_of_rest resting
  have ec : (guarded.2.begin 0 waitingUnderGuard).calls 0 = some waitingUnderGuard := rfl
  have through : waitingUnderGuard.IsThrough 0 := ⟨_, _, rfl, rfl, rfl⟩
  have shows : guarded.2.host.shows 0 0 := rfl
  have later : Run ExclusiveStep (guarded.2.begin 0 waitingUnderGuard) refusedWait.1
      refusedWait.2 :=
    run_play_of exclusiveStep_turn .nil _
  have ends : refusedWait.2.Step (.returned 0 (.onGuard "g" .wait)
      ⟨.waited .unavailable, .setGuard ⟨0, "g", "a", .unavailable⟩⟩) _ :=
    .finish (c := { waitingUnderGuard with program := .ret _ }) rfl rfl rfl
  obtain ⟨h, h', e, deeds⟩ := refusedWait_deeds
  have stays a o : .returned 0 a o ∉ refusedWait.1 := by simp [deeds]
  have honest : ∀ d ∈ refusedWait.1, d.thread = 0 → ¬d.Feigns 0 := by
    rw [deeds, List.forall_mem_cons, List.forall_mem_singleton]
    refine ⟨fun _ feigns => feigns, ?_⟩
    rintro - ⟨-, ⟨⟩, -⟩
  have kept : ∀ d ∈ refusedWait.1, d.gives? 0 ≠ some 0 := by
    simp [deeds, Deed.gives?]
  obtain ⟨status, tells, owns⟩ := a_status_tells_of_the_mutex_unless_it_was_kept
    exclusiveRun_guarded exclusive ec through shows (Nat.zero_le 0) rfl later stays ends honest
  exact ⟨_, _, _, _, _, exclusive, later, honest, ends, owns.2 (.inr ⟨rfl, kept⟩)⟩

end Session
end SharedSegment
