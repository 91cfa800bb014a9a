import SharedSegment.Proofs.Balance.Truth

/-!
# Waiting leaves the lock as it was

A wait takes the mutex, waits, and gives the mutex back on every path. So whoever begins to wait
without the mutex comes back without it, whatever fails on the way, as long as nobody denies it its
right; and by none of its steps it takes the mutex away from another thread or spoils it
(`a_wait_is_neutral`). As long as a mutex is up its host denies nobody (`Step.not_denies`).
-/

namespace SharedSegment
open Function Scenario Program

lemma Deed.Hands.of_other {k : ObjectId} {d : Deed} {u u' : Option ThreadId} {v : ThreadId}
    (hands : d.Hands k u u') (owned : u = some v) (ne : d.thread ≠ v) : u' = some v := by
  subst owned
  refine hands.owns (fun gives => ne (thread_of_gives? gives)) ?_
  rintro rfl
  exact ne rfl

/-- Whoever has a mutex that is up can give it back. -/
lemma Mutex.granted_unlock {x : Mutex} {t : ThreadId} (up : x.life ≠ .destroyed)
    (owns : x.hold.owner? = some t) : isGranted (x.unlock t).1 := by
  unfold unlock
  cases el : x.life with
  | destroyed => exact absurd el up
  | blank => rfl
  | live =>
    cases eh : x.hold with
    | held u | inconsistent u =>
      rw [eh] at owns
      cases owns
      simp [isGranted]
    | _ =>
      rw [eh] at owns
      cases owns

namespace Session

variable {h₀ : Host} {past mid : List Deed} {s s' s₁ s₂ s₃ : Session} {d : Deed} {t : ThreadId}
  {a : Act} {o : Outcome} {y : String} {c : Underway} {m : MappingId} {k : ObjectId} {x : Hold}
  {sincere : Prop} {post : Outcome → Grasp → Prop} {g : Grasp}

/-- By its own steps a call takes the mutex away from nobody and does not spoil it. -/
lemma Engages.spares_step {h : Host} {mv : Move} (engages : s.Engages h₀ past t c m k)
    (before : s.host.hold? k = some x) (fits : g.Fits t x)
    (en : c.program.Ensures (.grasp m sincere True) post g) (st : s.Step (.moved t h mv) s') :
    (∀ u ≠ t, s.host.owner? k = some u → s'.host.owner? k = some u) ∧
      (s.host.hold? k ≠ some .lost → s'.host.hold? k ≠ some .lost) := by
  obtain ⟨x', z, before', after, shifts⟩ := engages.shifts_step st
  cases before.symm.trans before'
  refine ⟨?_, ?_⟩
  · intro u ne owned
    rw [Host.owner?_eq, after, Option.bind_some]
    rw [Host.owner?_eq, before, Option.bind_some] at owned
    exact shifts.hands.of_other owned ne.symm
  · intro kept lost
    cases after.symm.trans lost
    cases shifts with
    | spares => exact kept before
    | @forfeits u gives =>
      obtain rfl : t = u := Deed.thread_of_gives? gives
      -- Whoever has the mutex from a dead owner does not ask to give it back.
      have heir := fits.heir rfl
      obtain ⟨-, unmoved⟩ | ⟨mv', p', same, moved, -⟩ := st.call_goesOn engages.call
        (by rintro _ _ ⟨⟩)
      · exact unmoved _ _ rfl
      · cases same
        obtain ⟨act, uses, subject, program⟩ := c
        clear engages
        generalize s'.host = h' at moved
        cases moved with
        | tell | wait | strike => cases gives
        | @answer r next a _ eh =>
          have may := en.1
          cases r with
          | unlock | park => exact may.2 trivial heir
          | _ => cases gives

/-- A wait that begins without the mutex is without it at the end. -/
lemma out_of_began (sincere : Prop) (st : s.Step (.began t (.onHandle y .wait)) s₁)
    (ec : s₁.calls t = some c) (through : c.IsThrough m) (out : g.stand = .out) :
    c.act.isStaking = false ∧
      c.program.Ensures (.grasp m sincere True) (fun _ g' => g'.stand = .out) g := by
  obtain ⟨x, j, sub, ej, em⟩ := through
  cases st with
  | @onHandle _ _ _ z p idle ez excl taken nodrop ep =>
    cases (update_self ..).symm.trans ec
    cases sub
    have eq : p = giving j.wait fun _ => .ok := by
      rw [← (Handle.calls_of_segment ej).2.2.1]
      cases x <;> exact (Option.some.inj ep).symm
    subst eq
    exact ⟨rfl, (Segment.out_wait em trivial out).bind fun _ _ out => out⟩

/-- As long as the mutex of an object is up, nobody is denied its right but by a call that fails by
itself. -/
theorem Step.not_denies (st : s.Step d s') (calm : d.isCalm) (setUp : s.host.IsSetUp k)
    (up : ¬s.host.IsDown k) : ¬d.Denies k := by
  intro denies
  cases d with
  | began | returned | died => cases denies
  | moved u h mv =>
    cases mv with
    | told | waited => cases denies
    | struck => cases calm
    | answered r a =>
      obtain ⟨rfl, eh, -⟩ := st.answered_inv
      obtain ⟨o, here, set⟩ := setUp
      generalize s'.host = h' at eh
      cases r with
      | unlock m =>
        obtain ⟨shows, owns, refused⟩ := denies
        cases (Host.step_unlock (Host.under?_eq_some_iff.2 ⟨shows, here⟩)).symm.trans eh
        rw [Host.owner?_of_object here] at owns
        exact refused (Mutex.granted_unlock (fun down => up ⟨o, here, down⟩) owns)
      | makeConsistent m =>
        obtain ⟨shows, heir, refused⟩ := denies
        cases (Host.step_makeConsistent (Host.under?_eq_some_iff.2 ⟨shows, here⟩)).symm.trans eh
        rw [Host.hold?_of_object here, Option.some.injEq] at heir
        refine refused ?_
        cases el : o.mutex.life with
        | blank => exact absurd el set
        | live | destroyed => simp [Mutex.makeConsistent, el, heir, isGranted]
      | _ => cases denies

/-- Whatever other threads do and whatever fails, as long as the thread is not denied its right: who
begins to wait without the mutex comes back without it, and has not left it inconsistent. By no step
of its own it has taken the mutex away from another thread or made it unusable. -/
theorem a_wait_is_neutral (run : Run ExclusiveStep (.ofHost h₀) past s)
    (begins : s.ExclusiveStep (.began t (.onHandle y .wait)) s₁) (ec : s₁.calls t = some c)
    (through : c.IsThrough m) (shows : s.host.shows m k) (new : h₀.objects.length ≤ k)
    (away : s.host.owner? k ≠ some t) (later : Run ExclusiveStep s₁ mid s₂)
    (stays : ∀ a o, .returned t a o ∉ mid) (ends : s₂.Step (.returned t a o) s₃)
    (just : ∀ d ∈ mid, d.thread = t → ¬d.Denies k) :
    s₃.host.owner? k ≠ some t ∧ s₃.host.hold? k ≠ some (.inconsistent t) ∧
      ∀ after h mv before s' s'', mid = after ++ .moved t h mv :: before →
        Run ExclusiveStep s₁ before s' → s'.ExclusiveStep (.moved t h mv) s'' →
          (∀ u ≠ t, s'.host.owner? k = some u → s''.host.owner? k = some u) ∧
            (s'.host.hold? k ≠ some .lost → s''.host.hold? k ≠ some .lost) := by
  have host := begins.1.host_of_began
  have outside : (Grasp.mk .out false).stand = .out := rfl
  obtain ⟨uses, en⟩ := out_of_began False begins.1 ec through outside
  have engages : s₁.Engages h₀ (.began t (.onHandle y .wait) :: past) t c m k :=
    ⟨run.cons begins, ec, uses, through, host ▸ shows, new⟩
  obtain ⟨x, before⟩ := engages.exists_hold
  have fits : (Grasp.mk .out false).Fits t x := by
    have out : x.owner? ≠ some t := by
      rwa [← host, Host.owner?_eq, before, Option.bind_some] at away
    refine ⟨iff_of_false (fun own => own rfl) out, ?_⟩
    rintro rfl
    exact absurd rfl out
  obtain ⟨c', ec', alive, -, ep, rfl⟩ := ends.returned_inv
  have goesOn {before' : List Deed} {s' : Session} (part : ∀ d ∈ before', d ∈ mid)
      (run' : Run ExclusiveStep s₁ before' s') (alive' : s'.dead t = false) :=
    engages.grasp_run before fits en run' (fun a o mem => stays a o (part _ mem)) alive' False.elim
      fun _ d mem => just d (part d mem)
  refine and_assoc.1 ⟨?_, ?_⟩
  · obtain ⟨c₂, g', z, engages', after, fits', -, en'⟩ := goesOn (fun _ mem => mem) later alive
    cases engages'.call.symm.trans ec'
    rw [ep] at en'
    have out : g'.stand = .out := en'
    have free : z.owner? ≠ some t := fun owns => fits'.stand.2 owns out
    rw [conclude_host, Host.owner?_eq, after, Option.bind_some]
    refine ⟨free, ?_⟩
    rintro ⟨⟩
    exact free rfl
  · rintro after h mv before' s' s'' rfl run' st
    have alive' : s'.dead t = false := by
      have st := st.1
      cases st with
      | move _ alive => exact alive
    obtain ⟨c₂, g', z, engages', there, fits', -, en'⟩ :=
      goesOn (fun d mem => List.mem_append_right _ (.tail _ mem)) run' alive'
    exact engages'.spares_step there fits' en' st.1

/-- The call of a thread that waits on its facade. -/
def waitingOnFacade : Underway :=
  .ofUse "a" .wait (.facade .created) (giving Facade.created.wait fun _ => .ok)

/-- The wait fails before the mutex was given back. -/
def failedWait : List Deed × Session :=
  play [(0, none), (0, some .einval), (0, none), (0, none)] [] (opened.2.begin 0 waitingOnFacade)

lemma failedWait_deeds :
    ∃ h₁ h₂ h₃ h₄ e, failedWait.1 =
      [.moved 0 h₁ (.answered (.unlock 0) (.ok ())), .moved 0 h₂ (.told (.log e)),
        .moved 0 h₃ (.struck (.park 0) .einval), .moved 0 h₄ (.answered (.lock 0) (.ok ()))] :=
  ⟨_, _, _, _, _, rfl⟩

/-- A wait that fails before the mutex was given back gives it back at the end. -/
theorem a_wait_that_fails_gives_the_mutex_back :
    ∃ s₁ s₂ s₃ mid h, opened.2.ExclusiveStep (.began 0 (.onHandle "a" .wait)) s₁ ∧
      Run ExclusiveStep s₁ mid s₂ ∧ .moved 0 h (.struck (.park 0) .einval) ∈ mid ∧
      (∀ d ∈ mid, d.thread = 0 → ¬d.Denies 0) ∧
      s₂.Step (.returned 0 (.onHandle "a" .wait) ⟨.ok, .none⟩) s₃ ∧
      s₃.host.owner? 0 ≠ some 0 := by
  have resting t : opened.2.calls t = none := by
    cases t <;> rfl
  have begins : opened.2.Step (.began 0 (.onHandle "a" .wait))
      (opened.2.begin 0 waitingOnFacade) :=
    .onHandle ⟨rfl, rfl⟩ rfl nofun nofun nofun rfl
  have exclusive := begins.exclusive_of_rest resting
  have ec : (opened.2.begin 0 waitingOnFacade).calls 0 = some waitingOnFacade := rfl
  have through : waitingOnFacade.IsThrough 0 := ⟨_, _, rfl, rfl, rfl⟩
  have shows : opened.2.host.shows 0 0 := rfl
  have away : opened.2.host.owner? 0 ≠ some 0 := nofun
  have later : Run ExclusiveStep (opened.2.begin 0 waitingOnFacade) failedWait.1 failedWait.2 :=
    run_play_of exclusiveStep_turn .nil _
  have ends : failedWait.2.Step (.returned 0 (.onHandle "a" .wait) ⟨.ok, .none⟩) _ :=
    .finish (c := { waitingOnFacade with program := .ret _ }) rfl rfl rfl
  obtain ⟨h₁, h₂, h₃, h₄, e, deeds⟩ := failedWait_deeds
  have stays a o : .returned 0 a o ∉ failedWait.1 := by simp [deeds]
  have just : ∀ d ∈ failedWait.1, d.thread = 0 → ¬d.Denies 0 := by
    simp [deeds, Deed.Denies, isGranted]
  obtain ⟨out, -⟩ := a_wait_is_neutral exclusiveRun_opened exclusive ec through shows
    (Nat.zero_le 0) away later stays ends just
  exact ⟨_, _, _, _, h₃, exclusive, later, by simp [deeds], just, ends, out⟩

end Session
end SharedSegment
