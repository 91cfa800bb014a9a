import SharedSegment.Proofs.Custody.Identity
import SharedSegment.Proofs.Custody.Teardown
import SharedSegment.Proofs.Guards.Grip

/-!
# Soundness of guards

A guard gives its thread the payload without a look at the mutex. So whoever may use a guard should
own the mutex under it, and no two threads should be able to use guards of one segment at once. Both
hold as long as no guard has lapsed, in every session, whichever calls fail and whoever dies
(`Session.guards_have_the_mutex_until_they_lapse`). A guard that has lapsed is still there to be
used: the thread no longer has the mutex, and another one may take it and have a guard of its own
(`two_guards_of_one_segment_are_usable`).
-/

namespace SharedSegment
open Function Scenario

/-- A call waits to have the mutex again. -/
def Underway.IsParked (c : Underway) : Prop :=
  ∃ m next, c.program = .ask (.awake m) next

/-- A thread may use a guard: it is alive, and it is neither parked under the guard nor about to
drop it. -/
structure Session.MayUse (s : Session) (t : ThreadId) (g : String) : Prop where
  alive : s.dead t = false
  free : ∀ c, s.calls t = some c → c.act.guard? = some g →
    c.act ≠ .onGuard g .drop ∧ ¬c.IsParked

namespace Session

section
variable {b : ObjectId} {s s' : Session} {past : List Deed} {σ : ThreadId ⊕ String → Custody}
  {d : Deed} {t t' : ThreadId} {g g' : String} {m m' : MappingId} {k : ObjectId}

/-- What a thread without a call has, it may use. -/
lemma MayUse.of_rest (alive : s.dead t = false) (rests : s.calls t = none) : s.MayUse t g := by
  refine ⟨alive, ?_⟩
  intro c ec
  cases rests.symm.trans ec

/-- Every guard is on an object. -/
lemma IsLent.guardIsOn {x : Guard} (lent : s.IsLent) (kept : s.IsKeptFrom b σ)
    (eg : s.guards t g = some x) : ∃ m k, s.GuardIsOn t g m k := by
  obtain ⟨-, -, f, ef, mapped⟩ := lent.guards t g x eg
  obtain ⟨m, em⟩ := Option.isSome_iff_exists.1 mapped
  obtain ⟨_, k, _, -, sees, -⟩ := kept.under_of_facade ef em
  obtain ⟨shows, -⟩ := Host.under?_eq_some_iff.1 sees
  exact ⟨m, k, x, eg, ⟨f, ef, em⟩, shows⟩

/-- Whoever may use a guard owns the mutex under it, or the guard has lapsed. -/
lemma Grip.isFirm (grip : s.Grip b past t) (there : s.GuardIsOn t g m k) (le : b ≤ k)
    (may : s.MayUse t g) : s.IsFirm past t g k := by
  by_cases free : ∀ c, s.calls t = some c → c.act.guard? ≠ some g
  · exact grip.firm g m k there le free
  · push Not at free
    obtain ⟨c, ec, own⟩ := free
    obtain ⟨nodrop, awake⟩ := may.free c ec own
    cases ea : c.act with
    | onGuard g' op =>
      rw [ea] at own nodrop
      cases own
      cases grip.uses g m k c op there le ec ea (by simpa using nodrop) with
      | firm _ firm => exact firm
      | parked rest =>
        obtain ⟨next, ep, -⟩ := rest
        exact absurd ⟨m, next, ep⟩ awake
    | _ =>
      rw [ea] at own
      cases own

/-- Of two guards on one object that may be used, one has lapsed. -/
lemma Grip.lapsed_of_two (grip : s.Grip b past t) (grip' : s.Grip b past t')
    (other : (t, g) ≠ (t', g')) (there : s.GuardIsOn t g m k) (there' : s.GuardIsOn t' g' m' k)
    (le : b ≤ k) (may : s.MayUse t g) (may' : s.MayUse t' g') :
    hasLapsed k t g past ∨ hasLapsed k t' g' past := by
  by_cases et : t = t'
  · subst et
    have ne : g ≠ g' := by
      rintro rfl
      exact other rfl
    exact grip.apart g g' m m' k ne there there' le
  · obtain owns | lapsed := grip.isFirm there le may
    · obtain owns' | lapsed' := grip'.isFirm there' le may'
      · cases owns.symm.trans owns'
        exact absurd rfl et
      · exact .inr lapsed'
    · exact .inl lapsed

/-- A call on a guard that waits for the mutex is without it. -/
lemma Uses.away {m' : MappingId} {next : (Request.awake m').Answer → Program Outcome}
    (uses : s.Uses past t g m k (.ask (.awake m') next)) : s.host.owner? k ≠ some t := by
  cases uses with
  | firm rest =>
    obtain ⟨quiet, -⟩ | ⟨next', e, -⟩ := rest
    · cases quiet
    · cases e
  | parked _ away => exact away

/-- When a guard lapses that its thread may use then, the thread is left without the mutex. -/
lemma Grip.away_of_lapses (grip : s.Grip b past t) (kept : s.IsKeptFrom b σ) (st : s.Step d s')
    (there : s.GuardIsOn t g m k) (le : b ≤ k) (may : s'.MayUse t g)
    (lapses : d.lapses k t g (lastAct t past)) : s'.host.owner? k ≠ some t := by
  have hands := there.hands kept st le
  unfold Deed.lapses at lapses
  split at lapses
  case isFalse =>
    obtain ⟨-, free⟩ := hands.of_gives (of_decide_eq_true lapses)
    rw [free]
    nofun
  case isTrue own =>
    obtain ⟨h, m', a, rfl, leaves⟩ := Deed.forgoes_inv (of_decide_eq_true lapses)
    cases st with
    | @move _ c _ p' h' ec alive st =>
      rw [grip.last c ec, Option.bind_some] at own
      -- The call on the guard waits for the mutex, so it has been without the mutex already.
      obtain ⟨nodrop, -⟩ := may.free _ (update_self ..) own
      cases ea : c.act with
      | onGuard g' op =>
        rw [ea] at own
        cases own
        have uses := grip.uses g m k c op there le ec ea (by simpa [ea] using nodrop)
        generalize c.program = p at st uses
        cases st with
        | answer => exact hands.away uses.away (by simp [leaves])
      | _ =>
        rw [ea] at own
        cases own

end

/-- In a session in which no failing lock says that it has taken the mutex, every guard is on an
object. Whoever may use a guard on an object of the session owns the mutex under it, unless the
guard has lapsed since it was made, so that two guards on one object may be used at once only if one
of them has lapsed. When a guard lapses its thread is left without the mutex. -/
theorem guards_have_the_mutex_until_they_lapse {h : Host} {past : List Deed} {s : Session}
    (run : Run Session.Step (.ofHost h) past s) (honest : ∀ d ∈ past, d.isHonest) :
    (∀ t g x, s.guards t g = some x → ∃ m k, s.GuardIsOn t g m k) ∧
    (∀ t g m k, s.GuardIsOn t g m k → h.objects.length ≤ k → s.MayUse t g →
      s.host.owner? k = some t ∨ hasLapsed k t g past) ∧
    (∀ t t' g g' m m' k, (t, g) ≠ (t', g') → s.GuardIsOn t g m k → s.GuardIsOn t' g' m' k →
      h.objects.length ≤ k → s.MayUse t g → s.MayUse t' g' →
      hasLapsed k t g past ∨ hasLapsed k t' g' past) ∧
    ∀ d s' t g m k, s.Step d s' → s.GuardIsOn t g m k → h.objects.length ≤ k → s'.MayUse t g →
      d.lapses k t g (lastAct t past) → s'.host.owner? k ≠ some t := by
  have lent := IsLent.of_run run
  obtain ⟨σ, kept⟩ := IsKeptFrom.of_run run
  have grip {t} (alive : s.dead t = false) := Grip.of_run run honest alive
  refine ⟨?_, ?_, ?_, ?_⟩
  · intro t g x eg
    exact lent.guardIsOn kept eg
  · intro t g m k there le may
    exact (grip may.alive).isFirm there le may
  · intro t t' g g' m m' k other there there' le may may'
    exact (grip may.alive).lapsed_of_two (grip may'.alive) other there there' le may may'
  · intro d s' t g m k st there le may lapses
    exact (grip (st.alive may.alive).1).away_of_lapses kept st there le may lapses

end Session

/-- The call of a thread that opens a facade. -/
def Underway.opening : Underway :=
  let act : Act := .openHandle "a" "/s" 8 (.facade (some .standard))
  ⟨act, some "a", none, openCall none "a" "/s" 8 (.facade (some .standard))⟩

/-- The call of a thread for a guard of the facade. -/
def Underway.guarding (t : ThreadId) : Underway :=
  ⟨.onHandle "a" (.guard "g"), some "a", some (.facade .created), guardCall t "a" "g" .created⟩

/-- The call that unlocks the facade. -/
def Underway.unlocking : Underway :=
  ⟨.onHandle "a" .unlock, some "a", some (.facade .created),
    giving Facade.created.unlock fun _ => .ok⟩

namespace Session

/-- A thread has opened a facade. -/
def opened : List Deed × Session :=
  play (List.replicate 20 (0, none)) [.began 0 Underway.opening.act] (empty.begin 0 .opening)

/-- It has a guard. -/
def guarded : List Deed × Session :=
  play (List.replicate 2 (0, none)) (.began 0 (Underway.guarding 0).act :: opened.1)
    (opened.2.begin 0 (.guarding 0))

/-- It has unlocked the facade all the same. -/
def unlocked : List Deed × Session :=
  play (List.replicate 2 (0, none)) (.began 0 Underway.unlocking.act :: guarded.1)
    (guarded.2.begin 0 .unlocking)

/-- Another thread has a guard too. -/
def guardedTwice : List Deed × Session :=
  play (List.replicate 2 (1, none)) (.began 1 (Underway.guarding 1).act :: unlocked.1)
    (unlocked.2.begin 1 (.guarding 1))

lemma run_guardedTwice : Run Step .empty guardedTwice.1 guardedTwice.2 := by
  have opens : empty.Step _ (empty.begin 0 .opening) :=
    .openHandle ⟨rfl, rfl⟩ rfl (not_isInUse (fun _ _ => rfl) fun _ => rfl)
  have guards : opened.2.Step _ (opened.2.begin 0 (.guarding 0)) :=
    .onHandle ⟨rfl, rfl⟩ rfl nofun (fun _ _ => rfl) nofun rfl
  have unlocks : guarded.2.Step _ (guarded.2.begin 0 .unlocking) :=
    .onHandle ⟨rfl, rfl⟩ rfl nofun nofun nofun rfl
  have guards' : unlocked.2.Step _ (unlocked.2.begin 1 (.guarding 1)) :=
    .onHandle ⟨rfl, rfl⟩ rfl nofun (fun _ _ => rfl) nofun rfl
  have first := run_play (.cons .nil opens) (List.replicate 20 (0, none))
  have second := run_play (.cons first guards) (List.replicate 2 (0, none))
  have third := run_play (.cons second unlocks) (List.replicate 2 (0, none))
  exact run_play (.cons third guards') (List.replicate 2 (1, none))

end Session

/-- Two threads may use their guards of one segment at once: the guard of one of them has lapsed,
since it has unlocked the facade while it had the guard. -/
theorem two_guards_of_one_segment_are_usable :
    ∃ past s, Run Session.Step .empty past s ∧ (∀ d ∈ past, d.isHonest) ∧
      s.GuardIsOn 0 "g" 0 0 ∧ s.GuardIsOn 1 "g" 0 0 ∧ s.MayUse 0 "g" ∧ s.MayUse 1 "g" ∧
      s.host.owner? 0 = some 1 ∧ hasLapsed 0 0 "g" past := by
  have honest : ∀ d ∈ Session.guardedTwice.1, d.isHonest := List.all_eq_true.1 rfl
  have first : Session.guardedTwice.2.GuardIsOn 0 "g" 0 0 := ⟨_, rfl, ⟨_, rfl, rfl⟩, rfl⟩
  have second : Session.guardedTwice.2.GuardIsOn 1 "g" 0 0 := ⟨_, rfl, ⟨_, rfl, rfl⟩, rfl⟩
  have may : Session.guardedTwice.2.MayUse 0 "g" := .of_rest rfl rfl
  have may' : Session.guardedTwice.2.MayUse 1 "g" := .of_rest rfl rfl
  have owned : Session.guardedTwice.2.host.owner? 0 = some 1 := rfl
  obtain ⟨-, firm, -⟩ :=
    Session.guards_have_the_mutex_until_they_lapse Session.run_guardedTwice honest
  refine ⟨_, _, Session.run_guardedTwice, honest, first, second, may, may', owned, ?_⟩
  obtain owns | lapsed := firm 0 "g" 0 0 first (Nat.zero_le 0) may
  · cases owned.symm.trans owns
  · exact lapsed

end SharedSegment
