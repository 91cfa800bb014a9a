import SharedSegment.Proofs.Waiting.Waking

/-!
# Stranding

A mutex that was taken down is refused to whoever comes new, but whoever sleeps on it sleeps on, and
nobody can give it back any more. So its sleepers stay where they are as long as its owner lives,
whatever that owner calls (`Session.teardown_strands_sleepers`).
-/

namespace SharedSegment
open Function Scenario Program

namespace Mutex

variable {x : Mutex} {t : ThreadId}

/-- Nobody falls asleep on a mutex that was taken down, and as long as it has an owner nobody gets
up. -/
lemma queue_lock (down : x.life = .destroyed) :
    (x.lock t).object.queue = x.queue ∨
      x.hold.owner? = none ∧ (x.lock t).object.queue = x.queue.erase t := by
  by_cases queued : x.isQueued t
  case neg =>
    unfold lock
    rw [if_pos ⟨down, by simpa using queued⟩]
    exact .inl rfl
  unfold lock
  rw [if_neg (by simp [queued])]
  cases x.hold with
  | free | abandoned =>
    dsimp only
    split
    · exact .inr ⟨rfl, rfl⟩
    · exact .inl rfl
  | lost => exact .inr ⟨rfl, rfl⟩
  | held | inconsistent =>
    refine .inl ?_
    change (x.enqueue t).queue = x.queue
    rw [enqueue, if_pos queued]

/-- Whoever sleeps on a mutex that has an owner sleeps on. -/
lemma lock_of_queued {u : ThreadId} (queued : t ∈ x.queue) (own : x.hold.owner? = some u) :
    ∃ y, x.lock t = .sleep y := by
  have queued : x.isQueued t := List.contains_iff_mem.2 queued
  unfold lock
  rw [if_neg (by simp [queued])]
  cases eh : x.hold with
  | held | inconsistent => exact ⟨_, rfl⟩
  | free | abandoned | lost =>
    rw [eh] at own
    cases own

lemma queue_makeConsistent : x.makeConsistent.2.queue = x.queue := by
  unfold makeConsistent
  split <;> rfl

lemma queue_destroy : x.destroy.2.queue = x.queue := by
  unfold destroy
  split <;> rfl

end Mutex

namespace Host

variable {h h' : Host} {t : ThreadId} {k : ObjectId} {o : Object} {m : MappingId} {r : Request}

/-- The threads that sleep on the mutex of an object. -/
def queueOn (h : Host) (k : ObjectId) : List ThreadId :=
  ((h.object? k).map fun o => o.mutex.queue).getD []

lemma queueOn_of_object (here : h.object? k = some o) : h.queueOn k = o.mutex.queue := by
  rw [queueOn, here]
  rfl

/-- Whether the mutex of an object was taken down. -/
def IsDown (h : Host) (k : ObjectId) : Prop :=
  ∃ o, h.object? k = some o ∧ o.mutex.life = .destroyed

lemma IsDown.isSetUp (down : h.IsDown k) : h.IsSetUp k := by
  obtain ⟨o, here, down⟩ := down
  exact ⟨o, here, by simp [down]⟩

lemma isDown_iff :
    h.IsDown k ↔ ∃ x, h.ledger.outline? k = some x ∧ x.life .mutex = .destroyed := by
  constructor
  · rintro ⟨o, here, down⟩
    exact ⟨_, outline?_of_object here, down⟩
  · rintro ⟨x, here, down⟩
    rw [ledger_outline?, Option.map_eq_some_iff] at here
    obtain ⟨o, here, rfl⟩ := here
    exact ⟨o, here, down⟩

/-- What a request makes of those who sleep on a mutex that was taken down. -/
lemma queueOn_step (down : h.IsDown k) (spared : ¬h.Renews k r) :
    (h.step t r).host.queueOn k = h.queueOn k ∨
      h.owner? k = none ∧ (h.step t r).host.queueOn k = (h.queueOn k).erase t := by
  obtain ⟨o, here, down⟩ := down
  rw [queueOn_of_object (object_step here t r), queueOn_of_object here, owner?_of_object here]
  by_cases about : h.isAbout k r
  case neg =>
    rw [if_neg about]
    exact .inl rfl
  rw [if_pos about]
  cases r with
  | lock m => exact Mutex.queue_lock down
  | awake m =>
    simp only [Request.remake]
    split
    · exact .inl rfl
    · exact Mutex.queue_lock down
  | unlock m =>
    refine .inl ?_
    change (o.mutex.unlock t).2.queue = _
    rw [Mutex.unlock, down]
  | park m =>
    refine .inl ?_
    change (park t o).2.mutex.queue = _
    rw [park, Mutex.unlock, down]
  | makeConsistent m => exact .inl Mutex.queue_makeConsistent
  | mutexDestroy m => exact .inl Mutex.queue_destroy
  | resize f len => exact absurd (beq_iff_eq.1 about) spared
  | mutexInit m => exact absurd about spared
  | _ => exact .inl rfl

/-- Nobody gives a mutex back that was taken down. -/
lemma gives?_of_down {a : r.Answer} (down : h.IsDown k) (e : h.step t r = .done a h') :
    (Deed.moved t h (.answered r a)).gives? k = none := by
  obtain ⟨o, here, down⟩ := down
  cases r with
  | unlock m =>
    by_cases shows : h.shows m k
    · have refused := step_unlock (t := t) (under?_eq_some_iff.2 ⟨shows, here⟩)
      rw [Mutex.unlock, down, e] at refused
      injection refused with answer
      simp [Deed.gives?, answer, isGranted]
    · simp [Deed.gives?, shows]
  | park m =>
    by_cases shows : h.shows m k
    · have refused := step_park (t := t) (under?_eq_some_iff.2 ⟨shows, here⟩)
      rw [park, Mutex.unlock, down, e] at refused
      injection refused with answer
      simp [Deed.gives?, answer, isGranted]
    · simp [Deed.gives?, shows]
  | _ => rfl

/-- Whoever sleeps on a mutex that has an owner waits for it, or is parked. -/
lemma wait_of_queued {u : ThreadId} (shows : h.shows m k) (queued : t ∈ h.queueOn k)
    (own : h.owner? k = some u) (entry : r = .lock m ∨ r = .awake m) :
    ∃ h', h.step t r = .wait h' := by
  obtain ⟨o, here, own⟩ := Option.bind_eq_some_iff.1 own
  have sees := under?_eq_some_iff.2 ⟨shows, here⟩
  rw [queueOn_of_object here] at queued
  obtain ⟨y, sleeps⟩ := Mutex.lock_of_queued queued own
  obtain rfl | rfl := entry
  · rw [step_lock sees, sleeps]
    exact ⟨_, rfl⟩
  · rw [step_awake sees, sleeps]
    split
    · exact ⟨_, rfl⟩
    · exact ⟨_, rfl⟩

/-- Whoever waits for a mutex that was taken down sleeps on it already, or is parked. -/
lemma queued_of_wait (down : h.IsDown k) (shows : h.shows m k) (entry : r = .lock m ∨ r = .awake m)
    (e : h.step t r = .wait h') : t ∈ h.queueOn k ∨ t ∈ h.parkedOn k := by
  obtain ⟨o, here, down⟩ := down
  have sees := under?_eq_some_iff.2 ⟨shows, here⟩
  rw [queueOn_of_object here, parkedOn_of_object here]
  by_contra neither
  obtain ⟨fresh, apart⟩ := not_or.1 neither
  have refused : o.mutex.lock t = .answer (.error .einval) o.mutex := by
    unfold Mutex.lock
    rw [if_pos ⟨down, by simpa [Mutex.isQueued] using fresh⟩]
  obtain rfl | rfl := entry
  · rw [step_lock sees, refused] at e
    cases e
  · rw [step_awake sees, if_neg (by simpa using apart), refused] at e
    cases e

end Host

namespace Session

variable {b : ObjectId} {s s' s₀ s₁ : Session} {past since : List Deed}
  {σ : ThreadId ⊕ String → Custody} {d : Deed} {t u : ThreadId} {m : MappingId} {k : ObjectId}
  {c : Underway}

lemma IsKeptFrom.isDown_step (kept : s.IsKeptFrom b σ) (st : s.Step d s')
    (down : s.host.IsDown k) : s'.host.IsDown k :=
  Host.isDown_iff.2 ((kept.destroyed_iff_of_step st k .mutex).2 (.inr (Host.isDown_iff.1 down)))

/-- Nobody gives a mutex back that was taken down. -/
lemma Step.gives?_of_down (st : s.Step d s') (down : s.host.IsDown k) : d.gives? k = none := by
  cases st.touches with
  | nothing same silent => exact Deed.gives?_of_silent silent
  | answered ec alive ep eh => exact Host.gives?_of_down down eh
  | waited | died => rfl

/-- What a step makes of those who sleep on a mutex that was taken down. -/
lemma IsKeptFrom.queueOn_step (kept : s.IsKeptFrom b σ) (st : s.Step d s')
    (down : s.host.IsDown k) :
    s'.host.queueOn k = s.host.queueOn k ∨ (s.host.owner? k = none ∨ d = .died d.thread) ∧
      s'.host.queueOn k = (s.host.queueOn k).erase d.thread := by
  cases st.touches with
  | nothing same => exact .inl (by rw [same])
  | @answered t c r a next ec alive ep eh =>
    have spared := kept.custodians.spares_setUp (kept.permits ec alive ep) down.isSetUp
    have queue := Host.queueOn_step (t := t) down spared
    rw [eh] at queue
    exact queue.imp id fun both => ⟨.inl both.1, both.2⟩
  | @waited t r eh =>
    have spared : ¬s.host.Renews k r := by
      cases r with
      | resize | mutexInit => cases eh
      | _ => exact id
    have queue := Host.queueOn_step (t := t) down spared
    rw [eh] at queue
    exact queue.imp id fun both => ⟨.inl both.1, both.2⟩
  | @died t same =>
    obtain ⟨o, here, -⟩ := down
    refine .inr ⟨.inr rfl, ?_⟩
    rw [same, Host.queueOn_of_object here, Host.queueOn_of_object (Host.object?_bury here t)]
    rfl

/-- A call has to wait until it is given the mutex of an object, or is woken before that. -/
structure IsBlocked (s : Session) (k : ObjectId) (t : ThreadId) (c : Underway) (m : MappingId) :
    Prop where
  call : s.calls t = some c
  alive : s.dead t = false
  shows : s.host.shows m k
  waits : ∃ r next h', (r = .lock m ∨ r = .awake m) ∧ c.program = .ask r next ∧
    s.host.step t r = .wait h'

/-- A call that waits goes on to wait after a step in which no call of its thread fails. -/
lemma Step.call_of_wait {r : Request} {next : r.Answer → Program Outcome} {h' : Host}
    (st : s.Step d s') (ec : s.calls t = some c) (alive : s.dead t = false)
    (ep : c.program = .ask r next) (eh : s.host.step t r = .wait h')
    (calm : d.thread = t → d.isCalm) : s'.calls t = some c ∧ s'.dead t = false := by
  have other {t' : ThreadId} (ne : t ≠ t') {x : Option Underway} :
      update s.calls t' x t = some c := by
    rw [update_of_ne ne]
    exact ec
  have begun {t' : ThreadId} (idle : s.IsIdle t') : t ≠ t' := by
    rintro rfl
    cases idle.calls.symm.trans ec
  cases st with
  | openHandle idle | onHandle idle | drop idle | onGuard idle =>
    exact ⟨other (begun idle), alive⟩
  | @move t' c' mv p' h'' ec' alive' st =>
    by_cases et : t = t'
    case neg => exact ⟨other et, alive⟩
    subst et
    cases ec.symm.trans ec'
    rw [ep] at st
    cases st with
    | answer eh' => cases eh.symm.trans eh'
    | strike => cases calm rfl
    | wait =>
      refine ⟨?_, alive⟩
      rw [move_calls, update_self, ← ep]
  | @finish t' c' o ec' alive' ep' =>
    have ne : t ≠ t' := by
      rintro rfl
      cases ec.symm.trans ec'
      cases ep.symm.trans ep'
    rw [conclude_calls, conclude_dead]
    exact ⟨other ne, alive⟩
  | @die t' alive' =>
    have ne : t ≠ t' := by
      rintro rfl
      cases calm rfl
    rw [bury_calls, bury_dead, update_of_ne ne]
    exact ⟨ec, alive⟩

section
variable {h : Host} (run : Run Step (.ofHost h) past s₁) (down : s₁.host.IsDown k)
include run down

lemma isDown_run (run₁ : Run Step s₁ since s) : s.host.IsDown k := by
  induction run₁ with
  | nil => exact down
  | cons run₁ st ih =>
    obtain ⟨σ, kept⟩ := IsKeptFrom.of_run (run.trans run₁)
    exact kept.isDown_step st ih

/-- Nobody comes to sleep or to be parked after the mutex was taken down. -/
lemma asleep_run (le : h.objects.length ≤ k) (run₁ : Run Step s₁ since s) :
    s.host.queueOn k ⊆ s₁.host.queueOn k ∧ s.host.parkedOn k ⊆ s₁.host.parkedOn k := by
  induction run₁ with
  | nil => exact ⟨List.Subset.refl _, List.Subset.refl _⟩
  | @cons since s d s' run₁ st ih =>
    have mon := IsMonitored.of_run (run.trans run₁)
    obtain ⟨σ, kept⟩ := IsKeptFrom.of_run (run.trans run₁)
    have down := isDown_run run down run₁
    have parks : d.parks? k = none := by
      by_contra some
      obtain ⟨t, parks⟩ := Option.ne_none_iff_exists'.1 some
      cases (st.gives?_of_down down).symm.trans (Deed.gives?_of_parks? parks)
    constructor
    · refine List.Subset.trans ?_ ih.1
      obtain same | ⟨-, same⟩ := kept.queueOn_step st down
      · exact same ▸ List.Subset.refl _
      · exact same ▸ List.erase_subset
    · refine List.Subset.trans ?_ ih.2
      rw [kept.parkedOn_step st (mon.deserted k le) fun t parks' => by
        cases parks.symm.trans parks']
      exact fun t mem => (Deed.mem_leaves_inv mem).resolve_right (by simp [parks])

/-- An owner that lives goes on to own a mutex that was taken down, and who sleeps on it and lives
sleeps on. -/
lemma stranded_run (run₁ : Run Step s₁ since s) (own : s₁.host.owner? k = some u)
    (alive : .died u ∉ since) :
    s.host.owner? k = some u ∧
      ∀ t, .died t ∉ since → t ∈ s₁.host.queueOn k → t ∈ s.host.queueOn k := by
  induction run₁ with
  | nil => exact ⟨own, fun t _ => id⟩
  | @cons since s d s' run₁ st ih =>
    obtain ⟨σ, kept⟩ := IsKeptFrom.of_run (run.trans run₁)
    have down := isDown_run run down run₁
    have last : d ≠ .died u := fun e => alive (e ▸ List.mem_cons_self)
    obtain ⟨own, sleep⟩ := ih fun mem => alive (List.mem_cons_of_mem _ mem)
    have hands := kept.hands_step st down.isSetUp
    rw [own] at hands
    have keeps : d.gives? k ≠ some u := by simp [st.gives?_of_down down]
    refine ⟨hands.owns keeps last, fun t alive queued => ?_⟩
    have queued := sleep t (fun mem => alive (List.mem_cons_of_mem _ mem)) queued
    obtain same | ⟨free | dies, same⟩ := kept.queueOn_step st down
    · rw [same]
      exact queued
    · cases free.symm.trans own
    · have ne : t ≠ d.thread := by
        rintro rfl
        exact alive (List.mem_cons.2 (.inl dies.symm))
      rw [same]
      exact (List.mem_erase_of_ne ne).2 queued

/-- A call that sleeps on a mutex that was taken down waits for it as long as its owner lives. -/
lemma blocked_run (run₁ : Run Step s₁ since s) (own : s₁.host.owner? k = some u)
    (alive : .died u ∉ since) (blocked : s₁.IsBlocked k t c m) (queued : t ∈ s₁.host.queueOn k)
    (calm : ∀ e ∈ since, e.thread = t → e.isCalm) (shows : s.host.shows m k) :
    s.IsBlocked k t c m := by
  induction run₁ with
  | nil => exact blocked
  | @cons since s d s' run₁ st ih =>
    have old : m < s.host.mappings.length :=
      Nat.lt_of_lt_of_le (Host.lt_of_shows blocked.shows) (numbers_run run₁).mappings.more
    have before := ih (fun mem => alive (List.mem_cons_of_mem _ mem))
      (fun e mem => calm e (List.mem_cons_of_mem _ mem)) (st.touches.numbers.shown old shows)
    obtain ⟨r, next, h', entry, ep, eh⟩ := before.waits
    obtain ⟨call, lives⟩ :=
      st.call_of_wait before.call before.alive ep eh (calm d List.mem_cons_self)
    have spared : .died t ∉ d :: since := by
      intro mem
      cases calm _ mem rfl
    obtain ⟨own', sleep⟩ := stranded_run run down (run₁.cons st) own alive
    obtain ⟨h'', eh'⟩ := Host.wait_of_queued shows (sleep t spared queued) own' entry
    exact ⟨call, lives, shows, r, next, h'', entry, ep, eh'⟩

end

/-- A condition is taken down only when nobody is parked on it. -/
lemma Step.parkedOn_of_takesDown (st : s.Step d s') (down : d.TakesDown .condition k) :
    s'.host.parkedOn k = [] := by
  cases d with
  | moved t' h' mv =>
    cases mv with
    | answered r a =>
      obtain ⟨rfl, eh, -⟩ := st.answered_inv
      cases r with
      | condDestroy m =>
        obtain ⟨rfl, x, ex, ek⟩ := down
        have shows : s.host.shows m k := (Option.any_eq_true ..).2 ⟨x, ex, beq_iff_eq.2 ek⟩
        exact Host.parkedOn_condDestroy shows eh
      | _ => exact down.elim
    | _ => exact down.elim
  | _ => exact down.elim

/-- Who is parked after the condition was taken down has parked since. -/
lemma parks_of_takesDown {h : Host} {later earlier : List Deed}
    (run : Run Step (.ofHost h) (later ++ d :: earlier) s) (le : h.objects.length ≤ k)
    (down : d.TakesDown .condition k) (parked : t ∈ s.host.parkedOn k) :
    ∃ e ∈ later, e.parks? k = some t := by
  obtain ⟨s₀, s₁, before, st, -⟩ := run.split
  have nobody := st.parkedOn_of_takesDown down
  rw [(IsMonitored.of_run (before.cons st)).parked k le] at nobody
  rw [(IsMonitored.of_run run).parked k le] at parked
  refine (mem_parkers_append parked).resolve_left ?_
  rw [nobody]
  exact List.not_mem_nil

/-- A mutex that is taken down strands those who sleep on it. From then on nobody new has to wait
for it. But nobody gives it back any more: who has it has it as long as it lives, whatever it calls,
and a call that sleeps on it meanwhile never comes out of it. -/
theorem teardown_strands_sleepers {h : Host} (run : Run Step (.ofHost h) past s₀)
    (le : h.objects.length ≤ k) (st : s₀.Step d s₁) (down : d.TakesDown .mutex k)
    (run₁ : Run Step s₁ since s) :
    (∀ t c m, s.IsBlocked k t c m → t ∈ s₁.host.queueOn k ∨ t ∈ s₁.host.parkedOn k) ∧
    (∀ later e earlier, past = later ++ e :: earlier → e.TakesDown .condition k →
      ∀ t ∈ s₁.host.parkedOn k, ∃ p ∈ later, p.parks? k = some t) ∧
    ∀ u later s', s.host.owner? k = some u → Run Step s later s' → .died u ∉ later →
      s'.host.owner? k = some u ∧
      ∀ t c m, s.IsBlocked k t c m → t ∈ s.host.queueOn k →
        (∀ e ∈ later, e.thread = t → e.isCalm) → s'.host.shows m k → s'.IsBlocked k t c m := by
  obtain ⟨σ, kept⟩ := IsKeptFrom.of_run run
  have run := run.cons st
  have down₁ : s₁.host.IsDown k :=
    Host.isDown_iff.2 ((kept.destroyed_iff_of_step st k .mutex).2 (.inl down))
  have down := isDown_run run down₁ run₁
  refine ⟨?_, ?_, ?_⟩
  · rintro t c m ⟨-, -, shows, r, next, h', entry, -, eh⟩
    obtain ⟨queue, parked⟩ := asleep_run run down₁ le run₁
    exact (Host.queued_of_wait down shows entry eh).imp (queue ·) (parked ·)
  · rintro later e earlier rfl takes t parked
    rw [← List.cons_append] at run
    obtain ⟨p, mem, parks⟩ := parks_of_takesDown run le takes parked
    obtain rfl | mem := List.mem_cons.1 mem
    · obtain ⟨h', m, rfl, -⟩ := Deed.parks?_inv parks
      exact down.elim
    · exact ⟨p, mem, parks⟩
  · intro u later s' own run' alive
    have run := run.trans run₁
    refine ⟨(stranded_run run down run' own alive).1, ?_⟩
    exact fun t c m blocked queued calm shows =>
      blocked_run run down run' own alive blocked queued calm shows

/-- The facade of a thread that has attached to the segment of the first creator. -/
def guest : Handle :=
  .facade (.ofSegment 0 .standard
    { Segment.numbered 1 with role := .attacher, mapping := some 2, ownsSync := false })

/-- It waits. -/
def parked : List Deed × Session :=
  let c := Underway.ofUse "b" .wait guest (giving guest.wait fun _ => .ok)
  after joined.1 1 c.act (joined.2.begin 1 c) 3

/-- The creator has locked the other facade. -/
def locked : List Deed × Session :=
  let c := Underway.ofUse "b" .lock guest (giving guest.lock .status)
  after parked.1 0 c.act (parked.2.begin 0 c) 3

/-- It drops its own and has woken the waiter, who sleeps on the mutex. -/
def tearing : List Deed × Session :=
  let c := Underway.ofDrop "a" (.facade (.ofSegment 8 .standard (.numbered 0)))
  play [(0, none), (1, none), (0, none)] (.began 0 c.act :: locked.1)
    ({ locked.2 with handles := update locked.2.handles "a" none }.begin 0 c)

/-- It has taken the mutex down. -/
def torn : Session :=
  (play [(0, none)] [] tearing.2).2

/-- Its facade is gone. -/
def quit : List Deed × Session :=
  play (List.replicate 5 (0, none)) [] torn

/-- It has unlocked the other facade. -/
def unlocking : List Deed × Session :=
  let c := Underway.ofUse "b" .unlock guest (giving guest.unlock fun _ => .ok)
  after quit.1 0 c.act (quit.2.begin 0 c) 3

lemma run_tearing : Run Step .empty tearing.1 tearing.2 := by
  have waits : joined.2.Step (.began 1 (.onHandle "b" .wait)) _ :=
    .onHandle ⟨rfl, rfl⟩ rfl nofun nofun nofun rfl
  have locks : parked.2.Step (.began 0 (.onHandle "b" .lock)) _ :=
    .onHandle ⟨rfl, rfl⟩ rfl nofun nofun nofun rfl
  have unused : ¬locked.2.IsInUse "a" := by
    rintro (⟨t, g, x, eg, -⟩ | ⟨t, c, ec, uses⟩)
    · cases eg
    · match t with
      | 0 | t + 2 => cases ec
      | 1 =>
        cases ec
        exact absurd uses (by decide)
  have drops := Step.drop (s := locked.2) (t := 0) (h := "a") ⟨rfl, rfl⟩ rfl unused rfl
  have first := run_after (run_after run_joined waits 3) locks 3
  exact run_play (.cons first drops) _

lemma run_unlocking : Run Step torn unlocking.1 unlocking.2 := by
  have unlocks : quit.2.Step (.began 0 (.onHandle "b" .unlock)) _ :=
    .onHandle ⟨rfl, rfl⟩ rfl nofun nofun nofun rfl
  exact run_after (run_play .nil _) unlocks 3

/-- A creator that has the mutex of its segment drops its facade and then unlocks another one. The
waiter that it has woken by that is still blocked. -/
theorem a_woken_waiter_is_stranded :
    ∃ d, Run Step .empty tearing.1 tearing.2 ∧ Host.empty.objects.length ≤ 0 ∧
      tearing.2.Step d torn ∧ d.TakesDown .mutex 0 ∧ Run Step torn unlocking.1 unlocking.2 ∧
      (∃ o, unlocking.1.head? = some (.returned 0 (.onHandle "b" .unlock) o)) ∧
      ∃ c, unlocking.2.IsBlocked 0 1 c 2 := by
  have turn : tearing.2.turn 0 none = some (_, torn) := rfl
  have st := step_turn turn
  have down : Deed.TakesDown .mutex 0
      (.moved 0 tearing.2.host (.answered (.mutexDestroy 0) (.ok ()))) := ⟨rfl, _, rfl, rfl⟩
  have calm : ∀ e ∈ unlocking.1, e.isCalm := List.all_eq_true.1 rfl
  obtain ⟨-, -, strands⟩ :=
    teardown_strands_sleepers run_tearing (Nat.le_refl 0) st down .nil
  obtain ⟨-, sleeps⟩ := strands 0 unlocking.1 unlocking.2 rfl run_unlocking fun mem => by
    cases calm _ mem
  have blocked : torn.IsBlocked 0 1 _ 2 := ⟨rfl, rfl, rfl, _, _, _, .inr rfl, rfl, rfl⟩
  exact ⟨_, run_tearing, Nat.le_refl 0, st, down, run_unlocking, ⟨_, rfl⟩, _,
    sleeps 1 _ 2 blocked (by decide) (fun e mem _ => calm e mem) rfl⟩

end Session
end SharedSegment
