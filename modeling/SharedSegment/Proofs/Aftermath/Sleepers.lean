import SharedSegment.Proofs.Aftermath.Destruction
import SharedSegment.Proofs.Stakes.Discarding
import SharedSegment.Proofs.Waiting.Stranding

/-!
# Who sleeps

A thread sleeps on a mutex only in a call that waits for it, through the mapping of the handle that
the call was made on, and that mapping stays as long as the call is under way
(`Session.HasProperSleepers.of_run`). So a thread that begins a call sleeps nowhere.
-/

namespace SharedSegment
open Function Scenario Program

namespace Mutex

variable {x y : Mutex} {t : ThreadId}

/-- Whoever is answered does not sleep any more. -/
lemma queue_of_answer {r : Except Errno Unit} (e : x.lock t = .answer r y) :
    y.queue = x.queue.erase t := by
  unfold lock at e
  split at e
  case isTrue refused =>
    cases e
    have awake : t ∉ x.queue := by simpa [isQueued] using refused.2
    rw [List.erase_of_not_mem awake]
  case isFalse =>
    split at e
    case h_1 | h_2 =>
      split at e
      · cases e
        rfl
      · cases e
    case h_3 =>
      cases e
      rfl
    case h_4 | h_5 => cases e

lemma queue_unlock : (x.unlock t).2.queue = x.queue := by
  unfold unlock
  split
  case h_1 | h_2 => rfl
  case h_3 =>
    split
    · rfl
    · split <;> rfl

/-- Whoever has to wait sleeps behind those who slept before. -/
lemma queue_of_sleep (e : x.lock t = .sleep y) :
    t ∈ x.queue ∧ y.queue = x.queue ∨ t ∉ x.queue ∧ y.queue = x.queue ++ [t] := by
  have passed (late : ¬x.isTurn t) : t ∈ x.queue := by
    simp only [isTurn, isQueued, Bool.or_eq_true, not_or] at late
    simpa using late.1
  have entered : t ∈ x.queue ∧ (x.enqueue t).queue = x.queue ∨
      t ∉ x.queue ∧ (x.enqueue t).queue = x.queue ++ [t] := by
    unfold enqueue
    split
    case isTrue queued => exact .inl ⟨List.contains_iff_mem.1 queued, rfl⟩
    case isFalse awake => exact .inr ⟨by simpa [isQueued] using awake, rfl⟩
  unfold lock at e
  split at e
  case isTrue => cases e
  case isFalse =>
    split at e
    case h_1 | h_2 =>
      split at e
      · cases e
      · next late =>
        cases e
        exact .inl ⟨passed late, rfl⟩
    case h_3 => cases e
    case h_4 | h_5 =>
      cases e
      exact entered

end Mutex

/-- Whether a request is one to take the mutex of an object. -/
def Host.Enters (h : Host) (k : ObjectId) : Request → Prop
  | .lock m | .awake m => h.shows m k
  | _ => False

namespace Host

variable {h h' : Host} {t : ThreadId} {k : ObjectId} {o : Object} {r : Request}

lemma queueOn_of_absent (absent : h.object? k = none) : h.queueOn k = [] := by
  rw [queueOn, absent]
  rfl

lemma Enters.isAbout (enters : h.Enters k r) : h.isAbout k r := by
  cases r with
  | lock m | awake m => exact enters
  | _ => cases enters

lemma Enters.of_answer {a : r.Answer} (here : h.object? k = some o) (enters : h.Enters k r)
    (e : h.step t r = .done a h') :
    ∃ res x, o.mutex.lock t = .answer res x ∧ h' = h.setObject k (o.withMutex x) := by
  cases r with
  | lock m =>
    have stepped := step_lock (t := t) (under?_eq_some_iff.2 ⟨enters, here⟩)
    cases ex : o.mutex.lock t with
    | answer res x =>
      rw [ex, e] at stepped
      exact ⟨res, x, rfl, by injection stepped⟩
    | sleep x =>
      rw [ex, e] at stepped
      cases stepped
  | awake m =>
    have stepped := step_awake (t := t) (under?_eq_some_iff.2 ⟨enters, here⟩)
    split at stepped
    · cases e.symm.trans stepped
    · cases ex : o.mutex.lock t with
      | answer res x =>
        rw [ex, e] at stepped
        exact ⟨res, x, rfl, by injection stepped⟩
      | sleep x =>
        rw [ex, e] at stepped
        cases stepped
  | _ => cases enters

lemma Enters.of_wait (here : h.object? k = some o) (enters : h.Enters k r)
    (e : h.step t r = .wait h') :
    h' = h ∨ ∃ x, o.mutex.lock t = .sleep x ∧ h' = h.setObject k (o.withMutex x) := by
  cases r with
  | lock m =>
    have stepped := step_lock (t := t) (under?_eq_some_iff.2 ⟨enters, here⟩)
    cases ex : o.mutex.lock t with
    | answer res x =>
      rw [ex, e] at stepped
      cases stepped
    | sleep x =>
      rw [ex, e] at stepped
      exact .inr ⟨x, rfl, by injection stepped⟩
  | awake m =>
    have stepped := step_awake (t := t) (under?_eq_some_iff.2 ⟨enters, here⟩)
    split at stepped
    · rw [e] at stepped
      exact .inl (by injection stepped)
    · cases ex : o.mutex.lock t with
      | answer res x =>
        rw [ex, e] at stepped
        cases stepped
      | sleep x =>
        rw [ex, e] at stepped
        exact .inr ⟨x, rfl, by injection stepped⟩
  | _ => cases enters

/-- Whoever is answered by a mutex does not sleep on it any more. -/
lemma queueOn_of_answer {a : r.Answer} (here : h.object? k = some o) (enters : h.Enters k r)
    (e : h.step t r = .done a h') : h'.queueOn k = (h.queueOn k).erase t := by
  obtain ⟨res, x, answered, rfl⟩ := enters.of_answer here e
  rw [queueOn_of_object (object?_setObject_self here), queueOn_of_object here]
  exact Mutex.queue_of_answer answered

/-- Whoever has to wait sleeps on no other mutex, and only if it has asked for one. -/
lemma queueOn_of_wait (here : h.object? k = some o) (e : h.step t r = .wait h') :
    h'.queueOn k = h.queueOn k ∨
      h.Enters k r ∧ t ∉ h.queueOn k ∧ h'.queueOn k = h.queueOn k ++ [t] := by
  by_cases enters : h.Enters k r
  · obtain rfl | ⟨x, slept, rfl⟩ := enters.of_wait here e
    · exact .inl rfl
    · rw [queueOn_of_object (object?_setObject_self here), queueOn_of_object here]
      exact (Mutex.queue_of_sleep slept).imp And.right fun both => ⟨enters, both⟩
  · refine .inl ?_
    have after := object_step here t r
    rw [e] at after
    rw [queueOn_of_object (h := h') after, queueOn_of_object here]
    split
    case isFalse => rfl
    case isTrue about =>
      cases r with
      | lock | awake => exact absurd about enters
      | condDestroy => rfl
      | hold => cases about
      | _ => cases e

lemma queueOn_bury (h : Host) (t : ThreadId) (k : ObjectId) :
    (h.bury t).queueOn k = (h.queueOn k).erase t := by
  cases here : h.object? k with
  | none =>
    have gone : (h.bury t).object? k = none := by
      rw [object?, List.getElem?_eq_none_iff] at here ⊢
      simpa [bury] using here
    rw [queueOn_of_absent here, queueOn_of_absent gone]
    rfl
  | some o =>
    rw [queueOn_of_object here, queueOn_of_object (object?_bury here t)]
    rfl

/-- Nobody falls asleep on a mutex without asking for it. -/
lemma queueOn_sublist (here : h.object? k = some o) (other : ¬h.Enters k r) :
    ((h.step t r).host.queueOn k).Sublist (h.queueOn k) := by
  rw [queueOn_of_object (object_step here t r), queueOn_of_object here]
  by_cases about : h.isAbout k r
  case neg =>
    exact (if_neg about).symm ▸ List.Sublist.refl _
  rw [if_pos about]
  have same {x : Mutex} (e : x.queue = o.mutex.queue) :
      (o.withMutex x).mutex.queue.Sublist o.mutex.queue := by
    exact (Object.withMutex_mutex ..).symm ▸ e ▸ List.Sublist.refl _
  cases r with
  | lock m | awake m => exact absurd about other
  | resize f len =>
    change (if min o.length len < Layout.mutexEnd then Mutex.blank else o.mutex).queue.Sublist _
    split
    · exact List.nil_sublist _
    · exact List.Sublist.refl _
  | mutexInit m => exact List.nil_sublist _
  | unlock m => exact same Mutex.queue_unlock
  | park m =>
    change (park t o).2.mutex.queue.Sublist _
    have unlocked : (o.mutex.unlock t).2.queue = o.mutex.queue := Mutex.queue_unlock
    unfold park
    split
    case h_1 x given =>
      rw [given] at unlocked
      exact same unlocked
    case h_2 => exact List.Sublist.refl _
  | makeConsistent m => exact same Mutex.queue_makeConsistent
  | mutexDestroy m => exact same Mutex.queue_destroy
  | _ => exact List.Sublist.refl _

end Host

/-- A call was made on a handle that is there. -/
inductive Underway.IsOn (c : Underway) (s : Session) (y : String) (x : Handle) : Prop where
  | intro :
    c.uses = some y →
    c.subject = some x →
    s.handles y = some x →
    IsOn c s y x

namespace Session

/-- What a call was made on is there as long as it is under way, unless it is dropped, and nobody
else uses what a call destroys. -/
structure HasProperUses (s : Session) : Prop where
  there : ∀ t c, s.calls t = some c → c.act.opensHandle = false →
    (∀ y, c.act ≠ .onHandle y .drop) → ∃ y x, c.IsOn s y x
  destroys : ∀ t c y, s.calls t = some c → c.act = .onHandle y .destroy →
    c.uses = some y ∧ ∃ g, c.subject = some (.segment g)
  alone : ∀ t t' c c' y, s.calls t = some c → c.act = .onHandle y .destroy →
    s.calls t' = some c' → c'.uses = some y → t' = t

namespace HasProperUses

variable {b : ObjectId} {s s' : Session} {d : Deed} {t : ThreadId} {c : Underway}
  {σ : ThreadId ⊕ String → Custody}

/-- A facade is not destroyed. -/
lemma not_isDestroying {y : String} {f : Facade} (proper : s.HasProperUses)
    (ef : s.handles y = some (.facade f)) : ¬s.IsDestroying y := by
  rintro ⟨t, c, ec, act, uses⟩
  obtain ⟨y', x, uses', sub, ex⟩ := proper.there t c ec (by rw [act]; rfl) (by rw [act]; nofun)
  obtain ⟨-, g, sub'⟩ := proper.destroys t c y ec act
  cases uses.symm.trans uses'
  cases sub.symm.trans sub'
  cases ef.symm.trans ex

/-- A call begins that destroys only what nobody uses, and uses only what nobody destroys. -/
lemma begin {handles : String → Option Handle} (proper : s.HasProperUses)
    (stays : ∀ y, s.IsInUse y → handles y = s.handles y)
    (there : c.act.opensHandle = false → (∀ y, c.act ≠ .onHandle y .drop) →
      ∃ y x, c.IsOn { s with handles } y x)
    (destroys : ∀ y, c.act = .onHandle y .destroy →
      (c.uses = some y ∧ ∃ g, c.subject = some (.segment g)) ∧ ¬s.IsInUse y)
    (spared : ∀ y, c.uses = some y → ¬s.IsDestroying y) :
    ({ s with handles }.begin t c).HasProperUses := by
  refine ⟨?_, ?_, ?_⟩
  · intro t' c' ec opens nodrop
    obtain ⟨-, rfl⟩ | ⟨-, ec⟩ := begin_calls_inv ec
    · obtain ⟨y, x, uses, sub, ex⟩ := there opens nodrop
      exact ⟨y, x, uses, sub, ex⟩
    · obtain ⟨y, x, uses, sub, ex⟩ := proper.there t' c' ec opens nodrop
      exact ⟨y, x, uses, sub, (stays y (.inr ⟨t', c', ec, uses⟩)).trans ex⟩
  · intro t' c' y ec act
    obtain ⟨-, rfl⟩ | ⟨-, ec⟩ := begin_calls_inv ec
    · exact (destroys y act).1
    · exact proper.destroys t' c' y ec act
  · intro t₁ t₂ c₁ c₂ y ec₁ act ec₂ uses
    obtain ⟨rfl, rfl⟩ | ⟨-, old₁⟩ := begin_calls_inv ec₁ <;>
      obtain ⟨rfl, rfl⟩ | ⟨-, old₂⟩ := begin_calls_inv ec₂
    · rfl
    · exact absurd (.inr ⟨t₂, c₂, old₂, uses⟩) (destroys y act).2
    · exact absurd ⟨t₁, c₁, old₁, act, (proper.destroys t₁ c₁ y old₁ act).1⟩ (spared y uses)
    · exact proper.alone t₁ t₂ c₁ c₂ y old₁ act old₂ uses

/-- Calls are what they were before, or fewer, and what they use stays. -/
lemma of_calls (proper : s.HasProperUses) (old : ∀ t c', s'.calls t = some c' →
    ∃ c, s.calls t = some c ∧ c.act = c'.act ∧ c.uses = c'.uses ∧ c.subject = c'.subject)
    (stays : ∀ t c' y, s'.calls t = some c' → c'.uses = some y → c'.act.opensHandle = false →
      s'.handles y = s.handles y) : s'.HasProperUses := by
  refine ⟨?_, ?_, ?_⟩
  · intro t c' ec' opens nodrop
    obtain ⟨c, ec, act, same, same'⟩ := old t c' ec'
    obtain ⟨y, x, uses, sub, ex⟩ :=
      proper.there t c ec (by rwa [act]) (fun y => by rw [act]; exact nodrop y)
    have uses' : c'.uses = some y := same.symm.trans uses
    exact ⟨y, x, uses', same'.symm.trans sub, (stays t c' y ec' uses' opens).trans ex⟩
  · intro t c' y ec' act'
    obtain ⟨c, ec, act, uses, sub⟩ := old t c' ec'
    exact uses ▸ sub ▸ proper.destroys t c y ec (act.trans act')
  · intro t₁ t₂ c₁' c₂' y ec₁' act' ec₂' uses'
    obtain ⟨c₁, ec₁, act, -⟩ := old t₁ c₁' ec₁'
    obtain ⟨c₂, ec₂, -, uses, -⟩ := old t₂ c₂' ec₂'
    exact proper.alone t₁ t₂ c₁ c₂ y ec₁ (act.trans act') ec₂ (uses.trans uses')

theorem step (proper : s.HasProperUses) (kept : s.IsKeptFrom b σ) (lent : s.IsLent)
    (st : s.ExclusiveStep d s') : s'.HasProperUses := by
  have idle {y : String} (unused : ¬s.IsInUse y) : ¬s.IsDestroying y := by
    rintro ⟨t, c, ec, -, uses⟩
    exact unused (.inr ⟨t, c, ec, uses⟩)
  obtain ⟨st, exclusive⟩ := st
  cases st with
  | openHandle _ _ unused =>
    refine proper.begin (fun _ _ => rfl) nofun nofun ?_
    rintro _ ⟨⟩
    exact idle unused
  | @onHandle t h op x p _ ex excl taken nodrop ep =>
    refine proper.begin (fun _ _ => rfl) (fun _ _ => ⟨h, x, rfl, rfl, ex⟩) ?_ ?_
    · rintro _ ⟨⟩
      cases x with
      | facade => cases ep
      | segment g => exact ⟨⟨rfl, g, rfl⟩, excl rfl⟩
    · rintro _ ⟨⟩
      exact exclusive t h op rfl
  | @drop t h x p _ ex unused =>
    refine proper.begin ?_ (fun _ nodrop => absurd rfl (nodrop h)) nofun nofun
    intro y used
    refine update_of_ne ?_ _ _
    rintro rfl
    exact unused used
  | @onGuard t g x f op _ eg ef =>
    refine proper.begin (fun _ _ => rfl) (fun _ _ => ⟨_, _, rfl, rfl, ef⟩) nofun ?_
    rintro _ ⟨⟩
    exact proper.not_isDestroying ef
  | @move t c m p' h' ec =>
    refine proper.of_calls ?_ fun _ _ _ _ _ _ => rfl
    intro t' c' ec'
    obtain ⟨rfl, rfl⟩ | ⟨-, ec'⟩ := move_calls_inv ec'
    · exact ⟨c, ec, rfl, rfl, rfl⟩
    · exact ⟨c', ec', rfl, rfl, rfl⟩
  | @finish t c o ec alive ep =>
    have old t' c' (ec' : (s.conclude t o).calls t' = some c') := conclude_calls_inv ec'
    refine proper.of_calls (fun t' c' ec' => ⟨c', (old t' c' ec').2, rfl, rfl, rfl⟩) ?_
    intro t' c' y ec' uses opens
    obtain ⟨ne, ec'⟩ := old t' c' ec'
    have yields := kept.calls t c ec alive
    rw [ep] at yields
    cases yields.returns with
    | spares spares => rw [conclude_handles spares]
    | @opens _ _ _ _ h x act ee =>
      obtain ⟨used, free⟩ := lent.opening_inv ec act ep ee
      rw [conclude_setHandle ee]
      refine update_of_ne ?_ _ _
      rintro rfl
      exact ne (lent.sole t' t c' c y free ec' uses ec used)
    | @destroys h g act ee =>
      rw [conclude_setHandle ee]
      refine update_of_ne ?_ _ _
      rintro rfl
      exact ne (proper.alone t t' c c' y ec act ec' uses)
  | die => exact proper.of_calls (fun t c ec => ⟨c, ec, rfl, rfl, rfl⟩) fun _ _ _ _ _ _ => rfl

theorem of_run {h : Host} {past : List Deed} (run : Run ExclusiveStep (.ofHost h) past s) :
    s.HasProperUses := by
  induction run with
  | nil =>
    refine ⟨?_, ?_, ?_⟩
    · intro t c ec
      cases ec
    · intro t c y ec
      cases ec
    · intro t t' c c' y ec
      cases ec
  | cons run st ih =>
    have run := run.mono fun _ _ _ st => st.1
    obtain ⟨σ, kept⟩ := IsKeptFrom.of_run run
    exact ih.step kept (IsLent.of_run run) st

/-- The handle that a call was made on shows its object as long as the call is under way, and the
mutex there was set up. -/
lemma sees {x : Handle} {g : Segment} {m : MappingId} (proper : s.HasProperUses)
    (kept : s.IsKeptFrom b σ) (ec : s.calls t = some c) (uses : c.act.isStaking = false)
    (sub : c.subject = some x) (eg : x.segment? = some g) (em : g.mapping = some m) :
    ∃ k, s.host.shows m k ∧ (b ≤ k → s.host.IsSetUp k) := by
  have nodrop y : c.act ≠ .onHandle y .drop := by
    intro act
    rw [act] at uses
    cases uses
  obtain ⟨y, x', used, sub', ex⟩ := proper.there t c ec (Act.not_opensHandle uses) nodrop
  cases sub.symm.trans sub'
  obtain supports | ⟨⟨t', c', ec', act, -⟩, -⟩ := kept.handles y x ex
  · obtain ⟨covers, whole⟩ := supports g eg
    obtain ⟨k, o, sees, -, set⟩ := kept.under_of_covers covers whole em
    obtain ⟨shows, here⟩ := Host.under?_eq_some_iff.1 sees
    exact ⟨k, shows, fun le => ⟨o, here, (set le).1⟩⟩
  · obtain rfl := proper.alone t' t c' c y ec' act ec used
    cases ec.symm.trans ec'
    rw [act] at uses
    cases uses

lemma shows {x : Handle} {g : Segment} {m : MappingId} (proper : s.HasProperUses)
    (kept : s.IsKeptFrom b σ) (ec : s.calls t = some c) (uses : c.act.isStaking = false)
    (sub : c.subject = some x) (eg : x.segment? = some g) (em : g.mapping = some m) :
    ∃ k, s.host.shows m k := by
  obtain ⟨k, shows, -⟩ := proper.sees kept ec uses sub eg em
  exact ⟨k, shows⟩

end HasProperUses

/-- A step by which nobody begins a call on a handle that is being destroyed, and nothing that a
thread asks for fails while the thread sleeps: whether it fails is settled when it is asked for. -/
def PromptStep (s : Session) (d : Deed) (s' : Session) : Prop :=
  s.ExclusiveStep d s' ∧ ∀ t h r e, d = .moved t h (.struck r e) → ∀ k, t ∉ h.queueOn k

end Session

/-- Whether a request is one to take a mutex. -/
def Request.isEntry : Request → Bool
  | .lock _ | .awake _ => true
  | _ => false

/-- Whoever opens a handle takes no mutex. -/
lemma asks_openCall_entry {toggle : Option String} {h raw : String} {size : UInt32} {via : Via} :
    (openCall toggle h raw size via).Asks fun r => r.isEntry = false := by
  refine (Ensures.openCall (fun _ _ => True) toggle (fun _ _ here => here) ?_ ?_ trivial).mono
    fun _ _ _ => trivial
  · intro _ n cfg _ _
    refine (Segment.asks_create n cfg size).mono ?_
    intro r makes
    cases r with
    | lock | awake => cases makes
    | _ => rfl
  · intro _ n cfg _
    refine (Segment.asks_attach n cfg).mono ?_
    intro r finding
    cases r with
    | lock | awake => cases finding
    | _ => rfl

namespace Session

/-- Nobody sleeps on what a step has made. -/
lemma IsKeptFrom.queueOn_of_new {b : ObjectId} {s s' : Session} {d : Deed} {k : ObjectId}
    {σ : ThreadId ⊕ String → Custody} (kept : s.IsKeptFrom b σ) (st : s.Step d s')
    (new : s.host.object? k = none) : s'.host.queueOn k = [] := by
  obtain gone | ⟨mode, blank⟩ := kept.absent_step st new
  · exact Host.queueOn_of_absent gone
  · exact Host.queueOn_of_object blank

/-- From some number on, whoever sleeps on the mutex of an object is alive and in a call that waits
for it, and sleeps there once. -/
structure HasProperSleepers (b : ObjectId) (s : Session) : Prop where
  openings : ∀ t c, s.calls t = some c → c.act.opensHandle →
    c.program.Asks fun r => r.isEntry = false
  once : ∀ k, b ≤ k → (s.host.queueOn k).Nodup
  asleep : ∀ k, b ≤ k → ∀ t ∈ s.host.queueOn k, s.dead t = false ∧
    ∃ c r next, s.calls t = some c ∧ c.program = .ask r next ∧ s.host.Enters k r

namespace HasProperSleepers

variable {b : ObjectId} {s s' : Session} {d : Deed} {t : ThreadId} {c : Underway} {k : ObjectId}
  {σ : ThreadId ⊕ String → Custody}

/-- Whoever begins a call sleeps nowhere. -/
lemma awake (sleepers : s.HasProperSleepers b) (free : s.calls t = none) (le : b ≤ k) :
    t ∉ s.host.queueOn k := by
  intro queued
  obtain ⟨-, c, r, next, ec, -⟩ := sleepers.asleep k le t queued
  cases free.symm.trans ec

/-- A call that waits for the mutex of an object goes on to do so as long as it is under way. -/
lemma enters {r : Request} {next : r.Answer → Program Outcome} (sleepers : s.HasProperSleepers b)
    (confined : s.IsConfined) (numbers : s.host.Numbers s'.host) (proper : s'.HasProperUses)
    (kept : s'.IsKeptFrom b σ) (ec : s.calls t = some c) (ep : c.program = .ask r next)
    (enters : s.host.Enters k r) (ec' : s'.calls t = some c) : s'.host.Enters k r := by
  have entry : r.isEntry = true := by
    cases r with
    | lock | awake => rfl
    | _ => cases enters
  have other : c.act.isStaking = false := by
    cases staking : c.act.isStaking with
    | false => rfl
    | true =>
      cases opens : c.act.opensHandle with
      | true =>
        have asks := sleepers.openings t c ec opens
        rw [ep] at asks
        cases entry.symm.trans asks.1
      | false =>
        obtain ⟨x, g, -, -, tears⟩ :=
          Underway.tears_of_mayAsk (confined.asks ec ep) staking opens
        cases r with
        | lock | awake => cases tears
        | _ => cases entry
  obtain ⟨x, g, sub, eg, uses⟩ := c.uses_of_mayAsk (confined.asks ec ep) other
  have goesOn {m : MappingId} (em : g.mapping = some m) (shows : s.host.shows m k) :
      s'.host.shows m k := by
    obtain ⟨k', shows'⟩ := proper.shows kept ec' other sub eg em
    obtain rfl := Host.shows_unique shows (numbers.shown (Host.lt_of_shows shows) shows')
    exact shows'
  cases r with
  | lock m | awake m => exact goesOn uses.2 enters
  | _ => cases enters

/-- A step goes on with the same sleepers, or fewer, if the calls of those go on. -/
lemma of_sublist (sleepers : s.HasProperSleepers b) (confined : s.IsConfined)
    (numbers : s.host.Numbers s'.host) (proper : s'.HasProperUses) (kept : s'.IsKeptFrom b σ)
    (openings : ∀ t c, s'.calls t = some c → c.act.opensHandle →
      c.program.Asks fun r => r.isEntry = false)
    (fewer : ∀ k, b ≤ k → (s'.host.queueOn k).Sublist (s.host.queueOn k))
    (goOn : ∀ k, b ≤ k → ∀ t c r next, t ∈ s'.host.queueOn k → s.dead t = false →
      s.calls t = some c → c.program = .ask r next → s.host.Enters k r →
        s'.dead t = false ∧ s'.calls t = some c) : s'.HasProperSleepers b := by
  refine ⟨openings, fun k le => (sleepers.once k le).sublist (fewer k le), ?_⟩
  intro k le t queued
  obtain ⟨alive, c, r, next, ec, ep, enters⟩ :=
    sleepers.asleep k le t ((fewer k le).subset queued)
  obtain ⟨alive', ec'⟩ := goOn k le t c r next queued alive ec ep enters
  exact ⟨alive', c, r, next, ec', ep,
    sleepers.enters confined numbers proper kept ec ep enters ec'⟩

lemma openings_move {m : Move} {p' : Program Outcome} {h' : Host}
    (sleepers : s.HasProperSleepers b) (ec : s.calls t = some c)
    (st : c.program.Step t s.host m p' h') (t' : ThreadId) (c' : Underway)
    (ec' : (s.move t c p' h').calls t' = some c') (opens : c'.act.opensHandle) :
    c'.program.Asks fun r => r.isEntry = false := by
  obtain ⟨-, rfl⟩ | ⟨-, ec'⟩ := move_calls_inv ec'
  · exact ensures_asking_step (sleepers.openings t c ec opens) st
  · exact sleepers.openings t' c' ec' opens

/-- A thread goes on that sleeps nowhere then, and sends nobody to sleep. -/
lemma goesOn {m : Move} {p' : Program Outcome} {h' : Host} (sleepers : s.HasProperSleepers b)
    (confined : s.IsConfined) (proper : (s.move t c p' h').HasProperUses)
    (kept : s.IsKeptFrom b σ) (ec : s.calls t = some c) (alive : s.dead t = false)
    (st : c.program.Step t s.host m p' h')
    (fewer : ∀ k, b ≤ k → (h'.queueOn k).Sublist (s.host.queueOn k))
    (awake : ∀ k, b ≤ k → t ∉ h'.queueOn k) : (s.move t c p' h').HasProperSleepers b := by
  have whole := Step.move ec alive st
  obtain ⟨σ', kept'⟩ := kept.step whole
  refine sleepers.of_sublist confined whole.touches.numbers proper kept'
    (sleepers.openings_move ec st) fewer ?_
  intro k le t' c' r next queued alive' ec' _ _
  refine ⟨alive', (update_of_ne ?_ _ _).trans ec'⟩
  rintro rfl
  exact awake k le queued

/-- A thread has to wait, and sleeps where it waits for a mutex. -/
lemma waits {r : Request} {next : r.Answer → Program Outcome} {h' : Host}
    (sleepers : s.HasProperSleepers b) (confined : s.IsConfined)
    (proper : (s.move t c (.ask r next) h').HasProperUses) (kept : s.IsKeptFrom b σ)
    (ec : s.calls t = some c) (alive : s.dead t = false) (ep : c.program = .ask r next)
    (eh : s.host.step t r = .wait h') : (s.move t c (.ask r next) h').HasProperSleepers b := by
  have st : c.program.Step t s.host (.waited r) (.ask r next) h' := by
    rw [ep]
    exact .wait eh
  have whole := Step.move ec alive st
  obtain ⟨σ', kept'⟩ := kept.step whole
  have stays {t' : ThreadId} {c' : Underway} (ec' : s.calls t' = some c') :
      (s.move t c (.ask r next) h').calls t' = some c' := by
    by_cases et : t' = t
    · subst et
      rw [move_calls, update_self, ← ep]
      exact ec.symm.trans ec'
    · exact (update_of_ne et _ _).trans ec'
  have waiting {k : ObjectId} {t' : ThreadId} {c' : Underway} {r' : Request}
      {next' : r'.Answer → Program Outcome} (ec' : s.calls t' = some c')
      (ep' : c'.program = .ask r' next') (enters : s.host.Enters k r') :
      ∃ c' r' next', (s.move t c (.ask r next) h').calls t' = some c' ∧
        c'.program = .ask r' next' ∧ h'.Enters k r' :=
    ⟨c', r', next', stays ec', ep',
      sleepers.enters confined whole.touches.numbers proper kept' ec' ep' enters (stays ec')⟩
  have queue k : h'.queueOn k = s.host.queueOn k ∨
      s.host.Enters k r ∧ t ∉ s.host.queueOn k ∧ h'.queueOn k = s.host.queueOn k ++ [t] := by
    cases here : s.host.object? k with
    | none => exact .inl ((kept.queueOn_of_new whole here).trans (Host.queueOn_of_absent here).symm)
    | some o => exact Host.queueOn_of_wait here eh
  refine ⟨sleepers.openings_move ec st, ?_, ?_⟩
  · intro k le
    change (h'.queueOn k).Nodup
    obtain same | ⟨-, awake, longer⟩ := queue k
    · exact same ▸ sleepers.once k le
    · rw [longer, List.nodup_append]
      refine ⟨sleepers.once k le, by simp, ?_⟩
      rintro t' queued _ (_ | ⟨_, ⟨⟩⟩) rfl
      exact awake queued
  · intro k le t' queued
    change t' ∈ h'.queueOn k at queued
    obtain same | ⟨enters, -, longer⟩ := queue k
    · obtain ⟨alive', c', r', next', ec', ep', enters'⟩ :=
        sleepers.asleep k le t' (same ▸ queued)
      exact ⟨alive', waiting ec' ep' enters'⟩
    · rw [longer, List.mem_append, List.mem_singleton] at queued
      obtain queued | rfl := queued
      · obtain ⟨alive', c', r', next', ec', ep', enters'⟩ := sleepers.asleep k le t' queued
        exact ⟨alive', waiting ec' ep' enters'⟩
      · exact ⟨alive, waiting ec ep enters⟩

lemma move {m : Move} {p' : Program Outcome} {h' : Host} (sleepers : s.HasProperSleepers b)
    (confined : s.IsConfined) (proper : (s.move t c p' h').HasProperUses)
    (kept : s.IsKeptFrom b σ) (ec : s.calls t = some c) (alive : s.dead t = false)
    (st : c.program.Step t s.host m p' h')
    (prompt : ∀ r e, m = .struck r e → ∀ k, t ∉ s.host.queueOn k) :
    (s.move t c p' h').HasProperSleepers b := by
  have whole := st
  generalize ep : c.program = p at st
  cases st with
  | tell =>
    refine sleepers.goesOn confined proper kept ec alive whole (fun _ _ => .refl _) ?_
    intro k le queued
    obtain ⟨-, c', r, next, ec', ep', -⟩ := sleepers.asleep k le t queued
    cases ec.symm.trans ec'
    cases ep.symm.trans ep'
  | @strike r =>
    exact sleepers.goesOn confined proper kept ec alive whole (fun _ _ => .refl _)
      fun k _ => prompt r _ rfl k
  | @answer r next _ a _ eh =>
    have new {k : ObjectId} (gone : s.host.object? k = none) : h'.queueOn k = [] :=
      kept.queueOn_of_new (Step.move ec alive whole) gone
    have fewer k (_ : b ≤ k) : (h'.queueOn k).Sublist (s.host.queueOn k) := by
      cases here : s.host.object? k with
      | none =>
        rw [new here]
        exact List.nil_sublist _
      | some o =>
        by_cases enters : s.host.Enters k r
        · rw [Host.queueOn_of_answer here enters eh]
          exact List.erase_sublist
        · have fewer := Host.queueOn_sublist (t := t) here enters
          rwa [eh] at fewer
    refine sleepers.goesOn confined proper kept ec alive whole fewer ?_
    intro k le queued
    obtain ⟨-, c', r', next', ec', ep', enters⟩ :=
      sleepers.asleep k le t ((fewer k le).subset queued)
    cases ec.symm.trans ec'
    cases ep.symm.trans ep'
    cases here : s.host.object? k with
    | none =>
      rw [new here] at queued
      cases queued
    | some o =>
      rw [Host.queueOn_of_answer here enters eh] at queued
      exact (sleepers.once k le).not_mem_erase queued
  | wait eh => exact sleepers.waits confined proper kept ec alive ep eh

theorem step (sleepers : s.HasProperSleepers b) (proper : s.HasProperUses) (lent : s.IsLent)
    (confined : s.IsConfined) (kept : s.IsKeptFrom b σ) (st : s.PromptStep d s') :
    s'.HasProperSleepers b := by
  have proper' := proper.step kept lent st.1
  obtain ⟨σ', kept'⟩ := kept.step st.1.1
  have numbers := st.1.1.touches.numbers
  obtain ⟨⟨st, -⟩, prompt⟩ := st
  have begin {t : ThreadId} {c : Underway} (free : s.calls t = none)
      (same : s'.host = s.host) (same' : s'.dead = s.dead)
      (calls : s'.calls = update s.calls t (some c))
      (mine : c.act.opensHandle → c.program.Asks fun r => r.isEntry = false) :
      s'.HasProperSleepers b := by
    refine sleepers.of_sublist confined numbers proper' kept' ?_ (fun k _ => same ▸ .refl _) ?_
    · intro t' c' ec' opens
      rw [calls] at ec'
      obtain ⟨-, new⟩ | ⟨-, ec'⟩ := update_inv ec'
      · cases new
        exact mine opens
      · exact sleepers.openings t' c' ec' opens
    · intro k le t' c' r next queued alive ec' _ _
      refine ⟨same' ▸ alive, ?_⟩
      rw [calls, update_of_ne ?_]
      · exact ec'
      · rintro rfl
        cases free.symm.trans ec'
  cases st with
  | openHandle idle => exact begin idle.calls rfl rfl rfl fun _ => asks_openCall_entry
  | onHandle idle => exact begin idle.calls rfl rfl rfl nofun
  | drop idle => exact begin idle.calls rfl rfl rfl nofun
  | onGuard idle => exact begin idle.calls rfl rfl rfl nofun
  | @move t c m p' h' ec alive st =>
    refine sleepers.move confined proper' kept ec alive st ?_
    rintro r e rfl
    exact prompt t s.host r e rfl
  | @finish t c o ec alive ep =>
    refine sleepers.of_sublist confined numbers proper' kept' ?_
      (fun k _ => (conclude_host ..).symm ▸ .refl _) ?_
    · intro t' c' ec' opens
      exact sleepers.openings t' c' (conclude_calls_inv ec').2 opens
    · intro k le t' c' r next _ alive' ec' ep' _
      rw [conclude_dead, conclude_calls, update_of_ne ?_]
      · exact ⟨alive', ec'⟩
      · rintro rfl
        cases ec.symm.trans ec'
        cases ep.symm.trans ep'
  | @die t alive =>
    have fewer := s.host.queueOn_bury t
    refine sleepers.of_sublist confined numbers proper' kept' sleepers.openings
      (fun k _ => (fewer k) ▸ List.erase_sublist) ?_
    intro k le t' c' r next queued alive' ec' _ _
    refine ⟨?_, ec'⟩
    rw [bury_dead, update_of_ne ?_]
    · exact alive'
    · rintro rfl
      rw [bury_host, fewer] at queued
      exact (sleepers.once k le).not_mem_erase queued

theorem of_run {h : Host} {past : List Deed} (run : Run PromptStep (.ofHost h) past s) :
    s.HasProperSleepers h.objects.length := by
  induction run with
  | nil =>
    refine ⟨?_, ?_, ?_⟩
    · intro t c ec
      cases ec
    · intro k le
      change (h.queueOn k).Nodup
      rw [Host.queueOn_of_absent (List.getElem?_eq_none le)]
      exact List.nodup_nil
    · intro k le t queued
      change t ∈ h.queueOn k at queued
      rw [Host.queueOn_of_absent (List.getElem?_eq_none le)] at queued
      cases queued
  | cons run st ih =>
    have exclusive := run.mono fun _ _ _ st => st.1
    have plain := run.mono fun _ _ _ st => st.1.1
    obtain ⟨σ, kept⟩ := IsKeptFrom.of_run plain
    exact ih.step (HasProperUses.of_run exclusive) (IsLent.of_run plain) (IsConfined.of_run plain)
      kept st

end HasProperSleepers
end Session
end SharedSegment
