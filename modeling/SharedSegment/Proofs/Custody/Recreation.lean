import SharedSegment.Proofs.Alone.Recovery
import SharedSegment.Proofs.Custody.Identity
import SharedSegment.Proofs.Locking

/-!
# Creating a segment again

Whatever has happened under a name, and whoever has died or still has or waits for the lock of what
is there: while no call fails and all others rest, creating a segment under the name succeeds, with
an object of its own whose header is finished and whose payload is empty
(`recreated_segments_begin_anew`). Its mutex stays as it was set up until somebody takes it or takes
it down, so whoever locks it first has it at once.
-/

namespace SharedSegment
open Function Scenario Header

namespace Session

variable {s s' : Session} {t : ThreadId} {x raw : String} {size : UInt32} {via : Via}
  {toggle : Option String} {o : Outcome}

/-- What a call that opens a handle ends with, and the session behind it, where no call fails and
all others rest. -/
def openAlone (s : Session) (t : ThreadId) (toggle : Option String) (x raw : String) (size : UInt32)
    (via : Via) : Option (Outcome × Session) :=
  let called := (openCall toggle x raw size via).run t .none [] s.host
  called.1.value?.map fun o => (o, { s with host := called.2 }.apply o.effect)

/-- A call that a thread can begin, and that ends while nothing comes between, is one of the ways in
which a session can go on. -/
lemma run_alone {u : Underway} {a : Act} (began : s.Step (.began t a) (s.begin t u))
    (idle : s.IsIdle t) (ended : (u.program.run t .none [] s.host).1.value? = some o) :
    ∃ ds, Run Step s ds
      ({ s with host := (u.program.run t .none [] s.host).2 }.apply o.effect) := by
  obtain ⟨ms, sts⟩ := u.program.steps_run .none [] s.host (t := t)
  rw [Running.rest_of_value? ended] at sts
  obtain ⟨ds, run⟩ := run_steps idle.dead sts
  generalize (u.program.run t .none [] s.host).2 = h at run ⊢
  let last := (s.begin t u).move t u (.ret o) h
  have back : last.Step _ (last.conclude t o) :=
    .finish (c := { u with program := .ret o }) (by simp [last]) idle.dead rfl
  have unchanged : update s.calls t none = s.calls := by
    rw [← idle.calls, update_eq_self]
  have same : last.conclude t o = { s with host := h }.apply o.effect := by
    simp [last, conclude, move, begin, unchanged]
  rw [same] at back
  exact ⟨_, ((Run.nil.cons began).trans run).cons back⟩

lemma run_openAlone (can : s.CanOpen t x) (e : s.openAlone t toggle x raw size via = some (o, s')) :
    ∃ ds, Run Step s ds s' := by
  obtain ⟨o', ended, e⟩ := Option.map_eq_some_iff.1 e
  cases e
  exact run_alone (.openHandle can.idle can.unnamed can.unused) can.idle ended

/-- What is ensured of a call that opens a handle alone holds of the session that follows. -/
lemma openAlone_of_ensures {post : Outcome → Host → Prop}
    (en : (openCall toggle x raw size via).Ensures (.alone t fun _ _ => False) post s.host) :
    ∃ o h, post o h ∧
      s.openAlone t toggle x raw size via = some (o, { s with host := h }.apply o.effect) := by
  obtain ⟨o, ended, here⟩ := en.run_calm (f := .none) rfl []
  refine ⟨o, _, here, ?_⟩
  simp only [openAlone, ended, Option.map_some]

end Session

/-- An object whose mutex is as it was set up. -/
def Host.IsUntaken (h : Host) (k : ObjectId) : Prop :=
  ∃ o, h.object? k = some o ∧ o.mutex = .fresh

/-- A deed by which somebody takes the mutex of an object, or takes it down. -/
def Deed.Uses (k : ObjectId) (d : Deed) : Prop :=
  (d.takes? k).isSome ∨ d.TakesDown .mutex k

section
variable {h h' : Host} {t : ThreadId} {k : ObjectId} {o : Object} {m : MappingId} {r : Request}
  {a : r.Answer}

/-- Nobody gives a mutex back, parks with it or mends it that was not taken. -/
lemma Request.remake_of_untaken (fresh : o.mutex = .fresh) (long : ∀ f len, r ≠ .resize f len)
    (up : ∀ m, r ≠ .mutexDestroy m) (untried : ∀ m, r ≠ .lock m)
    (parked : ∀ m, r = .awake m → o.condition.parked.contains t) :
    (r.remake t o).mutex = .fresh := by
  cases r with
  | resize f len => exact absurd rfl (long f len)
  | mutexDestroy m => exact absurd rfl (up m)
  | lock m => exact absurd rfl (untried m)
  | awake m =>
    rw [remake, if_pos (parked m rfl)]
    exact fresh
  | mutexInit => rfl
  | unlock | makeConsistent | park =>
    simp [remake, Host.park, fresh, Mutex.fresh, Mutex.unlock, Mutex.makeConsistent]
  | _ => exact fresh

section
variable (sees : h.under? m = some (k, o)) (fresh : o.mutex = .fresh)
include sees fresh

/-- Whoever tries a mutex that nobody has taken has it at once. -/
lemma Host.step_lock_of_untaken :
    ∃ h', h.step t (.lock m) = .done (α := Except Errno Unit) (.ok ()) h' := by
  have replied := step_lock (t := t) sees
  rw [fresh] at replied
  exact ⟨_, replied⟩

lemma Host.step_awake_of_untaken : o.condition.parked.contains t ∨
    ∃ h', h.step t (.awake m) = .done (α := Except Errno Unit) (.ok ()) h' := by
  have replied := step_awake (t := t) sees
  rw [fresh] at replied
  by_cases parked : o.condition.parked.contains t
  · exact .inl parked
  · rw [if_neg parked] at replied
    exact .inr ⟨_, replied⟩

end

/-- Who is answered about a mutex that nobody has taken has taken it or taken it down, or had no
part in it. -/
lemma Request.remake_of_answered (sees : h.object? k = some o) (fresh : o.mutex = .fresh)
    (about : h.isAbout k r) (long : ∀ f len, r ≠ .resize f len) (e : h.step t r = .done a h')
    (unused : ¬(Deed.moved t h (.answered r a)).Uses k) : (r.remake t o).mutex = .fresh := by
  have under {m : MappingId} (shows : h.shows m k) : h.under? m = some (k, o) :=
    Host.under?_eq_some_iff.2 ⟨shows, sees⟩
  refine remake_of_untaken fresh long ?_ ?_ ?_
  · rintro m rfl
    have replied := Host.step_mutexDestroy (t := t) (under about)
    rw [fresh] at replied
    cases replied.symm.trans e
    obtain ⟨x, ex, shown⟩ := (Option.any_eq_true ..).1 about
    exact unused (.inr ⟨rfl, x, ex, beq_iff_eq.1 shown⟩)
  · rintro m rfl
    obtain ⟨h'', replied⟩ := Host.step_lock_of_untaken (t := t) (under about) fresh
    cases replied.symm.trans e
    have shows : h.shows m k := about
    exact unused (.inl (by simp [Deed.takes?, shows, isTaken]))
  · rintro m rfl
    obtain parked | ⟨h'', replied⟩ := Host.step_awake_of_untaken (t := t) (under about) fresh
    · exact parked
    · cases replied.symm.trans e
      have shows : h.shows m k := about
      exact absurd (.inl (by simp [Deed.takes?, shows, isTaken])) unused

/-- Nobody waits for a mutex that nobody has taken. -/
lemma Request.remake_of_waited (sees : h.object? k = some o) (fresh : o.mutex = .fresh)
    (about : h.isAbout k r) (e : h.step t r = .wait h') : (r.remake t o).mutex = .fresh := by
  have under {m : MappingId} (shows : h.shows m k) : h.under? m = some (k, o) :=
    Host.under?_eq_some_iff.2 ⟨shows, sees⟩
  refine remake_of_untaken fresh ?_ ?_ ?_ ?_
  · rintro f len rfl
    cases e
  · rintro m rfl
    cases e
  · rintro m rfl
    obtain ⟨h'', replied⟩ := Host.step_lock_of_untaken (t := t) (under about) fresh
    cases replied.symm.trans e
  · rintro m rfl
    obtain parked | ⟨h'', replied⟩ := Host.step_awake_of_untaken (t := t) (under about) fresh
    · exact parked
    · cases replied.symm.trans e

end

namespace Session.IsKeptFrom

variable {b : ObjectId} {s s' : Session} {σ : ThreadId ⊕ String → Custody} {d : Deed}
  {k : ObjectId} {past : List Deed}

/-- A mutex stays as it was set up by a step in which nobody takes it, or takes it down. -/
lemma isUntaken_step (kept : s.IsKeptFrom b σ) (st : s.Step d s') (untaken : s.host.IsUntaken k)
    (unused : ¬d.Uses k) : s'.host.IsUntaken k := by
  obtain ⟨o, here, fresh⟩ := untaken
  have asked {t : ThreadId} {r : Request}
      (about : s.host.isAbout k r → (r.remake t o).mutex = .fresh) :
      (s.host.step t r).host.IsUntaken k := by
    refine ⟨_, Host.object_step here t r, ?_⟩
    split
    · exact about ‹_›
    · exact fresh
  cases st.touches with
  | nothing same => exact ⟨o, same ▸ here, fresh⟩
  | died same =>
    refine ⟨_, same ▸ Host.object?_bury here _, ?_⟩
    simp [Object.bury, fresh, Mutex.bury, Mutex.fresh, Mutex.dequeue, Hold.owner?]
  | @answered t c r a next ec alive ep eh =>
    have kept' := asked (t := t) fun about =>
      Request.remake_of_answered here fresh about ?_ eh unused
    · rwa [eh] at kept'
    rintro f len rfl
    have own := kept.custodians.resizes_own (kept.permits ec alive ep) here (beq_iff_eq.1 about)
    cases (congrArg Mutex.life fresh).symm.trans own.2.1
  | waited eh =>
    have kept' := asked fun about => Request.remake_of_waited here fresh about eh
    rwa [eh] at kept'

/-- A mutex stays as it was set up until somebody takes it, or takes it down. -/
lemma isUntaken_run (kept : s.IsKeptFrom b σ) (run : Run Session.Step s past s')
    (untaken : s.host.IsUntaken k) (unused : ∀ d ∈ past, ¬d.Uses k) : s'.host.IsUntaken k := by
  suffices both : (∃ σ', s'.IsKeptFrom b σ') ∧ s'.host.IsUntaken k from both.2
  induction run with
  | nil => exact ⟨⟨σ, kept⟩, untaken⟩
  | cons run st ih =>
    have unused := List.forall_mem_cons.1 unused
    obtain ⟨⟨σ', kept'⟩, untaken'⟩ := ih unused.2
    exact ⟨kept'.step st, kept'.isUntaken_step st untaken' unused.1⟩

end Session.IsKeptFrom

/-- Whoever locks a segment whose mutex nobody has taken acquires it. -/
lemma run_lock_of_untaken {h : Host} {k : ObjectId} {m : MappingId} {w : Handle} {t : ThreadId}
    (em : w.data = some m) (shows : h.shows m k) (untaken : h.IsUntaken k) :
    (w.lock.run t .none [] h).1.value? = some .acquired := by
  obtain ⟨o, here, fresh⟩ := untaken
  obtain ⟨h', replied⟩ :=
    Host.step_lock_of_untaken (t := t) (Host.under?_eq_some_iff.2 ⟨shows, here⟩) fresh
  have segment {g : Segment} (em : g.mapping = some m) :
      (g.lock.run t .none [] h).1.value? = some .acquired := by
    rw [run_lock em, replied]
    rfl
  cases w with
  | segment g => exact segment em
  | facade f =>
    obtain ⟨g, eg, em⟩ := Option.bind_eq_some_iff.1 em
    change (f.lock.run t .none [] h).1.value? = _
    rw [Facade.lock, Facade.onSegment_eq eg]
    exact segment em

/-- In any state of any session, a call that creates a segment with a size and with valid settings,
under a name that leads to no directory, succeeds while no call fails and all others rest: whatever
is bound to the name, and whoever has died or has or awaits the lock of it. The name is bound to a
new object then, whose length, mode and size are those that were asked for, and whose payload is
empty.
Whoever locks it acquires it, as long as nobody has taken its mutex or taken it down. -/
theorem recreated_segments_begin_anew {h₀ : Host} {past : List Deed} {s : Session} {t : ThreadId}
    {x raw : String} {n : Name} {size : UInt32} {toggle : Option String} {via : Via}
    {left : Option Binding} (named : Name.ofRaw raw = .ok n) (creates : via.creates size)
    (positive : size ≠ 0) (admitted : (via.settings toggle).validate = .ok ())
    (before : Run Session.Step (.ofHost h₀) past s) (can : s.CanOpen t x)
    (place : s.host.store.place n = .file left) :
    ∃ y s' m o, s.openAlone t toggle x raw size via = some (⟨.info y, .setHandle x y⟩, s') ∧
      (∃ ds, Run Session.Step s ds s') ∧ s'.handles = update s.handles x (some y) ∧
      y.isValid ∧ y.size = size ∧ y.data = some m ∧
      s'.host.mapping? m = some ⟨s.host.objects.length, total size⟩ ∧
      s'.host.store.place n = .file (some (.object s.host.objects.length)) ∧
      s'.host.object? s.host.objects.length = some o ∧ o.length = Layout.headerSize + size.toNat ∧
      o.mode = (via.settings toggle).mode ∧ o.sizeField = size ∧
      (∀ i, Layout.headerSize ≤ i → o.bytes i = 0) ∧
      ∀ later s'', Run Session.Step s' later s'' →
        (∀ d ∈ later, ¬d.Uses s.host.objects.length) → ∀ t' (w : Handle) m',
          w.data = some m' → s''.host.shows m' s.host.objects.length →
          (w.lock.run t' .none [] s''.host).1.value? = some .acquired := by
  let k := s.host.objects.length
  obtain ⟨_, h', ⟨y, rfl, ⟨eg, sized⟩, made⟩, opened⟩ :=
    Session.openAlone_of_ensures (calm_openCall named creates positive admitted place (t := t))
  obtain ⟨ds, run⟩ := Session.run_openAlone can opened
  let s' : Session := { s with host := h' }.apply (.setHandle x y)
  have mode : (Object.finished (via.settings toggle).mode size).mode = (via.settings toggle).mode :=
    Object.finished_mode (Config.validate_eq_ok_iff _ |>.1 admitted)
  have here : s'.host.object? k = some (.finished (via.settings toggle).mode size) := by
    change h'.objects[k]? = _
    rw [made.objects]
    simp [k]
  have mapped : s'.host.mapping? s.host.mappings.length = some ⟨k, total size⟩ := by
    change h'.mappings[s.host.mappings.length]?.join = _
    rw [made.mappings]
    simp [k]
  have data : y.data = some s.host.mappings.length := by
    cases y with
    | segment g =>
      cases eg
      rfl
    | facade f => exact (congrArg (Option.bind · Segment.mapping) eg).trans rfl
  have valid : y.isValid := by
    have whole : (Segment.madeOn s.host n size (via.settings toggle)).isValid := by
      have some : 0 < size := UInt32.pos_iff_ne_zero.2 positive
      simp [Segment.isValid, Segment.madeOn, some]
    cases y with
    | segment g =>
      cases eg
      exact whole
    | facade f => exact (congrArg (Option.any Segment.isValid) eg).trans whole
  refine ⟨y, s', _, _, opened, ⟨ds, run⟩, rfl, valid, sized, data, mapped, made.bound, here, rfl,
    mode, Object.finished_sizeField, ?_, ?_⟩
  · intro i le
    refine Object.finished_bytes (Nat.le_trans ?_ le)
    decide
  · intro later s'' run' unused t' w m' em shows
    obtain ⟨σ, kept⟩ := Session.IsKeptFrom.of_run (before.trans run)
    exact run_lock_of_untaken em shows (kept.isUntaken_run run' ⟨_, here, rfl⟩ unused)

/-- A session in which the creator of a segment has died with its lock. -/
def Session.orphaned : Session :=
  let locking := Underway.ofUse "a" .lock (.facade .created) (giving Facade.created.lock .status)
  let o := Object.finished 0o600 8
  ((withFacade.begin 0 locking).move 0 locking (.ret ⟨.status .acquired, .none⟩)
    (Host.withSegment.setObject 0 (o.withMutex (o.mutex.take 0 (.held 0))))).bury 0

lemma Session.run_orphaned : ∃ past, Run Step .empty past orphaned := by
  let locking := Underway.ofUse "a" .lock (.facade .created) (giving Facade.created.lock .status)
  have unused {x : String} : ¬(ofHost .empty).IsInUse x := not_isInUse (fun _ _ => rfl) fun _ => rfl
  have created : (ofHost .empty).openFacade 0 "a" "//s" 8 .standard =
      some (.created, .withFacade) := rfl
  obtain ⟨ds, run⟩ := run_openFacade ⟨⟨rfl, rfl⟩, rfl, unused⟩ created
  have began : withFacade.Step _ (withFacade.begin 0 locking) :=
    .onHandle ⟨rfl, rfl⟩ rfl nofun nofun nofun rfl
  have replied : Host.withSegment.step 0 (.lock 0) =
      .done (α := Except Errno Unit) (.ok ()) _ := rfl
  have moved := Step.move (s := withFacade.begin 0 locking) (c := locking) rfl rfl (.answer replied)
  exact ⟨_, ((run.cons began).cons moved).cons (.die rfl)⟩

/-- A segment is created again under its name when its creator has died with its lock, and who locks
it then is not told of any dead owner. -/
theorem a_segment_is_made_again_after_its_creator :
    ∃ past y s, Run Session.Step .empty past .orphaned ∧ Session.orphaned.dead 0 ∧
      (∃ o, Session.orphaned.host.object? 0 = some o ∧ o.mutex.hold = .abandoned) ∧
      Session.orphaned.host.store.place .sample = .file (some (.object 0)) ∧
      Session.orphaned.openAlone 1 none "b" "s" 16 (.create ⟨.posix, false, 0o640⟩) =
        some (⟨.info y, .setHandle "b" y⟩, s) ∧
      s.host.store.place .sample = .file (some (.object 1)) ∧
      (y.lock.run 1 .none [] s.host).1.value? = some .acquired := by
  obtain ⟨past, run⟩ := Session.run_orphaned
  have unused : ¬Session.orphaned.IsInUse "b" := by
    rintro (⟨t, g, x, eg, -⟩ | ⟨t, c, ec, uses⟩)
    · cases eg
    · obtain ⟨-, rfl⟩ | ⟨-, ec⟩ := Session.move_calls_inv (h := .empty) ec
      · exact absurd uses (by decide)
      · obtain ⟨-, rfl⟩ | ⟨-, ec⟩ := Session.begin_calls_inv ec
        · exact absurd uses (by decide)
        · cases ec
  have place : Session.orphaned.host.store.place .sample = .file (some (.object 0)) := rfl
  have idle : Session.orphaned.IsIdle 1 := ⟨rfl, rfl⟩
  have abandoned : (Session.orphaned.host.object? 0).map (fun o => o.mutex.hold) =
      some .abandoned := rfl
  obtain ⟨o, here, hold⟩ := Option.map_eq_some_iff.1 abandoned
  have named : Name.ofRaw "s" = .ok .sample := rfl
  have creates : (Via.create ⟨.posix, false, 0o640⟩).creates 16 := rfl
  have admitted : ((Via.create ⟨.posix, false, 0o640⟩).settings none).validate = .ok () := rfl
  have can : Session.orphaned.CanOpen 1 "b" := ⟨idle, rfl, unused⟩
  obtain ⟨y, s, m, -, opened, -, -, -, -, data, mapped, bound, -, -, -, -, -, locks⟩ :=
    recreated_segments_begin_anew named creates (by decide) admitted run can place
  have count : Session.orphaned.host.objects.length = 1 := rfl
  rw [count] at mapped bound locks
  have shows : s.host.shows m 1 := by
    rw [Host.shows, mapped]
    rfl
  exact ⟨past, y, s, run, rfl, ⟨o, here, hold⟩, place, opened, bound,
    locks [] s .nil (by simp) 1 y m data shows⟩

end SharedSegment
