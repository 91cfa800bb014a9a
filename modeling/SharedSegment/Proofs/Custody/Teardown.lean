import SharedSegment.Proofs.Custody.Keeping
import SharedSegment.Proofs.Locking

/-!
# Teardown

In a session that begins with nothing, threads open, use, drop and destroy handles in any order and
all at the same time; any of their calls may fail and any of them may die. A handle that attaching
has returned is on a segment whose mutex and condition have both been set up. The size in the header
is not taken back when they are taken down again, though, and the name may still be there. So each
of the two works if and only if nobody has taken it down by then
(`attached_segments_work_until_torn_down`).
-/

namespace SharedSegment
open Function Scenario

/-- Calls and handles have in custody what they need, and what is down of an object was taken down.
-/
structure Session.IsKept (s : Session) (past : List Deed) (σ : ThreadId ⊕ String → Custody) :
    Prop extends s.IsKeptFrom 0 σ where
  parts : ∀ k part, (∃ o, s.host.ledger.outline? k = some o ∧ o.life part = .destroyed) ↔
    ∃ d ∈ past, d.TakesDown part k

namespace Session.IsKept

variable {s s' : Session} {past : List Deed} {σ : ThreadId ⊕ String → Custody} {d : Deed}

theorem step (kept : s.IsKept past σ) (st : s.Step d s') : ∃ σ', s'.IsKept (d :: past) σ' := by
  obtain ⟨σ', kept'⟩ := kept.toIsKeptFrom.step st
  refine ⟨σ', kept', ?_⟩
  intro k part
  rw [kept.destroyed_iff_of_step st k part, kept.parts k part]
  simp

lemma init : Session.empty.IsKept [] fun _ => .nothing 0 := by
  refine ⟨.init .empty, ?_⟩
  intro k part
  refine iff_of_false ?_ (by simp)
  rintro ⟨o, e, -⟩
  cases List.getElem?_nil.symm.trans e

theorem of_run (run : Run Session.Step .empty past s) : ∃ σ, s.IsKept past σ := by
  induction run with
  | nil => exact ⟨_, init⟩
  | cons run st ih =>
    obtain ⟨σ, kept⟩ := ih
    exact kept.step st

end Session.IsKept

/-- The state of a part of an object. -/
def Object.life (o : Object) : SyncPart → Life
  | .mutex => o.mutex.life
  | .condition => o.condition.life

lemma Object.life_outline (o : Object) (part : SyncPart) : o.outline.life part = o.life part := by
  cases part <;> rfl

namespace Session.IsKept

variable {s : Session} {past : List Deed} {σ : ThreadId ⊕ String → Custody} {k : ObjectId}
  {y : Object}

lemma destroyed_iff (kept : s.IsKept past σ) (ey : s.host.object? k = some y) (part : SyncPart) :
    y.life part = .destroyed ↔ ∃ d ∈ past, d.TakesDown part k := by
  rw [← kept.parts k part, Host.ledger_outline?, ey, Option.map_some]
  constructor
  · intro e
    exact ⟨y.outline, rfl, (y.life_outline part).trans e⟩
  · intro ⟨o, eo, e⟩
    cases eo
    exact (y.life_outline part).symm.trans e

/-- The parts of an object with a published size work until they are taken down. -/
lemma works (kept : s.IsKept past σ) (ey : s.host.object? k = some y) (ne : y.outline.size ≠ 0)
    (part : SyncPart) :
    y.life part ≠ .blank ∧ (y.life part = .live ↔ ∀ d ∈ past, ¬d.TakesDown part k) := by
  have here : s.host.ledger.outline? k = some y.outline := by
    rw [Host.ledger_outline?, ey, Option.map_some]
  have setUp := (kept.custodians.sane k _ (Nat.zero_le k) here).life ne part
  rw [y.life_outline part] at setUp
  have down : (∀ d ∈ past, ¬d.TakesDown part k) ↔ ¬y.life part = .destroyed := by
    rw [kept.destroyed_iff ey part]
    simp
  rw [down]
  rcases setUp with live | ⟨-, destroyed⟩
  · simp [live]
  · simp [destroyed]

/-- What a thread has attached to has the size that it has read, which was published. -/
lemma attached {t : ThreadId} {g : Segment} (kept : s.IsKept past σ)
    (attached : (σ (.inl t)).Attaches g) :
    ∃ m k y, g.mapping = some m ∧ s.host.under? m = some (k, y) ∧ s.host.object? k = some y ∧
      y.outline.size ≠ 0 := by
  obtain ⟨m, k, em, mapping, -, seen⟩ := attached.shows
  -- A size that was read once is there for good: it is not taken back at teardown.
  obtain ⟨o, here, sees⟩ := (kept.custodians.knows (.inl t)).seen k g.size seen attached.published
  rw [Host.ledger_outline?] at here
  obtain ⟨y, ey, rfl⟩ := Option.map_eq_some_iff.1 here
  have shown : s.host.mapping? m = some ⟨k, Header.total g.size⟩ :=
    kept.custodians.mappings.known (.inl t) m _ mapping
  refine ⟨m, k, y, em, ?_, ey, sees ▸ attached.published⟩
  rw [Host.under?, shown, Option.bind_some, ey, Option.map_some]

end Session.IsKept

/-- A handle that attaching returns is on an object whose mutex and condition have been set up, and
each of them works if and only if nobody has taken it down so far. In particular, a thread that
locks now and meets no failing call is refused if and only if somebody has taken the mutex down, or
the mutex is lost. -/
theorem attached_segments_work_until_torn_down {past : List Deed} {s s' : Session} {t : ThreadId}
    {h h' raw : String} {size : UInt32} {via : Via} {o : Outcome} {x : Handle} {g : Segment}
    (run : Run Session.Step .empty past s)
    (back : s.Step (.returned t (.openHandle h raw size via) o) s')
    (opened : o.effect = .setHandle h' x) (eg : x.segment? = some g) (role : g.role = .attacher) :
    ∃ m k y, g.mapping = some m ∧ s'.host.under? m = some (k, y) ∧
      (∀ part, y.life part ≠ .blank ∧
        (y.life part = .live ↔ ∀ d ∈ past, ¬d.TakesDown part k)) ∧
      ∀ t', y.mutex.isQueued t' = false →
        ((g.lock.run t' .none [] s'.host).1.value? = some .unavailable ↔
          (∃ d ∈ past, d.TakesDown .mutex k) ∨ y.mutex.hold = .lost) := by
  obtain ⟨σ, kept⟩ := Session.IsKept.of_run run
  obtain ⟨c, ec, alive, act, ep, rfl⟩ := back.returned_inv
  have yields := kept.calls t c ec alive
  rw [ep, act] at yields
  have attached := (yields h' x opened g eg).2 role
  obtain ⟨m, k, y, em, under, ey, ne⟩ := kept.attached attached
  refine ⟨m, k, y, em, ?_, kept.works ey ne, ?_⟩
  · rw [Session.conclude_host]
    exact under
  · intro t' awake
    rw [Session.conclude_host, lock_unavailable_iff em under (kept.works ey ne .mutex).1 awake]
    exact or_congr_left (kept.destroyed_iff ey .mutex)

/-- The call of a thread that creates a segment of eight bytes. -/
def Underway.creating : Underway :=
  let act : Act := .openHandle "a" "/s" 8 (.create .standard)
  ⟨act, some "a", none, openCall none "a" "/s" 8 (.create .standard)⟩

/-- The call that drops the segment again. -/
def Underway.dropping : Underway :=
  let g : Segment := ⟨.sample, .sysV, .creator, 8, some 0, some 0, true⟩
  ⟨.onHandle "a" .drop, none, some (.segment g), giving (Handle.segment g).drop fun _ => .ok⟩

/-- The call of a thread that attaches to what is under the name. -/
def Underway.attaching : Underway :=
  let act : Act := .openHandle "b" "/s" 0 (.attach .standard)
  ⟨act, some "b", none, openCall none "b" "/s" 0 (.attach .standard)⟩

namespace Session

/-- A thread has created the segment. -/
def created : List Deed × Session :=
  play (List.replicate 18 (0, none)) [.began 0 Underway.creating.act] (empty.begin 0 .creating)

/-- It has dropped the segment, but could not remove the name. -/
def dropped : List Deed × Session :=
  play (List.replicate 5 (0, none) ++ [(0, some .eacces)] ++ List.replicate 3 (0, none))
    (.began 0 Underway.dropping.act :: created.1)
    ({ created.2 with handles := update created.2.handles "a" none }.begin 0 .dropping)

/-- Another thread is about to return from attaching. -/
def attached : List Deed × Session :=
  play (List.replicate 8 (1, none)) (.began 1 Underway.attaching.act :: dropped.1)
    (dropped.2.begin 1 .attaching)

lemma run_attached : Run Step .empty attached.1 attached.2 := by
  have created_calls t : created.2.calls t = none := by
    cases t <;> rfl
  have dropped_calls t : dropped.2.calls t = none := by
    cases t <;> rfl
  have created : Run Step .empty created.1 created.2 :=
    run_play (.cons .nil (.openHandle ⟨rfl, rfl⟩ rfl (not_isInUse (fun _ _ => rfl) fun _ => rfl))) _
  have dropped : Run Step .empty dropped.1 dropped.2 :=
    run_play (.cons created
      (.drop ⟨rfl, rfl⟩ rfl (not_isInUse (fun _ _ => rfl) created_calls) rfl)) _
  exact run_play (.cons dropped
    (.openHandle ⟨rfl, rfl⟩ rfl (not_isInUse (fun _ _ => rfl) dropped_calls))) _

end Session

/-- The other thread attaches all the same, and locking is refused. -/
theorem a_torn_down_segment_is_attached :
    ∃ past s s' g m y, Run Session.Step .empty past s ∧
      s.Step (.returned 1 (.openHandle "b" "/s" 0 (.attach .standard))
        ⟨.info (.segment g), .setHandle "b" (.segment g)⟩) s' ∧
      g.mapping = some m ∧ s'.host.under? m = some (0, y) ∧ (∀ part, y.life part = .destroyed) ∧
      (g.lock.run 1 .none [] s'.host).1.value? = some .unavailable := by
  let g : Segment := ⟨.sample, .sysV, .attacher, 8, some 1, some 2, false⟩
  let o : Outcome := ⟨.info (.segment g), .setHandle "b" (.segment g)⟩
  have ended : Session.attached.2.calls 1 =
      some { Underway.attaching with program := .ret o } := rfl
  have back := Session.Step.finish ended rfl rfl
  have down part : ∃ d ∈ Session.attached.1, d.TakesDown part 0 := by
    cases part with
    | mutex => exact ⟨_, List.mem_of_getElem? (i := 15) rfl, rfl, _, rfl, rfl⟩
    | condition => exact ⟨_, List.mem_of_getElem? (i := 16) rfl, rfl, _, rfl, rfl⟩
  obtain ⟨m, k, y, em, under, parts, locks⟩ :=
    attached_segments_work_until_torn_down Session.run_attached back rfl rfl rfl
  cases em
  have first : some 0 = some k := congrArg (Option.map Prod.fst) under
  cases first
  have awake : some (y.mutex.isQueued 1) = some false :=
    congrArg (Option.map fun x : ObjectId × Object => x.2.mutex.isQueued 1) under.symm
  have destroyed part : y.life part = .destroyed := by
    obtain ⟨set, works⟩ := parts part
    obtain ⟨d, mem, takes⟩ := down part
    cases el : y.life part with
    | blank => exact absurd el set
    | live => exact absurd takes (works.1 el d mem)
    | destroyed => rfl
  exact ⟨_, _, _, g, 2, y, Session.run_attached, back, rfl, under, destroyed,
    (locks 1 (Option.some.inj awake)).2 (.inl (down .mutex))⟩

end SharedSegment
