import SharedSegment.Proofs.Aftermath.Declining
import SharedSegment.Proofs.Aftermath.Dismantling
import SharedSegment.Proofs.Aftermath.Validity

/-!
# What survives a teardown

Where the handle of a creator was dropped or destroyed, the handles of others stay. Their payload is
what it was, and can be read and written. Every call on them comes back: nobody is given the mutex,
and nobody has to wait for it (`survivors_are_left_in_peace`).
-/

namespace SharedSegment
open Function Scenario Program Header

namespace Session

variable {s s' s₁ s₂ s₃ s₄ : Session} {t u : ThreadId} {d : Deed} {past mid after : List Deed}
  {h₀ : Host} {y : String} {x : Handle} {g : Segment} {m : MappingId} {k : ObjectId}

/-- Whoever takes the mutex of an object down does so through a mapping. -/
lemma exists_turn_of_takesDown (down : d.TakesDown .mutex k) :
    ∃ m, d.turn? .mutex k = some (m, .takenDown) := by
  cases d with
  | moved t h mv =>
    cases mv with
    | answered r a =>
      cases r with
      | mutexDestroy m =>
        obtain ⟨-, z, ez, ek⟩ := down
        have shows : h.shows m k := (Option.any_eq_true ..).2 ⟨z, ez, beq_iff_eq.2 ek⟩
        refine ⟨m, ?_⟩
        simp [Deed.turn?, SyncPart.turn?, SyncPart.answered?, shows]
      | _ => exact down.elim
    | _ => exact down.elim
  | _ => exact down.elim

/-- A mutex that was taken down is down from then on. -/
lemma isDown_of_takesDown (run : Run Step (.ofHost h₀) past s) (mem : d ∈ past)
    (down : d.TakesDown .mutex k) : s.host.IsDown k := by
  obtain ⟨later, earlier, rfl⟩ := List.append_of_mem mem
  obtain ⟨s', s'', before, st, after⟩ := run.split
  obtain ⟨σ, kept⟩ := IsKeptFrom.of_run before
  refine isDown_run (before.cons st) ?_ after
  exact Host.isDown_iff.2 ((kept.destroyed_iff_of_step st k .mutex).2 (.inl down))

/-- Where the mutex of an object was taken down, no handle on it is that of its creator. -/
lemma attacher_of_takesDown (run : Run Step (.ofHost h₀) past s) (mem : d ∈ past)
    (down : d.TakesDown .mutex k) (ex : s.handles y = some x) (eg : x.segment? = some g)
    (em : g.mapping = some m) (shows : s.host.shows m k) (idle : ¬s.IsDestroying y) :
    g.role = .attacher := by
  cases role : g.role with
  | attacher => rfl
  | creator =>
    obtain ⟨turns, -⟩ :=
      (hasProperLives run).creators y x g m k .mutex [] s ex eg role em shows idle .nil
    obtain ⟨m', turned⟩ := exists_turn_of_takesDown down
    have there : (m', Turn.takenDown) ∈ Deed.turns .mutex k past :=
      List.mem_filterMap.2 ⟨d, mem, turned⟩
    rw [turns, List.mem_singleton] at there
    cases there

/-- A handle that shows its object can be used. -/
lemma isValid_of_shows (run : Run Step (.ofHost h₀) past s) (ex : s.handles y = some x)
    (eg : x.segment? = some g) (em : g.mapping = some m) (role : g.role = .attacher)
    (idle : ¬s.IsDestroying y) :
    x.isValid ∧ x.size = g.size ∧ ∃ k o, s.host.under? m = some (k, o) := by
  have whole := (hasOpened_whole run).handles y x ex
  obtain ⟨g', rfl⟩ | whole := whole
  · cases eg
    cases em
  obtain ⟨size, filed, mapped⟩ := whole g eg
  obtain ⟨σ, kept⟩ := IsKeptFrom.of_run run
  obtain ⟨covers, isWhole⟩ := (kept.handles y x ex).resolve_right (fun busy => idle busy.1) g eg
  obtain ⟨z, -, -, published⟩ := covers.found role m em
  obtain ⟨k, o, sees, -⟩ := kept.under_of_covers covers isWhole em
  have valid : g.isValid := Segment.isValid_iff.2 ⟨filed, mapped, published⟩
  refine ⟨?_, size, k, o, sees⟩
  cases x with
  | segment g' =>
    cases eg
    exact valid
  | facade f => exact (Facade.isValid_of_segment eg).trans valid

/-- A call on a handle that its creator has torn down comes back. -/
lemma comesBack_onHandle {op : Operation} (run : Run Step (.ofHost h₀) past s)
    (le : h₀.objects.length ≤ k) (down : s.host.IsDown k) (awake : u ∉ s.host.queueOn k)
    (ex : s.handles y = some x) (eg : x.segment? = some g) (role : g.role = .attacher)
    (em : g.mapping = some m) (shows : s.host.shows m k) (valid : x.isValid)
    (st : s.Step (.began u (.onHandle y op)) s') :
    s'.ComesBack u 4 (op.Spares g k) fun o => x.EndsAs y g o op := by
  have run' := run.cons st
  cases st with
  | onHandle idle ex' _ _ _ ep | drop idle ex' _ ep =>
    cases ex.symm.trans ex'
    exact comesBack_of_endsWithin run' le down awake role em shows (update_self ..) idle.dead
      (handleCall?_endsWithin role eg em valid ep)

/-- So does a call on a guard. -/
lemma comesBack_onGuard {n : String} {a : Guard} {op : GuardOperation} {f : Facade}
    (run : Run Step (.ofHost h₀) past s) (le : h₀.objects.length ≤ k) (down : s.host.IsDown k)
    (awake : u ∉ s.host.queueOn k) (ea : s.guards u n = some a)
    (ef : s.handles a.handle = some (.facade f)) (eg : f.segment = some g)
    (role : g.role = .attacher) (em : g.mapping = some m) (shows : s.host.shows m k)
    (valid : f.isValid) (st : s.Step (.began u (.onGuard n op)) s') :
    s'.ComesBack u 4 (op.onHandle.Spares g k) fun o => a.EndsAs g o op := by
  have run' := run.cons st
  cases st with
  | onGuard idle ea' ef' =>
    cases ea.symm.trans ea'
    cases ef.symm.trans ef'
    exact comesBack_of_endsWithin run' le down awake role em shows (update_self ..) idle.dead
      (guardOperationCall_endsWithin eg em valid)

/-- Whoever begins a call is idle. -/
lemma Step.idle_of_began {a : Act} (st : s.Step (.began u a) s') : s.IsIdle u := by
  cases st with
  | openHandle idle | onHandle idle | drop idle | onGuard idle => exact idle

end Session

/-- A creator drops or destroys its handle, and none of its calls fails. It writes nothing by that,
and whatever happens from then on, every byte of the payload is what it was before or was written
since. Whoever is parked on the object has parked in the midst of the teardown. The handles on the
object that are left are those of attachers. Every call on them and on the guards that are left
comes back after at most four moves, without ever having to wait: the mutex is given to nobody, and
neither the payload nor any name changes but by a write. All facades among them are valid, and read
and write the payload. (Whoever destroys a handle has it for himself, and a call fails when it is
made, or not at all.) -/
theorem survivors_are_left_in_peace {h₀ : Host} {past mid after : List Deed}
    {s s₁ s₂ s₃ s₄ : Session} {t : ThreadId} {y : String} {x : Handle} {g : Segment} {m : MappingId}
    {k : ObjectId} {op : Operation} {o : Outcome}
    (run : Run Session.PromptStep (.ofHost h₀) past s) (ex : s.handles y = some x)
    (eg : x.segment? = some g) (role : g.role = .creator) (em : g.mapping = some m)
    (shows : s.host.shows m k) (tears : op = .drop ∨ op = .destroy)
    (began : s.PromptStep (.began t (.onHandle y op)) s₁) (run₁ : Run Session.PromptStep s₁ mid s₂)
    (stays : ∀ a o, .returned t a o ∉ mid) (calm : ∀ h r e, .moved t h (.struck r e) ∉ mid)
    (back : s₂.PromptStep (.returned t (.onHandle y op) o) s₃)
    (run₃ : Run Session.PromptStep s₃ after s₄) :
    (∀ d ∈ mid, d.thread = t → ∀ i, d.writes? k i = none) ∧
    s.host.Continues k (fun i => lastWritten k i (after ++ mid)) s₄.host ∧
    (∀ u ∈ s₄.host.parkedOn k, ∃ d ∈ mid, d.parks? k = some u) ∧
    ∀ y' x' g' m', s₄.handles y' = some x' → x'.segment? = some g' → g'.mapping = some m' →
      s₄.host.shows m' k → ¬s₄.IsDestroying y' → g'.role = .attacher ∧
        (∀ u op' s₅, s₄.Step (.began u (.onHandle y' op')) s₅ →
          s₅.ComesBack u 4 (op'.Spares g' k) fun o => x'.EndsAs y' g' o op') ∧
        (∀ u n a op' s₅, s₄.guards u n = some a → a.handle = y' →
          s₄.Step (.began u (.onGuard n op')) s₅ →
            s₅.ComesBack u 4 (op'.onHandle.Spares g' k) fun o => a.EndsAs g' o op') ∧
        ∀ f, x' = .facade f → f.isValid ∧ ∃ o, s₄.host.object? k = some o ∧ ∀ u off,
          (∀ len, ((f.read off len).run u .none [] s₄.host).1.value? =
            some (o.read (Layout.headerSize + off) (min len (f.size.toNat - off)))) ∧
          ∀ bs, ((f.write off bs).run u .none [] s₄.host).1.value? =
              some (min (f.size.toNat - off) bs.length) ∧
            ((f.write off bs).run u .none [] s₄.host).2 = s₄.host.setObject k
              (o.write (Layout.headerSize + off) (bs.take (f.size.toNat - off)).toArray) := by
  have plain {s s' : Session} {past : List Deed} (run : Run Session.PromptStep s past s') :
      Run Session.Step s past s' := run.mono fun _ _ _ st => st.1.1
  have torn : Run Session.Step (.ofHost h₀) _ s₂ := ((plain run).cons began.1.1).trans (plain run₁)
  have whole : Run Session.PromptStep (.ofHost h₀) _ s₄ :=
    (((run.cons began).trans run₁).cons back).trans run₃
  obtain ⟨σ, kept⟩ := Session.IsKeptFrom.of_run (plain run)
  have idle : ¬s.IsDestroying y := by
    rintro ⟨t', c, ec, -, uses⟩
    exact began.1.1.unused_of_teardown tears (.inr ⟨t', c, ec, uses⟩)
  have le : h₀.objects.length ≤ k := Session.le_of_creator (plain run) ex eg role em shows idle
  have taken := Session.dismantled (plain run) ex eg role em shows tears began.1.1 (plain run₁)
    stays calm back.1.1
  obtain ⟨d, mem, down⟩ := taken .mutex
  have left := torn.cons back.1.1
  have down₃ : s₃.host.IsDown k :=
    Session.isDown_of_takesDown left (.tail _ (List.mem_append_left _ mem)) down
  refine ⟨?_, ?_, ?_, ?_⟩
  · intro d mem mine i
    obtain ⟨c, ec, act, -⟩ := began.1.1.call_of_teardown tears ex
    exact Session.writes?_of_teardown ((plain run).cons began.1.1) ec tears act (plain run₁) stays
      mem mine i
  · have goesOn := ((Run.nil.cons began).trans run₁).cons back |>.trans run₃
    have continued := kept.published_run (plain goesOn) k
    have same i : lastWritten k i (after ++ .returned t (.onHandle y op) o ::
        (mid ++ [.began t (.onHandle y op)])) = lastWritten k i (after ++ mid) := by
      have begun : lastWritten k i [.began t (.onHandle y op)] = none := rfl
      rw [lastWritten_append, lastWritten_cons, lastWritten_append, lastWritten_append, begun]
      simp [Deed.writes?]
    simpa only [same] using continued
  · intro u parked
    obtain ⟨d', mem', down'⟩ := taken .condition
    have same : s₃.host = s₂.host := by
      obtain ⟨c, -, -, -, -, rfl⟩ := back.1.1.returned_inv
      exact Session.conclude_host
    have before := (Session.asleep_run left down₃ le (plain run₃)).2 parked
    rw [same] at before
    obtain ⟨later, earlier, rfl⟩ := List.append_of_mem mem'
    rw [List.append_assoc, List.cons_append] at torn
    obtain ⟨e, there, parks⟩ := Session.parks_of_takesDown torn le down' before
    exact ⟨e, List.mem_append_left _ there, parks⟩
  · intro y' x' g' m' ex' eg' em' shows' idle'
    have down₄ := Session.isDown_run left down₃ (plain run₃)
    have awake {u : ThreadId} {a : Act} {s₅ : Session} (st : s₄.Step (.began u a) s₅) :
        u ∉ s₄.host.queueOn k :=
      (Session.HasProperSleepers.of_run whole).awake st.idle_of_began.calls le
    have past : d ∈ after ++ .returned t (.onHandle y op) o ::
        (mid ++ .began t (.onHandle y op) :: past) :=
      List.mem_append_right _ (.tail _ (List.mem_append_left _ mem))
    have role' := Session.attacher_of_takesDown (plain whole) past down ex' eg' em' shows' idle'
    obtain ⟨valid, size, k', o, sees⟩ :=
      Session.isValid_of_shows (plain whole) ex' eg' em' role' idle'
    obtain ⟨shown, here⟩ := Host.under?_eq_some_iff.1 sees
    obtain rfl := Host.shows_unique shows' shown
    refine ⟨role', ?_, ?_, ?_⟩
    · intro u op' s₅ st
      exact Session.comesBack_onHandle (plain whole) le down₄ (awake st) ex' eg' role' em' shows'
        valid st
    · rintro u n a op' s₅ ea rfl st
      obtain ⟨-, -, f, ef, -⟩ := (Session.IsLent.of_run (plain whole)).guards u n a ea
      cases ex'.symm.trans ef
      exact Session.comesBack_onGuard (plain whole) le down₄ (awake st) ea ef eg' role' em' shows'
        valid st
    · rintro f rfl
      have size : f.size = g'.size := size
      have ed : f.data = some m' := by
        rw [Facade.data, show f.segment = some g' from eg', Option.bind_some, em']
      rw [size]
      exact ⟨valid, o, here, fun u off => ⟨run_read valid eg' ed sees off,
        run_write valid eg' ed sees off⟩⟩

namespace Session

/-- Nobody destroys a handle. -/
def IsGentle (s : Session) : Prop :=
  ∀ t c y, s.calls t = some c → c.act ≠ .onHandle y .destroy

end Session

/-- Whether a deed is a step in which no call fails by itself, and nobody begins to destroy a
handle. -/
def Deed.isGentle : Deed → Bool
  | .began _ (.onHandle _ .destroy) => false
  | d => d.isCalm

namespace Session

variable {s s' : Session} {d : Deed} {past : List Deed}

/-- Where nobody destroys a handle and no call fails, every step is prompt. -/
lemma Step.promptly (st : s.Step d s') (gentle : s.IsGentle) (calm : d.isGentle) :
    s.PromptStep d s' ∧ s'.IsGentle := by
  have begin {s₀ : Session} {t : ThreadId} {c : Underway} (same : s₀.calls = s.calls)
      (mine : ∀ y, c.act ≠ .onHandle y .destroy) : (s₀.begin t c).IsGentle := by
    intro t' c' y ec
    obtain ⟨-, rfl⟩ | ⟨-, ec⟩ := begin_calls_inv ec
    · exact mine y
    · exact gentle t' c' y (same ▸ ec)
  refine ⟨⟨⟨st, ?_⟩, ?_⟩, ?_⟩
  · rintro t y op - ⟨t', c, ec, act, -⟩
    exact gentle t' c y ec act
  · rintro t h r e rfl
    cases calm
  · cases st with
    | openHandle | onGuard => exact begin rfl nofun
    | drop => exact begin rfl nofun
    | @onHandle t h op =>
      refine begin rfl ?_
      rintro y ⟨⟩
      cases calm
    | @move t c m p' h' ec =>
      intro t' c' y ec'
      obtain ⟨-, rfl⟩ | ⟨-, ec'⟩ := move_calls_inv ec'
      · exact gentle t c y ec
      · exact gentle t' c' y ec'
    | finish => exact fun t' c' y ec => gentle t' c' y (conclude_calls_inv ec).2
    | die => exact gentle

lemma promptly_run (run : Run Step s past s') (gentle : s.IsGentle) (calm : ∀ d ∈ past, d.isGentle) :
    Run PromptStep s past s' ∧ s'.IsGentle := by
  induction run with
  | nil => exact ⟨.nil, gentle⟩
  | cons run st ih =>
    obtain ⟨run, gentle⟩ := ih fun d mem => calm d (.tail _ mem)
    obtain ⟨st, gentle⟩ := st.promptly gentle (calm _ (.head _))
    exact ⟨run.cons st, gentle⟩

/-- The attacher has the lock. -/
def holding : List Deed × Session :=
  let c := Underway.ofUse "b" .lock guest (giving guest.lock .status)
  after joined.1 1 c.act (joined.2.begin 1 c) 3

/-- It has written a byte. -/
def writing : List Deed × Session :=
  let c := Underway.ofUse "b" (.write 0 [7]) guest
    ((handleCall? 1 "b" guest (.write 0 [7])).getD (.ret ⟨.ok, .none⟩))
  after holding.1 1 c.act (holding.2.begin 1 c) 3

/-- The creator begins to drop its facade. -/
def leaving : Session :=
  { writing.2 with handles := update writing.2.handles "a" none }.begin 0
    (.ofDrop "a" (.facade (.ofSegment 8 .standard (.numbered 0))))

/-- It has torn its segment down, and has yet to come back. -/
def leaves : List Deed × Session :=
  play (List.replicate 7 (0, none)) [] leaving

/-- It has come back. -/
def left : Session :=
  leaves.2.conclude 0 ⟨.ok, .none⟩

lemma run_writing : Run Step (.ofHost .empty) writing.1 writing.2 := by
  have locks : joined.2.Step (.began 1 (.onHandle "b" .lock)) _ :=
    .onHandle ⟨rfl, rfl⟩ rfl nofun nofun nofun rfl
  have resting t : holding.2.calls t = none := by
    match t with
    | 0 | 1 | t + 2 => rfl
  have writes : holding.2.Step (.began 1 (.onHandle "b" (.write 0 [7]))) _ :=
    .onHandle ⟨rfl, rfl⟩ rfl (fun _ => not_isInUse (fun _ _ => rfl) resting) nofun nofun rfl
  exact run_after (run_after run_joined locks 3) writes 3

end Session

/-- A creator drops its facade while somebody else has the lock. From then on nobody is given the
lock any more, and what was written is there. -/
theorem a_payload_outlives_its_creator :
    ∃ past mid, Run Session.PromptStep (.ofHost .empty) past Session.writing.2 ∧
      Session.writing.2.PromptStep (.began 0 (.onHandle "a" .drop)) Session.leaving ∧
      Run Session.PromptStep Session.leaving mid Session.leaves.2 ∧
      Session.leaves.2.PromptStep (.returned 0 (.onHandle "a" .drop) ⟨.ok, .none⟩) Session.left ∧
      (∀ u s, Session.left.Step (.began u (.onHandle "b" .lock)) s →
        s.ComesBack u 4 (fun h h' => h' = h) fun o => some ⟨.status .unavailable, .none⟩ = some o) ∧
      ∃ f o, Session.guest = .facade f ∧ Session.left.host.object? 0 = some o ∧
        ((f.read 0 2).run 1 .none [] Session.left.host).1.value? = some (o.read 96 2) ∧
        o.read 96 2 = [7, 0] := by
  have calm : ∀ d ∈ Session.writing.1, d.isGentle := List.all_eq_true.1 rfl
  have gentle : Session.IsGentle (.ofHost .empty) := by
    intro t c y ec
    cases ec
  obtain ⟨run, gentle⟩ := Session.promptly_run Session.run_writing gentle calm
  have resting t : Session.writing.2.calls t = none := by
    match t with
    | 0 | 1 | t + 2 => rfl
  have drops : Session.writing.2.Step (.began 0 (.onHandle "a" .drop)) Session.leaving :=
    .drop (s := Session.writing.2) (t := 0) (h := "a") ⟨rfl, rfl⟩ rfl
      (Session.not_isInUse (fun _ _ => rfl) resting) rfl
  obtain ⟨began, gentle⟩ := drops.promptly gentle rfl
  have calm₁ : ∀ d ∈ Session.leaves.1, d.isGentle := List.all_eq_true.1 rfl
  have moves : ∀ d ∈ Session.leaves.1, d.isMove := List.all_eq_true.1 rfl
  have goes : Run Session.Step Session.leaving Session.leaves.1 Session.leaves.2 :=
    Session.run_play .nil _
  obtain ⟨run₁, gentle⟩ := Session.promptly_run goes gentle calm₁
  have ended := Session.Step.finish (s := Session.leaves.2) (t := 0) rfl rfl rfl
  obtain ⟨back, -⟩ := ended.promptly gentle rfl
  have resting' t : Session.left.calls t = none := by
    match t with
    | 0 | 1 | t + 2 => rfl
  have idle : ¬Session.left.IsDestroying "b" := by
    rintro ⟨t, c, ec, -⟩
    cases (resting' t).symm.trans ec
  have shows : Session.writing.2.host.shows 0 0 := rfl
  have stays a o : .returned 0 a o ∉ Session.leaves.1 := by
    intro mem
    cases moves _ mem
  have spared h r e : .moved 0 h (.struck r e) ∉ Session.leaves.1 := by
    intro mem
    cases calm₁ _ mem
  obtain ⟨-, -, -, left⟩ := survivors_are_left_in_peace run rfl rfl rfl rfl shows (.inl rfl) began
    run₁ stays spared back .nil
  obtain ⟨-, calls, -, facades⟩ := left "b" Session.guest _ 2 rfl rfl rfl rfl idle
  obtain ⟨-, o, here, bytes⟩ := facades _ rfl
  refine ⟨_, _, run, began, run₁, back, ?_, _, o, rfl, here, (bytes 1 0).1 2, ?_⟩
  · intro u s st
    exact calls u .lock s st
  · cases here
    rfl

end SharedSegment
