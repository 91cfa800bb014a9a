import SharedSegment.Proofs.Ownership.Custom
import SharedSegment.Proofs.Session

/-!
# Dead owners are reported once

In a session in which threads lock, wait, notify and die as they like, on handles of one object,
every call that comes back tells the truth of whom it took the mutex from
(`returns_are_truthful`). `Session.IsOrdered` is the invariant: the owner of the mutex goes with the
tenure, and every call under way ensures that its end fits what the deeds tell of it so far.
-/

namespace SharedSegment
open Function Scenario

def Scenario.Handle.IsBound (y : Handle) (h : Host) (k : ObjectId) : Prop :=
  ∃ g m, y.segment? = some g ∧ g.mapping = some m ∧ h.shows m k

/-- The segment that a call was made on. -/
def Underway.segment? (c : Underway) : Option Segment :=
  c.subject.bind Handle.segment?

/-- Whether a deed belongs to a session in which threads only lock, wait, notify and die, and no
call fails by itself. -/
def Deed.isSync : Deed → Bool
  | .began _ a => a.isSync
  | .moved _ _ (.struck ..) => false
  | _ => true

/-- How it stands in a session of locking, waiting and notifying on one object. -/
structure Session.IsOrdered (h₀ : Host) (k : ObjectId) (past : List Deed) (x : Hold)
    (s : Session) : Prop where
  keeps : Keeps h₀ k x s.host
  agrees : (tenure k past).Agrees x
  handles : ∀ h y, s.handles h = some y → y.IsBound h₀ k
  idle : ∀ t, s.IsIdle t → x.stand t ≠ .heir
  calls : ∀ t c, s.calls t = some c → s.dead t = false →
    ∃ y g, account k t past = some y ∧ y.act = c.act ∧ c.segment? = some g ∧
      c.program.Ensures (.ownership fun m => h₀.shows m k) (MayEnd g c.act y.owner)
        ⟨x.stand t, y.verdicts, y.records⟩

/-- A thread is the owner exactly when its tenure lasts, unless it is the heir. -/
lemma Tenure.Agrees.owner_eq {tn : Tenure} {x : Hold} {t : ThreadId} (agree : tn.Agrees x)
    (ready : x.stand t ≠ .heir) : (x.stand t == .owner) = decide (tn = .running t) := by
  cases agree with
  | @held t' =>
    by_cases et : t' = t <;> simp [Hold.stand, et]
  | @inconsistent t' =>
    have ne : t' ≠ t := by
      rintro rfl
      simp [Hold.stand] at ready
    simp [Hold.stand, ne]
  | _ => simp [Hold.stand]

namespace Session.IsOrdered

variable {h₀ : Host} {k : ObjectId} {past : List Deed} {x : Hold} {s s' : Session} {t : ThreadId}

/-- A call begins that ensures what it may end with. -/
lemma begin {c : Underway} {g} (ord : s.IsOrdered h₀ k past x) (idle : s.IsIdle t)
    (eg : c.segment? = some g)
    (en : c.program.Ensures (.ownership fun m => h₀.shows m k)
      (MayEnd g c.act (x.stand t == .owner)) ⟨x.stand t, [], []⟩) :
    (s.begin t c).IsOrdered h₀ k (.began t c.act :: past) x := by
  have owner := ord.agrees.owner_eq (ord.idle t idle)
  refine ⟨ord.keeps, ord.agrees, ord.handles, ?_, ?_⟩
  · intro t' idle'
    refine ord.idle t' ⟨?_, idle'.dead⟩
    by_cases et : t' = t
    · exact et ▸ idle.calls
    · simpa [et] using idle'.calls
  · intro t' c' ec dead
    by_cases et : t' = t
    · subst et
      obtain rfl : c = c' := by simpa using ec
      rw [owner] at en
      exact ⟨_, g, if_pos rfl, rfl, eg, en⟩
    · obtain ⟨y, g', ey, rest⟩ := ord.calls t' c' (by simpa [et] using ec) dead
      exact ⟨y, g', (if_neg (Ne.symm et)).trans ey, rest⟩

/-- What a thread has to show of a step in its call. -/
lemma of_move {c : Underway} {m p' h' x' y g} (ord : s.IsOrdered h₀ k past x)
    (ec : s.calls t = some c) (dead : s.dead t = false) (keeps : Keeps h₀ k x' h')
    (agrees : (tenure k (.moved t s.host m :: past)).Agrees x')
    (others : ∀ t' ≠ t, x'.stand t' = x.stand t')
    (ey : account k t (.moved t s.host m :: past) = some y) (ea : y.act = c.act)
    (eg : c.segment? = some g)
    (en : p'.Ensures (.ownership fun m => h₀.shows m k) (MayEnd g c.act y.owner)
      ⟨x'.stand t, y.verdicts, y.records⟩) :
    (s.move t c p' h').IsOrdered h₀ k (.moved t s.host m :: past) x' := by
  refine ⟨keeps, agrees, ord.handles, ?_, ?_⟩
  · intro t' idle'
    have ne : t' ≠ t := by
      rintro rfl
      simpa using idle'.calls
    rw [others t' ne]
    exact ord.idle t' ⟨by simpa [ne] using idle'.calls, idle'.dead⟩
  · intro t' c' ec' dead'
    by_cases et : t' = t
    · subst et
      obtain rfl : { c with program := p' } = c' := by simpa using ec'
      exact ⟨y, g, ey, ea, eg, en⟩
    · rw [others t' et]
      obtain ⟨y', g', ey', rest⟩ := ord.calls t' c' (by simpa [et] using ec') dead'
      exact ⟨y', g', (if_neg (Ne.symm et)).trans ey', rest⟩

/-- A thread makes a step in its call. -/
lemma move {c : Underway} {m p' h'} (ord : s.IsOrdered h₀ k past x) (ec : s.calls t = some c)
    (dead : s.dead t = false) (st : c.program.Step t s.host m p' h')
    (sync : (Deed.moved t s.host m).isSync) :
    ∃ x', (s.move t c p' h').IsOrdered h₀ k (.moved t s.host m :: past) x' := by
  obtain ⟨y, g, ey, ea, eg, en⟩ := ord.calls t c ec dead
  obtain ⟨act, uses, subject, p⟩ := c
  have ey' : account k t (.moved t s.host m :: past) = some
      { y with
        verdicts := y.verdicts ++ verdicts k past (.moved t s.host m)
        records := y.records ++ (Deed.moved t s.host m).record?.toList } := by
    simp [account, ey]
  cases st with
  | tell =>
    refine ⟨x, ord.of_move ec dead ord.keeps ord.agrees (fun _ _ => rfl) ey' ea eg ?_⟩
    rename_i o
    cases o <;>
      simpa [Protocol.ownership, Course.record, verdicts, Deed.takes?, Deed.record?] using en
  | answer e =>
    obtain ⟨x', c', hd⟩ := ord.keeps.answer ord.agrees rfl en.1 e
    refine ⟨x', ord.of_move ec dead hd.keeps hd.agrees hd.others ey' ea eg ?_⟩
    -- The answer is one that the protocol knows, so the rest of the call ensures the same end.
    have en' := en.2 _ c' hd.answers
    obtain ⟨stand, vs, rs⟩ := c'
    obtain rfl := hd.stand
    obtain rfl := hd.verdicts
    obtain rfl := hd.records
    simpa [Deed.record?] using en'
  | wait e =>
    refine ⟨x, ord.of_move ec dead (ord.keeps.wait en.1 e) ord.agrees (fun _ _ => rfl) ey' ea eg ?_⟩
    simpa [verdicts, Deed.takes?, Deed.record?] using en
  | strike e => cases sync

/-- A thread comes back from its call. -/
lemma conclude {c : Underway} {o} (ord : s.IsOrdered h₀ k past x) (ec : s.calls t = some c)
    (dead : s.dead t = false) (ep : c.program = .ret o) :
    (s.conclude t o).IsOrdered h₀ k (.returned t c.act o :: past) x := by
  obtain ⟨y, g, ey, ea, eg, en⟩ := ord.calls t c ec dead
  rw [ep] at en
  refine ⟨?_, ord.agrees, ?_, ?_, ?_⟩
  · rw [conclude_host]
    exact ord.keeps
  · rw [conclude_handles en.spares]
    exact ord.handles
  · intro t' idle'
    by_cases et : t' = t
    · subst et
      exact en.ready
    · exact ord.idle t' ⟨by simpa [et] using idle'.calls, by simpa using idle'.dead⟩
  · intro t' c' ec' dead'
    have ne : t' ≠ t := by
      rintro rfl
      simp at ec'
    exact ord.calls t' c' (by simpa [ne] using ec') (by simpa using dead')

lemma bury (ord : s.IsOrdered h₀ k past x) :
    ∃ x', (s.bury t).IsOrdered h₀ k (.died t :: past) x' := by
  obtain ⟨x', keeps, agrees, others⟩ := ord.keeps.bury ord.agrees (t := t)
  refine ⟨x', keeps, agrees, ord.handles, ?_, ?_⟩
  · intro t' idle'
    have ne : t' ≠ t := by
      rintro rfl
      simpa using idle'.dead
    rw [others t' ne]
    exact ord.idle t' ⟨idle'.calls, by simpa [ne] using idle'.dead⟩
  · intro t' c' ec' dead'
    have ne : t' ≠ t := by
      rintro rfl
      simp at dead'
    rw [others t' ne]
    exact ord.calls t' c' ec' (by simpa [ne] using dead')

/-- One step keeps a session in order. -/
theorem step {d : Deed} (ord : s.IsOrdered h₀ k past x) (st : s.Step d s') (sync : d.isSync) :
    ∃ x', s'.IsOrdered h₀ k (d :: past) x' := by
  cases st with
  | openHandle | drop => cases sync
  | @onHandle t h op y p idle ey _ _ _ ep =>
    obtain ⟨g, m, eg, em, sees⟩ := ord.handles h y ey
    refine ⟨x, ord.begin (c := ⟨.onHandle h op, some h, some y, p⟩) idle eg ?_⟩
    exact ensures_handleCall eg em sees (ord.idle t idle) sync ep
  | @onGuard t g y f op idle _ ey =>
    obtain ⟨g', m, eg, em, sees⟩ := ord.handles _ _ ey
    refine ⟨x, ord.begin (c := ⟨.onGuard g op, some y.handle, some (.facade f), _⟩) idle eg ?_⟩
    exact ensures_guardCall eg em sees (ord.idle t idle) sync
  | move ec dead st => exact ord.move ec dead st sync
  | finish ec dead ep => exact ⟨x, ord.conclude ec dead ep⟩
  | die _ => exact ord.bury

/-- Whoever keeps to the protocol never finds the mutex lost. -/
lemma errno_ne {d : Deed} (ord : s.IsOrdered h₀ k past x) (st : s.Step d s') (sync : d.isSync) :
    d.errno? ≠ some .enotrecoverable := by
  cases st with
  | @move t c m p' h' ec dead st =>
    obtain ⟨y, g, -, -, -, en⟩ := ord.calls t c ec dead
    obtain ⟨act, uses, subject, p⟩ := c
    cases st with
    | tell | wait => nofun
    | strike => cases sync
    | @answer r next _ a _ e =>
      obtain ⟨x', c', hd⟩ := ord.keeps.answer ord.agrees rfl en.1 e
      exact ownership_errno_ne hd.answers
  | _ => nofun

end Session.IsOrdered

/-- A session on handles of one object, whose mutex is live and free, with no call under way. -/
structure Session.IsOn (s : Session) (k : ObjectId) : Prop where
  object : ∃ o, s.host.object? k = some o ∧ o.mutex.life = .live ∧ o.mutex.hold = .free
  handles : ∀ h y, s.handles h = some y → y.IsBound s.host k
  calls : ∀ t, s.calls t = none

/-- A run keeps a session in order, and nobody in it finds the mutex lost. -/
theorem ordered_run {s₀ s : Session} {k : ObjectId} {past : List Deed} (start : s₀.IsOn k)
    (run : Run Session.Step s₀ past s) (sync : ∀ d ∈ past, d.isSync) :
    (∃ x, s.IsOrdered s₀.host k past x) ∧ ∀ d ∈ past, d.errno? ≠ some .enotrecoverable := by
  induction run with
  | nil =>
    refine ⟨⟨.free, ⟨rfl, start.object⟩, .none, start.handles, ?_, ?_⟩, by simp⟩
    · simp [Hold.stand]
    · intro t c ec
      rw [start.calls t] at ec
      cases ec
  | cons run st ih =>
    have sync' := List.forall_mem_cons.1 sync
    obtain ⟨⟨x, ord⟩, errno⟩ := ih sync'.2
    exact ⟨ord.step st sync'.1, List.forall_mem_cons.2 ⟨ord.errno_ne st sync'.1, errno⟩⟩

/-- Whatever threads do that lock, wait, notify and die on handles of one object: a call that comes
back has told, for each time that it took the mutex, whether the tenure before was cut short by the
death of its owner, and has recorded each such death once; and nobody ever finds the mutex lost. -/
theorem dead_owners_are_reported_once {s₀ s : Session} {k : ObjectId} {past : List Deed}
    (start : s₀.IsOn k) (run : Run Session.Step s₀ past s) (sync : ∀ d ∈ past, d.isSync) :
    (∀ t a o s', s.Step (.returned t a o) s' →
      ∃ c g y, s.calls t = some c ∧ c.segment? = some g ∧ account k t past = some y ∧
        Truthful g a y.owner y.verdicts y.records o.result) ∧
    ∀ d ∈ past, d.errno? ≠ some .enotrecoverable := by
  obtain ⟨⟨x, ord⟩, errno⟩ := ordered_run start run sync
  refine ⟨?_, errno⟩
  intro t a o s' st
  obtain ⟨c, ec, alive, rfl, ep, -⟩ := st.returned_inv
  obtain ⟨y, g, ey, ea, eg, en⟩ := ord.calls t c ec alive
  rw [ep] at en
  exact ⟨c, g, y, ec, eg, ey, en.truthful⟩

/-- A session with two facades on one segment. -/
def Session.sample : Session :=
  { Session.empty with
    host := .sample
    handles := fun h =>
      if h = "a" then some (.facade (.sample 0))
      else if h = "b" then some (.facade (.sample 1)) else none }

lemma Session.sample_isOn : Session.sample.IsOn 0 := by
  refine ⟨⟨_, rfl, rfl, rfl⟩, ?_, fun _ => rfl⟩
  intro h y ey
  unfold sample at ey
  simp only at ey
  split at ey
  · cases ey
    exact ⟨_, 0, rfl, rfl, rfl⟩
  · split at ey
    · cases ey
      exact ⟨_, 1, rfl, rfl, rfl⟩
    · cases ey

/-- A call that locks through one of them. -/
def Underway.locking (h : String) (m : MappingId) : Underway :=
  ⟨.onHandle h .lock, some h, some (.facade (.sample m)), giving (Facade.sample m).lock .status⟩

lemma Session.step_locking {s : Session} {t : ThreadId} {h : String} {m : MappingId}
    (idle : s.IsIdle t) (eh : s.handles h = some (.facade (.sample m))) :
    s.Step (.began t (.onHandle h .lock)) (s.begin t (.locking h m)) :=
  .onHandle idle eh nofun nofun nofun rfl

/-- A thread that locks after the owner has died is told so. -/
theorem death_of_an_owner_is_reported :
    ∃ past s s' c g y, Run Session.Step .sample past s ∧ (∀ d ∈ past, d.isSync) ∧
      s.Step (.returned 1 (.onHandle "b" .lock) ⟨.status .ownerDied, .none⟩) s' ∧
      s.calls 1 = some c ∧ c.segment? = some g ∧ account 0 1 past = some y ∧
      Truthful g (.onHandle "b" .lock) y.owner y.verdicts y.records (.status .ownerDied) := by
  let locked := Session.play [(0, none), (0, none)] [.began 0 (.onHandle "a" .lock)]
    (Session.sample.begin 0 (.locking "a" 0))
  let both := Session.play [(1, none), (1, none), (1, none)]
    (.began 1 (.onHandle "b" .lock) :: .died 0 :: locked.1)
    ((locked.2.bury 0).begin 1 (.locking "b" 1))
  have first : Run Session.Step .sample locked.1 locked.2 :=
    Session.run_play (.cons .nil (Session.step_locking ⟨rfl, rfl⟩ rfl)) _
  have died : Run Session.Step .sample (.died 0 :: locked.1) (locked.2.bury 0) :=
    .cons first (.die rfl)
  have run : Run Session.Step .sample both.1 both.2 :=
    Session.run_play (.cons died (Session.step_locking ⟨rfl, rfl⟩ rfl)) _
  have sync : ∀ d ∈ both.1, d.isSync := by decide
  have ended : both.2.calls 1 =
      some { Underway.locking "b" 1 with program := .ret ⟨.status .ownerDied, .none⟩ } := rfl
  have back := Session.Step.finish ended rfl rfl
  obtain ⟨c, g, y, ec, eg, ey, truth⟩ :=
    (dead_owners_are_reported_once Session.sample_isOn run sync).1 1 _ _ _ back
  exact ⟨_, _, _, c, g, y, run, sync, back, ec, eg, ey, truth⟩

end SharedSegment
