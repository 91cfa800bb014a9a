import SharedSegment.Proofs.Aftermath.Survival
import SharedSegment.Proofs.Balance.Grasp

/-!
# Grasps in a session

While a call that locks, waits or unlocks is under way, what it knows of the mutex goes with the
hold on it, whatever other threads do and whatever fails (`Session.Engages.grasp_run`). The deeds of
others leave the stand of a thread as it is (`Grasp.Fits.others`), and those of its own are answered
as the protocol of grasps says (`Grasp.Fits.answer`, `Grasp.Fits.strike`).
-/

namespace SharedSegment
open Function Scenario Program

/-- A lock that fails says falsely that its thread was left with the mutex of an object. -/
def Deed.Feigns (k : ObjectId) : Deed → Prop
  | .moved t h (.struck (.lock m) e) | .moved t h (.struck (.park m) e) =>
    h.shows m k ∧ e = .eownerdead ∧ h.owner? k ≠ some t
  | _ => False

/-- A thread is denied its right: it has the mutex of an object and cannot give it back, or it has
it from a dead owner and cannot make it consistent. -/
def Deed.Denies (k : ObjectId) : Deed → Prop
  | .moved t h (.answered (.unlock m) a) =>
    h.shows m k ∧ h.owner? k = some t ∧ ¬isGranted a
  | .moved t h (.struck (.unlock m) _) =>
    h.shows m k ∧ h.owner? k = some t
  | .moved t h (.answered (.makeConsistent m) a) =>
    h.shows m k ∧ h.hold? k = some (.inconsistent t) ∧ ¬isGranted a
  | .moved t h (.struck (.makeConsistent m) _) =>
    h.shows m k ∧ h.hold? k = some (.inconsistent t)
  | _ => False

namespace Grasp

/-- A grasp is that of a thread on a mutex. -/
structure Fits (c : Grasp) (t : ThreadId) (x : Hold) : Prop where
  stand : c.stand ≠ .out ↔ x.owner? = some t
  heir : x = .inconsistent t → c.stand = .heir

/-- How a grasp goes on with a deed that leaves some hold on the mutex. -/
structure Follows (c c' : Grasp) (k : ObjectId) (t : ThreadId) (d : Deed) (y : Hold) : Prop where
  fits : c'.Fits t y
  kept : c'.kept ↔ c.kept ∧ d.gives? k ≠ some t

variable {k : ObjectId} {t : ThreadId} {d : Deed} {x y : Hold} {c : Grasp}
  {a : Except Errno Unit}

/-- Every thread has some grasp of a mutex when it begins a call. -/
lemma exists_fits (x : Hold) (t : ThreadId) :
    ∃ c : Grasp, c.Fits t x ∧ (c.kept ↔ x.owner? = some t) := by
  by_cases heir : x = .inconsistent t
  · subst heir
    exact ⟨⟨.heir, true⟩, ⟨by simp [Hold.owner?], fun _ => rfl⟩, by simp [Hold.owner?]⟩
  · by_cases owns : x.owner? = some t
    · exact ⟨⟨.owner, true⟩, ⟨by simp [owns], fun same => absurd same heir⟩, by simp [owns]⟩
    · exact ⟨⟨.out, false⟩, ⟨by simp [owns], fun same => absurd same heir⟩, by simp [owns]⟩

namespace Fits

/-- Who neither gives the mutex back nor has it changed goes on as it was. -/
lemma stays (fits : c.Fits t y) (keeps : d.gives? k ≠ some t) : c.Follows c k t d y :=
  ⟨fits, (and_iff_left keeps).symm⟩

lemma drop (free : y.owner? = none) (gives : d.gives? k = some t) : c.Follows drop k t d y := by
  refine ⟨⟨?_, ?_⟩, ?_⟩
  · rw [free]
    exact iff_of_false (fun own => own rfl) nofun
  · rintro rfl
    cases free
  · exact iff_of_false nofun fun both => both.2 gives

/-- The deeds of others leave a thread the mutex, or leave it without. -/
lemma others (fits : c.Fits t x) (shifts : d.Shifts k x y) (ne : d.thread ≠ t) :
    c.Follows c k t d y := by
  have keeps : d.gives? k ≠ some t := fun gives => ne (Deed.thread_of_gives? gives)
  have leaves : d.takes? k ≠ some t := fun takes => ne (Deed.thread_of_takes? takes)
  refine stays ⟨fits.stand.trans ⟨?_, ?_⟩, ?_⟩ keeps
  · intro owns
    have hands := shifts.hands
    rw [owns] at hands
    refine hands.owns keeps ?_
    rintro rfl
    exact ne rfl
  · intro owns
    by_contra away
    exact shifts.hands.away away leaves owns
  · rintro rfl
    cases shifts with
    | spares => exact fits.heir rfl
    | inherits takes => exact absurd takes leaves

/-- A thread attempts to take the mutex. -/
lemma attempt (fits : c.Fits t x) (shifts : d.Shifts k x y)
    (takes : d.takes? k = if isTaken a then some t else none) (gives : d.gives? k = none)
    (other : ¬d.settles k) (errno : ∀ e, d.errno? = some e ↔ a = .error e)
    (alive : ∀ u, d ≠ .died u) :
    ∃ c', (c.stand = .out ∧ (∃ died, a = takenFrom died ∧ c' = c.take died) ∨
      c' = c ∧ ¬isTaken a) ∧ c.Follows c' k t d y := by
  have keeps : d.gives? k ≠ some t := by simp [gives]
  cases shifts with
  | spares takes' =>
    have refused : ¬isTaken a := by
      intro taken
      rw [if_pos taken] at takes
      cases takes'.symm.trans takes
    exact ⟨c, .inr ⟨rfl, refused⟩, fits.stays keeps⟩
  | @takes u takes' calm =>
    obtain ⟨-, rfl⟩ : isTaken a ∧ t = u := by simpa [takes] using takes'
    cases a with
    | error e => cases calm.symm.trans ((errno e).2 rfl)
    | ok =>
      have out : c.stand = .out := by simpa [Hold.owner?] using fits.stand
      refine ⟨c.take false, .inl ⟨out, false, rfl, rfl⟩, ⟨?_, by rintro ⟨⟩⟩,
        (and_iff_left keeps).symm⟩
      exact iff_of_true (take_stand_ne false) rfl
  | @inherits u takes' dead =>
    obtain ⟨-, rfl⟩ : isTaken a ∧ t = u := by simpa [takes] using takes'
    have out : c.stand = .out := by simpa [Hold.owner?] using fits.stand
    refine ⟨c.take true, .inl ⟨out, true, (errno _).1 dead, rfl⟩, ⟨?_, fun _ => rfl⟩,
      (and_iff_left keeps).symm⟩
    exact iff_of_true (take_stand_ne true) rfl
  | settles settles => exact absurd settles other
  | gives gives' | forfeits gives' => cases gives.symm.trans gives'
  | dies died => exact absurd died (alive _)

/-- A thread gives the mutex back, or is refused. -/
lemma release (fits : c.Fits t x) (shifts : d.Shifts k x y)
    (gives : d.gives? k = if isGranted a then some t else none) (takes : d.takes? k = none)
    (other : ¬d.settles k) (alive : ∀ u, d ≠ .died u) :
    c.stand ≠ .out ∧ a = .ok () ∧ c.Follows .drop k t d y ∨ ¬isGranted a ∧ c.Follows c k t d y := by
  have granted {u : ThreadId} (gives' : d.gives? k = some u) : a = .ok () ∧ u = t := by
    cases a with
    | ok => exact ⟨rfl, (Option.some.inj (gives.symm.trans gives')).symm⟩
    | error e => cases gives.symm.trans gives'
  cases shifts with
  | spares _ gives' =>
    refine .inr ⟨?_, fits.stays (by simp [gives'])⟩
    intro granted
    rw [if_pos granted] at gives
    cases gives'.symm.trans gives
  | gives gives' =>
    obtain ⟨rfl, rfl⟩ := granted gives'
    exact .inl ⟨fits.stand.2 rfl, rfl, drop rfl gives'⟩
  | forfeits gives' =>
    obtain ⟨rfl, rfl⟩ := granted gives'
    exact .inl ⟨fits.stand.2 rfl, rfl, drop rfl gives'⟩
  | takes takes' | inherits takes' => cases takes.symm.trans takes'
  | settles settles => exact absurd settles other
  | dies died => exact absurd died (alive _)

/-- A thread makes the mutex consistent. -/
lemma settle (fits : c.Fits t x) (shifts : d.Shifts k x y) (settles : d.settles k)
    (alive : ∀ u, d ≠ .died u) : c.Follows c.settle k t d y := by
  obtain ⟨takes, gives⟩ := Deed.silent_of_settles settles
  have keeps : d.gives? k ≠ some t := by simp [gives]
  cases shifts with
  | spares _ _ calm =>
    refine ⟨⟨(not_congr settle_stand_iff).trans fits.stand, ?_⟩, (and_iff_left keeps).symm⟩
    intro heir
    exact absurd heir (calm settles t)
  | settles =>
    exact ⟨⟨(not_congr settle_stand_iff).trans fits.stand, by rintro ⟨⟩⟩,
      (and_iff_left keeps).symm⟩
  | takes takes' | inherits takes' => cases takes.symm.trans takes'
  | gives gives' | forfeits gives' => cases gives.symm.trans gives'
  | dies died => exact absurd died (alive _)

end Fits
end Grasp

lemma Mutex.unlock_ne_eownerdead (x : Mutex) (t : ThreadId) :
    (x.unlock t).1 ≠ .error .eownerdead := by
  unfold unlock
  split
  case h_1 | h_2 => nofun
  case h_3 => split_ifs <;> nofun

namespace Host

variable {h h' : Host} {t : ThreadId} {m : MappingId} {k : ObjectId}

/-- Parking is never refused with the mutex. -/
lemma granted_of_park {a : Except Errno Unit} (setUp : h.IsSetUp k) (shows : h.shows m k)
    (e : h.step t (.park m) = .done a h') (taken : isTaken a) : isGranted a := by
  obtain ⟨o, here, set⟩ := setUp
  cases (step_park (under?_eq_some_iff.2 ⟨shows, here⟩)).symm.trans e
  have refused := o.mutex.unlock_ne_eownerdead t
  unfold park at taken ⊢
  cases eu : o.mutex.unlock t with
  | mk a x =>
    rw [eu] at taken refused
    cases a with
    | ok => rfl
    | error e =>
      obtain rfl : e = .eownerdead := of_decide_eq_true taken
      exact absurd rfl refused

end Host

section
variable {h h' : Host} {t : ThreadId} {m : MappingId} {k : ObjectId} {x y : Hold} {c : Grasp}
  {r : Request} {sincere respected : Prop}

/-- An answer to a thread is one that the protocol of grasps knows. -/
lemma Grasp.Fits.answer {a : r.Answer} (fits : c.Fits t x) (setUp : h.IsSetUp k)
    (shows : h.shows m k) (before : h.hold? k = some x) (e : h.step t r = .done a h')
    (may : (Protocol.grasp m sincere respected).Permits c r)
    (shifts : (Deed.moved t h (.answered r a)).Shifts k x y)
    (just : respected → ¬(Deed.moved t h (.answered r a)).Denies k) :
    ∃ c', (Protocol.grasp m sincere respected).Answers c r a c' ∧
      c.Follows c' k t (.moved t h (.answered r a)) y := by
  have owns : h.owner? k = x.owner? := by rw [Host.owner?_eq, before, Option.bind_some]
  have alive : ∀ u, (Deed.moved t h (.answered r a)) ≠ .died u := by rintro _ ⟨⟩
  cases r with
  | lock m' =>
    obtain rfl : m' = m := may
    obtain ⟨c', goesOn, follows⟩ := fits.attempt (a := a) shifts (by simp [Deed.takes?, shows]) rfl
      (by rintro ⟨⟩) (by cases a <;> simp [Deed.errno?, Request.failure?]) alive
    exact ⟨c', goesOn.imp_right fun same => ⟨same.1, fun taken => absurd taken same.2⟩, follows⟩
  | awake m' =>
    obtain rfl : m' = m := may
    obtain ⟨c', goesOn, follows⟩ := fits.attempt (a := a) shifts (by simp [Deed.takes?, shows]) rfl
      (by rintro ⟨⟩) (by cases a <;> simp [Deed.errno?, Request.failure?]) alive
    exact ⟨c', goesOn.imp_right fun same => ⟨same.1, fun taken => absurd taken same.2⟩, follows⟩
  | park m' =>
    obtain ⟨rfl, -⟩ := may
    obtain ⟨own, rfl, follows⟩ | ⟨refused, follows⟩ :=
      fits.release (a := a) shifts (by simp [Deed.gives?, shows]) rfl (by rintro ⟨⟩) alive
    · exact ⟨.drop, .inl ⟨own, rfl, rfl⟩, follows⟩
    · exact ⟨c, .inr ⟨rfl, refused,
        fun taken => absurd (Host.granted_of_park setUp shows e taken) refused⟩, follows⟩
  | unlock m' =>
    obtain ⟨rfl, -⟩ := may
    obtain ⟨own, rfl, follows⟩ | ⟨refused, follows⟩ :=
      fits.release (a := a) shifts (by simp [Deed.gives?, shows]) rfl (by rintro ⟨⟩) alive
    · exact ⟨.drop, .inl ⟨own, rfl, rfl⟩, follows⟩
    · refine ⟨c, .inr ⟨rfl, refused, ?_⟩, follows⟩
      intro respects
      by_contra own
      exact just respects ⟨shows, owns.trans (fits.stand.1 own), refused⟩
  | makeConsistent m' =>
    obtain rfl : m' = m := may
    exact ⟨c.settle, .inl rfl, fits.settle shifts shows alive⟩
  | _ => cases may

/-- So is the answer to a call that fails by itself. -/
lemma Grasp.Fits.strike {call : Call} {fail : Errno → r.Answer} {e : Errno} (fits : c.Fits t x)
    (shows : h.shows m k) (before : h.hold? k = some x) (er : r.call? = some (call, fail))
    (may : (Protocol.grasp m sincere respected).Permits c r)
    (honest : sincere → ¬(Deed.moved t h (.struck r e)).Feigns k)
    (just : respected → ¬(Deed.moved t h (.struck r e)).Denies k) :
    ∃ c', (Protocol.grasp m sincere respected).Answers c r (fail e) c' ∧
      c.Follows c' k t (.moved t h (.struck r e)) x := by
  have owns : h.owner? k = x.owner? := by rw [Host.owner?_eq, before, Option.bind_some]
  have same : c.Follows c k t (.moved t h (.struck r e)) x := fits.stays nofun
  have unfeigned (feigns : h.shows m k ∧ e = .eownerdead ∧ h.owner? k ≠ some t →
      (Deed.moved t h (.struck r e)).Feigns k) (taken : isTaken (.error e)) (sincere : sincere) :
      c.stand ≠ .out := by
    intro out
    refine honest sincere (feigns ⟨shows, of_decide_eq_true taken, ?_⟩)
    rw [owns]
    exact fun own => fits.stand.2 own out
  cases r with
  | lock m' =>
    obtain rfl : m' = m := may
    cases er
    exact ⟨c, .inr ⟨rfl, unfeigned id⟩, same⟩
  | awake => cases er
  | park m' =>
    obtain ⟨rfl, -⟩ := may
    cases er
    exact ⟨c, .inr ⟨rfl, nofun, unfeigned id⟩, same⟩
  | unlock m' =>
    obtain ⟨rfl, -⟩ := may
    cases er
    refine ⟨c, .inr ⟨rfl, nofun, ?_⟩, same⟩
    intro respects
    by_contra own
    exact just respects ⟨shows, owns.trans (fits.stand.1 own)⟩
  | makeConsistent m' =>
    obtain rfl : m' = m := may
    cases er
    by_cases respects : respected
    · have calm : x ≠ .inconsistent t := by
        rintro rfl
        exact just respects ⟨shows, before⟩
      exact ⟨c.settle, .inl rfl, ⟨(not_congr settle_stand_iff).trans fits.stand,
        fun heir => absurd heir calm⟩, same.kept⟩
    · exact ⟨c, .inr ⟨respects, rfl⟩, same⟩
  | _ => cases may

end

/-- A thread is in a call on a mapping of an object that was made in its session. -/
structure Session.Engages (s : Session) (h₀ : Host) (past : List Deed) (t : ThreadId)
    (c : Underway) (m : MappingId) (k : ObjectId) : Prop where
  run : Run Session.ExclusiveStep (.ofHost h₀) past s
  call : s.calls t = some c
  uses : c.act.isStaking = false
  through : c.IsThrough m
  shows : s.host.shows m k
  new : h₀.objects.length ≤ k

namespace Session.Engages

variable {h₀ : Host} {past mid : List Deed} {s s' : Session} {d : Deed} {t : ThreadId}
  {c : Underway} {m : MappingId} {k : ObjectId} {x y : Hold} {sincere respected : Prop}
  {post : Outcome → Grasp → Prop} {g : Grasp}

lemma isSetUp (engages : s.Engages h₀ past t c m k) : s.host.IsSetUp k := by
  obtain ⟨run, ec, uses, ⟨z, j, sub, ej, em⟩, shows, new⟩ := engages
  obtain ⟨σ, kept⟩ := IsKeptFrom.of_run (run.mono fun _ _ _ st => st.1)
  obtain ⟨k', shows', setUp⟩ := (HasProperUses.of_run run).sees kept ec uses sub ej em
  obtain rfl := Host.shows_unique shows shows'
  exact setUp new

lemma exists_hold (engages : s.Engages h₀ past t c m k) : ∃ x, s.host.hold? k = some x := by
  obtain ⟨o, here, -⟩ := engages.isSetUp
  exact ⟨_, Host.hold?_of_object here⟩

/-- Until its thread comes back a call is on the same object. -/
lemma goesOn (engages : s.Engages h₀ past t c m k) (run : Run ExclusiveStep s mid s')
    (stays : ∀ a o, .returned t a o ∉ mid) :
    ∃ c', s'.Engages h₀ (mid ++ past) t c' m k ∧ c'.act = c.act := by
  obtain ⟨run₀, ec, uses, ⟨z, j, sub, ej, em⟩, shows, new⟩ := engages
  have whole := run₀.trans run
  have steps := run.mono fun _ _ _ st => st.1
  obtain ⟨c', ec', act, same⟩ := call_run steps ec stays
  have sub' : c'.subject = some z := same.trans sub
  have uses' : c'.act.isStaking = false := act ▸ uses
  obtain ⟨σ, kept⟩ := IsKeptFrom.of_run (whole.mono fun _ _ _ st => st.1)
  obtain ⟨k', shows'⟩ := (HasProperUses.of_run whole).shows kept ec' uses' sub' ej em
  have was := (numbers_run steps).shown (Host.lt_of_shows shows) shows'
  obtain rfl := Host.shows_unique shows was
  exact ⟨c', ⟨whole, ec', uses', ⟨z, j, sub', ej, em⟩, shows', new⟩, act⟩

lemma shifts_step (engages : s.Engages h₀ past t c m k) (st : s.Step d s') :
    ∃ x y, s.host.hold? k = some x ∧ s'.host.hold? k = some y ∧ d.Shifts k x y := by
  obtain ⟨σ, kept⟩ := IsKeptFrom.of_run (engages.run.mono fun _ _ _ st => st.1)
  exact kept.shifts_step st engages.isSetUp

/-- A step of a session goes on with the grasp of a call. -/
lemma grasp_step (engages : s.Engages h₀ past t c m k) (before : s.host.hold? k = some x)
    (fits : g.Fits t x) (en : c.program.Ensures (.grasp m sincere respected) post g)
    (st : s.Step d s') (stays : ∀ a o, d ≠ .returned t a o) (alive : s'.dead t = false)
    (honest : sincere → d.thread = t → ¬d.Feigns k)
    (just : respected → d.thread = t → ¬d.Denies k) :
    ∃ c' g' y, s'.calls t = some c' ∧ s'.host.hold? k = some y ∧ g.Follows g' k t d y ∧
      c'.program.Ensures (.grasp m sincere respected) post g' := by
  have setUp := engages.isSetUp
  obtain ⟨x', y, before', after, shifts⟩ := engages.shifts_step st
  cases before.symm.trans before'
  obtain ⟨same, unmoved⟩ | ⟨mv, p', rfl, moves, there⟩ := st.call_goesOn engages.call stays
  · -- Another thread has done something.
    have ne : d.thread ≠ t := by
      rintro rfl
      cases d with
      | began u a => cases st.idle_of_began.calls.symm.trans engages.call
      | moved u h mv => exact unmoved h mv rfl
      | returned u a o => exact stays a o rfl
      | died u => exact (st.alive alive).2 rfl
    exact ⟨c, g, y, same, after, fits.others shifts ne, en⟩
  · obtain ⟨act, uses, subject, program⟩ := c
    have shows := engages.shows
    clear engages
    generalize s'.host = h' at moves after
    cases moves with
    | tell =>
      cases before.symm.trans after
      exact ⟨_, g, x, there, after, fits.stays nofun, en⟩
    | answer eh =>
      obtain ⟨g', ans, follows⟩ := fits.answer setUp shows before eh en.1 shifts fun respects =>
        just respects rfl
      exact ⟨_, g', y, there, after, follows, en.2 _ g' ans⟩
    | wait eh =>
      obtain ⟨o, here, -⟩ := setUp
      cases (before.symm.trans (Host.hold?_wait eh here).symm).trans after
      exact ⟨_, g, x, there, after, fits.stays nofun, en⟩
    | strike er =>
      cases before.symm.trans after
      obtain ⟨g', ans, follows⟩ := fits.strike shows before er en.1
        (fun sincere => honest sincere rfl) fun respects => just respects rfl
      exact ⟨_, g', x, there, after, follows, en.2 _ g' ans⟩

/-- Until its thread comes back a call goes on with a grasp that is right. -/
theorem grasp_run (engages : s.Engages h₀ past t c m k) (before : s.host.hold? k = some x)
    (fits : g.Fits t x) (en : c.program.Ensures (.grasp m sincere respected) post g)
    (run : Run ExclusiveStep s mid s') (stays : ∀ a o, .returned t a o ∉ mid)
    (alive : s'.dead t = false) (honest : sincere → ∀ d ∈ mid, d.thread = t → ¬d.Feigns k)
    (just : respected → ∀ d ∈ mid, d.thread = t → ¬d.Denies k) :
    ∃ c' g' y, s'.Engages h₀ (mid ++ past) t c' m k ∧ s'.host.hold? k = some y ∧ g'.Fits t y ∧
      (g'.kept ↔ g.kept ∧ ∀ d ∈ mid, d.gives? k ≠ some t) ∧
      c'.program.Ensures (.grasp m sincere respected) post g' := by
  induction run with
  | nil => exact ⟨c, g, x, engages, before, fits, by simp, en⟩
  | @cons mid s₁ d s₂ run st ih =>
    have stays' a o (mem : Deed.returned t a o ∈ mid) := stays a o (.tail _ mem)
    obtain ⟨c₁, g₁, x₁, engages₁, before₁, fits₁, kept₁, en₁⟩ :=
      ih stays' (st.1.alive alive).1 (fun sincere d mem => honest sincere d (.tail _ mem))
        fun respects d mem => just respects d (.tail _ mem)
    obtain ⟨c₂, g₂, x₂, ec₂, after, follows, en₂⟩ := engages₁.grasp_step before₁ fits₁ en₁ st.1
      (fun a o e => stays a o (e ▸ .head _)) alive (fun sincere => honest sincere d (.head _))
      fun respects => just respects d (.head _)
    obtain ⟨c₂', engages₂, -⟩ := engages.goesOn (run.cons st) stays
    cases engages₂.call.symm.trans ec₂
    refine ⟨_, g₂, x₂, engages₂, after, follows.fits, ?_, en₂⟩
    rw [follows.kept, kept₁, List.forall_mem_cons, and_assoc, and_comm (b := _ ≠ _)]

end Session.Engages
end SharedSegment
