import SharedSegment.Proofs.Custody.Keeping
import SharedSegment.Proofs.Custody.Objects

/-!
# Owners of mutexes

The hold on a mutex that was set up shifts by few kinds of deeds only: whoever takes the mutex finds
it free or left by a dead owner, only the owner gives it back, what was taken from a dead owner may
be made consistent, and an owner may die (`Deed.Shifts`). So it is in every session, whichever calls
fail (`Session.IsKeptFrom.shifts_step`), also when the mutex is taken down while somebody has it.
What becomes of the owner is read off from there (`Deed.Hands`).
-/

namespace SharedSegment

/-- How the owner of the mutex of an object may change by a deed. -/
inductive Deed.Hands (k : ObjectId) (d : Deed) : Option ThreadId → Option ThreadId → Prop where
  | spares {u} :
    d.takes? k = none →
    d.gives? k = none →
    Hands k d u u
  | takes {t} :
    d.takes? k = some t →
    Hands k d none (some t)
  | gives {t} :
    d.gives? k = some t →
    Hands k d (some t) none
  | dies {t} :
    d = .died t →
    Hands k d (some t) none

namespace Deed.Hands

variable {k : ObjectId} {d : Deed} {u u' : Option ThreadId} {t : ThreadId}

lemma of_takes (hands : d.Hands k u u') (takes : d.takes? k = some t) :
    u = none ∧ u' = some t := by
  cases hands with
  | spares takes' => cases takes'.symm.trans takes
  | takes takes' =>
    cases takes'.symm.trans takes
    exact ⟨rfl, rfl⟩
  | gives gives => cases (gives?_of_takes? takes).symm.trans gives
  | dies e =>
    subst e
    cases takes

lemma of_gives (hands : d.Hands k u u') (gives : d.gives? k = some t) :
    u = some t ∧ u' = none := by
  cases hands with
  | spares _ gives' => cases gives'.symm.trans gives
  | takes takes => cases (gives?_of_takes? takes).symm.trans gives
  | gives gives' =>
    cases gives'.symm.trans gives
    exact ⟨rfl, rfl⟩
  | dies e =>
    subst e
    cases gives

/-- An owner that neither gives the mutex back nor dies goes on to own it. -/
lemma owns (hands : d.Hands k (some t) u') (keeps : d.gives? k ≠ some t) (alive : d ≠ .died t) :
    u' = some t := by
  cases hands with
  | spares => rfl
  | gives gives => exact absurd gives keeps
  | dies e => exact absurd e alive

/-- Who does not own a mutex and does not take it does not come to own it. -/
lemma away (hands : d.Hands k u u') (away : u ≠ some t) (leaves : d.takes? k ≠ some t) :
    u' ≠ some t := by
  cases hands with
  | spares => exact away
  | takes takes =>
    rintro ⟨⟩
    exact leaves takes
  | gives | dies => nofun

/-- A mutex without an owner has none either if nobody takes it. -/
lemma free (hands : d.Hands k none u') (leaves : d.takes? k = none) : u' = none := by
  cases hands with
  | spares => rfl
  | takes takes => cases leaves.symm.trans takes

end Deed.Hands

/-- Whether a deed makes the mutex of an object consistent. -/
def Deed.settles (k : ObjectId) : Deed → Bool
  | .moved _ h (.answered (.makeConsistent m) _) => h.shows m k
  | _ => false

/-- Nobody makes a mutex consistent without being answered. -/
lemma Deed.not_settles_of_silent {k : ObjectId} {d : Deed}
    (silent : ∀ t h r a, d ≠ .moved t h (.answered r a)) : ¬d.settles k := by
  unfold Deed.settles
  split
  · exact absurd rfl (silent _ _ _ _)
  · exact nofun

/-- How the hold on the mutex of an object may change by a deed. -/
inductive Deed.Shifts (k : ObjectId) (d : Deed) : Hold → Hold → Prop where
  | spares {x} :
    d.takes? k = none →
    d.gives? k = none →
    (d.settles k → ∀ t, x ≠ .inconsistent t) →
    Shifts k d x x
  | takes {t} :
    d.takes? k = some t →
    d.errno? = none →
    Shifts k d .free (.held t)
  | inherits {t} :
    d.takes? k = some t →
    d.errno? = some .eownerdead →
    Shifts k d .abandoned (.inconsistent t)
  | settles {t} :
    d.settles k →
    Shifts k d (.inconsistent t) (.held t)
  | gives {t} :
    d.gives? k = some t →
    Shifts k d (.held t) .free
  | forfeits {t} :
    d.gives? k = some t →
    Shifts k d (.inconsistent t) .lost
  | dies {x t} :
    d = .died t →
    x.owner? = some t →
    Shifts k d x .abandoned

/-- Whoever makes a mutex consistent neither takes one nor gives one back. -/
lemma Deed.silent_of_settles {k : ObjectId} {d : Deed} (settles : d.settles k) :
    d.takes? k = none ∧ d.gives? k = none := by
  unfold Deed.settles at settles
  split at settles
  · exact ⟨rfl, rfl⟩
  · cases settles

/-- A deed hands the mutex over as it shifts the hold on it. -/
lemma Deed.Shifts.hands {k : ObjectId} {d : Deed} {x y : Hold} (shifts : d.Shifts k x y) :
    d.Hands k x.owner? y.owner? := by
  cases shifts with
  | spares takes gives => exact .spares takes gives
  | takes takes => exact .takes takes
  | inherits takes => exact .takes takes
  | settles settles =>
    obtain ⟨takes, gives⟩ := Deed.silent_of_settles settles
    exact .spares takes gives
  | gives gives => exact .gives gives
  | forfeits gives => exact .gives gives
  | dies died owns => exact owns ▸ .dies died

/-- Whether a request neither takes a mutex nor gives one back. -/
def Request.isQuiet : Request → Bool
  | .lock _ | .awake _ | .unlock _ | .park _ => false
  | _ => true

namespace Mutex

variable {x y : Mutex} {t : ThreadId} {a : Except Errno Unit}

/-- Whoever takes a mutex finds it free or left by a dead owner, and is told which; whoever is
refused leaves the hold on it as it is. -/
lemma hold_lock (e : x.lock t = .answer a y) :
    a = .ok () ∧ x.hold = .free ∧ y.hold = .held t ∨
      a = .error .eownerdead ∧ x.hold = .abandoned ∧ y.hold = .inconsistent t ∨
        ¬isTaken a ∧ y.hold = x.hold := by
  unfold lock at e
  split at e
  · cases e
    exact .inr (.inr ⟨nofun, rfl⟩)
  · cases eh : x.hold with
    | free =>
      rw [eh] at e
      dsimp only at e
      split at e
      · cases e
        exact .inl ⟨rfl, rfl, rfl⟩
      · cases e
    | abandoned =>
      rw [eh] at e
      dsimp only at e
      split at e
      · cases e
        exact .inr (.inl ⟨rfl, rfl, rfl⟩)
      · cases e
    | lost =>
      rw [eh] at e
      cases e
      exact .inr (.inr ⟨nofun, eh⟩)
    | held | inconsistent =>
      rw [eh] at e
      cases e

lemma hold_sleep (e : x.lock t = .sleep y) : y.hold = x.hold := by
  unfold lock at e
  split at e
  · cases e
  · split at e
    case h_1 | h_2 =>
      split at e
      · cases e
      · cases e
        rfl
    case h_3 => cases e
    case h_4 | h_5 =>
      cases e
      exact enqueue_hold

/-- Only its owner gives a mutex back that was set up, and forfeits it if it is inconsistent;
whoever is refused leaves it as it is. -/
lemma hold_unlock (setUp : x.life ≠ .blank) (t : ThreadId) :
    isGranted (x.unlock t).1 ∧ (x.hold = .held t ∧ (x.unlock t).2.hold = .free ∨
        x.hold = .inconsistent t ∧ (x.unlock t).2.hold = .lost) ∨
      ¬isGranted (x.unlock t).1 ∧ (x.unlock t).2 = x := by
  unfold unlock
  cases el : x.life with
  | blank => exact absurd el setUp
  | destroyed => exact .inr ⟨nofun, rfl⟩
  | live =>
    by_cases held : x.hold = .held t
    · rw [if_pos held]
      exact .inl ⟨rfl, .inl ⟨held, rfl⟩⟩
    · rw [if_neg held]
      by_cases heir : x.hold = .inconsistent t
      · rw [if_pos heir]
        exact .inl ⟨rfl, .inr ⟨heir, rfl⟩⟩
      · rw [if_neg heir]
        exact .inr ⟨nofun, rfl⟩

/-- A mutex that nobody owns has no owner after anybody gives it back. -/
lemma owner?_unlock_of_free (free : x.hold.owner? = none) (t : ThreadId) :
    (x.unlock t).2.hold.owner? = none := by
  by_cases setUp : x.life = .blank
  · unfold unlock
    rw [setUp]
    rfl
  · obtain ⟨-, ⟨own, -⟩ | ⟨own, -⟩⟩ | ⟨-, same⟩ := hold_unlock setUp t
    · cases own ▸ free
    · cases own ▸ free
    · rw [same]
      exact free

/-- A mutex that was set up is not inconsistent after it was made consistent. -/
lemma hold_makeConsistent (setUp : x.life ≠ .blank) :
    (∃ t, x.hold = .inconsistent t ∧ x.makeConsistent.2.hold = .held t) ∨
      (∀ t, x.hold ≠ .inconsistent t) ∧ x.makeConsistent.2.hold = x.hold := by
  cases el : x.life with
  | blank => exact absurd el setUp
  | live | destroyed =>
    cases eh : x.hold with
    | inconsistent t => exact .inl ⟨t, rfl, by simp [makeConsistent, el, eh]⟩
    | _ => exact .inr ⟨nofun, by simp [makeConsistent, el, eh]⟩

lemma owner?_makeConsistent : x.makeConsistent.2.hold.owner? = x.hold.owner? := by
  cases el : x.life <;> cases eh : x.hold <;> simp [makeConsistent, el, eh, Hold.owner?]

lemma hold_destroy : x.destroy.2.hold = x.hold := by
  unfold destroy
  split <;> rfl

end Mutex

namespace Host

/-- The hold on the mutex of an object. -/
def hold? (h : Host) (k : ObjectId) : Option Hold :=
  (h.object? k).map fun o => o.mutex.hold

/-- The owner of the mutex of an object. -/
def owner? (h : Host) (k : ObjectId) : Option ThreadId :=
  (h.object? k).bind fun o => o.mutex.hold.owner?

/-- Whether the mutex of an object was set up. -/
def IsSetUp (h : Host) (k : ObjectId) : Prop :=
  ∃ o, h.object? k = some o ∧ o.mutex.life ≠ .blank

/-- Whether a request makes the mutex of an object anew, or cuts it off. -/
def Renews (h : Host) (k : ObjectId) : Request → Prop
  | .resize f _ => h.file? f = some k
  | .mutexInit m => h.shows m k
  | _ => False

variable {h h' : Host} {t : ThreadId} {k : ObjectId} {o : Object} {m : MappingId} {r : Request}

lemma hold?_of_object (here : h.object? k = some o) : h.hold? k = some o.mutex.hold := by
  rw [hold?, here, Option.map_some]

lemma owner?_of_object (here : h.object? k = some o) : h.owner? k = o.mutex.hold.owner? := by
  rw [owner?, here, Option.bind_some]

lemma owner?_eq (h : Host) (k : ObjectId) : h.owner? k = (h.hold? k).bind Hold.owner? := by
  rw [owner?, hold?, Option.bind_map]
  rfl

/-- What a request leaves of the hold on a mutex that it is not about. -/
lemma hold?_step_of_not_isAbout (here : h.object? k = some o) (other : ¬h.isAbout k r) :
    (h.step t r).host.hold? k = h.hold? k := by
  rw [hold?_of_object (object_step here t r), if_neg other, hold?_of_object here]

/-- What a request makes of the hold on a mutex that it is no attempt on. -/
lemma hold?_quiet (here : h.object? k = some o) (quiet : r.isQuiet) (spared : ¬h.Renews k r)
    (settled : ∀ m, r ≠ .makeConsistent m) : (h.step t r).host.hold? k = h.hold? k := by
  by_cases about : h.isAbout k r
  · rw [hold?_of_object (object_step here t r), if_pos about, hold?_of_object here]
    cases r with
    | lock | awake | unlock | park => cases quiet
    | resize => exact absurd (beq_iff_eq.1 about) spared
    | mutexInit => exact absurd about spared
    | mutexDestroy => exact congrArg some Mutex.hold_destroy
    | makeConsistent => exact absurd rfl (settled _)
    | _ => rfl
  · exact hold?_step_of_not_isAbout here about

section
variable {a : Except Errno Unit} (set : o.mutex.life ≠ .blank) (sees : h.under? m = some (k, o))
include sees

/-- How an answer to a lock shifts the hold on the mutex. -/
lemma shifts_lock (e : h.step t (.lock m) = .done a h') :
    ∃ y, h'.hold? k = some y ∧
      (Deed.moved t h (.answered (.lock m) a)).Shifts k o.mutex.hold y := by
  obtain ⟨shows, here⟩ := under?_eq_some_iff.1 sees
  have replied := step_lock (t := t) sees
  rw [e] at replied
  cases el : o.mutex.lock t with
  | sleep x =>
    rw [el] at replied
    cases replied
  | answer a' x =>
    rw [el] at replied
    cases replied
    refine ⟨x.hold, hold?_of_object (object?_setObject_self here), ?_⟩
    obtain ⟨rfl, free, mine⟩ | ⟨rfl, left, mine⟩ | ⟨refused, same⟩ := Mutex.hold_lock el
    · rw [free, mine]
      exact .takes (by simp [Deed.takes?, shows, isTaken]) rfl
    · rw [left, mine]
      exact .inherits (by simp [Deed.takes?, shows, isTaken]) rfl
    · rw [same]
      exact .spares (by simp [Deed.takes?, refused]) rfl nofun

/-- Whoever is awake attempts to take the mutex. -/
lemma shifts_awake (e : h.step t (.awake m) = .done a h') :
    ∃ y, h'.hold? k = some y ∧
      (Deed.moved t h (.answered (.awake m) a)).Shifts k o.mutex.hold y := by
  rw [step_awake sees] at e
  split at e
  case isTrue => cases e
  case isFalse =>
    obtain ⟨y, after, shifts⟩ := shifts_lock sees ((step_lock sees).trans e)
    refine ⟨y, after, ?_⟩
    generalize o.mutex.hold = x at shifts ⊢
    have same : (Request.awake m).failure? a = (Request.lock m).failure? a := by
      cases a <;> rfl
    cases shifts with
    | spares takes gives settled => exact .spares takes gives nofun
    | takes takes calm => exact .takes takes (same.trans calm)
    | inherits takes dead => exact .inherits takes (same.trans dead)
    | settles settles => cases settles
    | gives gives | forfeits gives => cases gives
    | dies died => cases died

include set

lemma shifts_unlock (e : h.step t (.unlock m) = .done a h') :
    ∃ y, h'.hold? k = some y ∧
      (Deed.moved t h (.answered (.unlock m) a)).Shifts k o.mutex.hold y := by
  obtain ⟨shows, here⟩ := under?_eq_some_iff.1 sees
  cases (step_unlock sees).symm.trans e
  refine ⟨_, hold?_of_object (object?_setObject_self here), ?_⟩
  rw [Object.withMutex_mutex]
  obtain ⟨given, ⟨own, free⟩ | ⟨heir, lost⟩⟩ | ⟨refused, same⟩ := Mutex.hold_unlock set t
  · rw [own, free]
    exact .gives (by simp [Deed.gives?, shows, given])
  · rw [heir, lost]
    exact .forfeits (by simp [Deed.gives?, shows, given])
  · rw [same]
    exact .spares rfl (by simp [Deed.gives?, refused]) nofun

/-- Parking gives the mutex back, or leaves it as it is. -/
lemma shifts_park (e : h.step t (.park m) = .done a h') :
    ∃ y, h'.hold? k = some y ∧
      (Deed.moved t h (.answered (.park m) a)).Shifts k o.mutex.hold y := by
  obtain ⟨shows, here⟩ := under?_eq_some_iff.1 sees
  cases (step_park sees).symm.trans e
  refine ⟨_, hold?_of_object (object?_setObject_self here), ?_⟩
  unfold park
  have unlocked := Mutex.hold_unlock set t
  cases eu : o.mutex.unlock t with
  | mk a x =>
    rw [eu] at unlocked
    cases a with
    | error e => exact .spares rfl (by simp [Deed.gives?, isGranted]) nofun
    | ok =>
      obtain ⟨-, ⟨own, free⟩ | ⟨heir, lost⟩⟩ := unlocked.resolve_right fun refused => refused.1 rfl
      · rw [own, free]
        exact .gives (by simp [Deed.gives?, shows, isGranted])
      · rw [heir, lost]
        exact .forfeits (by simp [Deed.gives?, shows, isGranted])

lemma shifts_makeConsistent (e : h.step t (.makeConsistent m) = .done a h') :
    ∃ y, h'.hold? k = some y ∧
      (Deed.moved t h (.answered (.makeConsistent m) a)).Shifts k o.mutex.hold y := by
  obtain ⟨shows, here⟩ := under?_eq_some_iff.1 sees
  cases (step_makeConsistent sees).symm.trans e
  refine ⟨_, hold?_of_object (object?_setObject_self here), ?_⟩
  rw [Object.withMutex_mutex]
  obtain ⟨u, heir, settled⟩ | ⟨calm, same⟩ := Mutex.hold_makeConsistent set
  · rw [heir, settled]
    exact .settles shows
  · rw [same]
    exact .spares rfl rfl fun _ => calm

end

/-- A deed that is not about a mutex neither takes it nor gives it back. -/
lemma silent_of_not_isAbout {a : r.Answer} (other : ¬h.isAbout k r) :
    (Deed.moved t h (.answered r a)).takes? k = none ∧
      (Deed.moved t h (.answered r a)).gives? k = none ∧
      ¬(Deed.moved t h (.answered r a)).settles k := by
  cases r with
  | lock m | awake m =>
    have hidden : ¬h.shows m k := other
    exact ⟨by simp [Deed.takes?, hidden], rfl, nofun⟩
  | unlock m | park m =>
    have hidden : ¬h.shows m k := other
    exact ⟨rfl, by simp [Deed.gives?, hidden], nofun⟩
  | makeConsistent m => exact ⟨rfl, rfl, other⟩
  | _ => exact ⟨rfl, rfl, nofun⟩

/-- How an answered request shifts the hold on a mutex that was set up. -/
theorem shifts_step {a : r.Answer} (e : h.step t r = .done a h') (setUp : h.IsSetUp k)
    (spared : ¬h.Renews k r) :
    ∃ x y, h.hold? k = some x ∧ h'.hold? k = some y ∧
      (Deed.moved t h (.answered r a)).Shifts k x y := by
  obtain ⟨o, here, set⟩ := setUp
  refine ⟨o.mutex.hold, ?_⟩
  rw [hold?_of_object here]
  by_cases about : h.isAbout k r
  case neg =>
    have same := hold?_step_of_not_isAbout (t := t) here about
    rw [e, hold?_of_object here] at same
    obtain ⟨takes, gives, calm⟩ := silent_of_not_isAbout (t := t) (a := a) about
    exact ⟨_, rfl, same, .spares takes gives fun settles => absurd settles calm⟩
  cases r with
  | lock m =>
    obtain ⟨y, shifts⟩ := shifts_lock (under?_eq_some_iff.2 ⟨about, here⟩) e
    exact ⟨y, rfl, shifts⟩
  | awake m =>
    obtain ⟨y, shifts⟩ := shifts_awake (under?_eq_some_iff.2 ⟨about, here⟩) e
    exact ⟨y, rfl, shifts⟩
  | unlock m =>
    obtain ⟨y, shifts⟩ := shifts_unlock set (under?_eq_some_iff.2 ⟨about, here⟩) e
    exact ⟨y, rfl, shifts⟩
  | park m =>
    obtain ⟨y, shifts⟩ := shifts_park set (under?_eq_some_iff.2 ⟨about, here⟩) e
    exact ⟨y, rfl, shifts⟩
  | makeConsistent m =>
    obtain ⟨y, shifts⟩ := shifts_makeConsistent set (under?_eq_some_iff.2 ⟨about, here⟩) e
    exact ⟨y, rfl, shifts⟩
  | _ =>
    have same := hold?_quiet (t := t) here rfl spared nofun
    rw [e, hold?_of_object here] at same
    exact ⟨_, rfl, same, .spares rfl rfl nofun⟩

lemma hold?_sleep (sees : h.under? m = some (k, o)) (e : h.step t (.lock m) = .wait h') :
    h'.hold? k = h.hold? k := by
  have here := (under?_eq_some_iff.1 sees).2
  have replied := step_lock (t := t) sees
  rw [e] at replied
  cases el : o.mutex.lock t with
  | answer a x =>
    rw [el] at replied
    cases replied
  | sleep x =>
    rw [el] at replied
    cases replied
    rw [hold?_of_object here, hold?_of_object (object?_setObject_self here)]
    exact congrArg some (Mutex.hold_sleep el)

/-- Whoever has to wait leaves the hold on every mutex as it is. -/
lemma hold?_wait (e : h.step t r = .wait h') (here : h.object? k = some o) :
    h'.hold? k = h.hold? k := by
  have other (hidden : ¬h.isAbout k r) : h'.hold? k = h.hold? k := by
    have same := hold?_step_of_not_isAbout (t := t) here hidden
    rwa [e] at same
  cases r with
  | lock m =>
    by_cases shows : h.shows m k
    · exact hold?_sleep (under?_eq_some_iff.2 ⟨shows, here⟩) e
    · exact other shows
  | awake m =>
    by_cases shows : h.shows m k
    · have sees := under?_eq_some_iff.2 ⟨shows, here⟩
      rw [step_awake sees] at e
      split at e
      · cases e
        rfl
      · exact hold?_sleep sees ((step_lock sees).trans e)
    · exact other shows
  | condDestroy m =>
    have same := hold?_quiet (t := t) here (r := .condDestroy m) rfl id nofun
    rwa [e] at same
  | hold => exact other nofun
  | _ => cases e

lemma owner?_wait (e : h.step t r = .wait h') (here : h.object? k = some o) :
    h'.owner? k = h.owner? k := by
  rw [owner?_eq, hold?_wait e here, owner?_eq]

/-- A mutex that nobody owns has no owner after an answer, unless it is taken by it. -/
lemma owner?_of_free {a : r.Answer} (e : h.step t r = .done a h') (here : h.object? k = some o)
    (free : h.owner? k = none) (takes : (Deed.moved t h (.answered r a)).takes? k = none) :
    h'.owner? k = none := by
  have after : h'.owner? k = (if h.isAbout k r then r.remake t o else o).mutex.hold.owner? := by
    have same := object_step here t r
    rw [e] at same
    exact owner?_of_object same
  rw [owner?_of_object here] at free
  have stays {y : Hold} (there : h'.hold? k = some y)
      (shifts : (Deed.moved t h (.answered r a)).Shifts k o.mutex.hold y) :
      h'.owner? k = none := by
    rw [owner?_eq, there]
    have hands := shifts.hands
    rw [free] at hands
    exact hands.free takes
  by_cases about : h.isAbout k r
  case neg =>
    rw [after, if_neg about]
    exact free
  rw [if_pos about] at after
  cases r with
  | lock m =>
    have shows : h.shows m k := about
    obtain ⟨y, same, shifts⟩ := shifts_lock (under?_eq_some_iff.2 ⟨shows, here⟩) e
    exact stays same shifts
  | awake m =>
    have shows : h.shows m k := about
    obtain ⟨y, same, shifts⟩ := shifts_awake (under?_eq_some_iff.2 ⟨shows, here⟩) e
    exact stays same shifts
  | unlock m => exact after.trans (Mutex.owner?_unlock_of_free free t)
  | park m =>
    refine after.trans ?_
    have given := Mutex.owner?_unlock_of_free free t
    change (Host.park t o).2.mutex.hold.owner? = none
    unfold Host.park
    cases eu : o.mutex.unlock t with
    | mk a x =>
      rw [eu] at given
      cases a with
      | ok => exact given
      | error => exact free
  | resize f len =>
    refine after.trans ?_
    simp only [Request.remake, Object.resize]
    split
    · rfl
    · exact free
  | mutexInit m => exact after
  | mutexDestroy m => exact after.trans ((congrArg Hold.owner? Mutex.hold_destroy).trans free)
  | makeConsistent m => exact after.trans (Mutex.owner?_makeConsistent.trans free)
  | _ => exact after.trans free

/-- A thread that dies leaves the mutex of another. -/
lemma shifts_bury (setUp : h.IsSetUp k) :
    ∃ x y, h.hold? k = some x ∧ (h.bury t).hold? k = some y ∧ (Deed.died t).Shifts k x y := by
  obtain ⟨o, here, set⟩ := setUp
  refine ⟨_, _, hold?_of_object here, hold?_of_object (object?_bury here t), ?_⟩
  simp only [Object.bury, Mutex.bury]
  by_cases own : o.mutex.hold.owner? = some t
  · rw [if_pos ⟨set, own⟩]
    exact .dies rfl own
  · rw [if_neg fun both => own both.2]
    exact .spares rfl rfl nofun

end Host

/-- Nobody in a session makes a mutex anew that was set up, or cuts it off. -/
lemma Custodians.spares_setUp {ι : Type} {torn : Prop} {b : ObjectId} {h : Host} {σ : ι → Custody}
    {i : ι} {r : Request} {k : ObjectId} (cu : Custodians torn b h.ledger σ)
    (may : (σ i).Permits torn r) (setUp : h.IsSetUp k) : ¬h.Renews k r := by
  obtain ⟨o, here, set⟩ := setUp
  cases r with
  | resize f len => exact fun opens => set (cu.resizes_own may here opens).2.1
  | mutexInit m => exact fun shows => set (cu.makes_own may here shows)
  | _ => exact id

/-- How a step of a session shifts the hold on a mutex that was set up. -/
theorem Session.IsKeptFrom.shifts_step {b : ObjectId} {s s' : Session}
    {σ : ThreadId ⊕ String → Custody} {d : Deed} {k : ObjectId} (kept : s.IsKeptFrom b σ)
    (st : s.Step d s') (setUp : s.host.IsSetUp k) :
    ∃ x y, s.host.hold? k = some x ∧ s'.host.hold? k = some y ∧ d.Shifts k x y := by
  cases st.touches with
  | nothing same silent =>
    obtain ⟨o, here, -⟩ := setUp
    rw [same, Host.hold?_of_object here]
    exact ⟨_, _, rfl, rfl, .spares (Deed.takes?_of_silent silent) (Deed.gives?_of_silent silent)
      fun settles => absurd settles (Deed.not_settles_of_silent silent)⟩
  | answered ec alive ep eh =>
    exact Host.shifts_step eh setUp (kept.custodians.spares_setUp (kept.permits ec alive ep) setUp)
  | waited eh =>
    obtain ⟨o, here, -⟩ := setUp
    rw [Host.hold?_wait eh here, Host.hold?_of_object here]
    exact ⟨_, _, rfl, rfl, .spares rfl rfl nofun⟩
  | died same =>
    rw [same]
    exact Host.shifts_bury setUp

/-- What a step of a session makes of the owner of a mutex that was set up. -/
theorem Session.IsKeptFrom.hands_step {b : ObjectId} {s s' : Session}
    {σ : ThreadId ⊕ String → Custody} {d : Deed} {k : ObjectId} (kept : s.IsKeptFrom b σ)
    (st : s.Step d s') (setUp : s.host.IsSetUp k) :
    d.Hands k (s.host.owner? k) (s'.host.owner? k) := by
  obtain ⟨x, y, before, after, shifts⟩ := kept.shifts_step st setUp
  rw [Host.owner?_eq, Host.owner?_eq, before, after]
  exact shifts.hands

end SharedSegment
