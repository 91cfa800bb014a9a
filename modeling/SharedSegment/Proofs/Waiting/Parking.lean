import SharedSegment.Proofs.Custody.Keeping
import SharedSegment.Proofs.Custody.Objects
import SharedSegment.Proofs.Custody.Tables

/-!
# Who is parked

Which threads are parked on the condition of an object can be told from what has happened: a thread
parks, a broadcast wakes all, and a thread may die. `parkers` reads this off the deeds alone and
never looks at a condition. What one request makes of the threads that are parked is
`Host.parked_step`; nothing but a broadcast ever wakes anybody.
-/

namespace SharedSegment
open Function

/-- The thread that parks on an object by a deed. -/
def Deed.parks? (k : ObjectId) : Deed → Option ThreadId
  | .moved t h (.answered (.park m) a) => if h.shows m k && isGranted a then some t else none
  | _ => none

/-- Whether a deed wakes all who are parked on an object. -/
def Deed.wakes (k : ObjectId) : Deed → Bool
  | .moved _ h (.answered (.broadcast m) _) => h.shows m k
  | _ => false

/-- Who is parked on an object after a deed, by who was before. -/
def Deed.leaves (k : ObjectId) (d : Deed) (l : List ThreadId) : List ThreadId :=
  match d with
  | .died t => l.erase t
  | d => if d.wakes k then [] else l ++ (d.parks? k).toList

/-- Who is parked on an object after some deeds. -/
def parkers (k : ObjectId) : List Deed → List ThreadId
  | [] => []
  | d :: past => d.leaves k (parkers k past)

namespace Deed

variable {k : ObjectId} {d : Deed} {t : ThreadId} {l : List ThreadId}

lemma leaves_of_quiet (alive : ∀ t, d ≠ .died t) (parks : d.parks? k = none)
    (wakes : d.wakes k = false) : d.leaves k l = l := by
  cases d with
  | died t => exact absurd rfl (alive t)
  | _ => simp [leaves, parks, wakes]

lemma parks?_inv (parks : d.parks? k = some t) :
    ∃ h m, d = .moved t h (.answered (.park m) (.ok ())) ∧ h.shows m k := by
  unfold parks? at parks
  split at parks
  case h_1 t' h m a =>
    split at parks
    case isTrue both =>
      obtain rfl := Option.some.inj parks
      obtain ⟨shows, granted⟩ := Bool.and_eq_true_iff.1 both
      cases a with
      | ok => exact ⟨h, m, rfl, shows⟩
      | error => cases granted
    case isFalse => cases parks
  case h_2 => cases parks

lemma gives?_of_parks? (parks : d.parks? k = some t) : d.gives? k = some t := by
  unfold parks? at parks
  split at parks
  case h_1 => exact parks
  case h_2 => cases parks

lemma wakes_inv (wakes : d.wakes k) :
    ∃ t h m a, d = .moved t h (.answered (.broadcast m) a) ∧ h.shows m k := by
  unfold Deed.wakes at wakes
  split at wakes
  case h_1 t h m a => exact ⟨t, h, m, a, rfl, wakes⟩
  case h_2 => cases wakes

lemma parks?_of_wakes (wakes : d.wakes k) : d.parks? k = none := by
  obtain ⟨t, h, m, a, rfl, -⟩ := wakes_inv wakes
  rfl

/-- Nobody parks or wakes anybody without being answered. -/
lemma leaves_of_silent (silent : ∀ t h r a, d ≠ .moved t h (.answered r a))
    (alive : ∀ t, d ≠ .died t) : d.leaves k l = l := by
  refine leaves_of_quiet alive ?_ ?_
  · by_contra some
    obtain ⟨t, parks⟩ := Option.ne_none_iff_exists'.1 some
    obtain ⟨h, m, rfl, -⟩ := parks?_inv parks
    exact silent _ _ _ _ rfl
  · rw [Bool.eq_false_iff]
    intro wakes
    obtain ⟨t, h, m, a, rfl, -⟩ := wakes_inv wakes
    exact silent _ _ _ _ rfl

lemma leaves_nil (parks : d.parks? k = none) : d.leaves k [] = [] := by
  cases d with
  | died => rfl
  | _ => simp [leaves, parks]

/-- Who is parked after a deed was before, or has parked by it. -/
lemma mem_leaves_inv (mem : t ∈ d.leaves k l) : t ∈ l ∨ d.parks? k = some t := by
  cases d with
  | died => exact .inl (List.mem_of_mem_erase mem)
  | _ =>
    simp only [leaves] at mem
    split at mem
    · cases mem
    · simpa [eq_comm] using mem

/-- Who is parked after a deed that does not kill it: it has just parked, or it was parked and
nobody has woken it. -/
lemma mem_leaves (alive : d ≠ .died t) :
    t ∈ d.leaves k l ↔ d.parks? k = some t ∨ t ∈ l ∧ ¬d.wakes k := by
  cases d with
  | died t' =>
    have ne : t ≠ t' := by
      rintro rfl
      exact alive rfl
    simp [leaves, parks?, wakes, List.mem_erase_of_ne ne]
  | began | returned => simp [leaves, parks?, wakes]
  | moved t' h m =>
    by_cases woken : (Deed.moved t' h m).wakes k
    · simp [leaves, parks?_of_wakes woken, woken]
    · simp [leaves, woken, or_comm, eq_comm]

end Deed

/-- Who is parked after some deeds was before, or has parked by one of them. -/
lemma mem_parkers_append {k : ObjectId} {t : ThreadId} {later past : List Deed}
    (mem : t ∈ parkers k (later ++ past)) :
    t ∈ parkers k past ∨ ∃ d ∈ later, d.parks? k = some t := by
  induction later with
  | nil => exact .inl mem
  | cons d later ih =>
    obtain mem | parks := Deed.mem_leaves_inv mem
    · exact (ih mem).imp id fun ⟨e, there, parks⟩ => ⟨e, List.mem_cons_of_mem _ there, parks⟩
    · exact .inr ⟨d, List.mem_cons_self, parks⟩

/-- A thread has parked on an object, and nobody has woken it since. -/
def IsAsleep (k : ObjectId) (t : ThreadId) (past : List Deed) : Prop :=
  ∃ later d earlier, past = later ++ d :: earlier ∧ d.parks? k = some t ∧
    ∀ e ∈ later, ¬e.wakes k

lemma isAsleep_cons {k : ObjectId} {t : ThreadId} {d : Deed} {past : List Deed} :
    IsAsleep k t (d :: past) ↔ d.parks? k = some t ∨ IsAsleep k t past ∧ ¬d.wakes k := by
  constructor
  · rintro ⟨later, p, earlier, e, parks, spared⟩
    cases later with
    | nil =>
      cases e
      exact .inl parks
    | cons d' later =>
      cases e
      obtain ⟨last, spared⟩ := List.forall_mem_cons.1 spared
      exact .inr ⟨⟨later, p, earlier, rfl, parks, spared⟩, last⟩
  · rintro (parks | ⟨⟨later, p, earlier, rfl, parks, spared⟩, last⟩)
    · exact ⟨[], d, past, rfl, parks, by simp⟩
    · exact ⟨d :: later, p, earlier, rfl, parks, List.forall_mem_cons.2 ⟨last, spared⟩⟩

/-- Who is parked and lives has parked, and nobody has woken it since. -/
theorem mem_parkers {k : ObjectId} {t : ThreadId} {past : List Deed} (alive : .died t ∉ past) :
    t ∈ parkers k past ↔ IsAsleep k t past := by
  induction past with
  | nil => simp [parkers, IsAsleep]
  | cons d past ih =>
    have last : d ≠ .died t := fun e => alive (e ▸ List.mem_cons_self)
    have alive := fun mem => alive (List.mem_cons_of_mem _ mem)
    rw [parkers, Deed.mem_leaves last, isAsleep_cons, ih alive]

namespace Host

variable {h h' : Host} {t : ThreadId} {k : ObjectId} {o : Object} {m : MappingId} {r : Request}

/-- The threads that are parked on an object. -/
def parkedOn (h : Host) (k : ObjectId) : List ThreadId :=
  ((h.object? k).map fun o => o.condition.parked).getD []

lemma parkedOn_of_object (here : h.object? k = some o) :
    h.parkedOn k = o.condition.parked := by
  rw [parkedOn, here]
  rfl

/-- Whether a request makes a condition anew, or cuts it off. -/
def Unparks (h : Host) (k : ObjectId) : Request → Prop
  | .resize f _ => h.file? f = some k
  | .condInit m => h.shows m k
  | _ => False

/-- Whoever gives the mutex back to wait is parked in the same step. -/
lemma parkedOn_park {a : Except Errno Unit} (sees : h.under? m = some (k, o))
    (e : h.step t (.park m) = .done a h') :
    h'.parkedOn k = if isGranted a then h.parkedOn k ++ [t] else h.parkedOn k := by
  have here := (under?_eq_some_iff.1 sees).2
  cases (step_park sees).symm.trans e
  rw [parkedOn_of_object here, parkedOn_of_object (object?_setObject_self here)]
  unfold park
  cases eu : o.mutex.unlock t with
  | mk a x =>
    cases a with
    | ok => rfl
    | error => rfl

/-- What an answered request makes of the threads that are parked on an object. -/
lemma parkedOn_answer {a : r.Answer} (here : h.object? k = some o) (e : h.step t r = .done a h')
    (spared : ¬h.Unparks k r) :
    h'.parkedOn k = (Deed.moved t h (.answered r a)).leaves k (h.parkedOn k) := by
  have after : h'.object? k = some (if h.isAbout k r then r.remake t o else o) := by
    have same := object_step here t r
    rwa [e] at same
  have quiet (same : (if h.isAbout k r then r.remake t o else o).condition.parked =
      o.condition.parked) (parks : (Deed.moved t h (.answered r a)).parks? k = none)
      (wakes : (Deed.moved t h (.answered r a)).wakes k = false) :
      h'.parkedOn k = (Deed.moved t h (.answered r a)).leaves k (h.parkedOn k) := by
    rw [Deed.leaves_of_quiet (by simp) parks wakes, parkedOn_of_object here]
    exact (parkedOn_of_object after).trans same
  by_cases about : h.isAbout k r
  case neg =>
    refine quiet (by rw [if_neg about]) ?_ ?_
    · cases r with
      | park m =>
        have hidden : h.shows m k = false := Bool.eq_false_iff.2 about
        simp [Deed.parks?, hidden]
      | _ => rfl
    · cases r with
      | broadcast m => exact Bool.eq_false_iff.2 about
      | _ => rfl
  rw [if_pos about] at after
  cases r with
  | resize f len => exact absurd (beq_iff_eq.1 about) spared
  | condInit m => exact absurd about spared
  | park m =>
    have shows : h.shows m k := about
    rw [parkedOn_park (under?_eq_some_iff.2 ⟨shows, here⟩) e]
    simp only [Deed.leaves, Deed.wakes, Deed.parks?, shows, Bool.true_and]
    split
    · rfl
    · simp
  | broadcast m =>
    have shows : h.shows m k := about
    refine (parkedOn_of_object after).trans ?_
    simp [Deed.leaves, Deed.wakes, shows, Request.remake, Condition.broadcast]
  | condDestroy m =>
    refine quiet ?_ rfl rfl
    rw [if_pos about]
    change o.condition.destroy.object.parked = _
    unfold Condition.destroy
    split
    · rfl
    · rfl
  | awake m =>
    refine quiet ?_ rfl rfl
    rw [if_pos about]
    simp only [Request.remake]
    split
    · rfl
    · rfl
  | _ => exact quiet (by rw [if_pos about]; rfl) rfl rfl

lemma outline?_eq_none_iff : h.ledger.outline? k = none ↔ h.object? k = none := by
  rw [ledger_outline?, Option.map_eq_none_iff]

lemma parkedOn_of_absent (absent : h.object? k = none) : h.parkedOn k = [] := by
  rw [parkedOn, absent]
  rfl

/-- Nobody parks and nobody is woken while somebody waits. -/
lemma parkedOn_wait (e : h.step t r = .wait h') : h'.parkedOn k = h.parkedOn k := by
  cases here : h.object? k with
  | none =>
    have absent : h'.object? k = none := by
      rw [← outline?_eq_none_iff, ledger_wait e, outline?_eq_none_iff, here]
    rw [parkedOn_of_absent here, parkedOn_of_absent absent]
  | some o =>
  have after := object_step here t r
  rw [e] at after
  rw [parkedOn_of_object here]
  refine (parkedOn_of_object after).trans ?_
  split
  case isFalse => rfl
  case isTrue =>
    cases r with
    | lock m => rfl
    | awake m =>
      simp only [Request.remake]
      split
      · rfl
      · rfl
    | condDestroy m =>
      change o.condition.destroy.object.parked = _
      unfold Condition.destroy
      split
      · rfl
      · rfl
    | hold => rfl
    | _ => cases e

/-- A condition is taken down only when nobody is parked on it. -/
lemma parkedOn_condDestroy {h' : Host} (shows : h.shows m k)
    (e : h.step t (.condDestroy m) = .done (α := Except Errno Unit) (.ok ()) h') :
    h'.parkedOn k = [] := by
  cases sees : h.under? m with
  | none =>
    simp only [step, onCondition, sees] at e
    cases e
  | some x =>
    obtain ⟨k', o⟩ := x
    obtain ⟨shows', here⟩ := under?_eq_some_iff.1 sees
    obtain rfl := shows_unique shows shows'
    simp only [step, onCondition, sees, Condition.destroy] at e
    by_cases nobody : o.condition.parked.isEmpty
    · rw [if_pos nobody] at e
      cases e
      rw [parkedOn_of_object (object?_setObject_self here)]
      exact List.isEmpty_iff.1 nobody
    · rw [if_neg nobody] at e
      cases e

lemma parkedOn_bury (h : Host) (t : ThreadId) (k : ObjectId) :
    (h.bury t).parkedOn k = (h.parkedOn k).erase t := by
  cases here : h.object? k with
  | none =>
    have gone : (h.bury t).object? k = none := by
      rw [object?, List.getElem?_eq_none_iff] at here ⊢
      simpa [bury] using here
    simp [parkedOn, here, gone]
  | some o =>
    rw [parkedOn_of_object here, parkedOn_of_object (object?_bury here t)]
    rfl

/-- An object that was not there is not there after a creation, or is new. -/
lemma object?_new {n : Name} {mode : UInt32} {a : Except Errno Nat} (absent : h.object? k = none)
    (e : h.step t (.openNew n mode) = .done a h') :
    h'.object? k = none ∨ h'.object? k = some (.fresh mode) := by
  obtain ⟨err, refused⟩ | free := h.step_openNew_cases t n mode
  · cases refused.symm.trans e
    exact .inl absent
  · cases (step_openNew free).symm.trans e
    have le := List.getElem?_eq_none_iff.1 absent
    simp only [object?, grown, List.getElem?_append_right le]
    cases k - h.objects.length with
    | zero => exact .inr rfl
    | succ => exact .inl rfl

/-- A request that makes a condition anew, or cuts it off, leaves nobody parked. -/
lemma parkedOn_unparks {a : r.Answer} (here : h.object? k = some o) (e : h.step t r = .done a h')
    (unparks : h.Unparks k r) (empty : h.parkedOn k = []) : h'.parkedOn k = [] := by
  have after := object_step here t r
  rw [e] at after
  rw [parkedOn_of_object here] at empty
  refine (parkedOn_of_object after).trans ?_
  cases r with
  | resize f len =>
    have about : h.isAbout k (.resize f len) := beq_iff_eq.2 unparks
    rw [if_pos about]
    simp only [Request.remake, Object.resize]
    split
    · rfl
    · exact empty
  | condInit m =>
    have about : h.isAbout k (.condInit m) := unparks
    rw [if_pos about]
    rfl
  | _ => cases unparks

/-- Nobody is parked on an object whose condition was not set up. -/
def IsDesertedIfBlank (h : Host) (k : ObjectId) : Prop :=
  ¬h.ledger.HasPart k .condition → h.parkedOn k = []

end Host

/-- Whoever makes a condition anew, or cuts it off, does so before it was set up. -/
lemma Custodians.blank_of_unparks {ι : Type} {torn : Prop} {b : ObjectId} {h : Host}
    {σ : ι → Custody} {i : ι} {r : Request} {k : ObjectId} {o : Object}
    (cu : Custodians torn b h.ledger σ) (may : (σ i).Permits torn r) (here : h.object? k = some o)
    (unparks : h.Unparks k r) : o.condition.life = .blank := by
  cases r with
  | resize f len => exact (cu.resizes_own may here unparks).2.2
  | condInit m => exact cu.makes_own may here unparks
  | _ => cases unparks

namespace Session.IsKeptFrom

variable {b : ObjectId} {s s' : Session} {σ : ThreadId ⊕ String → Custody} {d : Deed}
  {k : ObjectId}

/-- An object that was not there is not there after a step, or is new. -/
lemma absent_step (kept : s.IsKeptFrom b σ) (st : s.Step d s') (absent : s.host.object? k = none) :
    s'.host.object? k = none ∨ ∃ mode, s'.host.object? k = some (.fresh mode) := by
  have blind := Host.outline?_eq_none_iff.2 absent
  have gone (same : s'.host.ledger = s.host.ledger) : s'.host.object? k = none := by
    rw [← Host.outline?_eq_none_iff, same]
    exact blind
  cases st.touches with
  | nothing same => exact .inl (gone (congrArg Host.ledger same))
  | waited eh => exact .inl (gone (Host.ledger_wait eh))
  | died same => exact .inl (gone (same ▸ Host.ledger_bury))
  | answered ec alive ep eh =>
    cases there : s'.host.object? k with
    | none => exact .inl rfl
    | some o =>
      have affects := kept.custodians.affects (kept.permits ec alive ep) (Host.ledger_step eh)
      obtain ⟨n, mode, rfl⟩ := affects.openNew_of_new blind (Host.outline?_of_object there)
      obtain gone | new := Host.object?_new absent eh
      · cases there.symm.trans gone
      · exact .inr ⟨mode, there.symm.trans new⟩

/-- What a step makes of the threads that are parked on an object, if nobody parks on it before its
condition was set up. -/
theorem parkedOn_step (kept : s.IsKeptFrom b σ) (st : s.Step d s')
    (deserted : s.host.IsDesertedIfBlank k)
    (fits : ∀ t, d.parks? k = some t → s.host.ledger.HasPart k .condition) :
    s'.host.parkedOn k = d.leaves k (s.host.parkedOn k) := by
  cases st.touches with
  | nothing same silent alive =>
    rw [same, Deed.leaves_of_silent silent alive]
  | @answered t c r a next ec alive ep eh =>
    have may := kept.permits ec alive ep
    cases here : s.host.object? k with
    | none =>
      have bare : ¬s.host.ledger.HasPart k .condition := by
        rintro ⟨o, there, -⟩
        rw [Host.ledger_outline?, here] at there
        cases there
      have parks : (Deed.moved t s.host (.answered r a)).parks? k = none := by
        by_contra some
        obtain ⟨t', some⟩ := Option.ne_none_iff_exists'.1 some
        exact bare (fits t' some)
      rw [deserted bare, Deed.leaves_nil parks]
      obtain gone | ⟨mode, new⟩ := kept.absent_step st here
      · exact Host.parkedOn_of_absent gone
      · exact Host.parkedOn_of_object new
    | some o =>
      by_cases unparks : s.host.Unparks k r
      · have blank := kept.custodians.blank_of_unparks may here unparks
        have bare : ¬s.host.ledger.HasPart k .condition := by
          rintro ⟨o', there, set⟩
          cases (Host.outline?_of_object here).symm.trans there
          exact set blank
        have parks : (Deed.moved t s.host (.answered r a)).parks? k = none := by
          cases r with
          | resize | condInit => rfl
          | _ => cases unparks
        rw [deserted bare, Deed.leaves_nil parks]
        exact Host.parkedOn_unparks here eh unparks (deserted bare)
      · exact Host.parkedOn_answer here eh unparks
  | @waited t r eh =>
    have quiet : (Deed.moved t s.host (.waited r)).leaves k (s.host.parkedOn k) =
        s.host.parkedOn k := Deed.leaves_of_quiet (by simp) rfl rfl
    rw [quiet]
    exact Host.parkedOn_wait eh
  | @died t same =>
    rw [same]
    exact Host.parkedOn_bury ..

/-- Nobody comes to be parked before the condition was set up. -/
lemma deserted_step (kept : s.IsKeptFrom b σ) (st : s.Step d s')
    (deserted : s.host.IsDesertedIfBlank k)
    (fits : ∀ t, d.parks? k = some t → s.host.ledger.HasPart k .condition) :
    s'.host.IsDesertedIfBlank k := by
  intro bare'
  have bare : ¬s.host.ledger.HasPart k .condition := fun has => bare' (kept.hasPart_step st has)
  have parks : d.parks? k = none := by
    by_contra some
    obtain ⟨t, some⟩ := Option.ne_none_iff_exists'.1 some
    exact bare (fits t some)
  rw [kept.parkedOn_step st deserted fits, deserted bare, Deed.leaves_nil parks]

end Session.IsKeptFrom
end SharedSegment
