import SharedSegment.Proofs.Ownership.Course
import SharedSegment.Proofs.Requests

/-!
# The mutex keeps to the protocol

What a live mutex answers to whoever keeps to `Protocol.ownership`, and how its owner goes with the
tenure that the deeds tell of: `Keeps.answer` is one answered request, `Keeps.wait` one that has to
wait, and `Keeps.bury` the death of a thread. That the mutex is never lost comes from
`Tenure.Agrees`, which no lost mutex satisfies.
-/

namespace SharedSegment

/-- How a thread stands to a mutex of some owner. -/
def Hold.stand (x : Hold) (t : ThreadId) : Stand :=
  if x = .held t then .owner else if x = .inconsistent t then .heir else .out

/-- The owner of a mutex is the thread whose tenure lasts; and only a tenure that was cut short
leaves an abandoned mutex. -/
inductive Tenure.Agrees : Tenure → Hold → Prop where
  | none :
    Agrees .none .free
  | over :
    Agrees .over .free
  | held {t} :
    Agrees (.running t) (.held t)
  | inconsistent {t} :
    Agrees (.running t) (.inconsistent t)
  | cutShort :
    Agrees .cutShort .abandoned

/-- The mutex of an object is live and has some owner, and mappings are what they were. -/
structure Keeps (h₀ : Host) (k : ObjectId) (x : Hold) (h : Host) : Prop where
  mappings : h.mappings = h₀.mappings
  object : ∃ o, h.object? k = some o ∧ o.mutex.life = .live ∧ o.mutex.hold = x

namespace Mutex

variable {x x' : Mutex} {t : ThreadId} {r : Except Errno Unit}

/-- Only a mutex without an owner is taken, and whether a dead owner left it shows. -/
lemma lock_answer (live : x.life = .live) (kept : x.hold ≠ .lost)
    (e : x.lock t = .answer r x') :
    ∃ died, r = takenFrom died ∧ x'.life = .live ∧
      x.hold = (if died then .abandoned else .free) ∧
      x'.hold = if died then .inconsistent t else .held t := by
  unfold lock at e
  rw [if_neg (by simp [live])] at e
  cases eh : x.hold with
  | free =>
    simp only [eh] at e
    split at e
    · cases e
      exact ⟨false, rfl, live, rfl, rfl⟩
    · cases e
  | abandoned =>
    simp only [eh] at e
    split at e
    · cases e
      exact ⟨true, rfl, live, rfl, rfl⟩
    · cases e
  | lost => exact absurd eh kept
  | held | inconsistent =>
    simp only [eh] at e
    cases e

lemma lock_sleep (live : x.life = .live) (e : x.lock t = .sleep x') :
    x'.life = .live ∧ x'.hold = x.hold := by
  unfold lock at e
  rw [if_neg (by simp [live])] at e
  cases eh : x.hold with
  | free | abandoned =>
    simp only [eh] at e
    split at e
    · cases e
    · cases e
      exact ⟨live, eh⟩
  | lost =>
    simp only [eh] at e
    cases e
  | held | inconsistent =>
    simp only [eh] at e
    cases e
    unfold enqueue
    split
    · exact ⟨live, eh⟩
    · exact ⟨live, eh⟩

/-- A live mutex is given back by its owner only. -/
lemma unlock_answer (live : x.life = .live) (ready : x.hold.stand t ≠ .heir) :
    (x.hold.stand t = .owner ∧ x.hold = .held t ∧
        x.unlock t = (.ok (), { x with hold := .free })) ∨
      (x.hold.stand t = .out ∧ x.unlock t = (.error .eperm, x)) := by
  unfold Hold.stand at ready ⊢
  by_cases held : x.hold = .held t
  · simp [unlock, live, held]
  · by_cases heir : x.hold = .inconsistent t
    · simp [heir] at ready
    · simp [unlock, live, held, heir]

end Mutex

/-- What an answer leads to: the owner that the mutex has then goes with the tenure, the thread goes
on as the protocol says, and no other thread is concerned. -/
structure Handed (h₀ : Host) (k : ObjectId) (past : List Deed) (t : ThreadId) (h : Host)
    (r : Request) (a : r.Answer) (h' : Host) (c : Course) (x x' : Hold) (c' : Course) : Prop where
  keeps : Keeps h₀ k x' h'
  agrees : (tenure k (.moved t h (.answered r a) :: past)).Agrees x'
  answers : (Protocol.ownership fun m => h₀.shows m k).Answers c r a c'
  stand : c'.stand = x'.stand t
  others : ∀ t' ≠ t, x'.stand t' = x.stand t'
  verdicts : c'.verdicts = c.verdicts ++ SharedSegment.verdicts k past (.moved t h (.answered r a))
  records : c'.records = c.records

section
variable {h₀ h h' : Host} {k : ObjectId} {x : Hold} {past : List Deed} {t : ThreadId} {c : Course}

lemma Keeps.shows (keeps : Keeps h₀ k x h) {m : MappingId} (sees : h₀.shows m k) :
    h.shows m k := by
  unfold Host.shows Host.mapping? at sees ⊢
  rwa [keeps.mappings]

lemma Keeps.under? (keeps : Keeps h₀ k x h) {m : MappingId} (sees : h₀.shows m k) :
    ∃ o, h.under? m = some (k, o) ∧ o.mutex.life = .live ∧ o.mutex.hold = x := by
  obtain ⟨o, eo, live, hold⟩ := keeps.object
  exact ⟨o, Host.under?_eq_some_iff.2 ⟨keeps.shows sees, eo⟩, live, hold⟩

lemma Keeps.setObject (keeps : Keeps h₀ k x h) (o' : Object) (live : o'.mutex.life = .live) :
    Keeps h₀ k o'.mutex.hold (h.setObject k o') := by
  obtain ⟨o, eo, -⟩ := keeps.object
  exact ⟨keeps.mappings, o', Host.object?_setObject_self eo, live, rfl⟩

/-- A mutex that agrees with a tenure is not lost. -/
lemma Tenure.Agrees.kept {tn : Tenure} (agree : tn.Agrees x) : x ≠ .lost := by
  rintro rfl
  cases agree

lemma Handed.lock {m : MappingId} {o : Object} {a : Except Errno Unit} {y : Mutex}
    (keeps : Keeps h₀ k x h) (agree : (tenure k past).Agrees x) (stand : c.stand = x.stand t)
    (sees : h₀.shows m k) (live : o.mutex.life = .live) (hold : o.mutex.hold = x)
    (e : o.mutex.lock t = .answer a y) :
    ∃ c', Handed h₀ k past t h (.lock m) a (h.setObject k (o.withMutex y)) c x y.hold c' := by
  subst hold
  obtain ⟨died, rfl, live', before, after⟩ := Mutex.lock_answer live agree.kept e
  have takes : Deed.takes? k (.moved t h (.answered (.lock m) (takenFrom died))) = some t := by
    cases died <;> simp [Deed.takes?, keeps.shows sees, isTaken, takenFrom]
  have tenure' : tenure k (.moved t h (.answered (.lock m) (takenFrom died)) :: past) =
      .running t := by simp only [tenure, takes]
  have verdict : SharedSegment.verdicts k past
      (.moved t h (.answered (.lock m) (takenFrom died))) = [died] := by
    -- Up to here the tenure goes with the owner, so that the two agree on who left the mutex.
    have cut : (tenure k past = .cutShort) ↔ died := by
      rw [before] at agree
      generalize tenure k past = tn at agree
      cases died <;> cases agree <;> simp
    simp [SharedSegment.verdicts, takes, cut]
  refine ⟨c.take died, keeps.setObject (o.withMutex y) live', ?_, ?_, ?_, ?_, ?_, rfl⟩
  · rw [tenure', after]
    cases died
    · exact .held
    · exact .inconsistent
  · refine ⟨?_, died, rfl, rfl⟩
    rw [stand, before]
    cases died <;> rfl
  · rw [after]
    cases died <;> simp [Course.take, Hold.stand]
  · intro t' ne
    rw [before, after]
    cases died <;> simp [Hold.stand, ne.symm]
  · rw [verdict]
    rfl

/-- The owner gives the mutex back. -/
lemma Handed.given {m : MappingId} (keeps : Keeps h₀ k x h) (sees : h₀.shows m k)
    (own : c.stand = .owner) (held : x = .held t) (keeps' : Keeps h₀ k .free h') :
    Handed h₀ k past t h (.unlock m) (.ok ()) h' c x .free { c with stand := .out } := by
  have gives : tenure k (.moved t h (.answered (.unlock m) (.ok ())) :: past) = .over := by
    simp [tenure, Deed.takes?, Deed.gives?, keeps.shows sees, isGranted]
  refine ⟨keeps', gives ▸ .over, .inl ⟨own, rfl, rfl⟩, ?_, ?_, ?_, rfl⟩
  · simp [Hold.stand]
  · intro t' ne
    simp [held, Hold.stand, ne.symm]
  · simp [SharedSegment.verdicts, Deed.takes?]

/-- A thread that has not got the mutex does not give it back. -/
lemma Handed.refused {m : MappingId} (agree : (tenure k past).Agrees x)
    (stand : c.stand = x.stand t) (out : c.stand = .out) (keeps' : Keeps h₀ k x h') :
    Handed h₀ k past t h (.unlock m) (.error .eperm) h' c x x c := by
  have stays : tenure k (.moved t h (.answered (.unlock m) (.error .eperm)) :: past) =
      tenure k past := by
    simp [tenure, Deed.takes?, Deed.gives?, isGranted]
  refine ⟨keeps', stays ▸ agree, .inr ⟨out, rfl, rfl⟩, stand, fun _ _ => rfl, ?_, rfl⟩
  simp [SharedSegment.verdicts, Deed.takes?]

/-- The heir makes the mutex consistent. -/
lemma Handed.madeConsistent {m : MappingId} (agree : (tenure k past).Agrees (.inconsistent t))
    (keeps' : Keeps h₀ k (.held t) h') :
    Handed h₀ k past t h (.makeConsistent m) (.ok ()) h' c (.inconsistent t) (.held t)
      { c with stand := .owner } := by
  have stays : tenure k (.moved t h (.answered (.makeConsistent m) (.ok ())) :: past) =
      .running t := by
    generalize ep : tenure k past = tn at agree
    cases agree
    exact ep
  refine ⟨keeps', stays ▸ .held, ⟨rfl, rfl⟩, ?_, ?_, ?_, rfl⟩
  · simp [Hold.stand]
  · intro t' ne
    simp [Hold.stand, ne.symm]
  · simp [SharedSegment.verdicts, Deed.takes?]

/-- A thread that has not made the mutex consistent yet has it. -/
lemma Hold.eq_of_heir (heir : x.stand t = .heir) : x = .inconsistent t := by
  unfold Hold.stand at heir
  split at heir
  · cases heir
  · split at heir
    case isTrue e => exact e
    case isFalse => cases heir

/-- An answer to who keeps to the protocol. -/
theorem Keeps.answer {r : Request} {a : r.Answer} (keeps : Keeps h₀ k x h)
    (agree : (tenure k past).Agrees x) (stand : c.stand = x.stand t)
    (may : (Protocol.ownership fun m => h₀.shows m k).Permits c r) (e : h.step t r = .done a h') :
    ∃ x' c', Handed h₀ k past t h r a h' c x x' c' := by
  cases r with
  | lock m =>
    obtain ⟨sees, ready⟩ := may
    obtain ⟨o, under, live, hold⟩ := keeps.under? sees
    rw [Host.step_lock under] at e
    cases el : o.mutex.lock t with
    | sleep y =>
      rw [el] at e
      cases e
    | answer a y =>
      rw [el] at e
      cases e
      exact ⟨_, Handed.lock keeps agree stand sees live hold el⟩
  | awake m =>
    obtain ⟨sees, ready⟩ := may
    obtain ⟨o, under, live, hold⟩ := keeps.under? sees
    rw [Host.step_awake under] at e
    split at e
    · cases e
    cases el : o.mutex.lock t with
    | sleep y =>
      rw [el] at e
      cases e
    | answer a y =>
      rw [el] at e
      cases e
      obtain ⟨c', hd⟩ : ∃ c', Handed h₀ k past t h (.lock m) a _ c x y.hold c' :=
        Handed.lock keeps agree stand sees live hold el
      exact ⟨_, c', hd.keeps, hd.agrees, hd.answers, hd.stand, hd.others, hd.verdicts, hd.records⟩
  | unlock m =>
    obtain ⟨sees, ready⟩ := may
    obtain ⟨o, under, live, rfl⟩ := keeps.under? sees
    rw [Host.step_unlock under] at e
    rcases Mutex.unlock_answer live (stand ▸ ready) with ⟨own, held, eu⟩ | ⟨out, eu⟩
    · rw [eu] at e
      cases e
      exact ⟨_, _, .given keeps sees (stand.trans own) held
        (keeps.setObject (o.withMutex { o.mutex with hold := .free }) live)⟩
    · rw [eu] at e
      cases e
      exact ⟨_, _, .refused agree stand (stand.trans out) (keeps.setObject (o.withMutex _) live)⟩
  | park m =>
    obtain ⟨sees, ready⟩ := may
    obtain ⟨o, under, live, rfl⟩ := keeps.under? sees
    rw [Host.step_park under] at e
    rcases Mutex.unlock_answer live (stand ▸ ready) with ⟨own, held, eu⟩ | ⟨out, eu⟩
    · simp only [Host.park, eu] at e
      cases e
      have hd : Handed h₀ k past t h (.unlock m) (.ok ()) _ c _ _ _ :=
        .given keeps sees (stand.trans own) held (keeps.setObject
          ((o.withMutex { o.mutex with hold := .free }).withCondition (o.condition.park t)) live)
      exact ⟨_, _, hd.keeps, hd.agrees, hd.answers, hd.stand, hd.others, hd.verdicts, hd.records⟩
    · simp only [Host.park, eu] at e
      cases e
      have hd : Handed h₀ k past t h (.unlock m) (.error .eperm) _ c _ _ _ :=
        .refused agree stand (stand.trans out) (keeps.setObject o live)
      exact ⟨_, _, hd.keeps, hd.agrees, hd.answers, hd.stand, hd.others, hd.verdicts, hd.records⟩
  | makeConsistent m =>
    obtain ⟨sees, heir⟩ := may
    obtain ⟨o, under, live, hold⟩ := keeps.under? sees
    obtain rfl := Hold.eq_of_heir (stand.symm.trans heir)
    rw [Host.step_makeConsistent under] at e
    have em : o.mutex.makeConsistent = (.ok (), { o.mutex with hold := .held t }) := by
      simp [Mutex.makeConsistent, live, hold]
    rw [em] at e
    cases e
    exact ⟨_, _, .madeConsistent agree
      (keeps.setObject (o.withMutex { o.mutex with hold := .held t }) live)⟩
  | broadcast m =>
    obtain ⟨sees, ready⟩ := may
    obtain ⟨o, under, live, rfl⟩ := keeps.under? sees
    rw [Host.step_broadcast under] at e
    cases e
    refine ⟨_, c, keeps.setObject (o.withCondition _) live, agree, ⟨rfl, rfl⟩, stand,
      fun _ _ => rfl, ?_, rfl⟩
    simp [SharedSegment.verdicts, Deed.takes?]
  | _ => cases may

/-- To who keeps to the protocol, having to wait changes no owner. -/
theorem Keeps.wait {r : Request} (keeps : Keeps h₀ k x h)
    (may : (Protocol.ownership fun m => h₀.shows m k).Permits c r) (e : h.step t r = .wait h') :
    Keeps h₀ k x h' := by
  cases r with
  | lock m =>
    obtain ⟨o, under, live, rfl⟩ := keeps.under? may.1
    rw [Host.step_lock under] at e
    cases el : o.mutex.lock t with
    | answer a y =>
      rw [el] at e
      cases e
    | sleep y =>
      rw [el] at e
      cases e
      obtain ⟨live', same⟩ := Mutex.lock_sleep live el
      exact same ▸ keeps.setObject (o.withMutex y) live'
  | awake m =>
    obtain ⟨o, under, live, rfl⟩ := keeps.under? may.1
    rw [Host.step_awake under] at e
    split at e
    · cases e
      exact keeps
    cases el : o.mutex.lock t with
    | answer a y =>
      rw [el] at e
      cases e
    | sleep y =>
      rw [el] at e
      cases e
      obtain ⟨live', same⟩ := Mutex.lock_sleep live el
      exact same ▸ keeps.setObject (o.withMutex y) live'
  | hold | condDestroy => cases may
  | _ => cases e

/-- When a thread dies, the mutex is abandoned if it was the owner, and nobody else is concerned. -/
theorem Keeps.bury (keeps : Keeps h₀ k x h) (agree : (tenure k past).Agrees x) :
    ∃ x', Keeps h₀ k x' (h.bury t) ∧ (tenure k (.died t :: past)).Agrees x' ∧
      ∀ t' ≠ t, x'.stand t' = x.stand t' := by
  obtain ⟨o, eo, live, rfl⟩ := keeps.object
  have here : (h.bury t).object? k = some (o.bury t) := by
    simp only [Host.object?, Host.bury, List.getElem?_map] at eo ⊢
    rw [eo]
    rfl
  refine ⟨(o.bury t).mutex.hold, ⟨keeps.mappings, _, here, live, rfl⟩, ?_⟩
  simp only [Object.bury, Mutex.bury, live]
  -- A thread that dies without the mutex leaves the tenure of another, or none, as it is.
  by_cases own : o.mutex.hold.owner? = some t
  · have gone : tenure k (.died t :: past) = .cutShort := by
      have ep : tenure k past = .running t := by
        generalize eh : o.mutex.hold = y at agree own
        generalize tenure k past = tn at agree
        cases agree <;> simp_all [Hold.owner?]
      simp [tenure, ep]
    rw [if_pos ⟨by simp, own⟩, gone]
    refine ⟨.cutShort, ?_⟩
    intro t' ne
    generalize eh : o.mutex.hold = y at own
    cases y <;> simp_all [Hold.owner?, Hold.stand, ne.symm]
  · have stays : tenure k (.died t :: past) = tenure k past := by
      have ne : tenure k past ≠ .running t := by
        intro ep
        rw [ep] at agree
        generalize eh : o.mutex.hold = y at agree own
        cases agree <;> exact own rfl
      simp [tenure, ne]
    rw [if_neg (fun both => own both.2), stays]
    exact ⟨agree, fun _ _ => rfl⟩

end
end SharedSegment
