import SharedSegment.Proofs.Traces

/-!
# All or nothing

What `Header.prepare` has done when it ends, read off its trace, for every way in which its calls
may be answered. Calls whose failure ends what they are part of go as far as the first failure
(`Header.Tries`). Attributes are begun, used and given up, whatever the use has come to
(`Header.Brackets`). So the whole of it succeeds with both objects set up and the size published, or
names its first failure and leaves nothing set up (`Header.IsAllOrNothing`).
-/

namespace SharedSegment

/-- The failure of a call whose failures are looked at. -/
def Entry.syncFailure? : Entry → Option SyncFailure
  | .told _ => none
  | .asked r a => r.call?.bind fun x => (r.failure? a).map fun e => ⟨x.1, e⟩

namespace Header

/-- Calls are made one after the other until one of them fails. -/
inductive Tries : List Request → List Entry → Except SyncFailure Unit → Prop where
  | done :
    Tries [] [] (.ok ())
  | goesOn {q a qs es r} :
    q.failure? a = none →
    Tries qs es r →
    Tries (q :: qs) (.asked q a :: es) r
  | fails {q a c fail e qs} :
    q.call? = some (c, fail) →
    q.failure? a = some e →
    Tries (q :: qs) [.asked q a] (.error ⟨c, e⟩)

/-- Something is begun, used for some calls and given up again, whatever became of the calls. What
cannot be begun is not given up. -/
inductive Brackets (begins : Request) (qs : List Request) (ends : Request) :
    List Entry → Except SyncFailure Unit → Prop where
  | refused {es f} :
    Tries [begins] es (.error f) →
    Brackets begins qs ends es (.error f)
  | used {es es' r a} :
    Tries [begins] es (.ok ()) →
    Tries qs es' r →
    Brackets begins qs ends (es ++ es' ++ [.asked ends a]) r

namespace Tries

variable {q : Request} {qs : List Request} {es : List Entry} {r : Except SyncFailure Unit}
  {f : SyncFailure}

/-- One more call in front. -/
lemma of_ask {next : q.Answer → Program (Except SyncFailure Unit)} {c fail}
    (call : q.call? = some (c, fail)) (goes : (Program.ask q next).GoesThrough es r)
    (fails : ∀ a e, q.failure? a = some e → next a = .ret (.error ⟨c, e⟩))
    (goesOn : ∀ a es, q.failure? a = none → (next a).GoesThrough es r → Tries qs es r) :
    Tries (q :: qs) es r := by
  obtain ⟨a, es', rfl, left⟩ := goes.ask_inv
  cases failed : q.failure? a with
  | none => exact .goesOn failed (goesOn a es' failed left)
  | some e =>
    rw [fails a e failed] at left
    obtain ⟨rfl, rfl⟩ := left.ret_inv
    exact .fails call failed

/-- What comes of it is the first failure. -/
lemma failure (tries : Tries qs es r) : es.findSome? Entry.syncFailure? = failure? r := by
  induction tries with
  | done => rfl
  | @goesOn q a _ _ _ done _ ih =>
    have fine : (Entry.asked q a).syncFailure? = none := by simp [Entry.syncFailure?, done]
    rwa [List.findSome?_cons_of_isNone (by simp [fine])]
  | @fails q a c fail e _ call failed =>
    have here : (Entry.asked q a).syncFailure? = some ⟨c, e⟩ := by
      simp [Entry.syncFailure?, call, failed]
    rw [List.findSome?_cons_of_isSome (by simp [here]), here]
    rfl

/-- One of the calls has failed if the whole has. -/
lemma failing (tries : Tries qs es (.error f)) :
    ∃ q ∈ qs, ∃ a, .asked q a ∈ es ∧ q.failure? a ≠ none := by
  generalize er : Except.error f = r at tries
  induction tries with
  | done => cases er
  | goesOn _ _ ih =>
    obtain ⟨q, mem, a, there, failed⟩ := ih er
    exact ⟨q, .tail _ mem, a, .tail _ there, failed⟩
  | @fails q a _ _ _ _ _ failed => exact ⟨q, .head _, a, .head _, failed ▸ Option.some_ne_none _⟩

/-- No call is made but these, in this order. -/
lemma requests_isPrefix (tries : Tries qs es r) : Entry.requests es <+: qs := by
  induction tries with
  | done => exact List.prefix_rfl
  | goesOn _ _ ih => exact (List.prefix_cons_inj _).2 ih
  | fails => exact ⟨_, rfl⟩

/-- Where no call fails all of them are made. -/
lemma granted_of_ok (tries : Tries qs es (.ok ())) : Entry.granted es = qs := by
  generalize er : Except.ok () = r at tries
  induction tries with
  | done => rfl
  | goesOn done _ ih => rw [Entry.granted_of_success done, ih er]
  | fails => cases er

lemma requests_of_ok (tries : Tries qs es (.ok ())) : Entry.requests es = qs := by
  have longer := (Entry.granted_sublist es).length_le
  rw [tries.granted_of_ok] at longer
  exact tries.requests_isPrefix.eq_of_length_le longer

/-- Where one of them fails the last one has not been made with success. -/
lemma granted_of_error (tries : Tries qs es (.error f)) : Entry.granted es <+: qs.dropLast := by
  generalize er : Except.error f = r at tries
  induction tries with
  | done => cases er
  | @goesOn q a qs _ _ done tries ih =>
    rw [Entry.granted_of_success done]
    cases qs with
    | nil =>
      cases tries
      cases er
    | cons q' qs => exact (List.prefix_cons_inj q).2 (ih er)
  | @fails q a _ _ _ _ _ failed =>
    rw [Entry.granted_of_failure (e := .asked q a) (by simp [Entry.errno?, failed])]
    exact List.nil_prefix

end Tries

namespace Brackets

variable {begins ends q : Request} {qs : List Request} {es : List Entry}
  {r : Except SyncFailure Unit}

/-- What comes of it is the first failure: whether giving up fails is not looked at. -/
lemma failure (unseen : ends.call? = none) (brackets : Brackets begins qs ends es r) :
    es.findSome? Entry.syncFailure? = failure? r := by
  cases brackets with
  | refused tries => exact tries.failure
  | used begun tries =>
    rw [List.findSome?_append, List.findSome?_append, begun.failure, tries.failure]
    cases r <;> simp [failure?, Entry.syncFailure?, unseen]

lemma failing {f : SyncFailure} (brackets : Brackets begins qs ends es (.error f)) :
    ∃ q ∈ begins :: qs, ∃ a, .asked q a ∈ es ∧ q.failure? a ≠ none := by
  cases brackets with
  | refused tries =>
    obtain ⟨q, mem, a, there, failed⟩ := tries.failing
    exact ⟨q, List.mem_cons.2 (.inl (List.mem_singleton.1 mem)), a, there, failed⟩
  | used _ tries =>
    obtain ⟨q, mem, a, there, failed⟩ := tries.failing
    exact ⟨q, .tail _ mem, a, by simp [there], failed⟩

lemma requests_sublist (brackets : Brackets begins qs ends es r) :
    (Entry.requests es).Sublist (begins :: qs ++ [ends]) := by
  cases brackets with
  | refused tries =>
    exact tries.requests_isPrefix.sublist.trans (List.sublist_append_left [begins] (qs ++ [ends]))
  | @used es es' _ a begun tries =>
    have before := begun.requests_isPrefix.sublist.append tries.requests_isPrefix.sublist
    rw [Entry.requests_append, Entry.requests_append]
    exact before.append_right _

/-- Where no call fails all of them are made. -/
lemma requests_of_ok (brackets : Brackets begins qs ends es (.ok ())) :
    Entry.requests es = begins :: qs ++ [ends] := by
  cases brackets with
  | used begun tries =>
    rw [Entry.requests_append, Entry.requests_append, begun.requests_of_ok, tries.requests_of_ok]
    rfl

/-- What was begun is given up, and nothing else is. -/
lemma ends_mem_iff (apart : begins ≠ ends) (brackets : Brackets begins qs ends es r) :
    ends ∈ Entry.requests es ↔ begins ∈ Entry.granted es := by
  cases brackets with
  | refused tries =>
    have unmade : ends ∉ Entry.requests es := fun mem =>
      apart (List.mem_singleton.1 (tries.requests_isPrefix.subset mem)).symm
    have none : begins ∉ Entry.granted es := fun mem =>
      List.not_mem_nil (tries.granted_of_error.subset mem)
    exact iff_of_false unmade none
  | used begun tries =>
    have made : begins ∈ Entry.granted _ := begun.granted_of_ok ▸ List.mem_singleton_self begins
    exact iff_of_true (by simp) (by simp [made])

/-- The last call has been made with success if all of it was. -/
lemma last_granted_iff {last : Request} (apart : last ≠ begins ∧ last ≠ ends) (fresh : last ∉ qs)
    (brackets : Brackets begins (qs ++ [last]) ends es r) :
    last ∈ Entry.granted es ↔ r = .ok () := by
  cases brackets with
  | refused tries =>
    refine iff_of_false ?_ nofun
    intro mem
    exact List.not_mem_nil (tries.granted_of_error.subset mem)
  | @used es es' _ a begun tries =>
    have others : last ∉ Entry.granted es := by
      rw [begun.granted_of_ok, List.mem_singleton]
      exact apart.1
    have given : last ∉ Entry.granted [.asked ends a] := fun mem =>
      apart.2 (List.mem_singleton.1 ((Entry.granted_sublist _).subset mem))
    rw [Entry.granted_append, Entry.granted_append, List.mem_append, List.mem_append,
      or_iff_left given, or_iff_right others]
    cases r with
    | ok => exact iff_of_true (tries.granted_of_ok ▸ List.mem_append_right qs (.head _)) rfl
    | error f =>
      refine iff_of_false ?_ nofun
      intro mem
      have before := tries.granted_of_error.subset mem
      rw [List.dropLast_concat] at before
      exact fresh before

/-- Nothing else is asked for, -/
lemma not_requested (outside : q ∉ begins :: qs ++ [ends])
    (brackets : Brackets begins qs ends es r) : q ∉ Entry.requests es :=
  fun mem => outside (brackets.requests_sublist.subset mem)

/-- so that nothing else is done. -/
lemma not_granted (outside : q ∉ begins :: qs ++ [ends])
    (brackets : Brackets begins qs ends es r) : q ∉ Entry.granted es :=
  fun mem => brackets.not_requested outside ((Entry.granted_sublist es).subset mem)

end Brackets

/-- The calls that set the mutex up, with its attributes there. -/
def mutexCalls (m : MappingId) : List Request :=
  [.mutexattrSetpshared, .mutexattrSetrobust, .mutexattrSettype, .mutexInit m]

/-- The calls that set the condition up, with its attributes there. -/
def conditionCalls (m : MappingId) : List Request :=
  [.condattrSetclock, .condattrSetpshared, .condInit m]

/-- The calls that have to succeed. -/
def requiredCalls (m : MappingId) : List Request :=
  .mutexattrInit :: mutexCalls m ++ .condattrInit :: conditionCalls m

/-- All that is done to set both objects up. -/
def syncCalls (m : MappingId) : List Request :=
  .mutexattrInit :: mutexCalls m ++ [.mutexattrDestroy] ++
    (.condattrInit :: conditionCalls m ++ [.condattrDestroy])

/-- All that setting up may ask for, in order. -/
def setupCalls (m : MappingId) (size : UInt32) : List Request :=
  syncCalls m ++ [.mutexDestroy m, .storeSize m size]

/-- What is asked for last, behind a mutex that stands: without the condition the mutex is taken
down, with it the size is published. -/
def closing (m : MappingId) (size : UInt32) : Except SyncFailure Unit → Request
  | .ok () => .storeSize m size
  | .error _ => .mutexDestroy m

section
variable {m : MappingId} {size : UInt32} {es : List Entry} {r : Except SyncFailure Unit}

lemma tries_prepareMutex (goes : (prepareMutex m).run.GoesThrough es r) :
    Tries (mutexCalls m) es r := by
  refine .of_ask rfl goes (by rintro (_ | _) _ ⟨⟩; rfl) ?_
  rintro (_ | _) es ⟨⟩ goes
  refine .of_ask rfl goes (by rintro (_ | _) _ ⟨⟩; rfl) ?_
  rintro (_ | _) es ⟨⟩ goes
  refine .of_ask rfl goes (by rintro (_ | _) _ ⟨⟩; rfl) ?_
  rintro (_ | _) es ⟨⟩ goes
  refine .of_ask rfl goes (by rintro (_ | _) _ ⟨⟩; rfl) ?_
  rintro (_ | _) es ⟨⟩ goes
  obtain ⟨rfl, rfl⟩ := goes.ret_inv
  exact .done

lemma tries_prepareCondition (goes : (prepareCondition m).run.GoesThrough es r) :
    Tries (conditionCalls m) es r := by
  refine .of_ask rfl goes (by rintro (_ | _) _ ⟨⟩; rfl) ?_
  rintro (_ | _) es ⟨⟩ goes
  refine .of_ask rfl goes (by rintro (_ | _) _ ⟨⟩; rfl) ?_
  rintro (_ | _) es ⟨⟩ goes
  refine .of_ask rfl goes (by rintro (_ | _) _ ⟨⟩; rfl) ?_
  rintro (_ | _) es ⟨⟩ goes
  obtain ⟨rfl, rfl⟩ := goes.ret_inv
  exact .done

/-- Begun by one program, used by another. -/
lemma Brackets.of_parts {begins ends : Request} {qs : List Request}
    {begin use : Program (Except SyncFailure Unit)}
    {next : Except SyncFailure Unit → Program (Except SyncFailure Unit)}
    (goes : (begin.bind next).GoesThrough es r)
    (opens : ∀ es r, begin.GoesThrough es r → Tries [begins] es r)
    (uses : ∀ es r, use.GoesThrough es r → Tries qs es r)
    (refused : ∀ f, next (.error f) = .ret (.error f))
    (used : next (.ok ()) = use.bind fun r => (Program.request ends).bind fun _ => .ret r) :
    Brackets begins qs ends es r := by
  obtain ⟨es₁, es', x, rfl, first, goes⟩ := goes.bind_inv
  cases x with
  | error f =>
    rw [refused] at goes
    obtain ⟨rfl, rfl⟩ := goes.ret_inv
    rw [List.append_nil]
    exact .refused (opens _ _ first)
  | ok =>
    rw [used] at goes
    obtain ⟨es₂, es', x, rfl, second, goes⟩ := goes.bind_inv
    obtain ⟨es₃, es', a, rfl, third, goes⟩ := goes.bind_inv
    obtain ⟨rfl, rfl⟩ := goes.ret_inv
    rw [third.request_inv, List.append_nil, ← List.append_assoc]
    exact .used (opens _ _ first) (uses _ _ second)

/-- The mutex is set up if all of this succeeds. -/
lemma Brackets.mutexInit_granted_iff
    (mutex : Brackets .mutexattrInit (mutexCalls m) .mutexattrDestroy es r) :
    .mutexInit m ∈ Entry.granted es ↔ r = .ok () := by
  have calls : mutexCalls m =
      [.mutexattrSetpshared, .mutexattrSetrobust, .mutexattrSettype] ++ [.mutexInit m] := rfl
  rw [calls] at mutex
  exact mutex.last_granted_iff (by simp) (by simp)

/-- The condition is set up if all of this succeeds. -/
lemma Brackets.condInit_granted_iff
    (condition : Brackets .condattrInit (conditionCalls m) .condattrDestroy es r) :
    .condInit m ∈ Entry.granted es ↔ r = .ok () := by
  have calls : conditionCalls m = [.condattrSetclock, .condattrSetpshared] ++ [.condInit m] := rfl
  rw [calls] at condition
  exact condition.last_granted_iff (by simp) (by simp)

lemma brackets_withMutexAttributes (goes : (withMutexAttributes m).GoesThrough es r) :
    Brackets .mutexattrInit (mutexCalls m) .mutexattrDestroy es r := by
  refine .of_parts goes ?_ (fun _ _ => tries_prepareMutex) (fun _ => rfl) rfl
  intro es r goes
  refine .of_ask rfl goes (by rintro (_ | _) _ ⟨⟩; rfl) ?_
  rintro (_ | _) es ⟨⟩ goes
  obtain ⟨rfl, rfl⟩ := goes.ret_inv
  exact .done

lemma brackets_withConditionAttributes (goes : (withConditionAttributes m).GoesThrough es r) :
    Brackets .condattrInit (conditionCalls m) .condattrDestroy es r := by
  refine .of_parts goes ?_ (fun _ _ => tries_prepareCondition) (fun _ => rfl) rfl
  intro es r goes
  refine .of_ask rfl goes (by rintro (_ | _) _ ⟨⟩; rfl) ?_
  rintro (_ | _) es ⟨⟩ goes
  obtain ⟨rfl, rfl⟩ := goes.ret_inv
  exact .done

/-- Setting up ends at the mutex, or goes on behind it as the condition decides. -/
lemma prepare_inv (goes : (prepare m size).GoesThrough es r) :
    (∃ f, r = .error f ∧ Brackets .mutexattrInit (mutexCalls m) .mutexattrDestroy es r) ∨
      ∃ es₁ es₂ a, es = es₁ ++ (es₂ ++ [.asked (closing m size r) a]) ∧
        Brackets .mutexattrInit (mutexCalls m) .mutexattrDestroy es₁ (.ok ()) ∧
        Brackets .condattrInit (conditionCalls m) .condattrDestroy es₂ r := by
  obtain ⟨es₁, es₂, x, rfl, first, goes⟩ := goes.bind_inv
  have mutex := brackets_withMutexAttributes first
  cases x with
  | error f =>
    obtain ⟨rfl, rfl⟩ := goes.ret_inv
    rw [List.append_nil]
    exact .inl ⟨f, rfl, mutex⟩
  | ok =>
    obtain ⟨es₂, es₃, x, rfl, second, goes⟩ := goes.bind_inv
    have condition := brackets_withConditionAttributes second
    cases x with
    | error f =>
      obtain ⟨a, es₄, rfl, left⟩ := goes.ask_inv
      obtain ⟨rfl, rfl⟩ := left.ret_inv
      exact .inr ⟨es₁, es₂, a, rfl, mutex, condition⟩
    | ok =>
      obtain ⟨a, es₄, rfl, left⟩ := goes.ask_inv
      obtain ⟨rfl, rfl⟩ := left.ret_inv
      exact .inr ⟨es₁, es₂, a, rfl, mutex, condition⟩

end

/-- Setting up is all or nothing. -/
structure IsAllOrNothing (m : MappingId) (size : UInt32) (es : List Entry)
    (r : Except SyncFailure Unit) : Prop where
  /-- Nothing is done twice or out of order. -/
  order : (Entry.requests es).Sublist (setupCalls m size)
  once : (Entry.requests es).Nodup
  /-- It succeeds if no call fails, but for giving attributes up, -/
  ok_iff : r = .ok () ↔ ∀ q ∈ requiredCalls m, ∀ a, .asked q a ∈ es → q.failure? a = none
  /-- and then all has been done. -/
  whole : r = .ok () → Entry.requests es = syncCalls m ++ [.storeSize m size]
  /-- What is reported is the first failure. -/
  failure : failure? r = es.findSome? Entry.syncFailure?
  /-- The size is published with success. -/
  published : ∀ m' n, .storeSize m' n ∈ Entry.requests es ↔ m' = m ∧ n = size ∧ r = .ok ()
  /-- Attributes that were begun are given up. -/
  mutexAttributes : .mutexattrDestroy ∈ Entry.requests es ↔ .mutexattrInit ∈ Entry.granted es
  conditionAttributes : .condattrDestroy ∈ Entry.requests es ↔ .condattrInit ∈ Entry.granted es
  /-- The mutex is taken down if it has been set up and the whole fails. -/
  mutex : ∀ m', .mutexDestroy m' ∈ Entry.requests es ↔
    m' = m ∧ .mutexInit m ∈ Entry.granted es ∧ r ≠ .ok ()
  /-- A condition has been set up with success alone. -/
  condition : ∀ m', .condInit m' ∈ Entry.granted es ↔ m' = m ∧ r = .ok ()

section
variable {m : MappingId} {size : UInt32} {es : List Entry} {r : Except SyncFailure Unit}

/-- Failures of the calls that have to succeed are seen. -/
lemma ok_iff_of_failure (failure : failure? r = es.findSome? Entry.syncFailure?)
    (failing : ∀ f, r = .error f →
      ∃ q ∈ requiredCalls m, ∃ a, .asked q a ∈ es ∧ q.failure? a ≠ none) :
    r = .ok () ↔ ∀ q ∈ requiredCalls m, ∀ a, .asked q a ∈ es → q.failure? a = none := by
  have seen : ∀ q ∈ requiredCalls m, q.call?.isSome := by
    simp [requiredCalls, mutexCalls, conditionCalls, Request.call?]
  cases r with
  | ok =>
    refine iff_of_true rfl ?_
    intro q mem a there
    have none := List.findSome?_eq_none_iff.1 failure.symm _ there
    obtain ⟨x, call⟩ := Option.isSome_iff_exists.1 (seen q mem)
    simpa [Entry.syncFailure?, call] using none
  | error f =>
    obtain ⟨q, mem, a, there, failed⟩ := failing f rfl
    exact iff_of_false nofun fun fine => failed (fine q mem a there)

lemma setupCalls_nodup : (setupCalls m size).Nodup := by
  simp [setupCalls, syncCalls, mutexCalls, conditionCalls]

/-- Without the mutex nothing is set up. -/
lemma isAllOrNothing_of_refused {f : SyncFailure}
    (mutex : Brackets .mutexattrInit (mutexCalls m) .mutexattrDestroy es (.error f)) :
    IsAllOrNothing m size es (.error f) := by
  have order : (Entry.requests es).Sublist (setupCalls m size) := by
    rw [setupCalls, syncCalls, List.append_assoc]
    exact mutex.requests_sublist.trans (List.sublist_append_left ..)
  have failure := (mutex.failure rfl).symm
  have failing (f' : SyncFailure) (_ : .error f = (.error f' : Except SyncFailure Unit)) :
      ∃ q ∈ requiredCalls m, ∃ a, .asked q a ∈ es ∧ q.failure? a ≠ none := by
    obtain ⟨q, mem, failed⟩ := mutex.failing
    exact ⟨q, List.mem_append_left _ mem, failed⟩
  have unset : .mutexInit m ∉ Entry.granted es := fun mem =>
    nomatch mutex.mutexInit_granted_iff.1 mem
  exact
    { order, failure
      once := order.nodup setupCalls_nodup
      ok_iff := ok_iff_of_failure failure failing
      whole := nofun
      published := fun m' n =>
        iff_of_false (mutex.not_requested (by simp [mutexCalls])) fun ends => nomatch ends.2.2
      mutexAttributes := mutex.ends_mem_iff nofun
      conditionAttributes :=
        iff_of_false (mutex.not_requested (by simp [mutexCalls]))
          (mutex.not_granted (by simp [mutexCalls]))
      mutex := fun m' =>
        iff_of_false (mutex.not_requested (by simp [mutexCalls])) fun set => unset set.2.1
      condition := fun m' =>
        iff_of_false (mutex.not_granted (by simp [mutexCalls])) fun ends => nomatch ends.2 }

/-- With the mutex there the condition decides. -/
lemma isAllOrNothing_of_mutex {es' : List Entry} {a' : (closing m size r).Answer}
    (mutex : Brackets .mutexattrInit (mutexCalls m) .mutexattrDestroy es (.ok ()))
    (condition : Brackets .condattrInit (conditionCalls m) .condattrDestroy es' r) :
    IsAllOrNothing m size (es ++ (es' ++ [.asked (closing m size r) a'])) r := by
  have closes : [closing m size r].Sublist [Request.mutexDestroy m, .storeSize m size] := by
    cases r with
    | ok => exact List.sublist_append_right [Request.mutexDestroy m] [.storeSize m size]
    | error f => exact List.sublist_append_left [Request.mutexDestroy m] [.storeSize m size]
  have requests : Entry.requests (es ++ (es' ++ [.asked (closing m size r) a'])) =
      Entry.requests es ++ (Entry.requests es' ++ [closing m size r]) := by
    rw [Entry.requests_append, Entry.requests_append]
    rfl
  have order : (Entry.requests (es ++ (es' ++ [.asked (closing m size r) a']))).Sublist
      (setupCalls m size) := by
    rw [requests, setupCalls, syncCalls, List.append_assoc]
    exact mutex.requests_sublist.append (condition.requests_sublist.append closes)
  have failure : failure? r =
      (es ++ (es' ++ [Entry.asked (closing m size r) a'])).findSome? Entry.syncFailure? := by
    rw [List.findSome?_append, List.findSome?_append, mutex.failure rfl, condition.failure rfl]
    cases r <;> rfl
  have failing (f : SyncFailure) (er : r = .error f) : ∃ q ∈ requiredCalls m, ∃ a,
      .asked q a ∈ es ++ (es' ++ [.asked (closing m size r) a']) ∧ q.failure? a ≠ none := by
    subst er
    obtain ⟨q, mem, a, there, failed⟩ := condition.failing
    exact ⟨q, List.mem_append_right _ mem, a, by simp [there], failed⟩
  have asked (q : Request) : q ∈ Entry.requests (es ++ (es' ++ [.asked (closing m size r) a'])) ↔
      q ∈ Entry.requests es ∨ q ∈ Entry.requests es' ∨ q = closing m size r := by
    rw [requests, List.mem_append, List.mem_append, List.mem_singleton]
  -- What is asked for last is no part of either bracket.
  have granted {q : Request} (other : q ≠ closing m size r) :
      q ∈ Entry.granted (es ++ (es' ++ [.asked (closing m size r) a'])) ↔
        q ∈ Entry.granted es ∨ q ∈ Entry.granted es' := by
    have last : q ∉ Entry.granted [.asked (closing m size r) a'] := fun mem =>
      other (List.mem_singleton.1 ((Entry.granted_sublist _).subset mem))
    rw [Entry.granted_append, Entry.granted_append, List.mem_append, List.mem_append,
      or_iff_left last]
  have set : .mutexInit m ∈ Entry.granted es :=
    mutex.mutexInit_granted_iff.2 rfl
  exact
    { order, failure
      once := order.nodup setupCalls_nodup
      ok_iff := ok_iff_of_failure failure failing
      whole := by
        rintro rfl
        rw [requests, mutex.requests_of_ok, condition.requests_of_ok, syncCalls, List.append_assoc]
        rfl
      published := by
        intro m' n
        rw [asked, or_iff_right (mutex.not_requested (by simp [mutexCalls])),
          or_iff_right (condition.not_requested (by simp [conditionCalls]))]
        cases r <;> simp [closing]
      mutexAttributes := by
        have kept : .mutexattrDestroy ∉ Entry.requests es' :=
          condition.not_requested (by simp [conditionCalls])
        have last : .mutexattrDestroy ≠ closing m size r := by cases r <;> nofun
        rw [asked, granted (by cases r <;> nofun), or_iff_left (not_or.2 ⟨kept, last⟩),
          or_iff_left (condition.not_granted (by simp [conditionCalls]))]
        exact mutex.ends_mem_iff (by simp)
      conditionAttributes := by
        rw [asked, granted (by cases r <;> nofun),
          or_iff_right (mutex.not_requested (by simp [mutexCalls])),
          or_iff_right (mutex.not_granted (by simp [mutexCalls])),
          or_iff_left (by cases r <;> nofun)]
        exact condition.ends_mem_iff (by simp)
      mutex := by
        intro m'
        rw [asked, granted (by cases r <;> nofun),
          or_iff_right (mutex.not_requested (by simp [mutexCalls])),
          or_iff_right (condition.not_requested (by simp [conditionCalls]))]
        cases r <;> simp [closing, set]
      condition := by
        intro m'
        rw [granted (by cases r <;> nofun), or_iff_right (mutex.not_granted (by simp [mutexCalls]))]
        by_cases here : m' = m
        · subst here
          rw [condition.condInit_granted_iff, and_iff_right rfl]
        · have other := condition.not_granted (q := .condInit m') (by simp [conditionCalls, here])
          exact iff_of_false other fun both => here both.1 }

/-- For an assignment of answers it is enough to look at the calls that have to succeed. -/
lemma IsAllOrNothing.ok_iff_answers (whole : IsAllOrNothing m size es r)
    {answers : (q : Request) → q.Answer} (follow : Entry.Follow answers es) :
    r = .ok () ↔ ∀ q ∈ requiredCalls m, q.failure? (answers q) = none := by
  have included : ∀ q ∈ requiredCalls m, q ∈ syncCalls m ++ [.storeSize m size] := by
    simp [requiredCalls, syncCalls, mutexCalls, conditionCalls]
  constructor
  · intro ok q mem
    obtain ⟨a, there⟩ := Entry.mem_requests.1 (whole.whole ok ▸ included q mem)
    exact follow q a there ▸ whole.ok_iff.1 ok q mem a there
  · intro fine
    refine whole.ok_iff.2 ?_
    intro q mem a there
    exact follow q a there ▸ fine q mem

/-- Setting up can be answered in every way, and whatever is answered it is all or nothing, so on
every host. -/
theorem preparing_is_all_or_nothing (m : MappingId) (size : UInt32) :
    (∀ answers : (q : Request) → q.Answer, ∃ es r, (prepare m size).GoesThrough es r ∧
      Entry.Follow answers es ∧ IsAllOrNothing m size es r ∧
      (r = .ok () ↔ ∀ q ∈ requiredCalls m, q.failure? (answers q) = none)) ∧
    (∀ es r, (prepare m size).GoesThrough es r → IsAllOrNothing m size es r) ∧
    ∀ t h ms r h', (prepare m size).Steps t h ms (.ret r) h' →
      IsAllOrNothing m size (Move.trace ms) r := by
  have whole es r (goes : (prepare m size).GoesThrough es r) : IsAllOrNothing m size es r := by
    obtain ⟨f, rfl, mutex⟩ | ⟨es₁, es₂, a, rfl, mutex, condition⟩ := prepare_inv goes
    · exact isAllOrNothing_of_refused mutex
    · exact isAllOrNothing_of_mutex mutex condition
  refine ⟨?_, whole, ?_⟩
  · intro answers
    obtain ⟨es, r, goes, follow⟩ := (prepare m size).exists_goesThrough answers
    exact ⟨es, r, goes, follow, whole es r goes, (whole es r goes).ok_iff_answers follow⟩
  · intro t h ms r h' sts
    have goes := sts.goesThrough .ret
    rw [List.append_nil] at goes
    exact whole _ r goes

end

/-- The condition's attributes cannot be begun, and nobody looks that the mutex's attributes could
not be given up: the mutex is taken down again. -/
theorem preparing_undone_without_condition :
    let es : List Entry :=
      [.asked .mutexattrInit (.ok ()), .asked .mutexattrSetpshared (.ok ()),
        .asked .mutexattrSetrobust (.ok ()), .asked .mutexattrSettype (.ok ()),
        .asked (.mutexInit 0) (.ok ()), .asked .mutexattrDestroy (.error .einval),
        .asked .condattrInit (.error ⟨12⟩), .asked (.mutexDestroy 0) (.ok ())]
    (prepare 0 8).GoesThrough es (.error ⟨.condattrInit, ⟨12⟩⟩) ∧
      IsAllOrNothing 0 8 es (.error ⟨.condattrInit, ⟨12⟩⟩) := by
  intro es
  have goes : (prepare 0 8).GoesThrough es (.error ⟨.condattrInit, ⟨12⟩⟩) :=
    .ask (.ask (.ask (.ask (.ask (.ask (.ask (.ask .ret)))))))
  exact ⟨goes, (preparing_is_all_or_nothing 0 8).2.1 es _ goes⟩

end Header
end SharedSegment
