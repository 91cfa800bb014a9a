import SharedSegment.Proofs.Traces

/-!
# Tearing down

What `Segment.destroy` has done when it ends, read off its trace, for every way in which its calls
may be answered. Each part of it asks for the same things whatever fails, and tells of every failure
as soon as its part is done (`Segment.Accounts`). So everything that a handle has to ask for is
asked for (`Segment.Requires`), and nothing is left to the handle (`Segment.IsTornDown`).
-/

namespace SharedSegment
open Program Header

@[simp] lemma Entry.outputs_told_map (os : List Output) : Entry.outputs (os.map .told) = os := by
  induction os with
  | nil => rfl
  | cons o os ih => rw [List.map_cons, Entry.outputs_told, ih]

@[simp] lemma Entry.requests_told_map (os : List Output) : Entry.requests (os.map .told) = [] := by
  induction os with
  | nil => rfl
  | cons o os ih => rw [List.map_cons, Entry.requests_told, ih]

namespace Segment

/-- The record that a handle makes of a failure while it is torn down. That its name is gone already
is not recorded. -/
def complaint (g : Segment) : Request → Errno → Option Event
  | .broadcast _, e => some (.syncFailed g.name g.flavor .condBroadcast e)
  | .condDestroy _, e => some (.syncFailed g.name g.flavor .condDestroy e)
  | .mutexDestroy _, e => some (.syncFailed g.name g.flavor .mutexDestroy e)
  | .unmap _, e => some (.unmapFailed g.name g.flavor e)
  | .unlink _, e => if e = .enoent then none else some (.unlinkFailed g.name g.flavor e)
  | _, _ => none

def complaint? (g : Segment) : Entry → Option Event
  | .told _ => none
  | .asked r a => (r.failure? a).bind (g.complaint r)

/-- What tearing a handle down has to ask for. -/
inductive Requires : Segment → List Request → Prop where
  /-- A creator with its synchronization set up. -/
  | creator {n fl size f m} :
    Requires ⟨n, fl, .creator, size, some f, some m, true⟩
      [.broadcast m, .condDestroy m, .mutexDestroy m, .unmap m, .close f, .unlink n]
  /-- A creator that has not got that far, mapped or not. -/
  | halfMade {n fl size f mapping} :
    Requires ⟨n, fl, .creator, size, some f, mapping, false⟩
      (mapping.toList.map .unmap ++ [.close f, .unlink n])
  | attacher {n fl size f m} :
    Requires ⟨n, fl, .attacher, size, some f, some m, false⟩ [.unmap m, .close f]

/-- A handle has been torn down as a whole. -/
structure IsTornDown (g : Segment) (calls : List Request) (es : List Entry) (g' : Segment) :
    Prop where
  /-- All that has to be asked for is asked for, once and in order. -/
  calls : Entry.requests es = calls
  /-- Every failure is recorded in order, and the release is recorded last. -/
  records : Entry.outputs es =
    (es.filterMap g.complaint?).map .log ++ [.log (.released g.name g.flavor g.role)]
  grave : ∀ v ∈ es.filterMap g.complaint?, v.level = .error
  /-- Nothing else fails in silence than taking a name away that is gone. -/
  complete : ∀ q a e, .asked q a ∈ es → q.failure? a = some e → g.complaint q e = none →
    q = .unlink g.name ∧ e = .enoent
  gone : g' = { g with file := none, mapping := none, ownsSync := false }

/-- What is put out is a record for each failure, in order. -/
def Accounts (g : Segment) (es : List Entry) : Prop :=
  Entry.outputs es = (es.filterMap g.complaint?).map .log

section
variable {g g' : Segment} {es es' : List Entry} {a : Unit} {m : MappingId} {f : FileId}

lemma accounts_nil : g.Accounts [] := rfl

lemma Accounts.append (first : g.Accounts es) (second : g.Accounts es') :
    g.Accounts (es ++ es') := by
  unfold Accounts at first second ⊢
  rw [Entry.outputs_append, List.filterMap_append, List.map_append, first, second]

lemma checked_inv {c : Call} {p : Program (Except Errno Unit)} {x : Except SyncFailure Unit}
    (goes : (checked c p).run.GoesThrough es x) :
    ∃ a, p.GoesThrough es a ∧ x = a.mapError fun e => ⟨c, e⟩ := by
  obtain ⟨es₁, es₂, a, rfl, first, second⟩ := goes.bind_inv
  cases a with
  | ok | error =>
    obtain ⟨rfl, rfl⟩ := second.ret_inv
    rw [List.append_nil]
    exact ⟨_, first, rfl⟩

/-- All three calls are made, whatever comes of them. -/
lemma headerDestroy_inv {fs : List SyncFailure} (goes : (Header.destroy m).GoesThrough es fs) :
    ∃ a₁ a₂ a₃ : Except Errno Unit, es =
        [.asked (.broadcast m) a₁, .asked (.condDestroy m) a₂, .asked (.mutexDestroy m) a₃] ∧
      fs = [a₁.mapError fun e => ⟨.condBroadcast, e⟩, a₂.mapError fun e => ⟨.condDestroy, e⟩,
        a₃.mapError fun e => ⟨.mutexDestroy, e⟩].filterMap failure? := by
  obtain ⟨es₁, es', x₁, rfl, first, goes⟩ := goes.bind_inv
  obtain ⟨es₂, es', x₂, rfl, second, goes⟩ := goes.bind_inv
  obtain ⟨es₃, es', x₃, rfl, third, goes⟩ := goes.bind_inv
  obtain ⟨rfl, rfl⟩ := goes.ret_inv
  obtain ⟨a₁, woken, rfl⟩ := checked_inv first
  obtain ⟨a₂, condition, rfl⟩ := checked_inv second
  obtain ⟨a₃, mutex, rfl⟩ := checked_inv third
  rw [woken.request_inv, condition.request_inv, mutex.request_inv]
  exact ⟨a₁, a₂, a₃, rfl, rfl⟩

lemma logSyncs_inv {fs : List SyncFailure} (goes : (fs.forM g.logSync).GoesThrough es a) :
    es = (fs.map fun f => Output.log (.syncFailed g.name g.flavor f.call f.errno)).map .told := by
  induction fs generalizing es with
  | nil => exact goes.ret_inv.1
  | cons f fs ih =>
    obtain ⟨es', rfl, left⟩ := goes.put_inv
    rw [List.map_cons, List.map_cons, ← ih left]

lemma logFailure_inv {r : Except Errno Unit} {v : Errno → Event}
    (goes : (Program.logFailure r v).GoesThrough es a) :
    r = .ok () ∧ es = [] ∨ ∃ e, r = .error e ∧ es = [.told (.log (v e))] := by
  cases r with
  | ok => exact .inl ⟨rfl, goes.ret_inv.1⟩
  | error e => exact .inr ⟨e, rfl, goes.log_inv⟩

lemma destroySync_inv (goes : g.destroySync.GoesThrough es a) (em : g.mapping = some m)
    (owns : g.role = .creator ∧ g.ownsSync) :
    g.Accounts es ∧ Entry.requests es = [.broadcast m, .condDestroy m, .mutexDestroy m] := by
  unfold destroySync at goes
  simp only [em, if_pos owns] at goes
  obtain ⟨es₁, es₂, fs, rfl, called, told⟩ := goes.bind_inv
  obtain ⟨a₁, a₂, a₃, rfl, rfl⟩ := headerDestroy_inv called
  rw [logSyncs_inv told, Accounts]
  cases a₁ <;> cases a₂ <;> cases a₃ <;> exact ⟨rfl, rfl⟩

lemma destroySync_nothing (goes : g.destroySync.GoesThrough es a)
    (spares : ¬(g.role = .creator ∧ g.ownsSync)) : es = [] := by
  unfold destroySync at goes
  cases em : g.mapping with
  | none =>
    rw [em] at goes
    exact goes.ret_inv.1
  | some m =>
    simp only [em, if_neg spares] at goes
    exact goes.ret_inv.1

lemma unmap_inv (goes : g.unmap.GoesThrough es a) :
    g.Accounts es ∧ Entry.requests es = g.mapping.toList.map .unmap := by
  unfold unmap at goes
  cases em : g.mapping with
  | none =>
    rw [em] at goes
    rw [goes.ret_inv.1]
    exact ⟨accounts_nil, rfl⟩
  | some m =>
    simp only [em] at goes
    obtain ⟨x, es', rfl, left⟩ := goes.ask_inv
    obtain ⟨rfl, rfl⟩ | ⟨e, rfl, rfl⟩ := logFailure_inv left
    · exact ⟨rfl, rfl⟩
    · exact ⟨rfl, rfl⟩

lemma unlink_inv (goes : g.unlink.GoesThrough es a) :
    g.Accounts es ∧ Entry.requests es = [.unlink g.name] := by
  obtain ⟨x, es', rfl, left⟩ := goes.ask_inv
  cases x with
  | ok =>
    rw [left.ret_inv.1]
    exact ⟨rfl, rfl⟩
  | error e =>
    change (if e = .enoent then Program.ret () else Program.log _).GoesThrough es' a at left
    by_cases gone : e = .enoent
    · rw [if_pos gone] at left
      rw [left.ret_inv.1, Accounts]
      subst gone
      exact ⟨rfl, rfl⟩
    · rw [if_neg gone] at left
      have record : g.complaint? (.asked (.unlink g.name) (.error e)) =
          some (.unlinkFailed g.name g.flavor e) := if_neg gone
      rw [left.log_inv, Accounts, List.filterMap_cons_some record]
      exact ⟨rfl, rfl⟩

lemma release_inv (goes : g.release.GoesThrough es a) (ef : g.file = some f) :
    ∃ es', es = es' ++ [.told (.log (.released g.name g.flavor g.role))] ∧ g.Accounts es' ∧
      Entry.requests es' = .close f :: if g.role = .creator then [.unlink g.name] else [] := by
  unfold release at goes
  simp only [ef] at goes
  obtain ⟨x, es', rfl, left⟩ := goes.ask_inv
  by_cases creator : g.role = .creator
  · simp only [if_pos creator] at left ⊢
    change (g.unlink.bind fun _ => Program.log _).GoesThrough es' a at left
    obtain ⟨es₁, es₂, _, rfl, taken, told⟩ := left.bind_inv
    obtain ⟨accounts, calls⟩ := unlink_inv taken
    rw [told.log_inv]
    have closed : g.Accounts [.asked (.close f) x] := rfl
    refine ⟨.asked (.close f) x :: es₁, rfl, ?_, ?_⟩
    · exact closed.append accounts
    · rw [Entry.requests_asked, calls]
  · simp only [if_neg creator] at left ⊢
    change (Program.log _).GoesThrough es' a at left
    rw [left.log_inv]
    exact ⟨[.asked (.close f) x], rfl, rfl, rfl⟩

lemma level_of_complaint {q : Request} {e : Errno} {v : Event} (ev : g.complaint q e = some v) :
    v.level = .error := by
  cases q with
  | broadcast | condDestroy | mutexDestroy | unmap =>
    cases ev
    rfl
  | unlink =>
    obtain ⟨-, told⟩ := Option.ite_none_left_eq_some.1 ev
    cases told
    rfl
  | _ => cases ev

variable {calls : List Request}

lemma Requires.complete (requires : g.Requires calls) {q : Request} {a : q.Answer} {e : Errno}
    (mem : q ∈ calls) (failed : q.failure? a = some e) (silent : g.complaint q e = none) :
    q = .unlink g.name ∧ e = .enoent := by
  have known : (∃ f, q = .close f) ∨ q = .unlink g.name ∨ g.complaint q e ≠ none := by
    cases requires with
    | creator | attacher =>
      simp only [List.mem_cons, List.not_mem_nil, or_false] at mem
      rcases mem with rfl | rfl | rfl | rfl | rfl | rfl <;> simp [complaint]
    | halfMade =>
      simp only [List.mem_append, List.mem_map, List.mem_cons, List.not_mem_nil, or_false] at mem
      obtain ⟨m, -, rfl⟩ | rfl | rfl := mem <;> simp [complaint]
  obtain ⟨f, rfl⟩ | rfl | told := known
  · cases failed
  · exact ⟨rfl, by_contra fun other => nomatch (if_neg other).symm.trans silent⟩
  · exact absurd silent told

/-- A handle that has to ask for something is torn down as a whole. -/
theorem isTornDown_of_goesThrough (requires : g.Requires calls)
    (goes : g.destroy.GoesThrough es g') : g.IsTornDown calls es g' := by
  obtain ⟨es₁, es', _, rfl, first, goes⟩ := goes.bind_inv
  obtain ⟨es₂, es', _, rfl, second, goes⟩ := goes.bind_inv
  obtain ⟨es₃, es', _, rfl, third, left⟩ := goes.bind_inv
  obtain ⟨rfl, rfl⟩ := left.ret_inv
  obtain ⟨f, ef⟩ : ∃ f, g.file = some f := by
    cases requires <;> exact ⟨_, rfl⟩
  obtain ⟨unmapped, second⟩ := unmap_inv second
  obtain ⟨es₃, rfl, released, third⟩ := release_inv third ef
  obtain ⟨synced, asked⟩ : g.Accounts es₁ ∧
      Entry.requests es₁ ++ (Entry.requests es₂ ++ Entry.requests es₃) = calls := by
    rw [second, third]
    cases requires with
    | creator =>
      obtain ⟨synced, asked⟩ := destroySync_inv first rfl ⟨rfl, rfl⟩
      cases ef
      rw [asked]
      exact ⟨synced, rfl⟩
    | halfMade | attacher =>
      rw [destroySync_nothing first (by simp)]
      cases ef
      exact ⟨accounts_nil, rfl⟩
  have accounts := synced.append (unmapped.append released)
  have cut : es₁ ++ (es₂ ++ ((es₃ ++ [.told (.log (.released g.name g.flavor g.role))]) ++ [])) =
      (es₁ ++ (es₂ ++ es₃)) ++ [.told (.log (.released g.name g.flavor g.role))] := by
    simp
  have calls_eq : Entry.requests (es₁ ++ (es₂ ++ es₃)) = calls := by
    rw [Entry.requests_append, Entry.requests_append, asked]
  rw [cut]
  refine ⟨?_, ?_, ?_, ?_, ?_⟩
  · rw [Entry.requests_append, calls_eq]
    exact List.append_nil _
  · rw [Entry.outputs_append, List.filterMap_append, accounts]
    simp [complaint?]
  · intro v mem
    obtain ⟨_ | ⟨q, a⟩, -, ev⟩ := List.mem_filterMap.1 mem
    · cases ev
    · obtain ⟨e, -, ev⟩ := Option.bind_eq_some_iff.1 ev
      exact level_of_complaint ev
  · intro q a e mem
    refine requires.complete ?_
    rw [← calls_eq, Entry.mem_requests]
    exact ⟨a, by simpa using mem⟩
  · cases requires <;> rfl

end

end Segment
end SharedSegment
