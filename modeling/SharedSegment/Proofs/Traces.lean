import SharedSegment.Proofs.Ensures
import SharedSegment.Proofs.Session

/-!
# Traces

A trace lists what a program puts out and what it asks for, with the answers, in order.
`Program.GoesThrough` says which traces a program can have, whatever it is answered: the answers in
a trace are an assignment of a result to each of its requests, and every assignment leads to a trace
(`Program.exists_goesThrough`). What a program does on a host is one of its traces
(`Program.Steps.goesThrough`), and so is what a thread does in a call, whoever comes between
(`Session.trace_run`).
-/

namespace SharedSegment

/-- Something that a program does. -/
inductive Entry where
  /-- It puts something out. -/
  | told (o : Output)
  /-- It asks for something and gets an answer. -/
  | asked (r : Request) (a : r.Answer)

namespace Entry

def output? : Entry → Option Output
  | .told o => some o
  | .asked .. => none

def request? : Entry → Option Request
  | .told _ => none
  | .asked r _ => some r

/-- The error number of an answer that tells of a failure. -/
def errno? : Entry → Option Errno
  | .told _ => none
  | .asked r a => r.failure? a

/-- The call that an entry is about, if it may fail. -/
def call? : Entry → Option Call
  | .told _ => none
  | .asked r _ => r.call?.map Prod.fst

/-- A request that has not failed. -/
def granted? (e : Entry) : Option Request :=
  if e.errno?.isNone then e.request? else none

/-- What is put out in a trace. -/
def outputs (es : List Entry) : List Output :=
  es.filterMap output?

/-- What is asked for in a trace. -/
def requests (es : List Entry) : List Request :=
  es.filterMap request?

/-- What is asked for in a trace and can fail. -/
def calls (es : List Entry) : List Request :=
  (requests es).filter fun r => r.call?.isSome

/-- What is asked for in a trace and does not fail. -/
def granted (es : List Entry) : List Request :=
  es.filterMap granted?

/-- All answers in a trace are those of an assignment. -/
def Follow (answers : (r : Request) → r.Answer) (es : List Entry) : Prop :=
  ∀ r a, .asked r a ∈ es → a = answers r

section
variable {e : Entry} {o : Output} {r : Request} {a : r.Answer} {es es' : List Entry}

@[simp] lemma outputs_nil : outputs [] = [] := rfl
@[simp] lemma outputs_told : outputs (.told o :: es) = o :: outputs es := rfl
@[simp] lemma outputs_asked : outputs (.asked r a :: es) = outputs es := rfl

@[simp] lemma outputs_append : outputs (es ++ es') = outputs es ++ outputs es' :=
  List.filterMap_append

@[simp] lemma requests_nil : requests [] = [] := rfl
@[simp] lemma requests_told : requests (.told o :: es) = requests es := rfl
@[simp] lemma requests_asked : requests (.asked r a :: es) = r :: requests es := rfl

@[simp] lemma requests_append : requests (es ++ es') = requests es ++ requests es' :=
  List.filterMap_append

lemma mem_requests : r ∈ requests es ↔ ∃ a, .asked r a ∈ es := by
  constructor
  · intro mem
    obtain ⟨_ | ⟨r, a⟩, there, er⟩ := List.mem_filterMap.1 mem
    · cases er
    · cases er
      exact ⟨a, there⟩
  · rintro ⟨a, there⟩
    exact List.mem_filterMap.2 ⟨_, there, rfl⟩

@[simp] lemma calls_append : calls (es ++ es') = calls es ++ calls es' := by
  simp [calls]

@[simp] lemma granted_nil : granted [] = [] := rfl

@[simp] lemma granted_append : granted (es ++ es') = granted es ++ granted es' :=
  List.filterMap_append

lemma granted_of_failure (failed : e.errno?.isSome) : granted (e :: es) = granted es := by
  obtain ⟨errno, ee⟩ := Option.isSome_iff_exists.1 failed
  simp [granted, granted?, ee]

lemma granted_of_success (done : r.failure? a = none) :
    granted (.asked r a :: es) = r :: granted es := by
  simp [granted, granted?, errno?, request?, done]

/-- What did not fail was asked for. -/
lemma granted_sublist (es : List Entry) : (granted es).Sublist (requests es) := by
  induction es with
  | nil => exact .slnil
  | cons e es ih =>
    cases e with
    | told o => exact ih
    | asked r a =>
      cases done : r.failure? a with
      | none =>
        rw [granted_of_success done]
        exact ih.cons_cons r
      | some errno =>
        rw [granted_of_failure (e := .asked r a) (by simp [errno?, done])]
        exact ih.cons r

end

end Entry

/-- A program can have a trace and end with a value. -/
inductive Program.GoesThrough {α : Type} : Program α → List Entry → α → Prop where
  | ret {a} :
    GoesThrough (.ret a) [] a
  | put {o rest es a} :
    GoesThrough rest es a →
    GoesThrough (.put o rest) (.told o :: es) a
  | ask {r next x es a} :
    GoesThrough (next x) es a →
    GoesThrough (.ask r next) (.asked r x :: es) a

/-- A party that may ask for anything and get any answer, whose state is its trace. -/
def Protocol.tracing : Protocol (List Entry) where
  Permits _ _ := True
  Answers es r a es' := es' = es ++ [.asked r a]
  tells es o := es ++ [.told o]

namespace Program

variable {α β : Type} {p p' : Program α} {f : α → Program β} {es es' : List Entry} {a : α} {b : β}

namespace GoesThrough

lemma ret_inv {a' : α} (goes : (Program.ret a).GoesThrough es a') : es = [] ∧ a' = a := by
  cases goes
  exact ⟨rfl, rfl⟩

lemma put_inv {o : Output} (goes : (Program.put o p).GoesThrough es a) :
    ∃ es', es = .told o :: es' ∧ p.GoesThrough es' a := by
  cases goes with
  | put goes => exact ⟨_, rfl, goes⟩

lemma ask_inv {r : Request} {next : r.Answer → Program α}
    (goes : (Program.ask r next).GoesThrough es a) :
    ∃ x es', es = .asked r x :: es' ∧ (next x).GoesThrough es' a := by
  cases goes with
  | ask goes => exact ⟨_, _, rfl, goes⟩

/-- One program after the other has the one trace before the other. -/
lemma bind (goes : p.GoesThrough es a) (next : (f a).GoesThrough es' b) :
    (p.bind f).GoesThrough (es ++ es') b := by
  induction goes with
  | ret => exact next
  | put _ ih => exact .put (ih next)
  | ask _ ih => exact .ask (ih next)

lemma bind_inv (goes : (p.bind f).GoesThrough es b) :
    ∃ es₁ es₂ a, es = es₁ ++ es₂ ∧ p.GoesThrough es₁ a ∧ (f a).GoesThrough es₂ b := by
  induction p generalizing es with
  | ret a => exact ⟨[], es, a, rfl, .ret, goes⟩
  | put o rest ih =>
    obtain ⟨es', rfl, left⟩ := goes.put_inv
    obtain ⟨es₁, es₂, a, rfl, first, second⟩ := ih left
    exact ⟨_, es₂, a, rfl, .put first, second⟩
  | ask r next ih =>
    obtain ⟨x, es', rfl, left⟩ := goes.ask_inv
    obtain ⟨es₁, es₂, a, rfl, first, second⟩ := ih x left
    exact ⟨_, es₂, a, rfl, .ask first, second⟩

lemma request_inv {r : Request} {a : r.Answer} (goes : (Program.request r).GoesThrough es a) :
    es = [.asked r a] := by
  obtain ⟨x, es', rfl, left⟩ := goes.ask_inv
  obtain ⟨rfl, rfl⟩ := left.ret_inv
  rfl

lemma log_inv {v : Event} {a : Unit} (goes : (Program.log v).GoesThrough es a) :
    es = [.told (.log v)] := by
  obtain ⟨es', rfl, left⟩ := goes.put_inv
  rw [left.ret_inv.1]

/-- What is ensured whatever the answers are is so at the end of every trace. -/
lemma ends {post : α → Unit → Prop} (goes : p.GoesThrough es a)
    (en : p.Ensures (.asking fun _ => True) post ()) : post a () := by
  induction goes with
  | ret => exact en
  | put _ ih => exact ih en
  | ask _ ih => exact ih (en.2 _ () trivial)

/-- A program that asks for some things only has no others in its traces. -/
lemma asks {ok : Request → Prop} (goes : p.GoesThrough es a) (asks : p.Asks ok) :
    ∀ r ∈ Entry.requests es, ok r := by
  induction goes with
  | ret => exact fun _ => nofun
  | put _ ih => exact ih asks
  | ask _ ih => exact List.forall_mem_cons.2 ⟨asks.1, ih (asks.2 _ () trivial)⟩

end GoesThrough

/-- What a program ensures from its trace so far on is so at the end of each of its traces. -/
theorem ensures_tracing_iff {post : α → List Entry → Prop} {before : List Entry} :
    p.Ensures .tracing post before ↔ ∀ es a, p.GoesThrough es a → post a (before ++ es) := by
  constructor
  · intro en es a goes
    induction goes generalizing before with
    | ret =>
      rw [List.append_nil]
      exact en
    | @put o rest es a _ ih =>
      rw [List.append_cons]
      exact ih en
    | @ask r next x es a _ ih =>
      rw [List.append_cons]
      exact ih (en.2 x _ rfl)
  · intro always
    induction p generalizing before with
    | ret a => simpa using always [] a .ret
    | put o rest ih =>
      change rest.Ensures .tracing post (before ++ [.told o])
      refine ih ?_
      intro es a goes
      rw [← List.append_cons]
      exact always _ a (.put goes)
    | ask r next ih =>
      refine ⟨trivial, ?_⟩
      rintro x _ rfl
      refine ih x ?_
      intro es a goes
      rw [← List.append_cons]
      exact always _ a (.ask goes)

/-- Whatever is answered to each request, a program ends, and has a trace with these answers. -/
theorem exists_goesThrough (p : Program α) (answers : (r : Request) → r.Answer) :
    ∃ es a, p.GoesThrough es a ∧ Entry.Follow answers es := by
  induction p with
  | ret a => exact ⟨[], a, .ret, fun _ _ => nofun⟩
  | put o rest ih =>
    obtain ⟨es, a, goes, follow⟩ := ih
    refine ⟨_, a, .put goes, ?_⟩
    rintro r x (_ | ⟨_, mem⟩)
    exact follow r x mem
  | ask r next ih =>
    obtain ⟨es, a, goes, follow⟩ := ih (answers r)
    refine ⟨_, a, .ask goes, ?_⟩
    rintro r' x (_ | ⟨_, mem⟩)
    · rfl
    · exact follow r' x mem

end Program

/-- What a step adds to the trace of its program. Waiting adds nothing: what is asked for is asked
for once, however long it takes. -/
def Move.noted? : Move → Option Entry
  | .told o => some (.told o)
  | .answered r a => some (.asked r a)
  | .waited _ => none
  | .struck r e => r.call?.map fun x => .asked r (x.2 e)

/-- The trace of some steps, of which the latest comes first. -/
def Move.trace (ms : List (Host × Move)) : List Entry :=
  (ms.filterMap fun x => x.2.noted?).reverse

/-- What a deed adds to the trace of the call that a thread is in. -/
def Deed.noted? (t : ThreadId) : Deed → Option Entry
  | .moved u _ m => if u = t then m.noted? else none
  | _ => none

/-- What a thread does in some deeds, of which the latest comes first. -/
def Deed.trace (t : ThreadId) (ds : List Deed) : List Entry :=
  (ds.filterMap (Deed.noted? t)).reverse

namespace Program

variable {α : Type} {t : ThreadId} {p p' : Program α} {h h' : Host} {m : Move}
  {ms : List (Host × Move)} {es : List Entry} {a : α}

lemma Step.goesThrough (st : p.Step t h m p' h') (goes : p'.GoesThrough es a) :
    p.GoesThrough (m.noted?.toList ++ es) a := by
  cases st with
  | tell => exact .put goes
  | answer => exact .ask goes
  | wait => exact goes
  | strike ec =>
    simp only [Move.noted?, ec]
    exact .ask goes

/-- What a program does on a host is one of its traces. -/
theorem Steps.goesThrough (sts : p.Steps t h ms p' h') (goes : p'.GoesThrough es a) :
    p.GoesThrough (Move.trace ms ++ es) a := by
  induction sts generalizing es with
  | nil => exact goes
  | @cons ms _ h₁ m _ _ _ st ih =>
    have trace : Move.trace ((h₁, m) :: ms) = Move.trace ms ++ m.noted?.toList := by
      cases em : m.noted? <;> simp [Move.trace, em]
    rw [trace, List.append_assoc]
    exact ih (st.goesThrough goes)

end Program

namespace Session

variable {s s' : Session} {mid : List Deed} {t : ThreadId} {c : Underway}

lemma trace_cons (d : Deed) :
    Deed.trace t (d :: mid) = Deed.trace t mid ++ (d.noted? t).toList := by
  cases ed : d.noted? t <;> simp [Deed.trace, ed]

/-- What a thread does in its call, whoever comes between, is the beginning of a trace of its
program, and what is left to do is the rest. -/
theorem trace_run (run : Run Step s mid s') (ec : s.calls t = some c)
    (stays : ∀ a o, .returned t a o ∉ mid) :
    ∃ c', s'.calls t = some c' ∧ c'.act = c.act ∧
      ∀ es o, c'.program.GoesThrough es o → c.program.GoesThrough (Deed.trace t mid ++ es) o := by
  induction run with
  | nil => exact ⟨c, ec, rfl, fun _ _ goes => goes⟩
  | @cons mid _ d _ run st ih =>
    obtain ⟨c', ec', act, before⟩ := ih fun a o mem => stays a o (.tail _ mem)
    rw [trace_cons]
    obtain ⟨same, quiet⟩ | ⟨m, p', rfl, st, there⟩ :=
      st.call_goesOn ec' fun a o ed => stays a o (ed ▸ .head _)
    · have nothing : d.noted? t = none := by
        cases d with
        | moved u h m =>
          refine if_neg ?_
          rintro rfl
          exact quiet h m rfl
        | _ => rfl
      refine ⟨c', same, act, ?_⟩
      rw [nothing, Option.toList_none, List.append_nil]
      exact before
    · refine ⟨_, there, act, ?_⟩
      intro es o goes
      have mine (h : Host) : (Deed.moved t h m).noted? t = m.noted? := if_pos rfl
      rw [mine, List.append_assoc]
      exact before _ _ (st.goesThrough goes)

/-- When a thread comes back, what it has done in its call is a trace of its program. -/
lemma trace_returned {s'' : Session} {a : Scenario.Act} {o : Scenario.Outcome}
    (run : Run Step s mid s') (ec : s.calls t = some c) (stays : ∀ a o, .returned t a o ∉ mid)
    (back : s'.Step (.returned t a o) s'') : c.program.GoesThrough (Deed.trace t mid) o := by
  obtain ⟨c', ec', -, goes⟩ := trace_run run ec stays
  obtain ⟨c'', ec'', -, -, ep, -⟩ := back.returned_inv
  cases ec'.symm.trans ec''
  have whole := goes [] o (ep ▸ .ret)
  rwa [List.append_nil] at whole

end Session
end SharedSegment
