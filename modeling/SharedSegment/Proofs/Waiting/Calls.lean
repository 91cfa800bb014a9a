import SharedSegment.Proofs.Calling
import SharedSegment.Proofs.Tenure

/-!
# Calls that wait

A call parks through the mapping of the handle that it was made on, and then asks for nothing but to
be awake until it is (`Protocol.waiting`). Only the calls that wait park, and only those that notify
or tear the handle of a creator down wake anybody (`Underway.MaySync`).
-/

namespace SharedSegment
open Scenario Program Header

/-- Whether a request is part of a wait. -/
def Request.isWait : Request → Bool
  | .park _ | .awake _ => true
  | _ => false

/-- The mapping through which a party waits that has just been answered. -/
def Request.rests? : (r : Request) → r.Answer → Option MappingId
  | .park m, a => if isGranted a then some m else none
  | _, _ => none

lemma Request.rests?_eq_some {r : Request} {a : r.Answer} {m : MappingId}
    (rests : r.rests? a = some m) : Move.answered r a = .answered (.park m) (.ok ()) := by
  cases r with
  | park =>
    cases a with
    | ok =>
      cases rests
      rfl
    | error => cases rests
  | _ => cases rests

/-- How a party behaves that waits: when it has parked, it asks for nothing but to be awake. -/
def Protocol.waiting (ok : Request → Prop) : Protocol (Option MappingId) where
  Permits
    | some m, r => r = .awake m
    | none, r => ok r ∧ ∀ m, r ≠ .awake m
  Answers _ r a s' := s' = r.rests? a
  tells _ _ := none

/-- A call was made on a handle of some mapping. -/
def Underway.IsThrough (c : Underway) (m : MappingId) : Prop :=
  ∃ x g, c.subject = some x ∧ x.segment? = some g ∧ g.mapping = some m

/-- Whether an act waits for a notification. -/
def Scenario.Act.waits : Act → Bool
  | .onHandle _ .wait | .onHandle _ .waitLocked | .onGuard _ .wait => true
  | _ => false

/-- A call notifies: that is what it is for, or it tears the handle of a creator down. -/
def Underway.Notifies (c : Underway) : Prop :=
  match c.act with
  | .onHandle _ .notifyAll => True
  | .onHandle _ .drop | .onHandle _ .destroy =>
    ∃ x g, c.subject = some x ∧ x.segment? = some g ∧ g.role = .creator ∧ g.ownsSync
  | _ => False

/-- What a call may ask for that concerns those who wait. -/
def Underway.MaySync (c : Underway) : Request → Prop
  | .lock m => c.IsThrough m
  | .park m => c.IsThrough m ∧ c.act.waits
  | .broadcast m => c.IsThrough m ∧ c.Notifies
  | _ => True

section
variable {ok : Request → Prop} {g : Segment}

/-- What is no part of a wait leaves a party as it is. -/
lemma Program.Asks.keeps_waiting {α : Type} {p : Program α}
    (asks : p.Asks fun r => ok r ∧ r.isWait = false) : p.Keeps (.waiting ok) none := by
  refine asks.keeps (fun _ => rfl) ?_
  rintro r ⟨may, other⟩
  refine ⟨⟨may, ?_⟩, ?_⟩
  · rintro m rfl
    cases other
  · rintro a _ rfl
    cases r with
    | park => cases other
    | _ => rfl

/-- Whoever waits parks, and then is awake before it asks for anything else. -/
lemma Segment.keeps_waitLocked
    (may : ∀ m, g.mapping = some m → ok (.park m) ∧ ok (.makeConsistent m)) :
    g.waitLocked.Keeps (.waiting ok) none := by
  unfold waitLocked
  cases em : g.mapping with
  | none => exact rfl
  | some m =>
    obtain ⟨parks, settles⟩ := may m em
    have acquires (a : Except Errno Unit) :
        (acquired m .condWait a).Keeps (.waiting ok) none :=
      (asks_acquired .condWait a ⟨settles, rfl⟩).keeps_waiting
    have waits : (Header.wait m).Keeps (.waiting ok) none := by
      refine ⟨⟨parks, by simp⟩, ?_⟩
      rintro (e | _) _ rfl
      · exact acquires (.error e)
      · refine ⟨rfl, ?_⟩
        rintro a _ rfl
        exact acquires a
    refine waits.bind ?_
    rintro a _ rfl
    exact (asks_settle _ a).keeps_waiting

end

section
variable {c : Underway} {g : Segment} {x : Handle} {t : ThreadId} {h : String}
  {p : Program Outcome}

/-- A call that uses a handle parks and wakes through its mapping only. -/
lemma keeps_waiting_use {op : Operation} (act : c.act = .onHandle h op)
    (through : ∀ m, g.mapping = some m → c.IsThrough m) :
    op.Keeps (.waiting c.MaySync) none g := by
  have locks : g.lock.Keeps (.waiting c.MaySync) none :=
    (g.asks_lock fun m em => ⟨⟨through m em, rfl⟩, trivial, rfl⟩).keeps_waiting
  have unlocks : g.unlock.Keeps (.waiting c.MaySync) none :=
    (g.asks_unlock fun _ _ => ⟨trivial, rfl⟩).keeps_waiting
  have waits (waits : c.act.waits) : g.waitLocked.Keeps (.waiting c.MaySync) none :=
    Segment.keeps_waitLocked fun m em => ⟨⟨through m em, waits⟩, trivial⟩
  cases op with
  | lock | guard => exact locks
  | unlock => exact unlocks
  | wait => exact g.keeps_wait locks (waits (by rw [act]; rfl)) unlocks
  | notifyAll =>
    have notifies : c.Notifies := by
      rw [Underway.Notifies, act]
      trivial
    exact (g.asks_notifyAll fun m em => ⟨⟨through m em, notifies⟩, rfl⟩).keeps_waiting
  | waitLocked => exact waits (by rw [act]; rfl)
  | read => exact fun off len => (g.asks_read (fun _ _ _ => ⟨trivial, rfl⟩) off len).keeps_waiting
  | write =>
    exact fun off bs => (g.asks_write (fun _ _ _ _ => ⟨trivial, rfl⟩) off bs).keeps_waiting
  | _ => trivial

/-- A call that uses a guard parks through the mapping of its facade only. -/
lemma keeps_waiting_guardUse {n : String} {op : GuardOperation} (act : c.act = .onGuard n op)
    (through : ∀ m, g.mapping = some m → c.IsThrough m) :
    op.Keeps (.waiting c.MaySync) none g := by
  cases op with
  | status => trivial
  | read => exact fun off len => (g.asks_read (fun _ _ _ => ⟨trivial, rfl⟩) off len).keeps_waiting
  | write =>
    exact fun off bs => (g.asks_write (fun _ _ _ _ => ⟨trivial, rfl⟩) off bs).keeps_waiting
  | wait =>
    exact Segment.keeps_waitLocked fun m em => ⟨⟨through m em, by rw [act]; rfl⟩, trivial⟩
  | drop => exact (g.asks_unlock fun _ _ => ⟨trivial, rfl⟩).keeps_waiting

/-- A call that opens a handle neither waits nor wakes anybody. -/
lemma keeps_waiting_openCall {toggle : Option String} {raw : String} {size : UInt32} {via : Via} :
    (openCall toggle h raw size via).Ensures (.waiting c.MaySync) (fun _ s => s = none) none := by
  have made (n : Name) (cfg : Config) :
      (Segment.create n size cfg).Keeps (.waiting c.MaySync) none := by
    refine ((Segment.asks_create n cfg size).mono ?_).keeps_waiting
    intro r makes
    cases r with
    | lock | park | awake | broadcast => cases makes
    | _ => exact ⟨trivial, rfl⟩
  have found (n : Name) (cfg : Config) :
      (Segment.attach n cfg).Keeps (.waiting c.MaySync) none := by
    refine ((Segment.asks_attach n cfg).mono ?_).keeps_waiting
    intro r finding
    cases r with
    | lock | park | awake | broadcast => cases finding
    | _ => exact ⟨trivial, rfl⟩
  refine (Ensures.openCall (fun _ s => s = none) toggle (fun _ _ _ => rfl)
    (fun _ n cfg _ _ => made n cfg) (fun _ n cfg _ => found n cfg) rfl).mono ?_
  rintro _ _ ⟨-, ends⟩
  exact ends

/-- A call that tears a handle down wakes those who wait, if it is the one of a creator. -/
lemma keeps_waiting_teardown {op : Operation} (act : c.act = .onHandle h op)
    (tears : op = .drop ∨ op = .destroy) (subject : c.subject = some x)
    (ep : handleCall? t h x op = some p) :
    p.Ensures (.waiting c.MaySync) (fun _ s => s = none) none := by
  have torn (g : Segment) (eg : x.segment? = some g) :
      g.destroy.Keeps (.waiting c.MaySync) none := by
    refine (g.asks_destroy.mono ?_).keeps_waiting
    intro r tearing
    cases r with
    | lock | park | awake => cases tearing
    | broadcast m =>
      obtain ⟨role, owns, em⟩ := tearing
      refine ⟨⟨⟨x, g, subject, eg, em⟩, ?_⟩, rfl⟩
      rw [Underway.Notifies, act]
      obtain rfl | rfl := tears
      · exact ⟨x, g, subject, eg, role, owns⟩
      · exact ⟨x, g, subject, eg, role, owns⟩
    | _ => exact ⟨trivial, rfl⟩
  obtain rfl | rfl := tears
  · exact (Ensures.dropCall torn (fun _ => rfl) ep).mono fun _ _ ends => ends.2
  · have torn (g : Segment) (eg : x = .segment g) :
        g.destroy.Keeps (.waiting c.MaySync) none := torn g (by rw [eg]; rfl)
    refine (Ensures.destroyCall torn ep).mono ?_
    rintro _ _ ⟨g, -, ends⟩
    exact ends

end
end SharedSegment
