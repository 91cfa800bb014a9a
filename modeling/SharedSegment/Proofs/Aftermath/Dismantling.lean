import SharedSegment.Proofs.Aftermath.Sleepers
import SharedSegment.Proofs.Custody.Payload
import SharedSegment.Proofs.Stakes.Asymmetry

/-!
# Dismantling

A creator that drops or destroys its handle does not come back before it has asked for its mutex and
its condition to be taken down (`Program.ComesTo`). Where none of its calls fails, both are down when
it comes back (`Session.dismantled`), and it has written nothing.
-/

namespace SharedSegment
open Function Scenario Program Header

namespace Program

variable {α β : Type} {q : Request} {p p' : Program α} {f : α → Program β}

/-- A program does not end before it has asked for something. -/
def ComesTo (q : Request) : Program α → Prop
  | .ret _ => False
  | .put _ rest => rest.ComesTo q
  | .ask r next => r = q ∨ ∀ a, (next a).ComesTo q

lemma ComesTo.bind (comes : p.ComesTo q) : (p.bind f).ComesTo q := by
  induction p with
  | ret => cases comes
  | put o rest ih => exact ih comes
  | ask r next ih => exact comes.imp id fun later a => ih a (later a)

lemma comesTo_of_next (comes : ∀ a, (f a).ComesTo q) : (p.bind f).ComesTo q := by
  induction p with
  | ret a => exact comes a
  | put o rest ih => exact ih
  | ask r next ih => exact .inr ih

lemma comesTo_request : (Program.request q).ComesTo q := .inl rfl

/-- After a step a program has asked for what it has to ask for, or still has to. -/
lemma ComesTo.step {t : ThreadId} {h h' : Host} {m : Move} (comes : p.ComesTo q)
    (st : p.Step t h m p' h') (calm : ∀ r e, m ≠ .struck r e) :
    p'.ComesTo q ∨ ∃ a, m = .answered q a := by
  cases st with
  | tell => exact .inl comes
  | strike => exact absurd rfl (calm _ _)
  | wait => exact .inl comes
  | answer =>
    obtain rfl | comes := comes
    · exact .inr ⟨_, rfl⟩
    · exact .inl (comes _)

end Program

/-- The request to take a part of an object down. -/
def SyncPart.takeDown (m : MappingId) : SyncPart → Request
  | .mutex => .mutexDestroy m
  | .condition => .condDestroy m

section
variable {g : Segment} {m : MappingId} (part : SyncPart)

lemma Header.comesTo_destroy : (Header.destroy m).ComesTo (part.takeDown m) := by
  refine comesTo_of_next fun _ => ?_
  cases part with
  | condition => exact (comesTo_request.bind).bind
  | mutex => exact comesTo_of_next fun _ => (comesTo_request.bind).bind

/-- A creator comes to take both parts down. -/
lemma Segment.comesTo_destroy (role : g.role = .creator) (owns : g.ownsSync)
    (em : g.mapping = some m) : g.destroy.ComesTo (part.takeDown m) := by
  have taken : g.destroySync.ComesTo (part.takeDown m) := by
    unfold destroySync
    simp only [em, if_pos (And.intro role owns)]
    exact (Header.comesTo_destroy part).bind
  exact taken.bind

/-- Whoever drops or destroys the handle of a creator comes to take both parts down. -/
lemma comesTo_teardown {t : ThreadId} {y : String} {x : Handle} {op : Operation}
    {p : Program Outcome} (tears : op = .drop ∨ op = .destroy) (ep : handleCall? t y x op = some p)
    (eg : x.segment? = some g) (role : g.role = .creator) (owns : g.ownsSync)
    (em : g.mapping = some m) : p.ComesTo (part.takeDown m) := by
  have torn := Segment.comesTo_destroy part role owns em
  cases x with
  | segment g' =>
    cases eg
    obtain rfl | rfl := tears
    · cases ep
      exact torn.bind.bind
    · cases ep
      exact torn.bind
  | facade f =>
    obtain rfl | rfl := tears
    · cases ep
      change (giving f.drop fun _ => .ok).ComesTo _
      rw [Facade.drop, Facade.onSegment_eq eg]
      exact torn.bind.bind
    · cases ep

end

/-- A part that was set up is taken down as soon as that is answered. -/
lemma Host.takesDown {h h' : Host} {t : ThreadId} {m : MappingId} {k : ObjectId} {part : SyncPart}
    {a : (part.takeDown m).Answer} (shows : h.shows m k) (has : h.ledger.HasPart k part)
    (e : h.step t (part.takeDown m) = .done a h') :
    (Deed.moved t h (.answered (part.takeDown m) a)).TakesDown part k := by
  obtain ⟨x, ex, ek⟩ := (Option.any_eq_true ..).1 shows
  have mapped : ∃ x, h.ledger.mapping? m = some x ∧ x.object = k := ⟨x, ex, beq_iff_eq.1 ek⟩
  obtain ⟨_, there, set⟩ := has
  rw [Host.ledger_outline?, Option.map_eq_some_iff] at there
  obtain ⟨o, here, rfl⟩ := there
  have sees := under?_eq_some_iff.2 ⟨shows, here⟩
  cases part with
  | mutex =>
    have answered : o.mutex.destroy.1 = .ok () := by
      unfold Mutex.destroy
      rw [if_neg fun blank => set blank.1]
    have stepped := e.symm.trans (step_mutexDestroy sees)
    injection stepped with same
    exact ⟨same.trans answered, mapped⟩
  | condition =>
    simp only [SyncPart.takeDown, step, onCondition, sees, Condition.destroy] at e
    by_cases nobody : o.condition.parked.isEmpty
    · rw [if_pos nobody] at e
      injection e with same
      exact ⟨same.symm, mapped⟩
    · rw [if_neg nobody] at e
      cases e

section
variable {t : ThreadId} {k : ObjectId} {past : List Deed}

/-- What was just made was made by some deed. -/
lemma Deed.JustMade.exists_makes (made : Deed.JustMade t k past) :
    ∃ d ∈ past, d.makes? t = some k := by
  induction made with
  | here makes => exact ⟨_, .head _, makes⟩
  | later _ _ ih =>
    obtain ⟨d, mem, makes⟩ := ih
    exact ⟨d, .tail _ mem, makes⟩

end

namespace Session

variable {s s' s₁ s₂ s₃ : Session} {t : ThreadId} {c : Underway} {q : Request} {d : Deed}
  {mid past : List Deed} {h₀ : Host} {y : String} {x : Handle} {g : Segment} {m : MappingId}
  {k : ObjectId} {op : Operation} {o : Outcome}

lemma objects_le_of_run (run : Run Step s past s') :
    s.host.objects.length ≤ s'.host.objects.length := by
  induction run with
  | nil => exact Nat.le_refl _
  | cons run st ih => exact Nat.le_trans ih st.touches.objects_le

/-- What is made in a session is new. -/
lemma le_of_makes (run : Run Step (.ofHost h₀) past s) (mem : d ∈ past)
    (makes : d.makes? t = some k) : h₀.objects.length ≤ k := by
  obtain ⟨later, earlier, rfl⟩ := List.append_of_mem mem
  obtain ⟨s₁, s₂, before, st, -⟩ := run.split
  have le := objects_le_of_run before
  cases d with
  | moved t' h mv =>
    cases mv with
    | answered r a =>
      obtain ⟨rfl, -⟩ := st.answered_inv
      obtain ⟨-, makes⟩ := Deed.makes?_moved.1 makes
      have length : s₁.host.ledger.outlines.length = s₁.host.objects.length := by simp [Host.ledger]
      cases r with
      | openNew n mode =>
        cases a with
        | error => cases makes
        | ok =>
          obtain rfl : s₁.host.ledger.outlines.length = k := Option.some.inj makes
          exact length ▸ le
      | _ => cases makes
    | _ => cases makes
  | _ => cases makes

/-- A creator's handle is on an object that was made in the session. -/
lemma le_of_creator (run : Run Step (.ofHost h₀) past s) (ex : s.handles y = some x)
    (eg : x.segment? = some g) (role : g.role = .creator) (em : g.mapping = some m)
    (shows : s.host.shows m k) (idle : ¬s.IsDestroying y) : h₀.objects.length ≤ k := by
  obtain ⟨turns, -⟩ :=
    (hasProperLives run).creators y x g m k .mutex [] s ex eg role em shows idle .nil
  have mem : (m, Turn.setUp) ∈ Deed.turns .mutex k past := turns ▸ List.mem_singleton_self _
  obtain ⟨d, mem, turned⟩ := List.mem_filterMap.1 mem
  obtain ⟨later, earlier, rfl⟩ := List.append_of_mem mem
  obtain ⟨s₁, s₂, before, st, -⟩ := run.split
  obtain ⟨c, -, ⟨-, made⟩ | ⟨-, ⟨⟩, -⟩⟩ := (hasProperLives before).turned d s₂ .mutex k _ st turned
  obtain ⟨e, mem, makes⟩ := made.exists_makes
  exact le_of_makes before mem makes

/-- A call that has to ask for something asks for it before its thread comes back, if none of its
calls fails. -/
lemma asked_run (run : Run Step s mid s') (ec : s.calls t = some c) (comes : c.program.ComesTo q)
    (stays : ∀ a o, .returned t a o ∉ mid) (calm : ∀ h r e, .moved t h (.struck r e) ∉ mid) :
    ∃ c', s'.calls t = some c' ∧
      (c'.program.ComesTo q ∨ ∃ h a, .moved t h (.answered q a) ∈ mid) := by
  induction run with
  | nil => exact ⟨c, ec, .inl comes⟩
  | @cons mid s₁ d s₂ run st ih =>
    obtain ⟨c', ec', goes⟩ := ih (fun a o mem => stays a o (.tail _ mem))
      fun h r e mem => calm h r e (.tail _ mem)
    have back a o : d ≠ .returned t a o := fun ed => stays a o (ed ▸ .head _)
    obtain ⟨same, -⟩ | ⟨m, p', rfl, st, there⟩ := st.call_goesOn ec' back
    · exact ⟨c', same, goes.imp id fun ⟨h, a, mem⟩ => ⟨h, a, .tail _ mem⟩⟩
    · refine ⟨_, there, ?_⟩
      obtain comes | ⟨h, a, mem⟩ := goes
      · have kind r e : m ≠ .struck r e := fun em => calm s₁.host r e (em ▸ .head _)
        obtain comes | ⟨a, rfl⟩ := comes.step st kind
        · exact .inl comes
        · exact .inr ⟨_, a, .head _⟩
      · exact .inr ⟨h, a, .tail _ mem⟩

lemma hasPart_run {part : SyncPart} (before : Run Step (.ofHost h₀) past s)
    (has : s.host.ledger.HasPart k part) (run : Run Step s mid s') :
    s'.host.ledger.HasPart k part := by
  induction run with
  | nil => exact has
  | cons run st ih =>
    obtain ⟨σ, kept⟩ := IsKeptFrom.of_run (before.trans run)
    exact kept.hasPart_step st ih

/-- A call that drops or destroys a handle has it for itself. -/
lemma Step.unused_of_teardown (tears : op = .drop ∨ op = .destroy)
    (st : s.Step (.began t (.onHandle y op)) s') : ¬s.IsInUse y := by
  cases st with
  | onHandle _ _ excl _ nodrop =>
    obtain rfl | rfl := tears
    · exact absurd rfl nodrop
    · exact excl rfl
  | drop _ _ unused => exact unused

/-- The call that drops or destroys a handle. -/
lemma Step.call_of_teardown (tears : op = .drop ∨ op = .destroy)
    (st : s.Step (.began t (.onHandle y op)) s') (ex : s.handles y = some x) :
    ∃ c, s'.calls t = some c ∧ c.act = .onHandle y op ∧ c.subject = some x ∧
      handleCall? t y x op = some c.program ∧ s'.host = s.host := by
  cases st with
  | onHandle _ ex' _ _ _ ep | drop _ ex' _ ep =>
    cases ex.symm.trans ex'
    exact ⟨_, update_self .., rfl, rfl, ep, rfl⟩

/-- Whoever tears a handle down writes nothing into any payload. -/
lemma writes?_of_teardown (run : Run Step (.ofHost h₀) past s) (ec : s.calls t = some c)
    (tears : op = .drop ∨ op = .destroy) (act : c.act = .onHandle y op) (run₁ : Run Step s mid s')
    (stays : ∀ a o, .returned t a o ∉ mid) (mem : d ∈ mid) (mine : d.thread = t) (i : Nat) :
    d.writes? k i = none := by
  obtain ⟨later, earlier, rfl⟩ := List.append_of_mem mem
  obtain ⟨s₁, s₂, before, st, -⟩ := run₁.split
  obtain ⟨c', ec', act', -⟩ := call_run before ec fun a o mem =>
    stays a o (List.mem_append_right _ (.tail _ mem))
  cases st.touches with
  | nothing same silent =>
    unfold Deed.writes?
    split
    · exact absurd rfl (silent _ _ _ _)
    · rfl
  | @answered _ c'' r a next ec'' alive ep eh =>
    obtain rfl := mine
    cases ec'.symm.trans ec''
    have staking : c'.act.isStaking ∧ c'.act.opensHandle = false := by
      rw [act', act]
      obtain rfl | rfl := tears <;> exact ⟨rfl, rfl⟩
    obtain ⟨x', g', -, -, tearing⟩ := Underway.tears_of_mayAsk
      ((IsConfined.of_run (run.trans before)).asks ec' ep) staking.1 staking.2
    cases r with
    | write | clear => cases tearing
    | _ => rfl
  | waited | died => rfl

/-- A creator that tears its handle down comes back with both parts taken down, if none of its calls
fails. -/
theorem dismantled (run : Run Step (.ofHost h₀) past s) (ex : s.handles y = some x)
    (eg : x.segment? = some g) (role : g.role = .creator) (em : g.mapping = some m)
    (shows : s.host.shows m k) (tears : op = .drop ∨ op = .destroy)
    (st : s.Step (.began t (.onHandle y op)) s₁) (run₁ : Run Step s₁ mid s₂)
    (stays : ∀ a o, .returned t a o ∉ mid) (calm : ∀ h r e, .moved t h (.struck r e) ∉ mid)
    (back : s₂.Step (.returned t (.onHandle y op) o) s₃) (part : SyncPart) :
    ∃ d ∈ mid, d.TakesDown part k := by
  obtain ⟨σ, kept⟩ := IsKeptFrom.of_run run
  obtain ⟨covers, whole⟩ := kept.supports ex (st.unused_of_teardown tears) g eg
  have owns : g.ownsSync := whole role (by rw [em]; rfl)
  obtain ⟨c, ec, act, -, ep, host⟩ := st.call_of_teardown tears ex
  have comes := comesTo_teardown part tears ep eg role owns em
  have has : s.host.ledger.HasPart k part := by
    obtain ⟨z, w, emap, -, ⟨mutex, condition, -⟩, there, -⟩ :=
      kept.custodians.outline_of_makes (covers.sync role owns m em)
    have shows' : s.host.shows m z.object :=
      (Option.any_eq_true ..).2 ⟨z, kept.custodians.mappings.known _ _ _ emap, beq_self_eq_true _⟩
    obtain rfl := Host.shows_unique shows shows'
    refine ⟨w, there, ?_⟩
    cases part with
    | mutex => exact mutex
    | condition => exact condition
  obtain ⟨c', ec', comes | ⟨h, a, mem⟩⟩ := asked_run run₁ ec comes stays calm
  · obtain ⟨c'', ec'', -, -, ep'', -⟩ := back.returned_inv
    cases ec'.symm.trans ec''
    rw [ep''] at comes
    cases comes
  · refine ⟨_, mem, ?_⟩
    obtain ⟨later, earlier, rfl⟩ := List.append_of_mem mem
    obtain ⟨s', s'', before, st', -⟩ := run₁.split
    have begun := (run.cons st).trans before
    obtain ⟨σ', kept'⟩ := IsKeptFrom.of_run begun
    obtain ⟨rfl, eh, c₁, next, ec₁, alive, ep₁⟩ := st'.answered_inv
    have may := kept'.permits ec₁ alive ep₁
    have mine : ∃ z, (σ' (.inl t)).mapping = some (m, z) := by
      cases part with
      | mutex | condition =>
        obtain ⟨z, w, emap, -⟩ := may
        exact ⟨z, emap⟩
    obtain ⟨z, emap⟩ := mine
    have shows' : s'.host.shows m z.object :=
      (Option.any_eq_true ..).2 ⟨z, kept'.custodians.mappings.known _ _ _ emap, beq_self_eq_true _⟩
    have old := (numbers_run (Run.nil.cons st |>.trans before)).shown (Host.lt_of_shows shows) shows'
    obtain rfl := Host.shows_unique shows old
    exact Host.takesDown shows' (hasPart_run run has (Run.nil.cons st |>.trans before)) eh

end Session
end SharedSegment
