import SharedSegment.Proofs.Aftermath.Nothing
import SharedSegment.Proofs.Naming.Holding

/-!
# Destroyed handles

A segment that was destroyed holds nothing any more, whatever failed on the way, and stays so until
its handle is dropped (`Session.IsSpent`). So it is destroyed only once: whatever is called on it
from then on asks the host for nothing, and the very same deeds of all others lead from where that
call is not made to where they lead with it (`destroying_acts_once`).
-/

namespace SharedSegment
open Function Scenario Program

namespace Session

variable {b : ObjectId} {s s' : Session} {σ : ThreadId ⊕ String → Custody} {d : Deed}
  {past after : List Deed} {t u : ThreadId} {y : String} {g : Segment} {op : Operation}
  {c : Underway}

/-- A call that destroys a handle uses it, and there is only one such call. -/
structure HasSoleDestroyers (s : Session) : Prop where
  uses : ∀ y t c, s.calls t = some c → c.act = .onHandle y .destroy → c.uses = some y
  sole : ∀ y t t' c c', s.calls t = some c → c.act = .onHandle y .destroy →
    s.calls t' = some c' → c'.act = .onHandle y .destroy → t = t'

namespace HasSoleDestroyers

/-- A call begins that destroys only what nobody uses. -/
lemma begin {handles : String → Option Handle} (sole : s.HasSoleDestroyers)
    (mine : ∀ y, c.act = .onHandle y .destroy → c.uses = some y ∧ ¬s.IsInUse y) :
    ({ s with handles }.begin t c).HasSoleDestroyers := by
  refine ⟨?_, ?_⟩
  · intro y t' c' ec act
    obtain ⟨-, rfl⟩ | ⟨-, ec⟩ := begin_calls_inv ec
    · exact (mine y act).1
    · exact sole.uses y t' c' ec act
  · have other {y : String} {t' : ThreadId} {c' : Underway} (mine : ¬s.IsInUse y)
        (ec : s.calls t' = some c') (act : c'.act = .onHandle y .destroy) : False :=
      mine (.inr ⟨t', c', ec, sole.uses y t' c' ec act⟩)
    intro y t₁ t₂ c₁ c₂ ec₁ act₁ ec₂ act₂
    obtain ⟨rfl, rfl⟩ | ⟨-, old₁⟩ := begin_calls_inv ec₁
    · obtain ⟨rfl, -⟩ | ⟨-, old₂⟩ := begin_calls_inv ec₂
      · rfl
      · exact (other (mine y act₁).2 old₂ act₂).elim
    · obtain ⟨rfl, rfl⟩ | ⟨-, old₂⟩ := begin_calls_inv ec₂
      · exact (other (mine y act₂).2 old₁ act₁).elim
      · exact sole.sole y t₁ t₂ c₁ c₂ old₁ act₁ old₂ act₂

/-- Calls are what they were before, or fewer. -/
lemma of_calls (sole : s.HasSoleDestroyers) (old : ∀ t c', s'.calls t = some c' →
    ∃ c, s.calls t = some c ∧ c.act = c'.act ∧ c.uses = c'.uses) : s'.HasSoleDestroyers := by
  refine ⟨?_, ?_⟩
  · intro y t c' ec' act'
    obtain ⟨c, ec, act, uses⟩ := old t c' ec'
    exact uses ▸ sole.uses y t c ec (act.trans act')
  · intro y t₁ t₂ c₁' c₂' ec₁' act₁' ec₂' act₂'
    obtain ⟨c₁, ec₁, act₁, -⟩ := old t₁ c₁' ec₁'
    obtain ⟨c₂, ec₂, act₂, -⟩ := old t₂ c₂' ec₂'
    exact sole.sole y t₁ t₂ c₁ c₂ ec₁ (act₁.trans act₁') ec₂ (act₂.trans act₂')

theorem step (sole : s.HasSoleDestroyers) (st : s.Step d s') : s'.HasSoleDestroyers := by
  cases st with
  | openHandle | onGuard => exact sole.begin nofun
  | drop => exact sole.begin nofun
  | @onHandle t h op x p idle ex excl =>
    refine sole.begin ?_
    rintro y ⟨⟩
    exact ⟨rfl, excl rfl⟩
  | @move t c m p' h' ec =>
    refine sole.of_calls fun t' c' ec' => ?_
    obtain ⟨rfl, rfl⟩ | ⟨-, ec'⟩ := move_calls_inv ec'
    · exact ⟨c, ec, rfl, rfl⟩
    · exact ⟨c', ec', rfl, rfl⟩
  | finish => exact sole.of_calls fun t' c' ec' => ⟨c', (conclude_calls_inv ec').2, rfl, rfl⟩
  | die => exact sole.of_calls fun t' c' ec' => ⟨c', ec', rfl, rfl⟩

theorem of_run {h : Host} (run : Run Step (.ofHost h) past s) : s.HasSoleDestroyers := by
  induction run with
  | nil =>
    refine ⟨?_, ?_⟩
    · intro y t c ec
      cases ec
    · intro y t t' c c' ec
      cases ec
  | cons run st ih => exact ih.step st

end HasSoleDestroyers

/-- What is left of a segment that was destroyed, and what calls that destroy it once more come
to. -/
structure IsSpent (s : Session) (y : String) (g : Segment) : Prop where
  there : s.handles y = some (.segment g.empty)
  calls : ∀ t c, s.calls t = some c → c.act = .onHandle y .destroy →
    c.program = .ret ⟨.info (.segment g.empty), .setHandle y (.segment g.empty)⟩

/-- Whoever destroys a handle leaves nothing behind it. -/
theorem isSpent_of_returned {o : Outcome} (kept : s.IsKeptFrom b σ) (sole : s.HasSoleDestroyers)
    (st : s.Step (.returned t (.onHandle y .destroy) o) s') : ∃ g, s'.IsSpent y g := by
  obtain ⟨c, ec, alive, act, ep, rfl⟩ := st.returned_inv
  have yields := kept.calls t c ec alive
  rw [ep, act] at yields
  obtain ⟨g, ee⟩ := yields
  refine ⟨g, ?_, ?_⟩
  · rw [conclude_setHandle ee, update_self]
  · intro t' c' ec' act'
    obtain ⟨ne, ec'⟩ := conclude_calls_inv ec'
    exact absurd (sole.sole y t' t c' c ec' act' ec act) ne

/-- What is left of a segment stays until its handle is dropped. -/
theorem IsSpent.step (spent : s.IsSpent y g) (kept : s.IsKeptFrom b σ) (lent : s.IsLent)
    (st : s.Step d s') (stays : ∀ t, d ≠ .began t (.onHandle y .drop)) : s'.IsSpent y g := by
  have begin {c : Underway} {t : ThreadId} (mine : c.act = .onHandle y .destroy →
      c.program = .ret ⟨.info (.segment g.empty), .setHandle y (.segment g.empty)⟩) :
      ∀ t' c', (s.begin t c).calls t' = some c' → c'.act = .onHandle y .destroy →
        c'.program = .ret ⟨.info (.segment g.empty), .setHandle y (.segment g.empty)⟩ := by
    intro t' c' ec
    obtain ⟨-, rfl⟩ | ⟨-, ec⟩ := begin_calls_inv ec
    · exact mine
    · exact spent.calls t' c' ec
  cases st with
  | openHandle | onGuard => exact ⟨spent.there, begin nofun⟩
  | @onHandle t h op x p idle ex excl taken nodrop ep =>
    refine ⟨spent.there, begin ?_⟩
    rintro ⟨⟩
    cases spent.there.symm.trans ex
    rw [Handle.IsBare.segment.handleCall?_eq] at ep
    exact (Option.some.inj ep).symm
  | @drop t h x p idle ex unused ep =>
    have ne : y ≠ h := by
      rintro rfl
      exact stays t rfl
    exact ⟨(update_of_ne ne _ _).trans spent.there, begin nofun⟩
  | @move t c m p' h' ec alive st =>
    refine ⟨spent.there, ?_⟩
    intro t' c' ec' act
    obtain ⟨-, rfl⟩ | ⟨-, ec'⟩ := move_calls_inv ec'
    · have ended := spent.calls t c ec act
      rw [ended] at st
      cases st
    · exact spent.calls t' c' ec' act
  | @finish t c o ec alive ep =>
    refine ⟨?_, fun t' c' ec' => spent.calls t' c' (conclude_calls_inv ec').2⟩
    have yields := kept.calls t c ec alive
    rw [ep] at yields
    cases yields.returns with
    | spares spares =>
      rw [conclude_handles spares]
      exact spent.there
    | @opens _ _ _ _ h x act ee =>
      have ne : y ≠ h := by
        rintro rfl
        cases spent.there.symm.trans (lent.opening_inv ec act ep ee).2
      rw [conclude_setHandle ee, update_of_ne ne]
      exact spent.there
    | @destroys h g' act ee =>
      rw [conclude_setHandle ee]
      by_cases eh : y = h
      · subst eh
        cases (spent.calls t c ec act).symm.trans ep
        injection ee with _ same
        rw [update_self, same]
      · rw [update_of_ne eh]
        exact spent.there
  | die => exact ⟨spent.there, spent.calls⟩

lemma IsSpent.run {h : Host} (first : Run Step (.ofHost h) past s) (spent : s.IsSpent y g)
    (run : Run Step s after s') (stays : ∀ t, .began t (.onHandle y .drop) ∉ after) :
    s'.IsSpent y g := by
  induction run with
  | nil => exact spent
  | cons run st ih =>
    obtain ⟨σ, kept⟩ := IsKeptFrom.of_run (first.trans run)
    have lent := IsLent.of_run (first.trans run)
    exact (ih fun t mem => stays t (.tail _ mem)).step kept lent st fun t ed => stays t (ed ▸ .head _)

/-- Nobody drops a handle while a call uses it. -/
lemma not_dropped (run : Run Step s after s') (others : ∀ d ∈ after, d.thread ≠ u)
    (ec : s.calls u = some c) (uses : c.uses = some y) (t : ThreadId) :
    .began t (.onHandle y .drop) ∉ after := by
  induction run with
  | nil => exact List.not_mem_nil
  | @cons past s' d s'' run st ih =>
    have others' : ∀ d ∈ past, d.thread ≠ u := fun d mem => others d (.tail _ mem)
    refine List.not_mem_cons_of_ne_of_not_mem ?_ (ih others')
    rintro rfl
    cases st with
    | onHandle _ _ _ _ nodrop => exact nodrop rfl
    | drop _ _ unused => exact unused (.inr ⟨u, c, calls_others run others' ec, uses⟩)

end Session

/-- An operation on what is left of a segment changes nothing, or puts the same thing in its place
again. -/
lemma Scenario.Handle.effect_of_refusal {x : Handle} {y : String} {op : Operation} {o : Outcome}
    (eo : x.refusal y op = some o) :
    o.effect = .none ∨ op = .destroy ∧ o.effect = .setHandle y x := by
  unfold refusal at eo
  split at eo <;> cases eo
  all_goals first
    | exact .inl rfl
    | exact .inr ⟨rfl, rfl⟩

/-- A segment is destroyed once. Whatever failed when it was, nothing is left behind its handle, and
whatever is called on that handle from then on, to destroy or to drop it above all, is over when it
begins and has changed nothing, and the others come by the same deeds to where they come without
that call. -/
theorem destroying_acts_once {h₀ : Host} {past later : List Deed} {s s₁ s₂ : Session}
    {t : ThreadId} {y : String} {o : Outcome} (run : Run Session.Step (.ofHost h₀) past s)
    (destroyed : s.Step (.returned t (.onHandle y .destroy) o) s₁)
    (run' : Run Session.Step s₁ later s₂) (stays : ∀ u, .began u (.onHandle y .drop) ∉ later) :
    ∃ g : Segment, s₂.handles y = some (.segment g.empty) ∧
      ∀ u op s₃, s₂.Step (.began u (.onHandle y op)) s₃ → ∃ o,
        (Handle.segment g.empty).refusal y op = some o ∧ s₃.outcome? u = some o ∧
        s₃.host = s₂.host ∧
        ∀ after s₄ o' s₅, Run Session.Step s₃ after s₄ → (∀ d ∈ after, d.thread ≠ u) →
          s₄.Step (.returned u (.onHandle y op) o') s₅ → o' = o ∧
            Run Session.Step { s₂ with handles := if op = .drop then update s₂.handles y none
              else s₂.handles } after s₅ := by
  obtain ⟨σ, kept⟩ := Session.IsKeptFrom.of_run run
  obtain ⟨g, spent⟩ :=
    Session.isSpent_of_returned kept (Session.HasSoleDestroyers.of_run run) destroyed
  have spent := spent.run (run.cons destroyed) run' stays
  refine ⟨g, spent.there, ?_⟩
  intro u op s₃ st
  obtain ⟨o, eo, ended, host⟩ := st.over_of_bare spent.there .segment
  refine ⟨o, eo, ended, host, ?_⟩
  intro after s₄ o' s₅ run'' others back
  obtain ⟨c, ec, ep⟩ := Session.outcome?_eq_some.1 ended
  obtain ⟨c', ec', -, act, ep', rfl⟩ := back.returned_inv
  cases (Session.calls_others run'' others ec).symm.trans ec'
  cases ep.symm.trans ep'
  have before := (run.cons destroyed).trans run'
  refine ⟨rfl, ?_⟩
  have same : s₄.conclude u o = s₄.ended u .none := by
    obtain ee | ⟨rfl, ee⟩ := Handle.effect_of_refusal eo
    · rw [Session.conclude_eq_ended (by rw [ee]; rfl), ee]
    · have uses := (Session.HasSoleDestroyers.of_run (before.cons st)).uses y u c ec act
      have spent₃ := spent.run before (Run.nil.cons st) (by simp)
      have spent₄ := spent₃.run (before.cons st) run'' (Session.not_dropped run'' others ec uses)
      rw [Session.conclude_eq_ended (by rw [ee]; rfl), ee]
      exact Session.ended_setHandle_self spent₄.there
  have handles : s₃.handles = if op = .drop then update s₂.handles y none else s₂.handles := by
    cases st with
    | onHandle _ _ _ _ nodrop => exact (if_neg nodrop).symm
    | drop => rfl
  rw [same, ← handles, ← st.ended_of_began]
  exact Session.run_ended run'' others

namespace Session

/-- A thread has made a segment. -/
def made : List Deed × Session :=
  let c := Underway.ofOpen "a" "/s" 8 (.create .standard)
  after [] 0 c.act (empty.begin 0 c) 30

/-- The call that destroys the segment. -/
def destroying : Underway :=
  let x := Handle.segment (.numbered 0)
  .ofUse "a" .destroy x ((handleCall? 0 "a" x .destroy).getD (.ret ⟨.ok, .none⟩))

/-- The thread has destroyed the segment, but its name could not be taken away, and has yet to come
back. -/
def unnaming : List Deed × Session :=
  play (List.replicate 5 (0, none) ++ (0, some .eacces) :: List.replicate 2 (0, none))
    (.began 0 (.onHandle "a" .destroy) :: made.1) (made.2.begin 0 destroying)

/-- The thread has come back. -/
def unnamed : Session :=
  unnaming.2.conclude 0 ((unnaming.2.outcome? 0).getD ⟨.ok, .none⟩)

/-- Another thread has made a segment under the name that was left. -/
def succeeded : List Deed × Session :=
  let c := Underway.ofOpen "b" "/s" 8 (.create .standard)
  after [] 1 c.act (unnamed.begin 1 c) 30

lemma run_unnaming : Run Step .empty unnaming.1 unnaming.2 := by
  have resting t : made.2.calls t = none := by
    cases t <;> rfl
  have makes : Step .empty _ (begin .empty 0 (.ofOpen "a" "/s" 8 (.create .standard))) :=
    .openHandle ⟨rfl, rfl⟩ rfl (not_isInUse (fun _ _ => rfl) fun _ => rfl)
  have destroys : made.2.Step _ (made.2.begin 0 destroying) :=
    .onHandle ⟨rfl, rfl⟩ rfl (fun _ => not_isInUse (fun _ _ => rfl) resting) nofun nofun rfl
  exact run_play ((run_after .nil makes 30).cons destroys) _

lemma run_succeeded : Run Step unnamed succeeded.1 succeeded.2 := by
  have resting t : unnamed.calls t = none := by
    cases t <;> rfl
  exact run_after .nil (.openHandle ⟨rfl, rfl⟩ rfl (not_isInUse (fun _ _ => rfl) resting)) 30

end Session

/-- A creator is destroyed without its name, and another one takes the name over. To destroy the
first one again leaves the name to the other. -/
theorem a_successor_keeps_its_name :
    ∃ past s g, Run Session.Step (.ofHost .empty) past s ∧ s.host.IsBound .sample 1 ∧
      s.handles "a" = some (.segment (Segment.empty g)) ∧
      (∃ s', s.Step (.began 0 (.onHandle "a" .destroy)) s') ∧
      ∀ u op s', s.Step (.began u (.onHandle "a" op)) s' → s'.host = s.host := by
  have destroyed : ∃ o, Session.unnaming.2.Step (.returned 0 (.onHandle "a" .destroy) o)
      Session.unnamed := by
    obtain ⟨o, eo⟩ := Option.isSome_iff_exists.1 (rfl : (Session.unnaming.2.outcome? 0).isSome = true)
    obtain ⟨c, ec, ep⟩ := Session.outcome?_eq_some.1 eo
    have acts : (Session.unnaming.2.calls 0).map (·.act) = some (.onHandle "a" .destroy) := rfl
    have act : c.act = .onHandle "a" .destroy := by
      rw [ec] at acts
      exact Option.some.inj acts
    refine ⟨o, ?_⟩
    rw [Session.unnamed, eo, ← act]
    exact .finish ec rfl ep
  obtain ⟨o, destroyed⟩ := destroyed
  have stays u : .began u (.onHandle "a" .drop) ∉ Session.succeeded.1 := by
    intro mem
    obtain mem | other := Session.play_ne_began _ mem
    · cases mem with
      | tail _ mem => cases mem
    · exact other _ _ rfl
  obtain ⟨g, there, once⟩ :=
    destroying_acts_once Session.run_unnaming destroyed Session.run_succeeded stays
  have resting t : Session.succeeded.2.calls t = none := by
    match t with
    | 0 | 1 | t + 2 => rfl
  refine ⟨_, _, g, (Session.run_unnaming.cons destroyed).trans Session.run_succeeded, rfl, there, ?_, ?_⟩
  · exact ⟨_, .onHandle ⟨resting 0, rfl⟩ there
      (fun _ => Session.not_isInUse (fun _ _ => rfl) resting) nofun nofun rfl⟩
  · intro u op s' st
    obtain ⟨o, -, -, host, -⟩ := once u op s' st
    exact host

end SharedSegment
