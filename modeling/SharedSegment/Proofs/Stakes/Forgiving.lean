import SharedSegment.Proofs.Stakes.Lives

/-!
# Names that are gone already

Whoever tears a handle down takes its name away, and goes on in the same way if the name is gone
already. So to a call that works on an object it makes no difference what has become of the name
(`Session.IsForgiving`); only who is about to make an object has to know.
-/

namespace SharedSegment
open Function Scenario Program

/-- Two answers to a request make no difference: a name is gone, whether it was taken away just now
or before. -/
def Request.Excuses : (r : Request) → r.Answer → r.Answer → Prop
  | .unlink _, a, a' =>
    a = a' ∨ (a = .ok () ∨ a = .error .enoent) ∧ (a' = .ok () ∨ a' = .error .enoent)
  | _, a, a' => a = a'

/-- Whether an object is opened by an answer. -/
def Request.hasOpened : (r : Request) → r.Answer → Bool
  | .openNew .., .ok _ | .openExisting _, .ok _ => true
  | _, _ => false

/-- Whether an object is opened by a move. -/
def Move.hasOpened : Move → Bool
  | .answered r a => r.hasOpened a
  | _ => false

/-- A program goes on in the same way after answers that make no difference, once it has opened an
object. -/
def Program.Forgives {α : Type} : (opened : Bool) → Program α → Prop
  | _, .ret _ => True
  | opened, .put _ rest => rest.Forgives opened
  | opened, .ask r next => (opened → ∀ a a', r.Excuses a a' → next a = next a') ∧
      ∀ a, (next a).Forgives (opened || r.hasOpened a)

namespace Program

variable {α β : Type} {p p' : Program α} {opened : Bool}

lemma Forgives.weaken (forgives : p.Forgives true) (opened : Bool) : p.Forgives opened := by
  induction p generalizing opened with
  | ret => trivial
  | put o rest ih => exact ih forgives opened
  | ask r next ih => exact ⟨fun _ => forgives.1 rfl, fun a => ih a (forgives.2 a) _⟩

lemma Forgives.bind {f : α → Program β} (forgives : p.Forgives opened)
    (next : ∀ a, (f a).Forgives true) : (p.bind f).Forgives opened := by
  induction p generalizing opened with
  | ret a => exact (next a).weaken opened
  | put o rest ih => exact ih forgives
  | ask r next' ih =>
    refine ⟨?_, fun a => ih a (forgives.2 a)⟩
    intro open' a a' excused
    exact congrArg (·.bind f) (forgives.1 open' a a' excused)

/-- Whoever takes no name away has nothing to forgive. -/
lemma Asks.forgives {ok : Request → Prop} (asks : p.Asks ok) (spared : ∀ n, ¬ok (.unlink n)) :
    p.Forgives opened := by
  induction p generalizing opened with
  | ret => trivial
  | put o rest ih => exact ih asks
  | ask r next ih =>
    refine ⟨?_, fun a => ih a (asks.2 a () trivial)⟩
    intro _ a a' excused
    cases r with
    | unlink n => exact absurd asks.1 (spared n)
    | _ => exact congrArg next excused

lemma Forgives.step {t : ThreadId} {h h' : Host} {m : Move} (forgives : p.Forgives opened)
    (st : p.Step t h m p' h') : p'.Forgives (opened || m.hasOpened) := by
  cases st with
  | tell => exact (Bool.or_false opened).symm ▸ (forgives : p'.Forgives opened)
  | wait => exact (Bool.or_false opened).symm ▸ forgives
  | answer => exact forgives.2 _
  | @strike r next _ call fail e er =>
    have failed : r.hasOpened (fail e) = false := by
      cases r <;> cases er <;> rfl
    have goesOn := forgives.2 (fail e)
    rwa [failed] at goesOn

end Program

/-- By a move a party has opened an object, or it had opened it before. -/
lemma Stake.object?_moves_isSome (c : Stake) (h : Host) (m : Move) :
    (c.moves h m).object?.isSome = (c.object?.isSome || m.hasOpened) := by
  have kept {c' : Stake} (same : c'.object? = c.object?) :
      c'.object?.isSome = (c.object?.isSome || false) := by
    rw [same, Bool.or_false]
  cases m with
  | told | waited => exact kept rfl
  | struck r => exact kept (congrArg (Option.map Prod.snd) (c.alike_tried r).opened)
  | answered r a =>
    cases r with
    | openNew | openExisting =>
      cases a with
      | ok => exact (Bool.or_true _).symm
      | error => exact kept rfl
    | map | mutexInit | condInit => cases a <;> exact kept rfl
    | _ => exact kept rfl

namespace Segment

variable (g : Segment) {n : Name} {cfg : Config}

/-- A name that is gone already is as good as taken away. -/
lemma forgives_unlink : g.unlink.Forgives true := by
  have gone : (if Errno.enoent = .enoent then Program.ret ()
      else .log (.unlinkFailed g.name g.flavor .enoent)) = .ret () := if_pos rfl
  refine ⟨?_, ?_⟩
  · rintro - a a' (rfl | ⟨rfl | rfl, rfl | rfl⟩)
    · rfl
    · rfl
    · exact gone.symm
    · exact gone
    · rfl
  · intro a
    cases a with
    | ok => trivial
    | error e =>
      change (if e = .enoent then Program.ret () else .log _).Forgives _
      split <;> trivial

lemma forgives_release : g.release.Forgives true := by
  unfold release
  cases g.file with
  | none => trivial
  | some f =>
    have told : (Program.log (.released g.name g.flavor g.role)).Forgives true := trivial
    refine ⟨fun _ a a' same => by rw [show a = a' from same], fun _ => ?_⟩
    by_cases creator : g.role = .creator
    · simp only [if_pos creator]
      exact g.forgives_unlink.bind fun _ => told
    · simp only [if_neg creator]
      exact told

theorem forgives_destroy : g.destroy.Forgives true := by
  have syncs : g.destroySync.Asks fun r => ∀ n, r ≠ .unlink n :=
    g.asks_destroySync fun m _ _ _ => ⟨nofun, nofun, nofun⟩
  have unmaps : g.unmap.Asks fun r => ∀ n, r ≠ .unlink n := g.asks_unmap fun _ _ => nofun
  exact (syncs.forgives fun n ok => ok n rfl).bind fun _ =>
    (unmaps.forgives fun n ok => ok n rfl).bind fun _ =>
      g.forgives_release.bind fun _ => trivial

lemma forgives_giveUp (e : SegmentError) : (g.giveUp e).Forgives true :=
  g.forgives_destroy.bind fun _ => trivial

/-- Until it has opened an object, the answer to taking a name away makes a difference. -/
lemma forgives_openExclusive : (openExclusive n cfg).Forgives false := by
  refine ⟨nofun, fun r => ?_⟩
  cases r with
  | ok f => trivial
  | error first =>
    refine ⟨nofun, fun r => ?_⟩
    cases r with
    | error e => trivial
    | ok =>
      refine ⟨nofun, fun r => ?_⟩
      cases r <;> trivial

theorem forgives_create {size : UInt32} : (create n size cfg).Forgives false := by
  refine forgives_openExclusive.bind fun r => ?_
  cases r with
  | error e => trivial
  | ok f =>
    refine ⟨fun _ a a' same => by rw [show a = a' from same], fun r => ?_⟩
    cases r with
    | error e => exact forgives_giveUp _ _
    | ok =>
      refine ⟨fun _ a a' same => by rw [show a = a' from same], fun r => ?_⟩
      cases r with
      | error e => exact forgives_giveUp _ _
      | ok m =>
        refine ((asks_prepare m size).forgives fun n => nofun).bind fun r => ?_
        cases r with
        | error e => exact forgives_giveUp _ _
        | ok =>
          have pins : (pin n cfg m size).Asks fun r => ∀ n, r ≠ .unlink n :=
            asks_pin n cfg (fun _ => nofun) m size
          exact (pins.forgives fun n ok => ok n rfl).bind fun _ => trivial

theorem forgives_attach : (attach n cfg).Forgives false :=
  (asks_attach n cfg).forgives fun _ => nofun

end Segment

section
variable {toggle : Option String} {h raw : String} {size : UInt32} {via : Via} {t : ThreadId}
  {x : Handle} {p : Program Outcome} {c : Config}

lemma Facade.forgives_connect : (connect raw size c).Forgives false := by
  unfold connect
  split
  · trivial
  · split
    · trivial
    · split
      · exact Segment.forgives_create
      · exact Segment.forgives_attach

lemma forgives_named {act : Name → Program (Except SegmentError Segment)}
    (forgives : ∀ n, (act n).Forgives false) : (named raw act).Forgives false := by
  unfold named
  split
  · exact forgives _
  · trivial

/-- A call that opens a handle minds names until it has opened an object. -/
theorem forgives_openCall : (openCall toggle h raw size via).Forgives false := by
  have opened {α : Type} {p : Program (Except SegmentError α)} {handle : α → Handle}
      (forgives : p.Forgives false) : (opening h p handle).Forgives false := by
    refine forgives.bind fun r => ?_
    cases r <;> trivial
  cases via with
  | facade c =>
    refine opened ((Facade.forgives_connect.bind fun r => ?_).bind fun _ => trivial)
    cases r <;> trivial
  | attempt c =>
    refine opened (Facade.forgives_connect.bind fun r => ?_)
    cases r <;> trivial
  | create c => exact opened (forgives_named fun _ => Segment.forgives_create)
  | attach c => exact opened (forgives_named fun _ => Segment.forgives_attach)

lemma Facade.forgives_drop (f : Facade) : f.drop.Forgives true := by
  unfold drop onSegment
  split
  · exact (Segment.forgives_destroy _).bind fun _ => trivial
  · trivial

/-- A call on a handle minds no names. -/
theorem forgives_handleCall {op : Operation} (ep : handleCall? t h x op = some p) :
    p.Forgives true := by
  by_cases drops : op = .drop
  · subst drops
    cases x with
    | facade f =>
      cases ep
      exact f.forgives_drop.bind fun _ => trivial
    | segment g =>
      cases ep
      have dropped : (Handle.segment g).drop.Forgives true :=
        g.forgives_destroy.bind fun _ => trivial
      exact dropped.bind fun _ => trivial
  by_cases destroys : op = .destroy
  · subst destroys
    cases x with
    | facade f => cases ep
    | segment g =>
      cases ep
      exact g.forgives_destroy.bind fun _ => trivial
  have plain : p.IsPlain := (plain_handleUse ep drops destroys).mono fun _ _ _ => trivial
  exact Asks.forgives plain fun n => nofun

lemma forgives_guardUse (y : Guard) (f : Facade) (op : GuardOperation) :
    (guardOperationCall y f op).Forgives true := by
  have plain : (guardOperationCall y f op).IsPlain :=
    (plain_guardUse y f op).mono fun _ _ _ => trivial
  exact Asks.forgives plain fun n => nofun

end

/-- No call minds names that has opened an object or is on a handle. -/
def Session.IsForgiving (s : Session) (ρ : ThreadId ⊕ String → Stake) : Prop :=
  ∀ t c, s.calls t = some c →
    c.program.Forgives (!c.act.opensHandle || (ρ (.inl t)).object?.isSome)

namespace Session.IsForgiving

variable {b : ObjectId} {s s' : Session} {ρ : ThreadId ⊕ String → Stake} {d : Deed}
  {t : ThreadId} {c : Underway}

/-- Whoever is in a call after a step was in it before, or has just begun it or made a step in
it. -/
theorem step (forgiving : s.IsForgiving ρ) (regular : s.IsRegular b ρ) (st : s.Step d s') :
    s'.IsForgiving (s.restake ρ d) := by
  intro t c ec
  by_cases et : t = d.thread
  case neg =>
    rw [restake_of_ne et]
    exact forgiving t c ((regular.lent.others_step st et).1.symm.trans ec)
  cases st with
  | @openHandle t' =>
    obtain rfl : t = t' := et
    obtain ⟨-, rfl⟩ | ⟨ne, -⟩ := begin_calls_inv ec
    · have fresh : (update ρ (.inl t) Stake.nothing (.inl t)).object?.isSome = false := by
        rw [update_self]
        rfl
      change (openCall ..).Forgives (false || (update ρ (.inl t) .nothing (.inl t)).object?.isSome)
      rw [fresh]
      exact forgives_openCall
    · exact absurd rfl ne
  | onHandle idle ex excl taken nodrop ep =>
    obtain ⟨-, rfl⟩ | ⟨ne, -⟩ := begin_calls_inv ec
    · exact forgives_handleCall ep
    · exact absurd et ne
  | drop idle ex unused ep =>
    obtain ⟨-, rfl⟩ | ⟨ne, -⟩ := begin_calls_inv ec
    · exact forgives_handleCall ep
    · exact absurd et ne
  | onGuard =>
    obtain ⟨-, rfl⟩ | ⟨ne, -⟩ := begin_calls_inv ec
    · exact forgives_guardUse ..
    · exact absurd et ne
  | @move t' c' m p' h' ec' alive st' =>
    obtain rfl : t = t' := et
    obtain ⟨-, rfl⟩ | ⟨ne, -⟩ := move_calls_inv ec
    · have goesOn := (forgiving t c' ec').step st'
      cases opens : c'.act.opensHandle with
      | false => simpa [opens] using goesOn
      | true =>
        rw [opens] at goesOn
        change p'.Forgives (!true || _)
        rw [restake_moved_opening ec' opens, Stake.object?_moves_isSome]
        exact goesOn
    · exact absurd rfl ne
  | finish => exact absurd et (conclude_calls_inv ec).1
  | die => exact forgiving t c ec

end Session.IsForgiving
end SharedSegment
