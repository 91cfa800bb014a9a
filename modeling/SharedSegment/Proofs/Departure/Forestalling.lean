import SharedSegment.Proofs.Aftermath.Declining
import SharedSegment.Proofs.Custody.Identity
import SharedSegment.Proofs.Departure.Bids
import SharedSegment.Proofs.Departure.Moves

/-!
# Creating against a departing creator

A thread creates a segment under a name while the creator of another one under the same name tears
its handle down. Where no call of the thread fails by itself and nobody else binds the name, its
call never waits and is over soon, and a segment comes of it in every interleaving but one kind: if
the other takes the name away after the thread was refused it and before the thread takes it away
itself, the thread finds nothing to take away and gives up, though the name is free
(`creating_fails_only_where_it_is_forestalled`).

`Session.Bids` holds while the call is under way: the bid for the name has come as far as the deeds
tell.
-/

namespace SharedSegment
open Function Scenario Program Header

namespace Session

section
variable {s s' : Session} {d : Deed} {n : Name} {x : Option Binding}

/-- A step binds a name that was free, takes a name away that was bound, or leaves it as it is. -/
lemma Step.rebinds_name (st : s.Step d s') (place : s.host.store.place n = .file x) :
    ∃ y, s'.host.store.place n = .file y ∧ d.Rebinds n x y := by
  cases st.touches with
  | nothing same silent => exact ⟨x, same ▸ place, Deed.rebinds_of_silent silent⟩
  | answered _ _ _ eh => exact Host.rebinds_name place eh
  | waited eh =>
    have same : s'.host.store = s.host.store := congrArg Ledger.store (Host.ledger_wait eh)
    exact ⟨x, same ▸ place, Deed.rebinds_of_silent (by rintro _ _ _ _ ⟨⟩)⟩
  | died same => exact ⟨x, same ▸ place, Deed.rebinds_of_silent (by rintro _ _ _ _ ⟨⟩)⟩

end

section
variable {b : ObjectId} {s : Session} {σ : ThreadId ⊕ String → Custody} {t : ThreadId}
  {c : Underway} {r : Request} {next : r.Answer → Program Outcome} {a : r.Answer} {h' : Host}

/-- Whoever keeps to the protocol of custodians is granted what finishes an object of its own. -/
lemma IsKeptFrom.granted (kept : s.IsKeptFrom b σ) (ec : s.calls t = some c)
    (alive : s.dead t = false) (ep : c.program = .ask r next) (eh : s.host.step t r = .done a h')
    (furnishing : r.isFurnishing) : r.failure? a = none := by
  obtain ⟨c', ans, -, -⟩ :=
    kept.custodians.answer (kept.permits ec alive ep) (Host.ledger_step eh)
  cases r with
  | resize | mutexInit | condInit =>
    obtain ⟨rfl, -⟩ := ans
    rfl
  | map =>
    obtain ⟨m, k, rfl, -⟩ := ans
    rfl
  | pin | mutexattrInit | mutexattrSetpshared | mutexattrSetrobust | mutexattrSettype
  | mutexattrDestroy | condattrInit | condattrSetclock | condattrSetpshared | condattrDestroy =>
    cases eh
    rfl
  | storeSize => rfl
  | _ => cases furnishing

end

/-- A thread is in a call that bids for a name, and the bid has come as far as the deeds tell. -/
structure Bids (s : Session) (mid : List Deed) (t : ThreadId) (n : Name)
    (post : Outcome → Bid → Prop) (c : Underway) (b : Bid) (left : ℕ) : Prop where
  call : s.calls t = some c
  alive : s.dead t = false
  name : ∃ x, s.host.store.place n = .file x ∧ b.Fits n t mid x
  ensures : c.program.Ensures (.bid n) post b
  within : c.program.IsWithin left

namespace Bids

variable {k : ObjectId} {σ : ThreadId ⊕ String → Custody} {s s' : Session} {mid : List Deed}
  {t : ThreadId} {n : Name} {post : Outcome → Bid → Prop} {c : Underway} {b : Bid} {left : ℕ}
  {d : Deed}

/-- Others leave a bid under way, though they may forestall it. -/
lemma others (bids : s.Bids mid t n post c b left) (st : s.Step d s') (ne : d.thread ≠ t)
    (same : s'.calls t = some c) (alone : ¬d.binds n) : s'.Bids (d :: mid) t n post c b left := by
  obtain ⟨x, place, fits⟩ := bids.name
  obtain ⟨y, place', rebinds⟩ := st.rebinds_name place
  refine ⟨same, (st.dead_of_other ne).trans bids.alive, ⟨y, place', ?_⟩, bids.ensures, bids.within⟩
  exact fits.others rebinds ne (mt Deed.thread_of_refuses ne) alone

/-- A move in the call is one of those that it has left. -/
lemma move {m : Move} {p : Program Outcome} {h' : Host} (bids : s.Bids mid t n post c b left)
    (kept : s.IsKeptFrom k σ) (st : c.program.Step t s.host m p h')
    (calm : (Deed.moved t s.host m).isCalm) :
    ∃ b' left', left = left' + 1 ∧
      (s.move t c p h').Bids (.moved t s.host m :: mid) t n post { c with program := p } b'
        left' := by
  obtain ⟨x, place, fits⟩ := bids.name
  have there : (s.move t c p h').calls t = some { c with program := p } := update_self ..
  obtain ⟨act, uses, subject, program⟩ := c
  have ensures := bids.ensures
  have prompt := ensures.prompt st
  obtain ⟨left', rfl, within⟩ := bids.within.step st prompt
  cases st with
  | tell =>
    exact ⟨b, left', rfl, there, bids.alive,
      ⟨x, place, fits.spared (by rintro ⟨⟩) (by rintro ⟨⟩)⟩, ensures, within⟩
  | answer eh =>
    obtain ⟨b', y, ans, place', fits'⟩ := fits.answer place eh ensures.1
      fun furnishing => kept.granted bids.call bids.alive rfl eh furnishing
    exact ⟨b', left', rfl, there, bids.alive, ⟨y, place', fits'⟩, ensures.2 _ b' ans, within⟩
  | wait => exact absurd rfl (prompt _)
  | strike => cases calm

/-- A bid goes on with every deed, and every one of its thread is one of the moves that it has
left. -/
lemma step (bids : s.Bids mid t n post c b left) (kept : s.IsKeptFrom k σ) (st : s.Step d s')
    (calm : d.thread = t → d.isMove ∧ d.isCalm) (alone : d.binds n → d.thread = t) :
    ∃ c' b' left', s'.Bids (d :: mid) t n post c' b' left' ∧
      (d :: mid).countP (·.thread == t) + left' = mid.countP (·.thread == t) + left := by
  by_cases mine : d.thread = t
  · subst mine
    obtain ⟨moves, calm⟩ := calm rfl
    cases st with
    | move ec _ st =>
      cases bids.call.symm.trans ec
      obtain ⟨b', left', rfl, bids'⟩ := bids.move kept st calm
      refine ⟨_, b', left', bids', ?_⟩
      rw [List.countP_cons_of_pos (by simp [Deed.thread])]
      omega
    | openHandle | onHandle | drop | onGuard | finish | die => cases moves
  · have same := calls_others (Run.nil.cons st) (u := t) (by simpa using mine) bids.call
    refine ⟨c, b, left, bids.others st mine same (mt alone mine), ?_⟩
    rw [List.countP_cons_of_neg (by simpa using mine)]

theorem run {h₀ : Host} {past : List Deed} (before : Run Session.Step (.ofHost h₀) past s)
    (bids : s.Bids [] t n post c b left) (run : Run Session.Step s mid s')
    (calm : ∀ d ∈ mid, d.thread = t → d.isMove ∧ d.isCalm)
    (alone : ∀ d ∈ mid, d.binds n → d.thread = t) :
    ∃ c' b' left', s'.Bids mid t n post c' b' left' ∧
      mid.countP (·.thread == t) + left' = left := by
  -- Custody is what makes the answers to the bidder certain, and it is kept through the whole run.
  induction run with
  | nil => exact ⟨c, b, left, bids, by simp⟩
  | @cons mid s₁ d s₂ run st ih =>
    obtain ⟨c₁, b₁, left₁, bids₁, few⟩ := ih (fun d mem => calm d (.tail _ mem))
      fun d mem => alone d (.tail _ mem)
    obtain ⟨σ, kept⟩ := IsKeptFrom.of_run (before.trans run)
    obtain ⟨c₂, b₂, left₂, bids₂, fewer⟩ :=
      bids₁.step kept st (calm d (.head _)) (alone d (.head _))
    exact ⟨c₂, b₂, left₂, bids₂, fewer.trans few⟩

end Bids
end Session

/-- In any state of any session, a thread begins to create a segment with a size and valid settings,
under a name that leads to no directory. While no call of it fails by itself and nobody else binds
the name, its call is over after 26 moves at most and never waits, whatever the others do. A valid
segment of that size comes of it unless it is forestalled: after the thread was refused the name
somebody else, such as the creator of what is in the way, was the next to take the name away. Then
it fails, and says that the removal of what was in the way has failed. -/
theorem creating_fails_only_where_it_is_forestalled {h₀ : Host} {past mid : List Deed}
    {s s' : Session} {t : ThreadId} {x raw : String} {n : Name} {size : UInt32}
    {toggle : Option String} {via : Via} {bound : Option Binding} (named : Name.ofRaw raw = .ok n)
    (creates : via.creates size) (positive : size ≠ 0)
    (admitted : via.isChecked → (via.settings toggle).validate = .ok ())
    (before : Run Session.Step (.ofHost h₀) past s) (can : s.CanOpen t x)
    (place : s.host.store.place n = .file bound)
    (run : Run Session.Step (s.begin t ⟨.openHandle x raw size via, some x, none,
      openCall toggle x raw size via⟩) mid s')
    (calm : ∀ d ∈ mid, d.thread = t → d.isMove ∧ d.isCalm)
    (alone : ∀ d ∈ mid, d.binds n → d.thread = t) :
    mid.countP (·.thread == t) ≤ 26 ∧
    (∀ d s'', s'.Step d s'' → ∀ h r, d ≠ .moved t h (.waited r)) ∧
    (s'.outcome? t = none → ∃ d s'', s'.Step d s'' ∧ d.thread = t ∧ d.isMove ∧ d.isCalm) ∧
    ∀ o, s'.outcome? t = some o → ∃ r, o = .ofOpening x (via.wrap toggle size r) ∧
      (¬IsForestalled n t mid →
        ∃ g, r = .ok g ∧ g.isValid ∧ g.name = n ∧ g.role = .creator ∧ g.size = size) ∧
      (IsForestalled n t mid → r = .error (.nameCollision n.text
        "EEXIST: File exists (removal failed: ENOENT: No such file or directory)")) := by
  have begins : s.Step (.began t (.openHandle x raw size via)) (s.begin t
      ⟨.openHandle x raw size via, some x, none, openCall toggle x raw size via⟩) :=
    .openHandle can.idle can.unnamed can.unused
  obtain ⟨c, b, left, bids, few⟩ := Session.Bids.run (before.cons begins)
    ⟨update_self .., can.idle.dead, ⟨bound, place, .fresh not_isBarred_nil not_isForestalled_nil⟩,
      ensures_openCall_bid named creates positive admitted,
      isWithin_openCall named creates positive admitted⟩ run calm alone
  obtain ⟨act, uses, subject, program⟩ := c
  obtain ⟨ec, alive, ⟨y, place', fits⟩, ensures, -⟩ := bids
  refine ⟨Nat.le_trans (Nat.le_add_right ..) (Nat.le_of_eq few), ?prompt, ?goesOn, ?ends⟩
  case prompt =>
    rintro d s'' st h r rfl
    cases st with
    | move ec' _ st =>
      cases ec.symm.trans ec'
      exact ensures.prompt st r rfl
  case goesOn =>
    intro underway
    cases program with
    | ret o => cases underway.symm.trans (Session.outcome?_eq_some.2 ⟨_, ec, rfl⟩)
    | put o rest => exact ⟨_, _, .move ec alive .tell, rfl, rfl, rfl⟩
    | ask r next =>
      obtain ⟨a, h, eh⟩ := Protocol.bid_answered ensures.1 s'.host t
      exact ⟨_, _, .move ec alive (.answer eh), rfl, rfl, rfl⟩
  case ends =>
    intro o ended
    obtain ⟨c, ec', ep⟩ := Session.outcome?_eq_some.1 ended
    cases ec.symm.trans ec'
    cases ep
    obtain ⟨r, rfl, ⟨rfl, g, rfl, name, role, sized, file, mapped⟩ | ⟨rfl, rfl⟩⟩ := ensures
    · cases fits with
      | placed _ early =>
        have valid : g.isValid := by
          have some : 0 < g.size := sized ▸ UInt32.pos_iff_ne_zero.2 positive
          simp [Segment.isValid, file, mapped, some]
        exact ⟨_, rfl, fun _ => ⟨g, rfl, valid, name, role, sized⟩, fun late => absurd late early⟩
    · cases fits with
      | lost late => exact ⟨_, rfl, fun early => absurd late early, fun _ => rfl⟩

namespace Session

/-- The creator of a segment has begun to drop its facade. -/
def departing : List Deed × Session :=
  let c := Underway.ofDrop "a" (.facade (.ofSegment 8 .standard (.numbered 0)))
  (.began 0 c.act :: started.1,
    { started.2 with handles := update started.2.handles "a" none }.begin 0 c)

/-- Another thread creates a segment under the same name. It is refused the name first, then the
first thread takes that away. -/
def contested : List Deed × Session :=
  play ((1, none) :: List.replicate 10 (0, none) ++ List.replicate 2 (1, none)) []
    (departing.2.begin 1 (.ofOpen "b" "/s" 8 (.create .standard)))

lemma run_departing : Run Step .empty departing.1 departing.2 := by
  have resting t : started.2.calls t = none := by
    cases t <;> rfl
  exact run_started.cons
    (.drop ⟨rfl, rfl⟩ rfl (not_isInUse (fun _ _ => rfl) resting) rfl)

lemma canOpen_departing : departing.2.CanOpen 1 "b" := by
  refine ⟨⟨rfl, rfl⟩, rfl, ?_⟩
  rintro (⟨t, g, x, eg, -⟩ | ⟨t, c, ec, uses⟩)
  · cases eg
  · obtain ⟨-, rfl⟩ | ⟨-, ec⟩ := begin_calls_inv ec
    · cases uses
    · match t with
      | 0 | t + 1 => cases ec

end Session

/-- A thread that creates a segment is forestalled by the creator of the one before it, and fails,
though the name is free. -/
theorem a_departing_creator_forestalls_the_next :
    ∃ past mid s s', Run Session.Step .empty past s ∧ s.CanOpen 1 "b" ∧
      Run Session.Step (s.begin 1 (.ofOpen "b" "/s" 8 (.create .standard))) mid s' ∧
      (∀ d ∈ mid, d.thread = 1 → d.isMove ∧ d.isCalm) ∧ (∀ d ∈ mid, ¬d.binds .sample) ∧
      IsForestalled .sample 1 mid ∧
      s'.outcome? 1 = some ⟨.failed (.nameCollision "/s"
        "EEXIST: File exists (removal failed: ENOENT: No such file or directory)"), .none⟩ ∧
      s'.host.store.place .sample = .file none := by
  have run : Run Session.Step (Session.departing.2.begin 1 (.ofOpen "b" "/s" 8 (.create .standard)))
      Session.contested.1 Session.contested.2 := Session.run_play .nil _
  have calm : ∀ d ∈ Session.contested.1, d.thread = 1 → d.isMove ∧ d.isCalm := by decide +kernel
  have alone : ∀ d ∈ Session.contested.1, ¬d.binds .sample := by decide +kernel
  have ended : Session.contested.2.outcome? 1 = some ⟨.failed (.nameCollision "/s"
      "EEXIST: File exists (removal failed: ENOENT: No such file or directory)"), .none⟩ := rfl
  obtain ⟨-, -, -, ends⟩ := creating_fails_only_where_it_is_forestalled rfl rfl
    (by decide) (by rintro ⟨⟩) Session.run_departing Session.canOpen_departing rfl run calm
    fun d mem binds => absurd binds (alone d mem)
  obtain ⟨r, er, early, late⟩ := ends _ ended
  have forestalled : IsForestalled .sample 1 Session.contested.1 := by
    -- A segment would have come of the call otherwise.
    by_contra none
    obtain ⟨g, rfl, -⟩ := early none
    cases er
  exact ⟨_, _, _, _, Session.run_departing, Session.canOpen_departing, run, calm, alone,
    forestalled, ended, rfl⟩

end SharedSegment
