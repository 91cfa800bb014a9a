import SharedSegment.Proofs.Guards.Borrowing

/-!
# Confinement

A call on a handle or on a guard reaches the host through the mapping of that handle only, and what
it writes lies in the payload (`Segment.Uses`); a call that drops or destroys a handle asks for no
more than tearing it down takes (`Underway.MayAsk`). So it is in every session, whatever else is
under way (`Session.IsConfined.of_run`).
-/

namespace SharedSegment
open Function Scenario Program Header

/-- Whether an act writes into a payload. -/
def Scenario.Act.writes : Act → Bool
  | .onHandle _ (.write ..) | .onGuard _ (.write ..) => true
  | _ => false

/-- A request is made when a segment is used, to write into its payload or for anything else. What
is written lies in the payload. -/
def Segment.Uses (g : Segment) (writes : Bool) : Request → Prop
  | .lock m | .unlock m | .makeConsistent m | .park m | .awake m | .broadcast m | .read m .. =>
    writes = false ∧ g.mapping = some m
  | .write m off bs =>
    writes ∧ g.mapping = some m ∧ Layout.headerSize ≤ off ∧ ∀ i < bs.size, off + i < total g.size
  | _ => False

/-- What a call may ask for: all that opening a handle takes, what tearing its handle down takes,
or what using its handle takes. -/
def Underway.MayAsk (c : Underway) (r : Request) : Prop :=
  match c.act with
  | .openHandle .. => True
  | .onHandle _ .drop | .onHandle _ .destroy =>
    ∃ x g, c.subject = some x ∧ x.segment? = some g ∧ g.Tears r
  | _ => ∃ x g, c.subject = some x ∧ x.segment? = some g ∧ g.Uses c.act.writes r

namespace Segment

variable (g : Segment)

lemma confined_lock : g.lock.Keeps (.asking (g.Uses false)) () :=
  (g.asks_lock fun _ em => ⟨⟨rfl, em⟩, rfl, em⟩).keeps_asking

lemma confined_unlock : g.unlock.Keeps (.asking (g.Uses false)) () :=
  (g.asks_unlock fun _ em => ⟨rfl, em⟩).keeps_asking

lemma confined_waitLocked : g.waitLocked.Keeps (.asking (g.Uses false)) () :=
  (g.asks_waitLocked fun _ em => ⟨⟨rfl, em⟩, ⟨rfl, em⟩, rfl, em⟩).keeps_asking

lemma confined_read (off len : Nat) : (g.read off len).Keeps (.asking (g.Uses false)) () := by
  unfold read
  cases em : g.mapping with
  | none => exact rfl
  | some m => exact (asks_request ⟨rfl, em⟩).keeps_asking

/-- A write is cut off where the payload ends. -/
lemma confined_write (off : Nat) (bs : List UInt8) :
    (g.write off bs).Keeps (.asking (g.Uses true)) () := by
  unfold write
  cases em : g.mapping with
  | none => exact rfl
  | some m =>
    have within : g.Uses true
        (.write m (Layout.headerSize + off) (bs.take (g.size.toNat - off)).toArray) := by
      refine ⟨rfl, em, Nat.le_add_right .., ?_⟩
      intro i lt
      simp only [List.size_toArray, List.length_take] at lt
      simp only [total]
      omega
    exact (asks_ask within fun _ => asks_ret _).keeps_asking

lemma confined_use (h : String) (op : Operation) :
    op.Keeps (.asking (g.Uses (Act.onHandle h op).writes)) () g := by
  cases op with
  | lock | guard => exact g.confined_lock
  | unlock => exact g.confined_unlock
  | wait => exact g.keeps_wait g.confined_lock g.confined_waitLocked g.confined_unlock
  | notifyAll => exact (g.asks_notifyAll fun _ em => ⟨rfl, em⟩).keeps_asking
  | waitLocked => exact g.confined_waitLocked
  | read => exact g.confined_read
  | write => exact g.confined_write
  | info | debug | drop | destroy | other => trivial

lemma confined_guardUse (n : String) (op : GuardOperation) :
    op.Keeps (.asking (g.Uses (Act.onGuard n op).writes)) () g := by
  cases op with
  | status => trivial
  | read => exact g.confined_read
  | write => exact g.confined_write
  | wait => exact g.confined_waitLocked
  | drop => exact g.confined_unlock

end Segment

namespace Underway

variable {t : ThreadId} {h : String} {uses : Option String} {x : Handle} {p : Program Outcome}

/-- A call on a handle asks for what tearing it down takes, or for what using it takes. -/
lemma asks_onHandle {op : Operation} (ep : handleCall? t h x op = some p) :
    p.Asks (Underway.mk (.onHandle h op) uses (some x) p).MayAsk := by
  have torn (tears : op = .drop ∨ op = .destroy) (g : Segment) (eg : x.segment? = some g) :
      g.destroy.Asks (Underway.mk (.onHandle h op) uses (some x) p).MayAsk := by
    refine g.asks_destroy.mono ?_
    intro r tearing
    obtain rfl | rfl := tears
    · exact ⟨x, g, rfl, eg, tearing⟩
    · exact ⟨x, g, rfl, eg, tearing⟩
  by_cases drops : op = .drop
  · subst drops
    exact (Ensures.dropCall (torn (.inl rfl)) (fun _ => trivial) ep).mono fun _ _ _ => trivial
  by_cases destroys : op = .destroy
  · subst destroys
    have torn (g : Segment) (eg : x = .segment g) :
        g.destroy.Asks (Underway.mk (.onHandle h .destroy) uses (some x) p).MayAsk :=
      torn (.inr rfl) g (by rw [eg]; rfl)
    exact (Ensures.destroyCall torn ep).mono fun _ _ _ => trivial
  cases eg : x.segment? with
  | none =>
    refine (Ensures.handleUse (fun g eg' => ?_) ep drops destroys).mono fun _ _ _ => trivial
    cases eg.symm.trans eg'
  | some g =>
    have used : p.Asks (g.Uses (Act.onHandle h op).writes) := by
      refine (Ensures.handleUse (fun g' eg' => ?_) ep drops destroys).mono fun _ _ _ => trivial
      cases eg.symm.trans eg'
      exact g.confined_use h op
    refine used.mono ?_
    intro r uses
    cases op with
    | drop => exact absurd rfl drops
    | destroy => exact absurd rfl destroys
    | _ => exact ⟨x, g, rfl, eg, uses⟩

lemma asks_onGuard (n : String) (y : Guard) (f : Facade) (op : GuardOperation) :
    (guardOperationCall y f op).Asks (Underway.mk (.onGuard n op) uses (some (.facade f))
      (guardOperationCall y f op)).MayAsk := by
  cases eg : f.segment with
  | none =>
    refine (Ensures.guardUse y fun g eg' => ?_).mono fun _ _ _ => trivial
    cases eg.symm.trans eg'
  | some g =>
    have used : (guardOperationCall y f op).Asks (g.Uses (Act.onGuard n op).writes) := by
      refine (Ensures.guardUse y fun g' eg' => ?_).mono fun _ _ _ => trivial
      cases eg.symm.trans eg'
      exact g.confined_guardUse n op
    exact used.mono fun r uses => ⟨.facade f, g, rfl, eg, uses⟩

end Underway

/-- Every call asks for nothing but what it may ask for. -/
def Session.IsConfined (s : Session) : Prop :=
  ∀ t c, s.calls t = some c → c.program.Asks c.MayAsk

namespace Session.IsConfined

variable {s s' : Session} {d : Deed} {t : ThreadId} {c : Underway}

lemma begin {handles : String → Option Handle} (confined : s.IsConfined)
    (mine : c.program.Asks c.MayAsk) : ({ s with handles }.begin t c).IsConfined := by
  intro t' c' ec
  obtain ⟨-, rfl⟩ | ⟨-, ec⟩ := begin_calls_inv ec
  · exact mine
  · exact confined t' c' ec

theorem step (confined : s.IsConfined) (st : s.Step d s') : s'.IsConfined := by
  cases st with
  | openHandle => exact confined.begin ((asks_anything _).mono fun _ _ => trivial)
  | onHandle idle ex excl taken nodrop ep => exact confined.begin (Underway.asks_onHandle ep)
  | drop idle ex unused ep => exact confined.begin (Underway.asks_onHandle ep)
  | onGuard => exact confined.begin (Underway.asks_onGuard ..)
  | @move t c m p' h' ec alive st =>
    intro t' c' ec'
    obtain ⟨-, rfl⟩ | ⟨-, ec'⟩ := move_calls_inv ec'
    · exact ensures_asking_step (confined t c ec) st
    · exact confined t' c' ec'
  | finish =>
    intro t' c' ec'
    exact confined t' c' (conclude_calls_inv ec').2
  | die => exact confined

theorem of_run {h : Host} {past : List Deed} (run : Run Session.Step (.ofHost h) past s) :
    s.IsConfined := by
  induction run with
  | nil => exact fun t c ec => nomatch ec
  | cons run st ih => exact ih.step st

/-- What a thread asks for in a call is what the call may ask for. -/
lemma asks {r : Request} {next : r.Answer → Program Outcome} (confined : s.IsConfined)
    (ec : s.calls t = some c) (ep : c.program = .ask r next) : c.MayAsk r := by
  have asks := confined t c ec
  rw [ep] at asks
  exact asks.1

end Session.IsConfined
end SharedSegment
