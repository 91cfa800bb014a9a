import SharedSegment.Proofs.Commands.Works
import SharedSegment.Proofs.Custody.Tables

/-!
# Observers

The commands that show, read and notify ask for nothing that changes the store or the contents of an
object (`Request.isObserving`, `Host.rests_step`), whatever they are answered, and whether they wait
or not (`Command.onlyLooks_program`). So however far such a command runs, and whichever calls fail,
it leaves all of that as it was (`Program.OnlyLooks.rests_run`).
-/

namespace SharedSegment
open Program

/-- Whether a request can be made by those who only look at segments. -/
def Request.isObserving : Request → Bool
  | .lock .. | .unlock .. | .makeConsistent .. | .park .. | .awake .. | .broadcast ..
  | .readText .. => true
  | r => r.isFinding

/-- Whether an action only looks at a segment. -/
def Command.Action.isObserving : Action → Bool
  | .info .. | .read .. | .notify .. => true
  | .create .. | .write .. => false

namespace Host

variable {h : Host} {r : Request}

/-- What observers ask for changes no store. -/
lemma store_step_observing (observes : r.isObserving) (t : ThreadId) :
    (h.step t r).host.store = h.store := by
  cases tabled : r.isTabled with
  | false => exact (sameTables_step tabled).1
  | true =>
    cases r with
    | openExisting n =>
      obtain ⟨e, lost, -⟩ | ⟨k, o, bound, here, permits, -, -⟩ := h.openExisting_cases n
      · change (h.openExisting n).2.store = h.store
        rw [lost]
      · rw [step_openExisting bound here permits]
        rfl
    | map f len =>
      change (h.onFile f _).2.store = h.store
      unfold onFile
      split <;> rfl
    | close | unmap => rfl
    | openNew | unlink => cases observes
    | _ => cases tabled

/-- What observers ask for changes neither the store nor the contents of an object. -/
theorem rests_step (observes : r.isObserving) (t : ThreadId) : h.Rests (h.step t r).host := by
  refine ⟨store_step_observing observes t, ?_⟩
  intro k
  have silent : ¬h.Shapes k r ∧ (fun i => h.writes? k i r) = fun _ => none := by
    cases r with
    | resize | storeSize | write | clear => cases observes
    | _ => exact ⟨id, rfl⟩
  have keeps := keeps_step (k := k) t silent.1
  rwa [silent.2] at keeps

end Host

/-- Nothing that a program asks for changes any host in what can be seen, whatever the program has
been answered before. -/
def Program.OnlyLooks {α : Type} (p : Program α) : Prop :=
  p.Asks fun r => ∀ (h : Host) t, h.Rests (h.step t r).host

/-- However far a program runs that only looks, and whichever calls fail, nothing is changed that
can be seen. -/
theorem Program.OnlyLooks.rests_run {α : Type} {p : Program α} (looks : p.OnlyLooks) (t : ThreadId)
    (f : Faults) (out : List Output) (h : Host) : h.Rests (p.run t f out h).2 := by
  induction p generalizing f out h with
  | ret a => exact h.rests_refl
  | put o rest ih => exact ih looks f (o :: out) h
  | ask r next ih =>
    have behind a f (h : Host) : h.Rests ((next a).run t f out h).2 :=
      ih a (looks.2 a () trivial) f out h
    have first := looks.1 h t
    rw [run]
    split
    -- A call that fails does not reach the host.
    case h_1 => exact behind ..
    case h_2 f' _ =>
      cases eh : h.step t r with
      | done a h' =>
        rw [eh] at first
        exact first.trans (behind ..)
      | wait h' =>
        rw [eh] at first
        exact first

lemma Request.isObserving_of_isFinding {r : Request} (finds : r.isFinding) : r.isObserving := by
  cases r with
  | openExisting | length | map | loadSize | unmap | close | pin => rfl
  | _ => cases finds

namespace Facade

variable {f : Facade} {ok : Request → Prop}

lemma asks_onSegment {α : Type} {otherwise : α} {act : Segment → Program α}
    (asks : ∀ g, f.segment = some g → (act g).Asks ok) : (f.onSegment otherwise act).Asks ok := by
  unfold onSegment
  cases eg : f.segment with
  | none => exact asks_ret _
  | some g => exact asks g eg

/-- Without a size nobody becomes a creator. -/
lemma ensures_tryOpen_asking (raw : String) (c : Config) :
    (tryOpen raw 0 c).Ensures (.asking fun r => r.isObserving)
      (fun r _ => ∀ f, r = .ok f → ∀ g, f.segment = some g → g.role = .attacher) () := by
  have connects : (connect raw 0 c).Ensures (.asking fun r => r.isObserving)
      (fun r _ => ∀ g, r.toOption = some g → g.role = .attacher) () := by
    cases named : Name.ofRaw raw with
    | error fault =>
      simp only [connect, named]
      intro g found
      cases found
    | ok n =>
      cases valid : c.validate with
      | error fault =>
        simp only [connect, named, valid]
        intro g found
        cases found
      | ok =>
        rw [connect_eq named valid, if_pos rfl]
        exact (Segment.ensures_attach_asking n c).asking_mono fun r finds =>
          Request.isObserving_of_isFinding (Segment.isFinding_of_finds n finds)
  refine connects.bind ?_
  intro r _ role
  cases r with
  | error e =>
    intro f opened
    cases opened
  | ok g =>
    rintro _ ⟨⟩ _ ⟨⟩
    exact role g rfl

lemma asks_guard : f.guard.Asks fun r => r.isObserving :=
  (asks_onSegment fun g _ => g.asks_lock fun _ _ => ⟨rfl, rfl⟩).bind fun _ => asks_ret _

lemma asks_unlock : f.unlock.Asks fun r => r.isObserving :=
  asks_onSegment fun g _ => g.asks_unlock fun _ _ => rfl

lemma asks_wait : f.wait.Asks fun r => r.isObserving := by
  refine asks_onSegment fun g _ => ?_
  have locks : g.lock.Asks fun r => r.isObserving := g.asks_lock fun _ _ => ⟨rfl, rfl⟩
  have waits : g.waitLocked.Asks fun r => r.isObserving :=
    g.asks_waitLocked fun _ _ => ⟨rfl, rfl, rfl⟩
  have unlocks : g.unlock.Asks fun r => r.isObserving := g.asks_unlock fun _ _ => rfl
  exact (g.keeps_wait locks.keeps_asking waits.keeps_asking unlocks.keeps_asking).mono
    fun _ _ _ => trivial

lemma asks_notifyAll : f.notifyAll.Asks fun r => r.isObserving :=
  asks_onSegment fun g _ => g.asks_notifyAll fun _ _ => rfl

lemma asks_readText : f.readText.Asks fun r => r.isObserving := by
  unfold readText
  split
  case isTrue =>
    refine asks_onSegment fun g _ => ?_
    unfold Segment.readText
    cases g.mapping with
    | none => exact asks_ret _
    | some m => exact asks_request rfl
  case isFalse => exact asks_ret _

/-- Whoever has only attached takes down nothing and frees no name. -/
lemma asks_drop (role : ∀ g, f.segment = some g → g.role = .attacher) :
    f.drop.Asks fun r => r.isObserving := by
  refine asks_onSegment fun g eg => ?_
  refine Asks.bind ?_ fun _ => asks_ret _
  refine g.asks_destroy.mono fun r tears => ?_
  have attached := role g eg
  cases r with
  | unmap | close => rfl
  | broadcast => rfl
  | condDestroy | mutexDestroy | unlink => cases attached.symm.trans tears.1
  | _ => exact tears.elim

end Facade

namespace Command

variable {f : Facade}

lemma asks_onAttached {raw : String} {c : Config} {act : Facade → Work}
    (asks : ∀ f, (act f).Asks fun r => r.isObserving) :
    (onAttached raw c act).Asks fun r => r.isObserving := by
  refine Ensures.bind (Facade.ensures_tryOpen_asking raw c) ?_
  intro r _ role
  cases r with
  | error e => exact asks_ret _
  | ok f => exact (asks f).bind fun r => (Facade.asks_drop (role f rfl)).bind fun _ => asks_ret r

lemma asks_readWork (wait : Bool) : (readWork wait f).Asks fun r => r.isObserving := by
  have guarded : (underGuard f fun _ => f.readText).Asks fun r => r.isObserving := by
    refine Facade.asks_guard.bind fun r => ?_
    cases r with
    | none => exact asks_ret _
    | some status =>
      exact Facade.asks_readText.bind fun bs => Facade.asks_unlock.bind fun _ => asks_ret _
  have reads : (readWork false f).Asks fun r => r.isObserving := by
    refine guarded.bind fun r => ?_
    cases r with
    | error c => exact asks_ret _
    | ok bs => exact asks_put (asks_ret _)
  cases wait with
  | false => exact reads
  | true => exact asks_put (Facade.asks_wait.bind fun _ => reads)

lemma asks_work {a : Action} (observes : a.isObserving) (c : Config) :
    (a.work c).Asks fun r => r.isObserving := by
  cases a with
  | create | write => cases observes
  | info raw =>
    exact asks_onAttached fun f => asks_put (asks_put (asks_put (asks_put (asks_ret _))))
  | read raw wait => exact asks_onAttached fun f => asks_readWork wait
  | notify raw =>
    exact asks_onAttached fun f =>
      Facade.asks_notifyAll.bind fun _ => asks_put (asks_put (asks_ret _))

/-- A command that shows, reads or notifies only looks. -/
theorem onlyLooks_program {env : Environment} {words : List String} {i : Invocation}
    (understood : Invocation.ofWords words = .ok i) (observes : i.action.isObserving) :
    (program env words).OnlyLooks := by
  have asks : (program env words).Asks fun r => r.isObserving := by
    cases loads : settings env i.config with
    | error e =>
      rw [program_of_error understood loads]
      exact asks_ret _
    | ok c =>
      rw [program_of_ok understood loads]
      exact Asks.bind ((asks_work observes c).keepLogs _ fun _ _ => rfl) fun _ => asks_ret _
  exact asks.mono fun r looks h t => h.rests_step looks t

end Command
end SharedSegment
