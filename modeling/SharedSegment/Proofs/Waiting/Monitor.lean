import SharedSegment.Proofs.Guards.Owners
import SharedSegment.Proofs.Waiting.Calls
import SharedSegment.Proofs.Waiting.Parking

/-!
# Waiting in a session

In a session a handle shows objects only whose mutex and condition were set up (`Session.Fits`), and
so does the handle that a call under way was made on. So nobody parks on a condition that is not
there yet, and who is parked is what the deeds tell (`Session.IsMonitored.of_run`), whichever calls
fail and whoever dies.
-/

namespace SharedSegment
open Function Scenario Program

/-- The mapping through which a thread waits after a deed of its own, by what it was before. -/
def Deed.rests? (before : Option MappingId) : Deed → Option MappingId
  | .moved _ _ (.answered r a) => r.rests? a
  | .moved _ _ (.waited _) => before
  | _ => none

/-- The mapping through which a thread has parked, if it has only waited since. -/
def restsOn (t : ThreadId) : List Deed → Option MappingId
  | [] => none
  | d :: past => if d.thread = t then d.rests? (restsOn t past) else restsOn t past

/-- A deed after which a thread rests is the one by which it has parked, or it has rested before and
waits. -/
lemma Deed.rests?_inv {d : Deed} {before : Option MappingId} {m : MappingId}
    (rests : d.rests? before = some m) :
    (∃ h, d = .moved d.thread h (.answered (.park m) (.ok ()))) ∨
      before = some m ∧ ∃ h r, d = .moved d.thread h (.waited r) := by
  cases d with
  | moved t h mv =>
    cases mv with
    | answered r a => exact .inl ⟨h, congrArg (Deed.moved t h) (Request.rests?_eq_some rests)⟩
    | waited r => exact .inr ⟨rests, h, r, rfl⟩
    | told | struck => cases rests
  | _ => cases rests

/-- A thread that rests has parked, and has only waited since. -/
lemma restsOn_inv {t : ThreadId} {m : MappingId} {past : List Deed}
    (rests : restsOn t past = some m) :
    ∃ later h earlier, past = later ++ .moved t h (.answered (.park m) (.ok ())) :: earlier ∧
      ∀ d ∈ later, d.thread = t → ∃ h r, d = .moved t h (.waited r) := by
  induction past with
  | nil => cases rests
  | cons d past ih =>
    rw [restsOn] at rests
    by_cases mine : d.thread = t
    · rw [if_pos mine] at rests
      obtain ⟨h, e⟩ | ⟨rests, h, r, e⟩ := Deed.rests?_inv rests
      · rw [mine] at e
        exact ⟨[], h, past, by rw [e]; rfl, by simp⟩
      · obtain ⟨later, h', earlier, rfl, waited⟩ := ih rests
        rw [mine] at e
        exact ⟨d :: later, h', earlier, rfl, List.forall_mem_cons.2 ⟨fun _ => ⟨h, r, e⟩, waited⟩⟩
    · rw [if_neg mine] at rests
      obtain ⟨later, h', earlier, rfl, waited⟩ := ih rests
      exact ⟨d :: later, h', earlier, rfl,
        List.forall_mem_cons.2 ⟨fun same => absurd same mine, waited⟩⟩

/-- What a thread that waits goes on with after a step. -/
lemma Program.Ensures.step_waiting {α : Type} {ok : Request → Prop}
    {post : α → Option MappingId → Prop} {p p' : Program α} {x : Option MappingId} {t : ThreadId}
    {h h' : Host} {mv : Move} (en : p.Ensures (.waiting ok) post x) (st : p.Step t h mv p' h') :
    p'.Ensures (.waiting ok) post ((Deed.moved t h mv).rests? x) := by
  cases st with
  | tell => exact en
  | wait => exact en
  | answer => exact en.2 _ _ rfl
  | @strike r next _ call fail e er =>
    have awakens : r.rests? (fail e) = none := by
      cases r with
      | park =>
        cases er
        rfl
      | _ => rfl
    change (next (fail e)).Ensures _ _ none
    rw [← awakens]
    exact en.2 _ _ rfl

namespace Host

variable {h : Host} {k : ObjectId}

lemma owner?_of_absent (absent : h.object? k = none) : h.owner? k = none := by
  rw [owner?, absent]
  rfl

/-- Nobody owns the mutex of an object if it was not set up. -/
def IsUnownedIfBlank (h : Host) (k : ObjectId) : Prop :=
  ¬h.ledger.HasPart k .mutex → h.owner? k = none

end Host

namespace Session

/-- Nobody comes to own a mutex before it was set up. -/
lemma IsKeptFrom.unowned_step {b : ObjectId} {s s' : Session} {σ : ThreadId ⊕ String → Custody}
    {d : Deed} {k : ObjectId} (kept : s.IsKeptFrom b σ) (st : s.Step d s')
    (unowned : s.host.IsUnownedIfBlank k)
    (fits : ∀ t, d.takes? k = some t → s.host.ledger.HasPart k .mutex) :
    s'.host.IsUnownedIfBlank k := by
  intro bare'
  have bare : ¬s.host.ledger.HasPart k .mutex := fun has => bare' (kept.hasPart_step st has)
  have free := unowned bare
  have takes : d.takes? k = none := by
    by_contra some
    obtain ⟨t, some⟩ := Option.ne_none_iff_exists'.1 some
    exact bare (fits t some)
  cases here : s.host.object? k with
  | none =>
    obtain gone | ⟨mode, new⟩ := kept.absent_step st here
    · exact Host.owner?_of_absent gone
    · exact Host.owner?_of_object new
  | some o =>
    cases st.touches with
    | nothing same => exact same ▸ free
    | answered ec alive ep eh => exact Host.owner?_of_free eh here free takes
    | waited eh => exact (Host.owner?_wait eh here).trans free
    | died same =>
      rw [Host.owner?_of_object here] at free
      rw [same, Host.owner?_of_object (Host.object?_bury here _)]
      simp [Object.bury, Mutex.bury, free, Mutex.dequeue]

/-- A mapping shows only objects whose mutex and condition were set up, from some number on. -/
structure Fits (b : ObjectId) (s : Session) (m : MappingId) : Prop where
  old : m < s.host.mappings.length
  parts : ∀ k, b ≤ k → s.host.shows m k → ∀ part, s.host.ledger.HasPart k part

/-- A handle has a mapping. -/
def HasMapping (x : Handle) (m : MappingId) : Prop :=
  ∃ g, x.segment? = some g ∧ g.mapping = some m

/-- What holds of those who wait in a session. -/
structure IsMonitored (b : ObjectId) (past : List Deed) (s : Session) : Prop where
  calls : ∀ t c, s.calls t = some c → s.dead t = false →
    c.program.Ensures (.waiting c.MaySync) (fun _ rests => rests = none) (restsOn t past)
  handles : ∀ h x m, s.handles h = some x → HasMapping x m → s.Fits b m
  through : ∀ t c m, s.calls t = some c → c.IsThrough m → s.Fits b m
  rests : ∀ t m, restsOn t past = some m → s.Fits b m
  deserted : ∀ k, b ≤ k → s.host.IsDesertedIfBlank k
  unowned : ∀ k, b ≤ k → s.host.IsUnownedIfBlank k
  parked : ∀ k, b ≤ k → s.host.parkedOn k = parkers k past

variable {b : ObjectId} {s s' : Session} {past : List Deed} {σ : ThreadId ⊕ String → Custody}
  {d : Deed} {t : ThreadId} {m : MappingId} {k : ObjectId} {c : Underway}

lemma Fits.step (fits : s.Fits b m) (kept : s.IsKeptFrom b σ) (st : s.Step d s') :
    s'.Fits b m := by
  have numbers := st.touches.numbers
  refine ⟨Nat.lt_of_lt_of_le fits.old numbers.mappings.more, ?_⟩
  intro k le shows part
  exact kept.hasPart_step st (fits.parts k le (numbers.shown fits.old shows) part)

/-- What a segment in custody shows was set up. -/
lemma IsKeptFrom.fits {i : ThreadId ⊕ String} {g : Segment} (kept : s.IsKeptFrom b σ)
    (covers : (σ i).Covers g) (whole : g.IsWhole) (em : g.mapping = some m) : s.Fits b m := by
  obtain ⟨k, o, sees, -, set⟩ := kept.under_of_covers covers whole em
  obtain ⟨shows, here⟩ := Host.under?_eq_some_iff.1 sees
  refine ⟨Host.lt_of_shows shows, ?_⟩
  intro k' le shows' part
  obtain rfl := Host.shows_unique shows shows'
  refine ⟨o.outline, Host.outline?_of_object here, ?_⟩
  cases part with
  | mutex => exact (set le).1
  | condition => exact (set le).2

/-- A handle that is there after a step was there before, or has just been opened. -/
lemma IsKeptFrom.handles_inv {h : String} {x : Handle} (kept : s.IsKeptFrom b σ)
    (st : s.Step d s') (ex : s'.handles h = some x) (has : HasMapping x m) :
    s.handles h = some x ∨ s.Fits b m := by
  cases st with
  | openHandle | onHandle | onGuard | move | die => exact .inl ex
  | drop =>
    obtain ⟨-, ⟨⟩⟩ | ⟨-, ex⟩ := update_inv ex
    exact .inl ex
  | @finish t c o ec alive ep =>
    have yields := kept.calls t c ec alive
    rw [ep] at yields
    obtain ⟨g, eg, em⟩ := has
    cases Act.Yields.returns yields with
    | spares spares =>
      rw [conclude_handles spares] at ex
      exact .inl ex
    | opens act ee opened =>
      rw [conclude_setHandle ee] at ex
      obtain ⟨-, ⟨⟩⟩ | ⟨-, ex⟩ := update_inv ex
      · obtain ⟨⟨covers, whole⟩, -⟩ := opened g eg
        exact .inr (kept.fits covers whole em)
      · exact .inl ex
    | destroys act ee =>
      rw [conclude_setHandle ee] at ex
      obtain ⟨-, ⟨⟩⟩ | ⟨-, ex⟩ := update_inv ex
      · cases eg
        cases em
      · exact .inl ex

/-- A call that goes on has been made on a handle that was there, or is one that was under way. -/
lemma Step.through_inv (st : s.Step d s') (ec : s'.calls t = some c) (through : c.IsThrough m) :
    (∃ h x, s.handles h = some x ∧ HasMapping x m) ∨
      ∃ c', s.calls t = some c' ∧ c'.IsThrough m := by
  cases st with
  | openHandle =>
    obtain ⟨-, rfl⟩ | ⟨-, ec⟩ := begin_calls_inv ec
    · obtain ⟨x, g, ⟨⟩, -⟩ := through
    · exact .inr ⟨c, ec, through⟩
  | onHandle idle ex | drop idle ex | onGuard idle eg ex =>
    obtain ⟨-, rfl⟩ | ⟨-, ec⟩ := begin_calls_inv ec
    · obtain ⟨x, g, ⟨⟩, eg, em⟩ := through
      exact .inl ⟨_, _, ex, g, eg, em⟩
    · exact .inr ⟨c, ec, through⟩
  | move ec' =>
    obtain ⟨rfl, rfl⟩ | ⟨-, ec⟩ := move_calls_inv ec
    · exact .inr ⟨_, ec', through⟩
    · exact .inr ⟨c, ec, through⟩
  | finish => exact .inr ⟨c, (conclude_calls_inv ec).2, through⟩
  | die => exact .inr ⟨c, ec, through⟩

namespace IsMonitored

/-- What a live call asks for concerns only those who wait where it was made. -/
lemma asks {r : Request} {next : r.Answer → Program Outcome} (mon : s.IsMonitored b past)
    (ec : s.calls t = some c) (alive : s.dead t = false) (ep : c.program = .ask r next) :
    (∃ m, r = .awake m ∧ restsOn t past = some m) ∨ c.MaySync r ∧ ∀ m, r ≠ .awake m := by
  have en := mon.calls t c ec alive
  rw [ep] at en
  have may := en.1
  cases rests : restsOn t past with
  | none =>
    rw [rests] at may
    exact .inr may
  | some m =>
    rw [rests] at may
    exact .inl ⟨m, may, rfl⟩

/-- Whoever takes the mutex, parks or awakes others does so through a handle that fits. -/
lemma fits {r : Request} {next : r.Answer → Program Outcome} (mon : s.IsMonitored b past)
    (ec : s.calls t = some c) (alive : s.dead t = false) (ep : c.program = .ask r next)
    (through : c.MaySync r → c.IsThrough m) (awakens : ∀ m', r = .awake m' → m' = m) :
    s.Fits b m := by
  obtain ⟨m', er, rests⟩ | ⟨may, -⟩ := mon.asks ec alive ep
  · rw [awakens m' er] at rests
    exact mon.rests t m rests
  · exact mon.through t c m ec (through may)

/-- Nobody parks on an object whose mutex or condition was not set up. -/
lemma parts_of_parks (mon : s.IsMonitored b past) (st : s.Step d s')
    (parks : d.parks? k = some t) (le : b ≤ k) (part : SyncPart) :
    s.host.ledger.HasPart k part := by
  obtain ⟨h, m, rfl, shows⟩ := Deed.parks?_inv parks
  obtain ⟨rfl, -, c, next, ec, alive, ep⟩ := st.answered_inv
  exact (mon.fits ec alive ep And.left nofun).parts k le shows part

/-- Nobody takes the mutex of an object that was not set up. -/
lemma parts_of_takes (mon : s.IsMonitored b past) (st : s.Step d s')
    (takes : d.takes? k = some t) (le : b ≤ k) (part : SyncPart) :
    s.host.ledger.HasPart k part := by
  obtain ⟨h, m, shows, ⟨a, rfl⟩ | ⟨a, rfl⟩⟩ := Deed.takes?_inv takes
  · obtain ⟨rfl, -, c, next, ec, alive, ep⟩ := st.answered_inv
    exact (mon.fits ec alive ep id nofun).parts k le shows part
  · obtain ⟨rfl, -, c, next, ec, alive, ep⟩ := st.answered_inv
    obtain ⟨m', ⟨⟩, rests⟩ | ⟨-, other⟩ := mon.asks ec alive ep
    · exact (mon.rests t m rests).parts k le shows part
    · exact absurd rfl (other m)

/-- Whoever rests after a step rests where it has rested before, or where its call was made. -/
lemma rests_step (mon : s.IsMonitored b past) (st : s.Step d s')
    (rests : restsOn t (d :: past) = some m) : s.Fits b m := by
  rw [restsOn] at rests
  split at rests
  case isFalse => exact mon.rests t m rests
  case isTrue =>
    obtain ⟨h, e⟩ | ⟨rests, -⟩ := Deed.rests?_inv rests
    · rw [e] at st
      obtain ⟨rfl, -, c, next, ec, alive, ep⟩ := st.answered_inv
      exact mon.fits ec alive ep And.left nofun
    · exact mon.rests t m rests

/-- What a call under way goes on with after a step. -/
lemma calls_step (mon : s.IsMonitored b past) (st : s.Step d s') (ec : s'.calls t = some c)
    (alive : s'.dead t = false) :
    c.program.Ensures (.waiting c.MaySync) (fun _ rests => rests = none)
      (restsOn t (d :: past)) := by
  have other (ne : d.thread ≠ t) (ec : s.calls t = some c) (alive : s.dead t = false) :
      c.program.Ensures (.waiting c.MaySync) (fun _ rests => rests = none)
        (restsOn t (d :: past)) := by
    rw [restsOn, if_neg ne]
    exact mon.calls t c ec alive
  have mine {d : Deed} (e : d.thread = t) :
      restsOn t (d :: past) = d.rests? (restsOn t past) := by
    rw [restsOn, if_pos e]
  cases st with
  | openHandle =>
    obtain ⟨rfl, rfl⟩ | ⟨ne, ec⟩ := begin_calls_inv ec
    · rw [mine rfl]
      exact keeps_waiting_openCall
    · exact other ne.symm ec alive
  | @onHandle t' h op x p idle ex excl taken nodrop ep =>
    obtain ⟨rfl, rfl⟩ | ⟨ne, ec⟩ := begin_calls_inv ec
    · rw [mine rfl]
      by_cases destroys : op = .destroy
      · exact keeps_waiting_teardown rfl (.inr destroys) rfl ep
      · refine (Program.Ensures.handleUse ?_ ep nodrop destroys).mono fun _ _ ends => ends.2
        intro g eg
        exact keeps_waiting_use rfl fun m em => ⟨x, g, rfl, eg, em⟩
    · exact other ne.symm ec alive
  | drop idle ex unused ep =>
    obtain ⟨rfl, rfl⟩ | ⟨ne, ec⟩ := begin_calls_inv ec
    · rw [mine rfl]
      exact keeps_waiting_teardown rfl (.inl rfl) rfl ep
    · exact other ne.symm ec alive
  | @onGuard t' g x f op idle eg ex =>
    obtain ⟨rfl, rfl⟩ | ⟨ne, ec⟩ := begin_calls_inv ec
    · rw [mine rfl]
      refine (Program.Ensures.guardUse x ?_).mono fun _ _ ends => ends.2
      intro g' eg'
      exact keeps_waiting_guardUse rfl fun m em => ⟨.facade f, g', rfl, eg', em⟩
    · exact other ne.symm ec alive
  | @move t' c' mv p' h' ec' alive' st =>
    obtain ⟨rfl, rfl⟩ | ⟨ne, ec⟩ := move_calls_inv ec
    · rw [mine rfl]
      exact (mon.calls t c' ec' alive').step_waiting st
    · exact other ne.symm ec alive
  | finish =>
    obtain ⟨ne, ec⟩ := conclude_calls_inv ec
    rw [conclude_dead] at alive
    exact other ne.symm ec alive
  | die =>
    obtain ⟨ne, alive⟩ := bury_dead_inv alive
    exact other ne.symm ec alive

theorem step (mon : s.IsMonitored b past) (kept : s.IsKeptFrom b σ) (st : s.Step d s') :
    s'.IsMonitored b (d :: past) := by
  have set k (le : b ≤ k) t (parks : d.parks? k = some t) : s.host.ledger.HasPart k .condition :=
    mon.parts_of_parks st parks le .condition
  refine ⟨fun t c => mon.calls_step st, ?_, ?_, ?_, ?_, ?_, ?_⟩
  · intro h x m ex has
    obtain ex | fits := kept.handles_inv st ex has
    · exact (mon.handles h x m ex has).step kept st
    · exact fits.step kept st
  · intro t c m ec through
    obtain ⟨h, x, ex, has⟩ | ⟨c', ec, through⟩ := st.through_inv ec through
    · exact (mon.handles h x m ex has).step kept st
    · exact (mon.through t c' m ec through).step kept st
  · exact fun t m rests => (mon.rests_step st rests).step kept st
  · exact fun k le => kept.deserted_step st (mon.deserted k le) (set k le)
  · intro k le
    exact kept.unowned_step st (mon.unowned k le) fun t takes => mon.parts_of_takes st takes le _
  · intro k le
    rw [kept.parkedOn_step st (mon.deserted k le) (set k le), mon.parked k le]
    rfl

end IsMonitored

/-- Those who wait are as the deeds tell, in every session that begins on some host. -/
theorem IsMonitored.of_run {h : Host} (run : Run Step (.ofHost h) past s) :
    s.IsMonitored h.objects.length past := by
  induction run with
  | nil =>
    have absent k (le : h.objects.length ≤ k) : h.object? k = none :=
      List.getElem?_eq_none_iff.2 le
    refine ⟨?_, ?_, ?_, ?_, ?_, ?_, ?_⟩
    · intro t c ec
      cases ec
    · intro h x m ex
      cases ex
    · intro t c m ec
      cases ec
    · intro t m rests
      cases rests
    · exact fun k le _ => Host.parkedOn_of_absent (absent k le)
    · exact fun k le _ => Host.owner?_of_absent (absent k le)
    · exact fun k le => Host.parkedOn_of_absent (absent k le)
  | cons run st ih =>
    obtain ⟨σ, kept⟩ := IsKeptFrom.of_run run
    exact ih.step kept st

end Session
end SharedSegment
