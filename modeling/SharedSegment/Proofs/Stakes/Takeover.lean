import SharedSegment.Proofs.Naming.Cleaning
import SharedSegment.Proofs.Stakes.Agreement
import SharedSegment.Proofs.Stakes.Replay

/-!
# Takeovers

A creator that takes a name over makes an object of its own, and leaves the object that had the name
as it is. From the moment on at which an object has lost its name it keeps to itself
(`Side.Isolates`): whatever is done on its side could as well be done where the name was never
taken, changes no other object, and no name but that of a creator on that side; and nothing else
changes the object. Nobody who comes later by the name comes to an object of before
(`takeovers_isolate`).
-/

namespace SharedSegment
open Function Scenario Program

/-- A run from where something holds to where it does not comes to a deed that ends it. -/
lemma Run.exists_ending {σ : Type} {Step : σ → Deed → σ → Prop} {s₀ s : σ} {past : List Deed}
    (Q : σ → Prop) (run : Run Step s₀ past s) (start : Q s₀) (stop : ¬Q s) :
    ∃ after d before a b, past = after ++ d :: before ∧ Run Step s₀ before a ∧ Step a d b ∧
      Run Step b after s ∧ Q a ∧ ¬Q b := by
  induction run with
  | nil => exact absurd start stop
  | @cons past s' d s run st ih =>
    by_cases here : Q s'
    · exact ⟨[], d, past, s', s, rfl, run, st, .nil, here, stop⟩
    · obtain ⟨after, e, before, a, b, rfl, first, ends, rest, was, gone⟩ := ih here
      exact ⟨d :: after, e, before, a, b, rfl, first, ends, rest.cons st, was, gone⟩

namespace Session

variable {b : ObjectId} {s s' : Session} {ρ : ThreadId ⊕ String → Stake}
  {τ : ThreadId ⊕ String → Option Title} {d : Deed} {k : ObjectId} {o : Object} {t : ThreadId}
  {c : Underway} {n : Name}

namespace IsRegular

/-- A thread leaves objects as they are that its call has no stake in. -/
theorem spares_object (regular : s.IsRegular b ρ) (st : s.Step d s') (alive : ∀ u, d ≠ .died u)
    (here : s.host.object? k = some o)
    (away : ∀ c, s.calls d.thread = some c → (ρ (c.party d.thread)).isIn k = false) :
    s'.host.object? k = some o := by
  cases st with
  | openHandle | onHandle | drop | onGuard => exact here
  | finish => rwa [conclude_host]
  | @die u => exact absurd rfl (alive u)
  | @move t c m p' h' ec awake st =>
    have other r next (ep : c.program = .ask r next) : ¬s.host.isAbout k r := by
      intro about
      have may := regular.staked.permits regular.confined ec awake ep
      have mine := (regular.staked.holders.fits _).object?_of_isAbout may.through about
      cases (beq_iff_eq.2 mine).symm.trans (away c ec)
    obtain ⟨act, uses, subject, program⟩ := c
    cases st with
    | tell | strike => exact here
    | answer e =>
      have stepped := Host.object?_of_done e here
      rwa [if_neg (other _ _ rfl)] at stepped
    | @wait r next _ _ e =>
      have stepped := Host.object_step here t r
      rwa [e, if_neg (other _ _ rfl)] at stepped

/-- Whoever works on an object leaves all names as they are, or takes one away that it lays claim
to. -/
theorem store_step (regular : s.IsRegular b ρ) (titled : s.IsTitled τ) (st : s.Step d s')
    (here : ∀ c, s.calls d.thread = some c → (ρ (c.party d.thread)).isIn k) :
    s'.host.store = s.host.store ∨ ∃ c n, s.calls d.thread = some c ∧ c.Claims n ∧
      s'.host.store = s.host.store.erase n.file := by
  cases st with
  | openHandle | onHandle | drop | onGuard => exact .inl rfl
  | finish =>
    rw [conclude_host]
    exact .inl rfl
  | die => exact .inl rfl
  | @move t c m p' h' ec awake st =>
    obtain ⟨act, uses, subject, program⟩ := c
    cases st with
    | tell | strike => exact .inl rfl
    | wait e => exact .inl (congrArg Ledger.store (Host.ledger_wait e))
    | @answer r next _ a _ e =>
      have may := regular.staked.permits regular.confined ec awake rfl
      have none : r.opens? = none := may.opens?_eq_none (beq_iff_eq.1 (here _ ec))
      cases Host.rebinds_step e with
      | made => cases none
      | refused => exact .inl rfl
      | @taken n x there =>
        have claims := (titled.calls t _ ec awake).1
        exact .inr ⟨_, n, ec, claims.1, rfl⟩
      | kept _ _ same => exact .inl same

end IsRegular

/-- What every session knows of its stakes. -/
lemma stakes_of_run {h : Host} {past : List Deed} (run : Run Step (.ofHost h) past s) :
    ∃ ρ, s.IsRegular h.objects.length ρ ∧ s.Recalls past ρ ∧ s.IsForgiving ρ := by
  induction run with
  | nil =>
    refine ⟨_, .init h, ?_, ?_⟩
    · intro t c k ec
      cases ec
    · intro t c ec
      cases ec
  | cons run st ih =>
    obtain ⟨ρ, regular, recalls, forgiving⟩ := ih
    exact ⟨_, regular.step st, recalls.step regular st, forgiving.step regular st⟩

/-- Whoever is in a call after a step that has not begun it was in it before. -/
lemma Step.act_inv {c' : Underway} (st : s.Step d s') (ec : s'.calls t = some c')
    (other : ∀ a, d ≠ .began t a) : ∃ c, s.calls t = some c ∧ c.act = c'.act := by
  have begun {c₀ : Underway} {s₀ : Session} (same : s₀.calls = s.calls)
      (ec : (s₀.begin d.thread c₀).calls t = some c') (ed : d = .began d.thread c₀.act) :
      ∃ c, s.calls t = some c ∧ c.act = c'.act := by
    obtain ⟨rfl, -⟩ | ⟨-, ec⟩ := begin_calls_inv ec
    · exact absurd ed (other _)
    · exact ⟨c', same ▸ ec, rfl⟩
  cases st with
  | openHandle | onHandle | drop | onGuard => exact begun rfl ec rfl
  | @move u c m p' h' ec₀ =>
    obtain ⟨rfl, rfl⟩ | ⟨-, ec⟩ := move_calls_inv ec
    · exact ⟨c, ec₀, rfl⟩
    · exact ⟨c', ec, rfl⟩
  | finish => exact ⟨c', (conclude_calls_inv ec).2, rfl⟩
  | die => exact ⟨c', ec, rfl⟩

/-- A thread that begins nothing stays in its call. -/
lemma act_of_run {c' : Underway} {later : List Deed} (run : Run Step s later s')
    (ec : s.calls t = some c) (calling : ∀ a, .began t a ∉ later) (ec' : s'.calls t = some c') :
    c'.act = c.act := by
  induction run generalizing c' with
  | nil =>
    cases ec.symm.trans ec'
    rfl
  | @cons past s' d s'' run st ih =>
    have other a : d ≠ .began t a := fun ed => calling a (ed ▸ .head _)
    obtain ⟨c'', ec'', act⟩ := st.act_inv ec' other
    exact act.symm.trans (ih (fun a mem => calling a (.tail _ mem)) ec'')

/-- A name is taken from an object by a step that changes nothing else. -/
lemma Step.unbinds (st : s.Step d s') (bound : s.host.IsBound n k) (gone : ¬s'.host.IsBound n k) :
    s'.host = { s.host with store := s.host.store.erase n.file } := by
  cases st.touches with
  | nothing e =>
    rw [e] at gone
    exact absurd bound gone
  | died e =>
    rw [e] at gone
    exact absurd bound gone
  | waited e =>
    have store : s'.host.store = s.host.store := congrArg Ledger.store (Host.ledger_wait e)
    rw [Host.IsBound, store] at gone
    exact absurd bound gone
  | @answered t c r a next ec alive ep e =>
    by_cases spared : r = .unlink n
    · subst spared
      have there : s.host.store.place n = .file (some (.object k)) := bound
      simp only [Host.step, Host.reply, Host.unlink, there] at e
      exact (Reply.done.inj e).2.symm
    · exact absurd (bound.step e spared) gone

end Session

/-- A side of a session is the one of an object and keeps to itself, whatever happens from then on.
The host is what it was, or another one with other names. -/
structure Side.Isolates (P : Side) (k : ObjectId) (past : List Deed) (s : Session) (h : Host) :
    Prop where
  isOf : ∀ later s', Run Session.Step s later s' → (P.through later).IsOf k (later ++ past) s'
  /-- What is done on the side happens as well, in the same order and with the same results, on that
  host and where there is nothing else. -/
  replayed : ∀ later s', Run Session.Step s later s' → ∃ later' h',
    Run Session.SparseStep ((s.only P).onHost h) later'
      ((s'.only (P.through later)).onHost h') ∧
    List.Forall₂ Deed.Alike (P.cull later) later' ∧ h'.object? k = s'.host.object? k
  /-- What is done on the side changes no other object. -/
  inward : ∀ later s' d s'' j o, Run Session.Step s later s' → s'.Step d s'' →
    (P.through later).meets d → (∀ t, d ≠ .died t) → j ≠ k → s'.host.object? j = some o →
      s''.host.object? j = some o
  /-- What is done elsewhere does not change the object. -/
  outward : ∀ later s' d s'', Run Session.Step s later s' → s'.Step d s'' →
    (P.through later).meets d = false → s''.host.object? k = s'.host.object? k
  /-- What is done on the side changes names only where a creator is torn down, whose name it takes
  away. -/
  names : ∀ later s' d s'', Run Session.Step s later s' → s'.Step d s'' →
    (P.through later).meets d → s''.host.store = s'.host.store ∨
      ∃ c n, s'.calls d.thread = some c ∧ c.Claims n ∧
        s''.host.store = s'.host.store.erase n.file

namespace Session

variable {s s' s'' : Session} {ρ : ThreadId ⊕ String → Stake} {d : Deed} {k : ObjectId} {P : Side}
  {past : List Deed} {h h₀ : Host}

/-- Whoever does something on a side or elsewhere has a stake that is in its object or is not. -/
lemma isIn_of_meets (tracks : P.Tracks k s ρ) (st : s.Step d s') (alive : ∀ t, d ≠ .died t)
    {c : Underway} (ec : s.calls d.thread = some c) :
    (ρ (c.party d.thread)).isIn k = P.meets d := by
  have idle {t : ThreadId} (idle : s.IsIdle t) (et : d.thread = t) : False := by
    rw [et] at ec
    cases idle.calls.symm.trans ec
  cases st with
  | openHandle free | onHandle free | drop free | onGuard free => exact (idle free rfl).elim
  | move | finish => exact (tracks.calls _ c ec).symm
  | @die t => exact absurd rfl (alive t)

/-- It makes no difference which names there are, if they stand for the same directories. -/
lemma IsReplayed.withStore {b : ObjectId} {names : Store} (replayed : s.IsReplayed b ρ k P h)
    (same : names.HasDirectoriesOf s.host.store) :
    s.IsReplayed b ρ k P { h with store := names } where
  regular := replayed.regular
  forgiving := replayed.forgiving
  guardful := replayed.guardful
  tracks := replayed.tracks
  there := replayed.there
  like := by
    obtain ⟨i, j, agrees⟩ := replayed.like.agrees
    exact ⟨⟨i, j, agrees.withStore s.host.store names⟩, same⟩

/-- An object that has lost its names is isolated from then on. -/
theorem IsReplayed.isolates {b : ObjectId} (replayed : s.IsReplayed b ρ k P h)
    (recalls : s.Recalls past ρ) (unbound : ∀ n, ¬s.host.IsBound n k)
    (run : Run Step (.ofHost h₀) past s) : P.Isolates k past s h := by
  refine ⟨?_, ?_, ?_, ?_, ?_⟩
  · intro later s' run'
    obtain ⟨ρ', later', h', -, -, replayed', -, recalls'⟩ := replayed.run unbound run'
    exact replayed'.tracks.isOf replayed'.regular (recalls' past recalls)
  · intro later s' run'
    obtain ⟨ρ', later', h', played, alike, replayed', -⟩ := replayed.run unbound run'
    obtain ⟨i, j, agrees⟩ := replayed'.like.agrees
    exact ⟨later', h', played, alike, (agrees.objects k rfl)⟩
  · intro later s' d s'' j o run' st meets alive ne here
    obtain ⟨ρ', later', h', -, -, replayed', -⟩ := replayed.run unbound run'
    refine replayed'.regular.spares_object st alive here ?_
    intro c ec
    have mine := (isIn_of_meets replayed'.tracks st alive ec).trans meets
    by_contra other
    have both := (beq_iff_eq.1 mine).symm.trans (beq_iff_eq.1 (Bool.not_eq_false _ ▸ other))
    exact ne (Option.some.inj both).symm
  · intro later s' d s'' run' st misses
    obtain ⟨ρ', later', h', -, -, replayed', -⟩ := replayed.run unbound run'
    have alive t : d ≠ .died t := by
      rintro rfl
      cases misses
    have there := replayed'.there
    have here : s'.host.object? k = some s'.host.objects[k] := List.getElem?_eq_getElem there
    rw [here]
    exact replayed'.regular.spares_object st alive here fun c ec =>
      (isIn_of_meets replayed'.tracks st alive ec).trans misses
  · intro later s' d s'' run' st meets
    obtain ⟨ρ', later', h', -, -, replayed', -⟩ := replayed.run unbound run'
    by_cases dies : ∃ t, d = .died t
    · obtain ⟨t, rfl⟩ := dies
      cases st
      exact .inl rfl
    · obtain ⟨τ, titled⟩ := IsTitled.of_run (run.trans run')
      have alive t : d ≠ .died t := fun ed => dies ⟨t, ed⟩
      exact replayed'.regular.store_step titled st fun c ec =>
        (isIn_of_meets replayed'.tracks st alive ec).trans meets

/-- Whoever comes back with a segment has a stake in the object that it shows. -/
lemma IsRegular.opened_inv {b : ObjectId} {t : ThreadId} {y raw : String} {size : UInt32}
    {via : Via} {o : Outcome} {g : Segment} (regular : s.IsRegular b ρ)
    (run : Run Step (.ofHost h₀) past s)
    (back : s.Step (.returned t (.openHandle y raw size via) o) s')
    (eg : o.effect.segment? = some g) :
    ∃ c m j, s.calls t = some c ∧ c.act = .openHandle y raw size via ∧ g.mapping = some m ∧
      s.host.shows m j ∧ (ρ (.inl t)).object? = some j := by
  obtain ⟨σ, kept⟩ := regular.kept
  obtain ⟨c, ec, alive, act, ep, -⟩ := back.returned_inv
  have opens : c.act.opensHandle := by
    rw [act]
    rfl
  have yields := kept.calls t c ec alive
  have settles := regular.staked.programs t c ec alive (by rw [act]; rfl)
  have whole := (hasOpened_whole run).programs t c ec opens
  rw [ep, act] at yields
  rw [ep, Underway.party_of_opensHandle opens, act] at settles
  rw [ep] at whole
  have backs : (ρ (.inl t)).Backs g := settles g eg
  obtain ⟨result, effect⟩ := o
  cases effect with
  | setHandle h x =>
    obtain ⟨-, -, mapped⟩ := whole h x rfl g eg
    obtain ⟨m, em⟩ := Option.isSome_iff_exists.1 mapped
    obtain ⟨⟨covers, isWhole⟩, -⟩ := yields h x rfl g eg
    obtain ⟨j, y, sees, -⟩ := kept.under_of_covers covers isWhole em
    have shows := (Host.under?_eq_some_iff.1 sees).1
    exact ⟨c, m, j, ec, act, em, shows,
      (regular.staked.holders.fits _).object?_of_shows (backs.has em) shows⟩
  | _ => cases eg

end Session

/-- Taking a name over. Whoever makes a segment under a name that is bound to an object comes back
with another object, which was not there before, and has left the old one as it is; the name was
taken from the old object meanwhile. And whenever a name is taken from an object, the object is
isolated from then on: what is done on its handles goes on as if the name had not been taken, and
what is done on its handles and on all others is nothing to the others, but for the name that is
taken away when its creator is torn down. Whoever comes later by the name comes to no object that
was there. -/
theorem takeovers_isolate {h₀ : Host} {past : List Deed} {s : Session} (named : h₀.IsNamedOnce)
    (run : Run Session.Step (.ofHost h₀) past s) :
    (∀ t y raw size via n k s₁ later s₂ o g s₃, s.host.IsBound n k → Name.ofRaw raw = .ok n →
      via.creates size → s.Step (.began t (.openHandle y raw size via)) s₁ →
      Run Session.Step s₁ later s₂ → s₂.Step (.returned t (.openHandle y raw size via) o) s₃ →
      (∀ a, .began t a ∉ later) → o.effect.segment? = some g →
        (∃ m j, g.mapping = some m ∧ s₃.host.shows m j ∧ s.host.objects.length ≤ j) ∧
        (∀ after d before s' s'', later = after ++ d :: before → d.thread = t → d ≠ .died t →
          Run Session.Step s₁ before s' → s'.Step d s'' →
            s''.host.object? k = s'.host.object? k) ∧
        ∃ after d before s' s'', later = after ++ d :: before ∧ Run Session.Step s₁ before s' ∧
          s'.Step d s'' ∧ Run Session.Step s'' after s₂ ∧ s'.host.IsBound n k ∧
          ¬s''.host.IsBound n k) ∧
    ∀ d s₁ n k, s.host.IsBound n k → s.Step d s₁ → ¬s₁.host.IsBound n k →
      (∃ P : Side, P.Isolates k (d :: past) s₁ s.host) ∧
      ∀ t y raw size via later s₂ o g m j s₃, Name.ofRaw raw = .ok n →
        Run Session.Step s₁ later s₂ → Deed.HasBegun t later →
        s₂.Step (.returned t (.openHandle y raw size via) o) s₃ → o.effect.segment? = some g →
        g.mapping = some m → s₃.host.shows m j → s₁.host.objects.length ≤ j := by
  have named := named.run run
  have aimed := Session.IsAimed.of_run run
  obtain ⟨ρ, regular, recalls, forgiving⟩ := Session.stakes_of_run run
  refine ⟨?_, ?_⟩
  · intro t y raw size via n k s₁ later s₂ o g s₃ bound en creates st run' back calling eg
    have host : s₁.host = s.host := by
      cases st
      rfl
    have act : (Act.openHandle y raw size via).opens? = some (n, true) := by
      simp [Act.opens?, en, creates, Except.toOption]
    obtain ⟨c₁, ec₁, act₁⟩ : ∃ c, s₁.calls t = some c ∧ c.act = .openHandle y raw size via := by
      cases st
      exact ⟨_, update_self .., rfl⟩
    -- Whatever the call has come to is new, since the call makes what it opens.
    have comes {before : List Deed} {s' : Session} (run' : Run Session.Step s₁ before s') :
        ∃ ρ', s'.IsRegular h₀.objects.length ρ' ∧ s'.Arrives (fun _ => False)
          (· < s.host.objects.length) (before ++ [.began t (.openHandle y raw size via)]) ρ' := by
      have retired : s.host.HasRetired (fun _ => False) (· < s.host.objects.length) :=
        ⟨fun _ lt => lt, fun _ _ none => none.elim⟩
      obtain ⟨ρ', regular', -, arrives⟩ :=
        Session.Arrives.run retired regular aimed ((Run.nil.cons st).trans run')
      exact ⟨ρ', regular', arrives⟩
    have begun (before : List Deed) :
        Deed.HasBegun t (before ++ [.began t (.openHandle y raw size via)]) :=
      ⟨_, List.mem_append_right _ (List.mem_singleton_self _)⟩
    have under (n' : Name) : some (n, true) = some (n', false) → False := by
      rintro ⟨⟩
    obtain ⟨ρ₂, regular₂, arrives₂⟩ := comes run'
    obtain ⟨c₂, m, j, ec₂, act₂, em, shows, ej⟩ :=
      regular₂.opened_inv ((run.cons st).trans run') back eg
    refine ⟨⟨m, j, em, ?_, ?_⟩, ?_, ?_⟩
    · obtain ⟨-, -, -, -, -, rfl⟩ := back.returned_inv
      rwa [Session.conclude_host]
    · refine Nat.le_of_not_lt (arrives₂.newcomers t c₂ j ec₂ (begun later) ?_ ?_ ej)
      · rw [act₂]
        rfl
      · rw [act₂, act]
        exact fun n' same => under n' same
    · rintro after d before s' s'' rfl et alive run'' st'
      obtain ⟨ρ', regular', arrives⟩ := comes run''
      have there := arrives.retired.there k (named.there n k bound)
      have here : s'.host.object? k = some s'.host.objects[k] := List.getElem?_eq_getElem there
      rw [here]
      refine regular'.spares_object st' ?_ here ?_
      · rintro u rfl
        cases et
        exact alive rfl
      · intro c ec
        rw [et] at ec ⊢
        have same := Session.act_of_run run'' ec₁
          (fun a mem => calling a (List.mem_append_right _ (.tail _ mem))) ec
        have opens : c.act.opensHandle := by
          rw [same, act₁]
          rfl
        rw [Underway.party_of_opensHandle opens]
        by_contra mine
        refine arrives.newcomers t c k ec (begun before) opens ?_
          (beq_iff_eq.1 (Bool.not_eq_false _ ▸ mine)) (named.there n k bound)
        rw [same, act₁, act]
        exact fun n' same => under n' same
    · refine run'.exists_ending (fun s => s.host.IsBound n k) (host ▸ bound) ?_
      have retired := arrives₂.makers t c₂ n j ec₂ (begun later) (act₂ ▸ act) ej
      exact retired.unbound n k rfl (named.there n k bound)
  · intro d s₁ n k bound st gone
    have e := st.unbinds bound gone
    have free : s₁.host.store.place n = .file none := by
      rw [e]
      exact Store.place_erase bound
    have unbound n' : ¬s₁.host.IsBound n' k := by
      intro bound'
      rcases st.touches.isBound_inv bound' with bound' | ⟨rfl, -⟩
      · cases named.once n n' k bound bound'
        exact gone ‹_›
      · exact absurd (named.there n _ bound) (Nat.lt_irrefl _)
    have objects : s₁.host.objects = s.host.objects := by rw [e]
    refine ⟨⟨s₁.side (s.restake ρ d) k, ?_⟩, ?_⟩
    · have there : k < s₁.host.objects.length := objects ▸ named.there n k bound
      have replayed := Session.IsReplayed.begin (regular.step st) (forgiving.step regular st)
        (Session.IsGuardful.of_run (run.cons st)) there
      have others : ∀ f ≠ n.file, s₁.host.store.get? f = s.host.store.get? f := by
        rw [e]
        exact fun f => Store.get?_erase_of_ne
      have directories : s.host.store.HasDirectoriesOf s₁.host.store :=
        .symm (Store.hasDirectoriesOf_of_file bound free others)
      have taken := replayed.withStore directories
      rw [show { s₁.host with store := s.host.store } = s.host by rw [e]] at taken
      exact taken.isolates (recalls.step regular st) unbound (run.cons st)
    · intro t y raw size via later s₂ o g m j s₃ en run' begun back eg em shows
      have retired : s₁.host.HasRetired (· = n) (· < s₁.host.objects.length) := by
        refine ⟨fun _ lt => lt, ?_⟩
        rintro n' j' rfl - bound'
        cases free.symm.trans bound'
      obtain ⟨ρ', regular', -, arrives⟩ :=
        Session.Arrives.run retired (regular.step st) (aimed.step st) run'
      obtain ⟨c, m', j', ec, act, em', showed, ej⟩ :=
        regular'.opened_inv ((run.cons st).trans run') back eg
      cases em.symm.trans em'
      have shows' : s₂.host.shows m j := by
        obtain ⟨-, -, -, -, -, rfl⟩ := back.returned_inv
        rwa [Session.conclude_host] at shows
      cases Host.shows_unique showed shows'
      refine Nat.le_of_not_lt (arrives.newcomers t c j ec begun ?_ ?_ ej)
      · rw [act]
        rfl
      · rw [act]
        intro n' same
        obtain ⟨here, -⟩ : n = n' ∧ via.creates size = false := by
          simpa only [Scenario.Act.opens?, en, Except.toOption, Option.map_some, Option.some.injEq,
            Prod.mk.injEq] using same
        exact here.symm

/-- A creator takes the name of a segment over. Its own segment is another one, and the one that was
there keeps to itself from the moment on at which it loses the name. -/
theorem a_taken_over_segment_keeps_to_itself :
    ∃ past d s s' later s'' via o g m j s₃, ∃ P : Side, Run Session.Step (.ofHost .empty) past s ∧
      s.host.IsBound .sample 0 ∧ s.Step d s' ∧ ¬s'.host.IsBound .sample 0 ∧
      P.Isolates 0 (d :: past) s' s.host ∧ Run Session.Step s' later s'' ∧
      s''.Step (.returned 1 (.openHandle "b" "s" 8 via) o) s₃ ∧ o.effect.segment? = some g ∧
      g.mapping = some m ∧ s₃.host.shows m j ∧ 1 ≤ j := by
  have named : Host.empty.IsNamedOnce := by
    have unbound n k : ¬Host.empty.IsBound n k := by
      intro bound
      obtain ⟨here, -⟩ := Store.place_eq_file bound
      cases here
    exact ⟨fun n k bound => absurd bound (unbound n k),
      fun n _ k bound => absurd bound (unbound n k)⟩
  have resting t : Session.started.2.calls t = none := by
    cases t <;> rfl
  let c := Underway.ofOpen "b" "s" 8 (.facade (some .standard))
  have takes : Session.started.2.Step _ (Session.started.2.begin 1 c) :=
    .openHandle ⟨rfl, rfl⟩ rfl (Session.not_isInUse (fun _ _ => rfl) resting)
  let opened := Session.play (List.replicate 21 (1, none)) [] (Session.started.2.begin 1 c)
  have run : Run Session.Step (Session.started.2.begin 1 c) opened.1 opened.2 :=
    Session.run_play .nil _
  have begins a : .began 1 a ∉ opened.1 := fun mem =>
    (Session.play_ne_began _ mem).elim (List.not_mem_nil ·) (· 1 a rfl)
  have returns : ((opened.2.outcome? 1).bind (·.effect.segment?)).isSome := by decide +kernel
  obtain ⟨g, eg⟩ := Option.isSome_iff_exists.1 returns
  obtain ⟨o, eo, eg⟩ := Option.bind_eq_some_iff.1 eg
  obtain ⟨c', ec, ep⟩ := Session.outcome?_eq_some.1 eo
  have act : c'.act = c.act := Session.act_of_run run (update_self ..) begins ec
  have alive : opened.2.dead 1 = false := by decide +kernel
  have back := Session.Step.finish ec alive ep
  rw [act] at back
  have bound : Session.started.2.host.IsBound .sample 0 := rfl
  obtain ⟨opening, -⟩ := takeovers_isolate named Session.run_started
  obtain ⟨⟨m, j, em, shows, new⟩, -, loses⟩ :=
    opening 1 "b" "s" 8 _ .sample 0 _ opened.1 opened.2 o g _ bound rfl rfl takes run back begins
      eg
  obtain ⟨after, d, before, s, s', -, first, ends, rest, was, gone⟩ := loses
  have reached := (Session.run_started.cons takes).trans first
  obtain ⟨-, losing⟩ := takeovers_isolate named reached
  obtain ⟨⟨P, isolates⟩, -⟩ := losing d s' .sample 0 was ends gone
  exact ⟨_, d, s, s', _, _, _, o, g, m, j, _, P, reached, was, ends, gone, isolates, rest, back, eg,
    em, shows, new⟩

end SharedSegment
