import SharedSegment.Proofs.Custody.Keeping
import SharedSegment.Proofs.Guards.Borrowing
import SharedSegment.Proofs.Naming.Titles

/-!
# Who holds a title

In a session the titles to names are with the calls that make segments or tear them down, and with
the handles of creators. A call that opens a handle passes its title on to the handle, and a call
that drops or destroys a handle takes the title of the handle over. Besides, titles change by the
answers to requests only (`Session.Passes`), and whoever has a title lays claim to its name
(`Session.IsTitled.step`), in every session, whichever calls fail and whoever dies.
-/

namespace SharedSegment
open Function Scenario Program

/-- A call lays claim to a name: it creates a segment under the name, or tears down the segment of
a creator that holds it. -/
def Underway.Claims (c : Underway) (n : Name) : Prop :=
  match c.act with
  | .openHandle _ raw size via => Name.ofRaw raw = .ok n ∧ via.creates size
  | .onHandle _ .drop | .onHandle _ .destroy =>
    ∃ x g, c.subject = some x ∧ x.segment? = some g ∧ g.isEntitled ∧ g.name = n
  | _ => False

/-- A call may make objects with a mode. -/
def Underway.Sets (c : Underway) (mode : UInt32) : Prop :=
  match c.act with
  | .openHandle _ _ _ via => ∃ cfg, via.Allows cfg ∧ cfg.mode = mode
  | _ => False

lemma Scenario.Via.Allows.isMode {via : Via} {c : Config} (allows : via.Allows c)
    (checked : via.isChecked) : Config.IsMode c.mode := by
  cases via with
  | facade | attempt => exact allows
  | create | attach => cases checked

/-- A handle goes with a title, if it is one of a creator that holds a segment. -/
structure Scenario.Handle.GoesWith (x : Handle) (title : Option Title) : Prop where
  entitles : Entitles title x.segment?
  whole : ∀ y, title = some y → y.mapping.isSome
  checked : ∀ y f, title = some y → x = .facade f → Config.IsMode y.mode

/-- What a call brings about takes the title of the call over. -/
def Scenario.Effect.Takes (title : Option Title) : Effect → Prop
  | .setHandle _ x => x.GoesWith title
  | _ => title = Option.none

lemma Scenario.Effect.takes_of_sparesHandles {e : Effect} (spares : e.sparesHandles) :
    e.Takes Option.none := by
  cases e with
  | setHandle => cases spares
  | none | setGuard | removeGuard => exact rfl

/-- The titles of calls and handles in a session. -/
structure Session.IsTitled (s : Session) (τ : ThreadId ⊕ String → Option Title) : Prop where
  calls : ∀ t c, s.calls t = some c → s.dead t = false →
    c.program.Ensures (.naming c.Claims c.Sets) (fun o title => o.effect.Takes title) (τ (.inl t))
  handles : ∀ h x, s.handles h = some x → ¬s.IsDestroying h → x.GoesWith (τ (.inr h))
  claimed : ∀ t y, τ (.inl t) = some y →
    ∃ c, s.calls t = some c ∧ s.dead t = false ∧ c.Claims y.name
  held : ∀ h y, τ (.inr h) = some y → (∃ x, s.handles h = some x) ∧ ¬s.IsDestroying h

/-- How titles go on by a step of a session. -/
inductive Session.Passes (s s' : Session) (τ τ' : ThreadId ⊕ String → Option Title) :
    Deed → Prop where
  | handed {d} (e : ThreadId ⊕ String ≃ ThreadId ⊕ String) :
    s'.host = s.host →
    (∀ i, τ' i = τ (e i)) →
    Passes s s' τ τ' d
  | answered {t c r a} :
    s.host.step t r = .done a s'.host →
    (Protocol.naming (Underway.Claims c) c.Sets).Permits (τ (.inl t)) r →
    s.calls t = some c →
    s.dead t = false →
    τ' = update τ (.inl t) (r.entitle a (τ (.inl t))) →
    Passes s s' τ τ' (.moved t s.host (.answered r a))
  | struck {t r e call fail} :
    s'.host = s.host →
    r.call? = some (call, fail) →
    τ' = update τ (.inl t) (r.entitle (fail e) (τ (.inl t))) →
    Passes s s' τ τ' (.moved t s.host (.struck r e))
  | waited {t r} :
    s.host.step t r = .wait s'.host →
    τ' = τ →
    Passes s s' τ τ' (.moved t s.host (.waited r))
  | died {t} :
    s'.host = s.host.bury t →
    τ' = update τ (.inl t) none →
    Passes s s' τ τ' (.died t)

section
variable {claims : Name → Prop} {sets : UInt32 → Prop} {title : Option Title}

/-- Whoever is answered lays claim to the name that it has a title to. -/
lemma claims_entitle {r : Request} (may : (Protocol.naming claims sets).Permits title r)
    (claimed : ∀ y, title = some y → claims y.name) (a : r.Answer) :
    ∀ y, r.entitle a title = some y → claims y.name := by
  intro y ey
  cases Request.arises ey with
  | made => exact may.1
  | @mapped z => exact claimed z rfl
  | kept => exact claimed y rfl

/-- A call that tears a handle down lays claim to the name that the handle has a title to. -/
lemma Scenario.Handle.GoesWith.claimed {x : Handle} {h : String} {op : Operation}
    {uses : Option String} {p : Program Outcome} (goes : x.GoesWith title)
    (tears : op = .drop ∨ op = .destroy) :
    ∀ y, title = some y → (Underway.mk (.onHandle h op) uses (some x) p).Claims y.name := by
  rintro y rfl
  obtain ⟨g, eg, isOf⟩ := goes.entitles.inv
  have entitled : g.isEntitled := by simp [Segment.isEntitled, isOf.role, isOf.file]
  obtain rfl | rfl := tears
  · exact ⟨x, g, rfl, eg, entitled, isOf.name⟩
  · exact ⟨x, g, rfl, eg, entitled, isOf.name⟩

variable {t : ThreadId} {h : String} {x : Handle} {p : Program Outcome}

/-- A call that opens a handle passes its title on to the handle. -/
lemma ensures_openCall_naming {toggle : Option String} {raw : String} {size : UInt32} {via : Via} :
    (openCall toggle h raw size via).Ensures
      (.naming (fun n => Name.ofRaw raw = .ok n ∧ via.creates size)
        fun mode => ∃ cfg, via.Allows cfg ∧ cfg.mode = mode)
      (fun o title => o.effect.Takes title) none := by
  refine (Ensures.openCall (fun og title => Entitles title og ∧
    ∀ y, title = some y → y.mapping.isSome ∧ ∃ cfg, via.Allows cfg ∧ cfg.mode = y.mode) toggle
    (fun _ _ here => here) ?_ ?_ ⟨.nothing nofun, nofun⟩).mono ?_
  · intro creates n c en allows
    exact Segment.ensures_create_naming ⟨en, creates⟩ ⟨c, allows, rfl⟩
  · intro _ n c _
    refine Segment.ensures_attach_naming.mono ?_
    rintro r _ ⟨rfl, entitles⟩
    exact ⟨entitles, nofun⟩
  · rintro o title ⟨brings, entitles, whole⟩
    obtain e | ⟨x, e, facade⟩ := brings
    · rw [e] at entitles ⊢
      cases entitles with
      | nothing => exact rfl
    · rw [e] at entitles ⊢
      refine ⟨entitles, fun y ey => (whole y ey).1, ?_⟩
      rintro y f ey rfl
      obtain ⟨cfg, allows, mode⟩ := (whole y ey).2
      exact mode ▸ allows.isMode (facade f rfl)

/-- What is plain needs no title and gives none. -/
lemma ensures_plain_naming
    (plain : p.Ensures (.asking fun r => r.isPlain) (fun o _ => o.effect.sparesHandles) ()) :
    p.Ensures (.naming claims sets) (fun o title => o.effect.Takes title) none := by
  have other {r : Request} (plain : r.isPlain) : r.isEntitling = false := by
    cases r with
    | openNew | unlink | map => cases plain
    | _ => rfl
  refine (plain.of_asking (fun _ => rfl) fun r ok => spares_naming (other ok)).mono ?_
  rintro o _ ⟨spares, rfl⟩
  exact Effect.takes_of_sparesHandles spares

lemma ensures_dropCall_naming (goes : x.GoesWith title)
    (claimed : ∀ y, title = some y → claims y.name) (ep : handleCall? t h x .drop = some p) :
    p.Ensures (.naming claims sets) (fun o title => o.effect.Takes title) title := by
  have torn (g : Segment) (eg : x.segment? = some g) :
      g.destroy.Ensures (.naming claims sets) (fun _ title => title = none) title :=
    (Segment.ensures_destroy_naming (eg ▸ goes.entitles) claimed).mono fun _ _ ends => ends.1
  have bare (eg : x.segment? = none) : title = none := by
    have entitles := goes.entitles
    rw [eg] at entitles
    cases entitles with
    | nothing => rfl
  refine (Ensures.dropCall torn bare ep).mono ?_
  rintro o _ ⟨e, rfl⟩
  rw [e]
  exact rfl

lemma ensures_destroyCall_naming (goes : x.GoesWith title)
    (claimed : ∀ y, title = some y → claims y.name) (ep : handleCall? t h x .destroy = some p) :
    p.Ensures (.naming claims sets) (fun o title => o.effect.Takes title) title := by
  have torn (g : Segment) (eg : x = .segment g) :
      g.destroy.Ensures (.naming claims sets)
        (fun g' title => title = none ∧ Entitles title (some g')) title := by
    have entitles := goes.entitles
    rw [eg] at entitles
    exact Segment.ensures_destroy_naming entitles claimed
  refine (Ensures.destroyCall torn ep).mono ?_
  rintro o _ ⟨g, e, rfl, entitles⟩
  rw [e]
  refine ⟨entitles, ?_, ?_⟩
  · rintro y ⟨⟩
  · rintro y f ⟨⟩

end

lemma Scenario.Handle.GoesWith.of_empty (g : Segment) :
    (Handle.segment g.empty).GoesWith none := by
  refine ⟨.nothing g.empty_isEntitled, ?_, ?_⟩
  · rintro y ⟨⟩
  · rintro y f ⟨⟩

namespace Session

variable {b : ObjectId} {s s' : Session} {τ τ' : ThreadId ⊕ String → Option Title} {d : Deed}
  {t : ThreadId} {c : Underway} {σ : ThreadId ⊕ String → Custody}

/-- What a call puts in place that opens a handle was not there. -/
lemma IsLent.opening_inv {h h' raw : String} {size : UInt32} {via : Via} {o : Outcome} {x : Handle}
    (lent : s.IsLent) (ec : s.calls t = some c) (act : c.act = .openHandle h' raw size via)
    (ep : c.program = .ret o) (ee : o.effect = .setHandle h x) :
    c.uses = some h ∧ s.handles h = none := by
  cases lent.calls t c ec with
  | opening act' uses free ends =>
    unfold Underway.EndsWith at ends
    rw [ep] at ends
    obtain e | ⟨x', e⟩ : o.effect = .none ∨ ∃ x, o.effect = .setHandle _ x := ends
    · cases ee.symm.trans e
    · cases ee.symm.trans e
      exact ⟨uses, free⟩
  | destroying act' | guarding act' | plain act' | guarded act' => cases act.symm.trans act'

namespace IsTitled

/-- Who is in no call has no title by one. -/
lemma none_of_free (titled : s.IsTitled τ) (free : s.calls t = none) : τ (.inl t) = none := by
  cases ey : τ (.inl t) with
  | none => rfl
  | some y =>
    obtain ⟨c, ec, -⟩ := titled.claimed t y ey
    cases free.symm.trans ec

lemma none_of_unnamed {h : String} (titled : s.IsTitled τ) (unnamed : s.handles h = none) :
    τ (.inr h) = none := by
  cases ey : τ (.inr h) with
  | none => rfl
  | some y =>
    obtain ⟨⟨x, ex⟩, -⟩ := titled.held h y ey
    cases unnamed.symm.trans ex

lemma none_of_isDestroying {h : String} (titled : s.IsTitled τ) (busy : s.IsDestroying h) :
    τ (.inr h) = none := by
  cases ey : τ (.inr h) with
  | none => rfl
  | some y => exact absurd busy (titled.held h y ey).2

/-- A thread begins a call that takes no title over. -/
lemma begin_use (titled : s.IsTitled τ) (idle : s.IsIdle t)
    (mine : c.program.Ensures (.naming c.Claims c.Sets) (fun o title => o.effect.Takes title) none)
    (other : ∀ h, c.act ≠ .onHandle h .destroy) : (s.begin t c).IsTitled τ := by
  have same h : (s.begin t c).IsDestroying h ↔ s.IsDestroying h := by
    refine (isDestroying_begin idle.calls).trans (or_iff_left ?_)
    rintro ⟨act, -⟩
    exact other h act
  refine ⟨?_, ?_, ?_, ?_⟩
  · intro t' c' ec alive
    obtain ⟨rfl, rfl⟩ | ⟨-, ec⟩ := begin_calls_inv ec
    · rw [titled.none_of_free idle.calls]
      exact mine
    · exact titled.calls t' c' ec alive
  · intro h x ex free
    exact titled.handles h x ex fun busy => free ((same h).2 busy)
  · intro t' y ey
    have ne : t' ≠ t := by
      rintro rfl
      cases (titled.none_of_free idle.calls).symm.trans ey
    obtain ⟨c', ec, alive, claims⟩ := titled.claimed t' y ey
    exact ⟨c', (update_of_ne ne _ _).trans ec, alive, claims⟩
  · intro h y ey
    obtain ⟨there, free⟩ := titled.held h y ey
    exact ⟨there, fun busy => free ((same h).1 busy)⟩

/-- A thread begins to tear a handle down, and takes the title of the handle over. -/
lemma begin_teardown {h : String} {x : Handle} {op : Operation} {uses : Option String}
    {p : Program Outcome} {handles : String → Option Handle} (titled : s.IsTitled τ)
    (idle : s.IsIdle t) (ex : s.handles h = some x) (unused : ¬s.IsInUse h)
    (tears : op = .drop ∨ op = .destroy)
    (mine : ∀ title : Option Title, x.GoesWith title →
      let c : Underway := ⟨.onHandle h op, uses, some x, p⟩
      (∀ y, title = some y → c.Claims y.name) →
        p.Ensures (.naming c.Claims c.Sets) (fun o title => o.effect.Takes title) title)
    (others : ∀ h' ≠ h, handles h' = s.handles h')
    (busy : handles h = none ∨ op = .destroy ∧ uses = some h) :
    ({ s with handles }.begin t ⟨.onHandle h op, uses, some x, p⟩).IsTitled (handOver τ t h) := by
  have free : ¬s.IsDestroying h := by
    rintro ⟨t', c', ec, -, uses⟩
    exact unused (.inr ⟨t', c', ec, uses⟩)
  have goes := titled.handles h x ex free
  have same h' (ne : h' ≠ h) :
      ({ s with handles }.begin t ⟨.onHandle h op, uses, some x, p⟩).IsDestroying h' ↔
        s.IsDestroying h' := by
    refine (isDestroying_begin idle.calls).trans (or_iff_left ?_)
    rintro ⟨⟨⟩, -⟩
    exact ne rfl
  refine ⟨?_, ?_, ?_, ?_⟩
  · intro t' c' ec alive
    obtain ⟨rfl, rfl⟩ | ⟨et, ec⟩ := begin_calls_inv ec
    · rw [handOver_call]
      exact mine _ goes (goes.claimed tears)
    · rw [handOver_call_ne τ et]
      exact titled.calls t' c' ec alive
  · intro h' x' ex' free'
    by_cases eh : h' = h
    · subst eh
      obtain gone | ⟨rfl, rfl⟩ := busy
      · cases gone.symm.trans ex'
      · exact absurd ((isDestroying_begin idle.calls).2 (.inr ⟨rfl, rfl⟩)) free'
    · rw [handOver_handle_ne τ eh]
      exact titled.handles h' x' ((others h' eh).symm.trans ex') fun busy =>
        free' ((same h' eh).2 busy)
  · intro t' y ey
    by_cases et : t' = t
    · subst et
      rw [handOver_call] at ey
      exact ⟨_, update_self .., idle.dead, goes.claimed tears y ey⟩
    · rw [handOver_call_ne τ et] at ey
      obtain ⟨c', ec, alive, claims⟩ := titled.claimed t' y ey
      exact ⟨c', (update_of_ne et _ _).trans ec, alive, claims⟩
  · intro h' y ey
    have eh : h' ≠ h := by
      rintro rfl
      rw [handOver_handle, titled.none_of_free idle.calls] at ey
      cases ey
    rw [handOver_handle_ne τ eh] at ey
    obtain ⟨⟨x', ex'⟩, free'⟩ := titled.held h' y ey
    exact ⟨⟨x', (others h' eh).trans ex'⟩, fun busy => free' ((same h' eh).1 busy)⟩

/-- A thread makes a step in its call. -/
lemma progress {p' : Program Outcome} {h' : Host} (titled : s.IsTitled τ)
    (ec : s.calls t = some c) (alive : s.dead t = false) {title : Option Title}
    (mine : p'.Ensures (.naming c.Claims c.Sets) (fun o title => o.effect.Takes title) title)
    (claimed : ∀ y, title = some y → c.Claims y.name) :
    (s.move t c p' h').IsTitled (update τ (.inl t) title) := by
  refine ⟨?_, ?_, ?_, ?_⟩
  · intro t' c' ec' alive'
    obtain ⟨rfl, rfl⟩ | ⟨et, ec'⟩ := move_calls_inv ec'
    · rw [update_self]
      exact mine
    · rw [update_of_ne (by simpa using et)]
      exact titled.calls t' c' ec' alive'
  · intro h x ex free
    rw [update_of_ne (by simp)]
    exact titled.handles h x ex fun busy => free ((isDestroying_move ec).2 busy)
  · intro t' y ey
    by_cases et : t' = t
    · subst et
      rw [update_self] at ey
      exact ⟨_, update_self .., alive, claimed y ey⟩
    · rw [update_of_ne (by simpa using et)] at ey
      obtain ⟨c', ec', alive', claims⟩ := titled.claimed t' y ey
      exact ⟨c', (update_of_ne et _ _).trans ec', alive', claims⟩
  · intro h y ey
    rw [update_of_ne (by simp)] at ey
    obtain ⟨there, free⟩ := titled.held h y ey
    exact ⟨there, fun busy => free ((isDestroying_move ec).1 busy)⟩

lemma move {m : Move} {p' : Program Outcome} {h' : Host} (titled : s.IsTitled τ)
    (ec : s.calls t = some c) (alive : s.dead t = false) (st : c.program.Step t s.host m p' h') :
    ∃ τ', (s.move t c p' h').IsTitled τ' ∧
      s.Passes (s.move t c p' h') τ τ' (.moved t s.host m) := by
  have en := titled.calls t c ec alive
  have claimed (y : Title) (ey : τ (.inl t) = some y) : c.Claims y.name := by
    obtain ⟨c', ec', -, claims⟩ := titled.claimed t y ey
    cases ec.symm.trans ec'
    exact claims
  have same : update τ (.inl t) (τ (.inl t)) = τ := update_eq_self ..
  cases c with
  | mk act uses subject program =>
    cases st with
    | @answer r next _ a _ eh =>
      exact ⟨_, titled.progress ec alive (en.2 a _ rfl) (claims_entitle en.1 claimed a),
        .answered eh en.1 ec alive rfl⟩
    | tell => exact ⟨_, titled.progress ec alive en claimed, .handed (.refl _) rfl (congrFun same)⟩
    | wait eh => exact ⟨_, titled.progress ec alive en claimed, .waited eh same⟩
    | @strike r next _ call fail e er =>
      exact ⟨_, titled.progress ec alive (en.2 _ _ rfl) (claims_entitle en.1 claimed _),
        .struck rfl er rfl⟩

/-- A thread comes back from a call, and its title goes with what it brings about. -/
lemma finish {o : Outcome} (titled : s.IsTitled τ) (ec : s.calls t = some c)
    (gone : τ' (.inl t) = none) (others : ∀ t' ≠ t, τ' (.inl t') = τ (.inl t'))
    (handles : ∀ h x, (s.conclude t o).handles h = some x →
      ¬(s.IsDestroying h ∧ c.act ≠ .onHandle h .destroy) → x.GoesWith (τ' (.inr h)))
    (held : ∀ h y, τ' (.inr h) = some y →
      (∃ x, (s.conclude t o).handles h = some x) ∧ ¬s.IsDestroying h) :
    (s.conclude t o).IsTitled τ' := by
  refine ⟨?_, ?_, ?_, ?_⟩
  · intro t' c' ec' alive
    rw [conclude_dead] at alive
    obtain ⟨et, ec'⟩ := conclude_calls_inv ec'
    rw [others t' et]
    exact titled.calls t' c' ec' alive
  · intro h x ex free
    refine handles h x ex ?_
    rintro ⟨busy, other⟩
    exact free ((isDestroying_conclude ec other).2 busy)
  · intro t' y ey
    have et : t' ≠ t := by
      rintro rfl
      cases gone.symm.trans ey
    rw [others t' et] at ey
    obtain ⟨c', ec', alive, claims⟩ := titled.claimed t' y ey
    refine ⟨c', ?_, ?_, claims⟩
    · rw [conclude_calls, update_of_ne et]
      exact ec'
    · rwa [conclude_dead]
  · intro h y ey
    obtain ⟨there, free⟩ := held h y ey
    refine ⟨there, ?_⟩
    rintro ⟨t', c', ec', act, uses⟩
    exact free ⟨t', c', (conclude_calls_inv ec').2, act, uses⟩

/-- A thread dies, and its title with it. -/
lemma bury (titled : s.IsTitled τ) (t : ThreadId) :
    (s.bury t).IsTitled (update τ (.inl t) none) := by
  refine ⟨?_, ?_, ?_, ?_⟩
  · intro t' c ec alive
    obtain ⟨ne, alive⟩ := bury_dead_inv alive
    rw [update_of_ne (by simpa using ne)]
    exact titled.calls t' c ec alive
  · intro h x ex free
    rw [update_of_ne (by simp)]
    exact titled.handles h x ex free
  · intro t' y ey
    obtain ⟨-, ⟨⟩⟩ | ⟨ne, ey⟩ := update_inv ey
    have ne : t' ≠ t := by simpa using ne
    obtain ⟨c, ec, alive, claims⟩ := titled.claimed t' y ey
    exact ⟨c, ec, (update_of_ne ne _ _).trans alive, claims⟩
  · intro h y ey
    obtain ⟨⟨⟩, -⟩ | ⟨-, ey⟩ := update_inv ey
    exact titled.held h y ey

/-- A thread comes back from a call that leaves all handles as they are. -/
lemma conclude_spares {o : Outcome} (titled : s.IsTitled τ) (ec : s.calls t = some c)
    (takes : o.effect.Takes (τ (.inl t))) (spares : o.effect.sparesHandles)
    (other : ∀ h, c.act ≠ .onHandle h .destroy) : (s.conclude t o).IsTitled τ := by
  have none : τ (.inl t) = none := by
    cases ee : o.effect with
    | setHandle => simp [ee, Effect.sparesHandles] at spares
    | _ =>
      rw [ee] at takes
      exact takes
  refine titled.finish ec none (fun _ _ => rfl) ?_ ?_
  · intro h x ex free
    rw [conclude_handles spares] at ex
    exact titled.handles h x ex fun busy => free ⟨busy, other h⟩
  · intro h y ey
    rw [conclude_handles spares]
    exact titled.held h y ey

/-- A thread comes back from opening a handle, which has the title of the call from then on. -/
lemma conclude_opens {o : Outcome} {h h' raw : String} {size : UInt32} {via : Via} {x : Handle}
    (titled : s.IsTitled τ) (lent : s.IsLent) (ec : s.calls t = some c)
    (act : c.act = .openHandle h' raw size via) (ep : c.program = .ret o)
    (ee : o.effect = .setHandle h x) (takes : o.effect.Takes (τ (.inl t))) :
    (s.conclude t o).IsTitled (handOver τ t h) := by
  rw [ee] at takes
  obtain ⟨uses, unnamed⟩ := lent.opening_inv ec act ep ee
  refine titled.finish ec ?_ (fun t' ne => handOver_call_ne τ ne) ?_ ?_
  · rw [handOver_call]
    exact titled.none_of_unnamed unnamed
  · intro n x' ex' free
    rw [conclude_setHandle ee] at ex'
    obtain ⟨rfl, ⟨⟩⟩ | ⟨en, ex'⟩ := update_inv ex'
    · rw [handOver_handle]
      exact takes
    · rw [handOver_handle_ne τ en]
      exact titled.handles n x' ex' fun busy => free ⟨busy, by simp [act]⟩
  · intro n y ey
    rw [conclude_setHandle ee]
    by_cases en : n = h
    · subst en
      refine ⟨⟨x, update_self ..⟩, ?_⟩
      rintro ⟨t', c', ec', act', uses'⟩
      obtain rfl := lent.sole t t' c c' n unnamed ec uses ec' uses'
      cases ec.symm.trans ec'
      cases act.symm.trans act'
    · rw [handOver_handle_ne τ en] at ey
      obtain ⟨⟨x', ex'⟩, free⟩ := titled.held n y ey
      exact ⟨⟨x', (update_of_ne en _ _).trans ex'⟩, free⟩

/-- A thread comes back from destroying a handle, which has no title any more. -/
lemma conclude_destroys {o : Outcome} {h : String} {g : Segment} (titled : s.IsTitled τ)
    (lent : s.IsLent) (ec : s.calls t = some c) (act : c.act = .onHandle h .destroy)
    (ep : c.program = .ret o) (ee : o.effect = .setHandle h (.segment (Segment.empty g)))
    (takes : o.effect.Takes (τ (.inl t))) : (s.conclude t o).IsTitled τ := by
  have brings := (lent.calls t c ec).brings ep
  rw [ee] at takes brings
  have busy : s.IsDestroying h := by
    cases brings with
    | handle _ uses _ => exact ⟨t, c, ec, act, uses⟩
  refine titled.finish ec (takes.entitles.none_of_file rfl) (fun _ _ => rfl) ?_ ?_
  · intro h' x' ex' free
    rw [conclude_setHandle ee] at ex'
    obtain ⟨rfl, ⟨⟩⟩ | ⟨eh, ex'⟩ := update_inv ex'
    · rw [titled.none_of_isDestroying busy]
      exact .of_empty g
    · refine titled.handles h' x' ex' fun busy => free ⟨busy, ?_⟩
      rw [act]
      rintro ⟨⟩
      exact eh rfl
  · intro h' y ey
    obtain ⟨⟨x', ex'⟩, free⟩ := titled.held h' y ey
    refine ⟨?_, free⟩
    rw [conclude_setHandle ee]
    by_cases eh : h' = h
    · subst eh
      exact ⟨_, update_self ..⟩
    · exact ⟨x', (update_of_ne eh _ _).trans ex'⟩

lemma conclude {o : Outcome} (titled : s.IsTitled τ) (lent : s.IsLent) (ec : s.calls t = some c)
    (ep : c.program = .ret o) (takes : o.effect.Takes (τ (.inl t)))
    (yields : c.act.Yields o (σ (.inl t))) :
    ∃ τ', (s.conclude t o).IsTitled τ' ∧ s.Passes (s.conclude t o) τ τ' d := by
  have kept : s.Passes (s.conclude t o) τ τ d := .handed (.refl _) conclude_host fun _ => rfl
  cases yields.returns with
  | spares spares other => exact ⟨τ, titled.conclude_spares ec takes spares other, kept⟩
  | opens act ee =>
    exact ⟨_, titled.conclude_opens lent ec act ep ee takes,
      .handed (Equiv.swap _ _) conclude_host fun _ => rfl⟩
  | destroys act ee => exact ⟨τ, titled.conclude_destroys lent ec act ep ee takes, kept⟩

/-- A step of a session passes titles on. -/
theorem step (titled : s.IsTitled τ) (lent : s.IsLent) (kept : s.IsKeptFrom b σ)
    (st : s.Step d s') : ∃ τ', s'.IsTitled τ' ∧ s.Passes s' τ τ' d := by
  have same {s' : Session} (e : s'.host = s.host) : s.Passes s' τ τ d :=
    .handed (.refl _) e fun _ => rfl
  cases st with
  | openHandle idle =>
    exact ⟨τ, titled.begin_use idle ensures_openCall_naming nofun, same rfl⟩
  | @onHandle t h op x p idle ex excl taken nodrop ep =>
    by_cases destroys : op = .destroy
    · subst destroys
      exact ⟨handOver τ t h, titled.begin_teardown idle ex (excl rfl) (.inr rfl)
        (fun _ goes claimed => ensures_destroyCall_naming goes claimed ep) (fun _ _ => rfl)
        (.inr ⟨rfl, rfl⟩), .handed (Equiv.swap _ _) rfl fun _ => rfl⟩
    · have plain := (plain_handleUse ep nodrop destroys).mono fun _ _ brings =>
        brings.sparesHandles
      refine ⟨τ, titled.begin_use idle (ensures_plain_naming plain) ?_, same rfl⟩
      rintro _ ⟨⟩
      exact destroys rfl
  | @drop t h x p idle ex unused ep =>
    exact ⟨handOver τ t h, titled.begin_teardown idle ex unused (.inl rfl)
      (fun _ goes claimed => ensures_dropCall_naming goes claimed ep)
      (fun _ ne => update_of_ne ne _ _) (.inl (update_self ..)),
      .handed (Equiv.swap _ _) rfl fun _ => rfl⟩
  | @onGuard t g x f op idle eg ex =>
    have plain := (plain_guardUse x f op).mono fun _ _ brings => brings.sparesHandles
    exact ⟨τ, titled.begin_use idle (ensures_plain_naming plain) nofun, same rfl⟩
  | move ec alive st => exact titled.move ec alive st
  | @finish t c o ec alive ep =>
    have takes := titled.calls t c ec alive
    rw [ep] at takes
    have yields := kept.calls t c ec alive
    rw [ep] at yields
    exact titled.conclude lent ec ep takes yields
  | @die t alive => exact ⟨_, titled.bury t, .died rfl rfl⟩

lemma init (h : Host) : (Session.ofHost h).IsTitled fun _ => none := by
  refine ⟨?_, ?_, nofun, nofun⟩
  · intro t c ec
    cases ec
  · intro h' x ex
    cases ex

theorem of_run {h : Host} {past : List Deed} (run : Run Session.Step (.ofHost h) past s) :
    ∃ τ, s.IsTitled τ := by
  induction run with
  | nil => exact ⟨_, init h⟩
  | cons run st ih =>
    obtain ⟨τ, titled⟩ := ih
    obtain ⟨σ, kept⟩ := IsKeptFrom.of_run run
    obtain ⟨τ', titled', -⟩ := titled.step (IsLent.of_run run) kept st
    exact ⟨τ', titled'⟩

end IsTitled
end Session
end SharedSegment
