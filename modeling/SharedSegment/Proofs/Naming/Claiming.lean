import SharedSegment.Proofs.Naming.Holding

/-!
# Who lays claim to a name

A handle lays claim to the name of its segment if it is the one of a creator, and so do the call
that creates a segment and the call that tears one down. A claim is made by beginning a creation
only, and then goes from a call to the handle that it opens and from a handle to the call that tears
it down (`Session.IsTitled.claims_step`). So if creations begin only under names that nobody lays
claim to, no two parties ever lay claim to one name (`Session.IsSole.of_run`).
-/

namespace SharedSegment
open Function Scenario Program

/-- A thread begins to create a segment under a name. -/
def Deed.Creates (n : Name) : Deed → Prop
  | .began _ (.openHandle _ raw size via) => Name.ofRaw raw = .ok n ∧ via.creates size
  | _ => False

namespace Session

/-- A handle is on a segment of some name that its creator has not torn down, nor begun to. -/
structure IsNamed (s : Session) (h : String) (n : Name) (x : Handle) (g : Segment) : Prop where
  handle : s.handles h = some x
  free : ¬s.IsDestroying h
  segment : x.segment? = some g
  entitled : g.isEntitled
  name : g.name = n

/-- Whether a call or a handle lays claim to a name. -/
def IsClaimant (s : Session) (n : Name) : ThreadId ⊕ String → Prop
  | .inl t => ∃ c, s.calls t = some c ∧ s.dead t = false ∧ c.Claims n
  | .inr h => ∃ x g, s.IsNamed h n x g

/-- Whether some creator has a name. -/
def IsHeld (s : Session) (n : Name) : Prop :=
  ∃ i, s.IsClaimant n i

/-- No two parties lay claim to one name. -/
def IsSole (s : Session) : Prop :=
  ∀ n i j, s.IsClaimant n i → s.IsClaimant n j → i = j

/-- A step in which nobody begins to create a segment under a name that some creator has. -/
def ModestStep (s : Session) (d : Deed) (s' : Session) : Prop :=
  s.Step d s' ∧ ∀ n, d.Creates n → ¬s.IsHeld n

variable {b : ObjectId} {s s' : Session} {τ : ThreadId ⊕ String → Option Title} {d : Deed}
  {t : ThreadId} {c : Underway} {n : Name} {σ : ThreadId ⊕ String → Custody}

lemma IsNamed.of_same {h : String} {x : Handle} {g : Segment} (named : s'.IsNamed h n x g)
    (same : s'.handles h = s.handles h) (busy : s.IsDestroying h → s'.IsDestroying h) :
    s.IsNamed h n x g :=
  ⟨same.symm.trans named.handle, fun here => named.free (busy here), named.segment,
    named.entitled, named.name⟩

/-- Nobody begins to create anything by a turn in a call. -/
lemma turn_not_creates {fault : Option Errno} (e : s.turn t fault = some (d, s')) :
    ¬d.Creates n := by
  intro creates
  unfold Deed.Creates at creates
  split at creates
  · exact turn_ne_began e _ _ rfl
  · exact creates

lemma modestStep_turn {fault : Option Errno} (e : s.turn t fault = some (d, s')) :
    s.ModestStep d s' :=
  ⟨step_turn e, fun _ creates => absurd creates (turn_not_creates e)⟩

/-- What lays claim to a name after a step did before, if it was not just begun for that: the party
that it has the claim from. -/
def Inherits (s s' : Session) (d : Deed) : Prop :=
  ∃ e : Equiv.Perm (ThreadId ⊕ String), ∀ n i, s'.IsClaimant n i →
    s.IsClaimant n (e i) ∨ d.Creates n ∧ i = .inl d.thread

/-- A thread begins a call that lays claim to what it creates only. -/
lemma claims_begin (idle : s.IsIdle t)
    (mine : ∀ n, c.Claims n → (Deed.began t c.act).Creates n) :
    s.Inherits (s.begin t c) (.began t c.act) := by
  refine ⟨.refl _, ?_⟩
  rintro n (t' | h) claimant
  · obtain ⟨c', ec, alive, claims⟩ := claimant
    obtain ⟨rfl, rfl⟩ | ⟨-, ec⟩ := begin_calls_inv ec
    · exact .inr ⟨mine n claims, rfl⟩
    · exact .inl ⟨c', ec, alive, claims⟩
  · obtain ⟨x, g, named⟩ := claimant
    exact .inl ⟨x, g, named.of_same rfl fun busy =>
      (isDestroying_begin idle.calls).2 (.inl busy)⟩

/-- A thread begins to tear a handle down. -/
lemma claims_teardown {h : String} {x : Handle} {op : Operation} {uses : Option String}
    {p : Program Outcome} {handles : String → Option Handle} (idle : s.IsIdle t)
    (ex : s.handles h = some x) (unused : ¬s.IsInUse h) (tears : op = .drop ∨ op = .destroy)
    (others : ∀ h' ≠ h, handles h' = s.handles h')
    (busy : handles h = none ∨ op = .destroy ∧ uses = some h) :
    s.Inherits ({ s with handles }.begin t ⟨.onHandle h op, uses, some x, p⟩) d := by
  have free : ¬s.IsDestroying h := by
    rintro ⟨t', c', ec, -, uses⟩
    exact unused (.inr ⟨t', c', ec, uses⟩)
  refine ⟨.swap (.inl t) (.inr h), ?_⟩
  rintro n (t' | h') claimant
  · obtain ⟨c', ec, alive, claims⟩ := claimant
    refine .inl ?_
    obtain ⟨rfl, rfl⟩ | ⟨et, ec⟩ := begin_calls_inv ec
    · rw [Equiv.swap_apply_left]
      obtain rfl | rfl := tears
      · obtain ⟨_, g, ⟨⟩, eg, entitled, named⟩ := claims
        exact ⟨x, g, ex, free, eg, entitled, named⟩
      · obtain ⟨_, g, ⟨⟩, eg, entitled, named⟩ := claims
        exact ⟨x, g, ex, free, eg, entitled, named⟩
    · rw [Equiv.swap_apply_of_ne_of_ne (by simpa using et) (by simp)]
      exact ⟨c', ec, alive, claims⟩
  · obtain ⟨x', g, named⟩ := claimant
    have eh : h' ≠ h := by
      rintro rfl
      obtain gone | ⟨rfl, rfl⟩ := busy
      · cases gone.symm.trans named.handle
      · exact named.free ((isDestroying_begin idle.calls).2 (.inr ⟨rfl, rfl⟩))
    refine .inl ?_
    rw [Equiv.swap_apply_of_ne_of_ne (by simp) (by simpa using eh)]
    exact ⟨x', g, named.of_same (others h' eh) fun busy =>
      (isDestroying_begin idle.calls).2 (.inl busy)⟩

lemma claims_move {p : Program Outcome} {h : Host} (ec : s.calls t = some c) :
    s.Inherits (s.move t c p h) d := by
  refine ⟨.refl _, ?_⟩
  rintro n (t' | h') claimant
  · obtain ⟨c', ec', alive, claims⟩ := claimant
    obtain ⟨rfl, rfl⟩ | ⟨-, ec'⟩ := move_calls_inv ec'
    · exact .inl ⟨c, ec, alive, claims⟩
    · exact .inl ⟨c', ec', alive, claims⟩
  · obtain ⟨x, g, named⟩ := claimant
    exact .inl ⟨x, g, named.of_same rfl (isDestroying_move ec).2⟩

/-- A call lays claim to the name of the handle that it has opened. -/
lemma IsTitled.claims_taken {h h' : String} {x : Handle} {g : Segment} (titled : s.IsTitled τ)
    (takes : (Effect.setHandle h x).Takes (τ (.inl t))) (named : s'.IsNamed h' n x g) :
    s.IsClaimant n (.inl t) := by
  obtain ⟨y, ey, isOf⟩ := takes.entitles.of_isEntitled named.segment named.entitled
  obtain ⟨c, ec, alive, claims⟩ := titled.claimed t y ey
  exact ⟨c, ec, alive, named.name ▸ isOf.name ▸ claims⟩

/-- A thread comes back from a call, whose claim goes over to the handle that it has opened. -/
lemma claims_conclude {o : Outcome} (titled : s.IsTitled τ) (ec : s.calls t = some c)
    (takes : o.effect.Takes (τ (.inl t))) (yields : c.act.Yields o (σ (.inl t))) :
    s.Inherits (s.conclude t o) d := by
  have call {n : Name} {t' : ThreadId} (claimant : (s.conclude t o).IsClaimant n (.inl t')) :
      t' ≠ t ∧ s.IsClaimant n (.inl t') := by
    obtain ⟨c', ec', alive, claims⟩ := claimant
    rw [conclude_dead] at alive
    obtain ⟨et, ec'⟩ := conclude_calls_inv ec'
    exact ⟨et, c', ec', alive, claims⟩
  have kept {n : Name} {h' : String} {x : Handle} {g : Segment}
      (named : (s.conclude t o).IsNamed h' n x g)
      (same : (s.conclude t o).handles h' = s.handles h')
      (other : c.act ≠ .onHandle h' .destroy) : s.IsClaimant n (.inr h') :=
    ⟨x, g, named.of_same same (isDestroying_conclude ec other).2⟩
  cases yields.returns with
  | spares spares other =>
    refine ⟨.refl _, ?_⟩
    rintro n (t' | h') claimant
    · exact .inl (call claimant).2
    · obtain ⟨x, g, named⟩ := claimant
      exact .inl (kept named (by rw [conclude_handles spares]) (other h'))
  | @opens _ _ _ _ h x act ee =>
    rw [ee] at takes
    refine ⟨.swap (.inl t) (.inr h), ?_⟩
    rintro n (t' | h') claimant
    · obtain ⟨et, claimant⟩ := call claimant
      rw [Equiv.swap_apply_of_ne_of_ne (by simpa using et) (by simp)]
      exact .inl claimant
    · obtain ⟨x', g, named⟩ := claimant
      by_cases eh : h' = h
      · subst eh
        rw [Equiv.swap_apply_right]
        have ex := named.handle
        rw [conclude_setHandle ee, update_self] at ex
        cases ex
        exact .inl (titled.claims_taken takes named)
      · rw [Equiv.swap_apply_of_ne_of_ne (by simp) (by simpa using eh)]
        refine .inl (kept named ?_ (by simp [act]))
        rw [conclude_setHandle ee, update_of_ne eh]
  | @destroys h g act ee =>
    refine ⟨.refl _, ?_⟩
    rintro n (t' | h') claimant
    · exact .inl (call claimant).2
    · obtain ⟨x, g', named⟩ := claimant
      have eh : h' ≠ h := by
        rintro rfl
        have ex := named.handle
        rw [conclude_setHandle ee, update_self] at ex
        cases ex
        cases (g.empty_isEntitled g' named.segment).symm.trans named.entitled
      refine .inl (kept named ?_ ?_)
      · rw [conclude_setHandle ee, update_of_ne eh]
      · rw [act]
        rintro ⟨⟩
        exact eh rfl

namespace IsTitled

/-- Who lays claim to a name by a title does so. -/
lemma isClaimant {i : ThreadId ⊕ String} {y : Title} (titled : s.IsTitled τ) (ey : τ i = some y) :
    s.IsClaimant y.name i := by
  cases i with
  | inl t => exact titled.claimed t y ey
  | inr h =>
    obtain ⟨⟨x, ex⟩, free⟩ := titled.held h y ey
    have goes := titled.handles h x ex free
    rw [ey] at goes
    obtain ⟨g, eg, isOf⟩ := goes.entitles.inv
    exact ⟨x, g, ex, free, eg, by simp [Segment.isEntitled, isOf.role, isOf.file], isOf.name⟩

/-- A claim is made by beginning a creation only. -/
theorem claims_step (titled : s.IsTitled τ) (kept : s.IsKeptFrom b σ) (st : s.Step d s') :
    s.Inherits s' d := by
  cases st with
  | openHandle idle => exact claims_begin idle fun n claims => claims
  | @onHandle t h op x p idle ex excl taken nodrop ep =>
    by_cases destroys : op = .destroy
    · subst destroys
      exact claims_teardown idle ex (excl rfl) (.inr rfl) (fun _ _ => rfl) (.inr ⟨rfl, rfl⟩)
    · refine claims_begin idle fun n claims => ?_
      cases op with
      | drop => exact absurd rfl nodrop
      | destroy => exact absurd rfl destroys
      | _ => exact claims
  | drop idle ex unused =>
    exact claims_teardown idle ex unused (.inl rfl) (fun _ ne => update_of_ne ne _ _)
      (.inl (update_self ..))
  | onGuard idle => exact claims_begin idle fun n claims => claims
  | move ec => exact claims_move ec
  | @finish t c o ec alive ep =>
    have takes := titled.calls t c ec alive
    rw [ep] at takes
    have yields := kept.calls t c ec alive
    rw [ep] at yields
    exact claims_conclude titled ec takes yields
  | @die t alive =>
    refine ⟨.refl _, ?_⟩
    rintro n (t' | h) claimant
    · obtain ⟨c, ec, alive', claims⟩ := claimant
      exact .inl ⟨c, ec, (bury_dead_inv alive').2, claims⟩
    · obtain ⟨x, g, named⟩ := claimant
      exact .inl ⟨x, g, named.of_same rfl id⟩

end IsTitled

namespace IsSole

theorem step (sole : s.IsSole) (inherits : s.Inherits s' d)
    (modest : ∀ n, d.Creates n → ¬s.IsHeld n) : s'.IsSole := by
  obtain ⟨e, claims⟩ := inherits
  intro n i j ci cj
  obtain oldI | ⟨creates, rfl⟩ := claims n i ci
  · obtain oldJ | ⟨creates, -⟩ := claims n j cj
    · exact e.injective (sole n _ _ oldI oldJ)
    · exact absurd ⟨_, oldI⟩ (modest n creates)
  · obtain oldJ | ⟨-, rfl⟩ := claims n j cj
    · exact absurd ⟨_, oldJ⟩ (modest n creates)
    · rfl

lemma init (h : Host) : (Session.ofHost h).IsSole := by
  rintro n (t | x) j claimant
  · obtain ⟨c, ec, -⟩ := claimant
    cases ec
  · obtain ⟨x, g, named⟩ := claimant
    cases named.handle

theorem of_run {h : Host} {past : List Deed} (run : Run ModestStep (.ofHost h) past s) :
    s.IsSole := by
  induction run with
  | nil => exact init h
  | cons run st ih =>
    have run := run.mono fun _ _ _ st => st.1
    obtain ⟨τ, titled⟩ := IsTitled.of_run run
    obtain ⟨σ, kept⟩ := IsKeptFrom.of_run run
    exact ih.step (titled.claims_step kept st.1) st.2

end IsSole
end Session
end SharedSegment
