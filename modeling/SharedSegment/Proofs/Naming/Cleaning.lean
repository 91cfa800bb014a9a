import SharedSegment.Proofs.Custody.Names
import SharedSegment.Proofs.Naming.Claiming

/-!
# Names that creators leave

Every name that a session binds goes with a title as long as it is bound
(`Session.IsClean.step`): whoever gives the title up takes the name away first. So as long as
nobody dies and no call fails that takes a name away, a name that was not there at the beginning is
one of a creator (`Session.names_left_are_of_creators`), whatever else fails, and whichever creator
takes whose name over.
-/

namespace SharedSegment
open Function Scenario Program

/-- A deed that leaves no name behind: nobody dies, and no call fails that takes a name away. -/
def Deed.isClean : Deed → Bool
  | .died _ | .moved _ _ (.struck (.unlink _) _) => false
  | _ => true

namespace Session

variable {h₀ : Host} {s s' : Session} {τ τ' : ThreadId ⊕ String → Option Title} {d : Deed}

/-- Somebody has a title to a name that is bound to an object. -/
def IsClaimed (h : Host) (τ : ThreadId ⊕ String → Option Title) (file : String) : Prop :=
  ∃ i y k, τ i = some y ∧ y.name.file = file ∧ h.IsBound y.name k

/-- The names that were not bound at the beginning have titles. -/
def IsClean (h₀ h : Host) (τ : ThreadId ⊕ String → Option Title) : Prop :=
  ∀ file, h.store.get? file ≠ none → h₀.store.get? file ≠ none ∨ IsClaimed h τ file

namespace IsClean

/-- Whoever asks for something else than taking its name away keeps its title. -/
lemma entitle_of_kept {claims : Name → Prop} {sets : UInt32 → Prop} {y : Title} {r : Request}
    (may : (Protocol.naming claims sets).Permits (some y) r) (other : r ≠ .unlink y.name)
    (a : r.Answer) : ∃ y', r.entitle a (some y) = some y' ∧ y'.name = y.name := by
  cases r with
  | openNew => cases may.2.2
  | unlink n =>
    obtain rfl := may.2 y rfl
    exact absurd rfl other
  | map f len =>
    cases a with
    | error e => exact ⟨y, rfl, rfl⟩
    | ok m =>
      refine ⟨_, rfl, ?_⟩
      dsimp only
      split <;> rfl
  | _ => exact ⟨y, rfl, rfl⟩

/-- An answer leaves no name without a title. -/
lemma answer {t : ThreadId} {r : Request} {a : r.Answer} {h h' : Host} {i : ThreadId ⊕ String}
    {claims : Name → Prop} {sets : UInt32 → Prop} (clean : IsClean h₀ h τ)
    (e : h.step t r = .done a h') (may : (Protocol.naming claims sets).Permits (τ i) r) :
    IsClean h₀ h' (update τ i (r.entitle a (τ i))) := by
  have stays {file : String} (started : IsClaimed h τ file)
      (spared : ∀ n, r = .unlink n → n.file ≠ file) :
      IsClaimed h' (update τ i (r.entitle a (τ i))) file := by
    obtain ⟨j, y, k, ej, rfl, bound⟩ := started
    have spared : r ≠ .unlink y.name := fun same => spared _ same rfl
    have bound := bound.step e spared
    by_cases ji : j = i
    · subst ji
      rw [ej] at may
      obtain ⟨y', ey, named⟩ := entitle_of_kept may spared a
      exact ⟨j, y', k, by rw [update_self, ej, ey], by rw [named], by rwa [named]⟩
    · exact ⟨j, y, k, by rw [update_of_ne ji, ej], rfl, bound⟩
  intro file here
  cases Host.rebinds_step e with
  | @made n mode free =>
    by_cases same : file = n.file
    · subst same
      exact .inr ⟨i, ⟨n, mode, h.files.length, none⟩, h.objects.length, update_self .., rfl,
        Store.place_insert free⟩
    · rw [Host.grown_store, Store.get?_insert_of_ne same] at here
      exact (clean file here).imp_right fun started => stays started nofun
  | refused => exact (clean file here).imp_right fun started => stays started nofun
  | @taken n x there =>
    by_cases same : file = n.file
    · subst same
      exact absurd (Store.get?_erase_self _ _) here
    · rw [Store.get?_erase_of_ne same] at here
      refine (clean file here).imp_right fun started => stays started ?_
      rintro _ ⟨⟩
      exact Ne.symm same
  | kept _ failed same =>
    rw [same] at here
    refine (clean file here).imp_right fun started => ?_
    refine stays started ?_
    rintro n rfl rfl
    obtain ⟨j, y, k, -, named, bound⟩ := started
    obtain rfl := Name.file_injective named
    exact failed y.name _ rfl bound

theorem step (clean : IsClean h₀ s.host τ) (passes : s.Passes s' τ τ' d) (spared : d.isClean) :
    IsClean h₀ s'.host τ' := by
  cases passes with
  | handed e same passed =>
    rw [same]
    intro file here
    refine (clean file here).imp_right ?_
    rintro ⟨i, y, k, ei, named, bound⟩
    exact ⟨e.symm i, y, k, by rw [passed, e.apply_symm_apply, ei], named, bound⟩
  | @answered t c r a eh may ec alive passed =>
    subst passed
    exact clean.answer eh may
  | @struck t r e call fail same er passed =>
    subst passed
    rw [same]
    have kept : r.entitle (fail e) (τ (.inl t)) = τ (.inl t) := by
      cases r with
      | unlink => cases spared
      | openNew | map =>
        cases er
        rfl
      | _ => rfl
    rw [kept, update_eq_self]
    exact clean
  | waited eh same =>
    subst same
    intro file here
    have store := congrArg Ledger.store (Host.ledger_wait eh)
    have here : s.host.store.get? file ≠ none := by
      rwa [← show s'.host.store = s.host.store from store]
    refine (clean file here).imp_right ?_
    rintro ⟨i, y, k, ei, named, bound⟩
    exact ⟨i, y, k, ei, named, bound.wait eh⟩
  | died => cases spared

theorem of_run {past : List Deed} (run : Run Session.Step (.ofHost h₀) past s)
    (spared : ∀ d ∈ past, d.isClean) : ∃ τ, s.IsTitled τ ∧ IsClean h₀ s.host τ := by
  induction run with
  | nil => exact ⟨_, .init h₀, fun file here => .inl here⟩
  | cons run st ih =>
    obtain ⟨last, spared⟩ := List.forall_mem_cons.1 spared
    obtain ⟨τ, titled, clean⟩ := ih spared
    obtain ⟨σ, kept⟩ := IsKeptFrom.of_run run
    obtain ⟨τ', titled', passes⟩ := titled.step (IsLent.of_run run) kept st
    exact ⟨τ', titled', clean.step passes last⟩

end IsClean

/-- While nobody dies and no call fails that takes a name away, whatever name is bound was bound at
the beginning or is one of a creator. So if no call is under way and no handle of a creator is left
that was not torn down, no name is bound that was not bound at the beginning. -/
theorem names_left_are_of_creators {past : List Deed} (run : Run Session.Step (.ofHost h₀) past s)
    (spared : ∀ d ∈ past, d.isClean) :
    (∀ file, s.host.store.get? file ≠ none →
      h₀.store.get? file ≠ none ∨ ∃ n : Name, n.file = file ∧ s.IsHeld n) ∧
    ((∀ t, s.calls t = none) →
      (∀ h x g, s.handles h = some x → x.segment? = some g → g.isEntitled = false) →
      ∀ file, s.host.store.get? file ≠ none → h₀.store.get? file ≠ none) := by
  obtain ⟨τ, titled, clean⟩ := IsClean.of_run run spared
  have held (file : String) (here : s.host.store.get? file ≠ none) :
      h₀.store.get? file ≠ none ∨ ∃ n : Name, n.file = file ∧ s.IsHeld n := by
    refine (clean file here).imp_right ?_
    rintro ⟨i, y, k, ey, named, -⟩
    exact ⟨y.name, named, i, titled.isClaimant ey⟩
  refine ⟨held, ?_⟩
  intro rest gone file here
  obtain first | ⟨n, -, t | h, claimant⟩ := held file here
  · exact first
  · obtain ⟨c, ec, -⟩ := claimant
    cases (rest t).symm.trans ec
  · obtain ⟨x, g, named⟩ := claimant
    cases (gone h x g named.handle named.segment).symm.trans named.entitled

end Session

namespace Session

/-- Another thread has taken the name of the first creator over. -/
def takenOver : List Deed × Session :=
  let c := Underway.ofOpen "b" "s" 8 (.facade (some .standard))
  after started.1 1 c.act (started.2.begin 1 c) 30

/-- The first creator has dropped its facade, and taken the name of the other away. -/
def bereft : List Deed × Session :=
  let c := Underway.ofDrop "a" (.facade (.ofSegment 8 .standard (.numbered 0)))
  after takenOver.1 0 c.act
    ({ takenOver.2 with handles := update takenOver.2.handles "a" none }.begin 0 c) 10

/-- The other has dropped its facade too. -/
def vacated : List Deed × Session :=
  let c := Underway.ofDrop "b" (.facade (.ofSegment 8 .standard (.numbered 1)))
  after bereft.1 1 c.act
    ({ bereft.2 with handles := update bereft.2.handles "b" none }.begin 1 c) 10

lemma run_takenOver : Run Step .empty takenOver.1 takenOver.2 := by
  have resting t : started.2.calls t = none := by
    cases t <;> rfl
  have takes : started.2.Step _
      (started.2.begin 1 (.ofOpen "b" "s" 8 (.facade (some .standard)))) :=
    .openHandle ⟨rfl, rfl⟩ rfl (not_isInUse (fun _ _ => rfl) resting)
  exact run_after run_started takes 30

lemma run_vacated : Run Step .empty vacated.1 vacated.2 := by
  have resting t : takenOver.2.calls t = none := by
    match t with
    | 0 | 1 | t + 2 => rfl
  have resting' t : bereft.2.calls t = none := by
    match t with
    | 0 | 1 | t + 2 => rfl
  have drops := Step.drop (s := takenOver.2) (t := 0) (h := "a") ⟨rfl, rfl⟩ rfl
    (not_isInUse (fun _ _ => rfl) resting) rfl
  have drops' := Step.drop (s := bereft.2) (t := 1) (h := "b") ⟨rfl, rfl⟩ rfl
    (not_isInUse (fun _ _ => rfl) resting') rfl
  exact run_after (run_after run_takenOver drops 10) drops' 10

end Session

/-- A creator takes the name of another over. As long as their facades are there the name is
bound, and when both are gone no name is. -/
theorem creators_of_one_name_leave_none :
    Session.takenOver.2.IsHeld .sample ∧
      ∀ file, Session.vacated.2.host.store.get? file = none := by
  have clean : ∀ d ∈ Session.takenOver.1, d.isClean := List.all_eq_true.1 rfl
  have clean' : ∀ d ∈ Session.vacated.1, d.isClean := List.all_eq_true.1 rfl
  obtain ⟨held, -⟩ := Session.names_left_are_of_creators Session.run_takenOver clean
  obtain ⟨-, left⟩ := Session.names_left_are_of_creators Session.run_vacated clean'
  constructor
  · obtain none | ⟨n, named, held⟩ := held "s" (by decide)
    · exact absurd rfl none
    · obtain rfl := Name.file_injective (named.trans (b := Name.sample.file) rfl)
      exact held
  · intro file
    by_contra bound
    refine left ?_ ?_ file bound rfl
    · intro t
      match t with
      | 0 | 1 | t + 2 => rfl
    · intro h x g ex
      have gone : Session.vacated.2.handles =
          update (update (update (update (fun _ => none)
            "a" (some (.facade (.ofSegment 8 .standard (.numbered 0)))))
            "b" (some (.facade (.ofSegment 8 .standard (.numbered 1)))))
            "a" none) "b" none := rfl
      obtain ⟨hb, ha, there⟩ : h ≠ "b" ∧ h ≠ "a" ∧ _ := by
        simpa [gone, update_apply] using ex
      simp [hb, ha] at there

end SharedSegment
