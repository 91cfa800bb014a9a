import SharedSegment.Proofs.Alone.Facades
import SharedSegment.Proofs.Custody.Names
import SharedSegment.Proofs.Custody.Objects
import SharedSegment.Proofs.Naming.Claiming

/-!
# What a title stands for

As long as nobody else lays claim to its name, a title stands for an object that the name is bound
to, and the file and the mapping of the title are on that object (`Title.Stands`). What others ask
for leaves this as it is (`Title.Stands.step`), and so does what the holder of the title asks for
(`Title.Stands.answer`).
-/

namespace SharedSegment
open Function Scenario Program

/-- An act opens no handle with settings that are not admitted. Facades check theirs by
themselves. -/
def Scenario.Act.IsAdmitted : Act → Prop
  | .openHandle _ _ _ (.create c) => Config.IsMode c.mode
  | _ => True

/-- A thread begins no act that opens a handle with settings that are not admitted. -/
def Deed.IsAdmitted : Deed → Prop
  | .began _ act => act.IsAdmitted
  | _ => True

/-- The owner of an object may read and write it. -/
def Object.IsOpen (o : Object) : Prop :=
  o.mode &&& Config.ownerReadWrite = Config.ownerReadWrite

/-- No request takes the owner's permission away. -/
lemma Request.isOpen_remake {o : Object} (t : ThreadId) (r : Request) (isOpen : o.IsOpen) :
    (r.remake t o).IsOpen := by
  cases r with
  | resize f len => exact Object.resize_owner len isOpen
  | park m =>
    change (Host.park t o).2.IsOpen
    unfold Host.park
    split
    · exact isOpen
    · exact isOpen
  | awake m =>
    simp only [remake]
    split
    · exact isOpen
    · exact isOpen
  | _ => exact isOpen

namespace Host

variable {h : Host} {t : ThreadId} {n : Name} {k : ObjectId}

lemma numbers_host (h : Host) (t : ThreadId) (r : Request) : h.Numbers (h.step t r).host := by
  cases e : h.step t r with
  | done a h' => exact numbers_step e
  | wait h' =>
    have same := ledger_wait e
    exact .of_tables (congrArg Ledger.files same) (congrArg Ledger.mappings same)

lemma IsBound.host {r : Request} (bound : h.IsBound n k) (t : ThreadId) (spared : r ≠ .unlink n) :
    (h.step t r).host.IsBound n k := by
  cases e : h.step t r with
  | done a h' => exact bound.step e spared
  | wait h' => exact bound.wait e

/-- No request takes an object away. -/
lemma objects_length_le (h : Host) (t : ThreadId) (r : Request) :
    h.objects.length ≤ (h.step t r).host.objects.length := by
  by_contra lt
  have here := List.getElem?_eq_getElem (Nat.lt_of_not_le lt)
  obtain ⟨le, -⟩ := List.getElem?_eq_some_iff.1 (object_step here t r)
  exact Nat.lt_irrefl _ le

end Host

/-- A title stands for an object that was not there at the beginning. -/
structure Title.Stands (b : ObjectId) (h : Host) (y : Title) (k : ObjectId) : Prop where
  new : b ≤ k
  bound : h.IsBound y.name k
  file : y.file < h.files.length
  opens : ∀ k', h.file? y.file = some k' → k' = k
  mapping : ∀ m, y.mapping = some m → m < h.mappings.length
  shows : ∀ m k', y.mapping = some m → h.shows m k' → k' = k
  object : ∃ o, h.object? k = some o ∧ (Config.IsMode y.mode → o.IsOpen)

namespace Title.Stands

variable {b : ObjectId} {h h' : Host} {y : Title} {k : ObjectId} {t : ThreadId}

/-- What is asked for leaves titles as they are to other names than the one that is taken away. -/
theorem step {r : Request} (stands : y.Stands b h k) (t : ThreadId) (spared : r ≠ .unlink y.name) :
    y.Stands b (h.step t r).host k := by
  have numbers := h.numbers_host t r
  obtain ⟨o, here, isOpen⟩ := stands.object
  refine ⟨stands.new, stands.bound.host t spared,
    Nat.lt_of_lt_of_le stands.file numbers.files.more, ?_, ?_, ?_, ?_⟩
  · intro k' opens
    exact stands.opens k' (numbers.files.same _ stands.file k' opens)
  · intro m em
    exact Nat.lt_of_lt_of_le (stands.mapping m em) numbers.mappings.more
  · intro m k' em shows
    exact stands.shows m k' em (numbers.shown (stands.mapping m em) shows)
  · refine ⟨_, Host.object_step here t r, fun admitted => ?_⟩
    split
    · exact r.isOpen_remake t (isOpen admitted)
    · exact isOpen admitted

/-- Who makes an object under a name has a title that stands for it. -/
lemma made {n : Name} {mode : UInt32} (le : b ≤ h.objects.length)
    (free : h.store.place n = .file none) :
    (⟨n, mode, h.files.length, none⟩ : Title).Stands b
      (h.grown (h.store.insert n.file (.object h.objects.length)) [.fresh mode]
        [some h.objects.length] []) h.objects.length := by
  refine ⟨le, Store.place_insert free, by simp [Host.grown], ?_, nofun, nofun, ?_⟩
  · intro k' opens
    rw [Host.file?_grown] at opens
    exact (Option.some.inj opens).symm
  · exact ⟨_, Host.object?_grown, Object.fresh_owner⟩

/-- A file that is mapped shows its object in the mapping. -/
lemma mapped {len m : Nat} (stands : y.Stands b h k)
    (e : h.step t (.map y.file len) = .done (α := Except Errno Nat) (.ok m) h') :
    ({ y with mapping := some m } : Title).Stands b h' k := by
  have after := stands.step t (r := .map y.file len) nofun
  rw [e] at after
  obtain ⟨-, eq⟩ | ⟨k₀, o, -, opened, eq⟩ := h.onFile_cases y.file fun id _ =>
    (h.mappings.length, { h with mappings := h.mappings ++ [some ⟨id, len⟩] })
  · simp only [Host.step, Host.reply, eq] at e
    cases e
  have opens : h.file? y.file = some k₀ := by
    rw [Host.ledger_opened?] at opened
    obtain ⟨x, found, e⟩ := Option.map_eq_some_iff.1 opened
    obtain ⟨k', ef, found⟩ := Option.bind_eq_some_iff.1 found
    obtain ⟨o', -, rfl⟩ := Option.map_eq_some_iff.1 found
    exact ef.trans (congrArg (some ∘ Prod.fst) e)
  obtain rfl := stands.opens k₀ opens
  simp only [Host.step, Host.reply, eq] at e
  cases e
  refine ⟨stands.new, after.bound, after.file, after.opens, ?_, ?_, after.object⟩
  · rintro _ ⟨⟩
    simp
  · rintro _ k' ⟨⟩ shows
    obtain ⟨x, ex, shown⟩ := (Option.any_eq_true ..).1 shows
    simp [Host.mapping?] at ex
    subst ex
    exact (beq_iff_eq.1 shown).symm

/-- Whoever has a title that stands for an object has one after an answer too, if any. -/
theorem answer {x : Option Title} {r : Request} {a : r.Answer} {claims : Name → Prop}
    {sets : UInt32 → Prop} (le : b ≤ h.objects.length)
    (stand : ∀ y, x = some y → ∃ k, y.Stands b h k) (e : h.step t r = .done a h')
    (may : (Protocol.naming claims sets).Permits x r) :
    ∀ y, r.entitle a x = some y → ∃ k, y.Stands b h' k := by
  intro y ey
  cases Request.arises ey with
  | @made n mode f =>
    cases Host.rebinds_step e with
    | made free => exact ⟨_, made le free⟩
    | kept other => exact absurd rfl (other n mode)
  | @mapped z len m =>
    obtain ⟨k, stands⟩ := stand z rfl
    exact ⟨k, stands.mapped e⟩
  | kept spared =>
    obtain ⟨k, stands⟩ := stand y rfl
    have after := stands.step t (spared y.name)
    rw [e] at after
    exact ⟨k, after⟩

lemma bury (stands : y.Stands b h k) (t : ThreadId) : y.Stands b (h.bury t) k := by
  obtain ⟨o, here, isOpen⟩ := stands.object
  exact ⟨stands.new, stands.bound, stands.file, stands.opens, stands.mapping, stands.shows,
    o.bury t, Host.object?_bury here t, isOpen⟩

end Title.Stands

namespace Session

variable {b : ObjectId} {s s' : Session} {τ τ' : ThreadId ⊕ String → Option Title} {d : Deed}

/-- A thread that is in a call has begun it. -/
lemma began_of_run {s₀ : Session} {past : List Deed} (run : Run Step s₀ past s)
    (rested : ∀ t, s₀.calls t = none) {t : ThreadId} {c : Underway} (ec : s.calls t = some c) :
    .began t c.act ∈ past := by
  induction run generalizing t c with
  | nil => cases (rested t).symm.trans ec
  | cons run st ih =>
    cases st with
    | openHandle | onHandle | drop | onGuard =>
      obtain ⟨rfl, rfl⟩ | ⟨-, ec⟩ := begin_calls_inv ec
      · exact List.mem_cons_self
      · exact List.mem_cons_of_mem _ (ih ec)
    | move ec' =>
      obtain ⟨rfl, rfl⟩ | ⟨-, ec⟩ := move_calls_inv ec
      · have began := ih ec'
        exact List.mem_cons_of_mem _ began
      · exact List.mem_cons_of_mem _ (ih ec)
    | finish => exact List.mem_cons_of_mem _ (ih (conclude_calls_inv ec).2)
    | die => exact List.mem_cons_of_mem _ (ih ec)

/-- All titles stand for objects. -/
structure IsOwned (b : ObjectId) (s : Session) (τ : ThreadId ⊕ String → Option Title) : Prop where
  length : b ≤ s.host.objects.length
  stand : ∀ i y, τ i = some y → ∃ k, y.Stands b s.host k

/-- All titles are to objects that were made with admitted modes. -/
def IsOrderly (τ : ThreadId ⊕ String → Option Title) : Prop :=
  ∀ i y, τ i = some y → Config.IsMode y.mode

/-- Titles stay orderly while only admitted settings are asked for. -/
lemma IsOrderly.step (orderly : IsOrderly τ) (passes : s.Passes s' τ τ' d)
    (admitted : ∀ t c, s.calls t = some c → c.act.IsAdmitted) : IsOrderly τ' := by
  have changed {t : ThreadId} {x : Option Title} (mine : ∀ y, x = some y → Config.IsMode y.mode) :
      IsOrderly (update τ (.inl t) x) := by
    intro i y ey
    obtain ⟨-, rfl⟩ | ⟨-, ey⟩ := update_inv ey
    · exact mine y rfl
    · exact orderly i y ey
  cases passes with
  | handed e same passed => exact fun i y ey => orderly (e i) y (passed i ▸ ey)
  | @answered t c r a eh may ec alive passed =>
    subst passed
    refine changed fun y ey => ?_
    generalize ex : τ (.inl t) = x at ey may
    cases Request.arises ey with
    | @made n mode f =>
      have sets : c.Sets mode := may.2.1
      have fits := admitted t c ec
      unfold Underway.Sets at sets
      split at sets
      case h_1 h raw size via act =>
        obtain ⟨cfg, allows, rfl⟩ := sets
        rw [act] at fits
        cases via with
        | facade | attempt => exact allows
        | create =>
          obtain rfl := allows
          exact fits
        | attach => exact allows.elim
      case h_2 => exact sets.elim
    | @mapped z => exact orderly _ z ex
    | kept => exact orderly _ y ex
  | @struck t r e call fail same er passed =>
    subst passed
    refine changed fun y ey => ?_
    cases r with
    | unlink => cases ey
    | openNew | map =>
      cases er
      exact orderly _ y ey
    | _ => exact orderly _ y ey
  | waited eh same =>
    subst same
    exact orderly
  | died same passed =>
    subst passed
    exact changed nofun

namespace IsOwned

/-- Nobody takes a name away that somebody else has a title to. -/
lemma spared {t : ThreadId} {c : Underway} {r : Request} {i : ThreadId ⊕ String} {y : Title}
    (titled : s.IsTitled τ) (sole : s.IsSole) (ec : s.calls t = some c) (alive : s.dead t = false)
    (may : (Protocol.naming (Underway.Claims c) c.Sets).Permits (τ (.inl t)) r)
    (ey : τ i = some y) (other : i ≠ .inl t) : r ≠ .unlink y.name := by
  rintro rfl
  exact other (sole y.name _ _ (titled.isClaimant ey) ⟨c, ec, alive, may.1⟩)

theorem step (owned : s.IsOwned b τ) (titled : s.IsTitled τ) (sole : s.IsSole)
    (passes : s.Passes s' τ τ' d) : s'.IsOwned b τ' := by
  cases passes with
  | handed e same passed =>
    refine ⟨same ▸ owned.length, fun i y ey => ?_⟩
    rw [same]
    exact owned.stand (e i) y (passed i ▸ ey)
  | @answered t c r a eh may ec alive passed =>
    subst passed
    have longer := s.host.objects_length_le t r
    rw [eh] at longer
    refine ⟨Nat.le_trans owned.length longer, fun i y ey => ?_⟩
    by_cases ei : i = .inl t
    · subst ei
      rw [update_self] at ey
      exact Title.Stands.answer owned.length (owned.stand _) eh may y ey
    · rw [update_of_ne ei] at ey
      obtain ⟨k, stands⟩ := owned.stand i y ey
      have after := stands.step t (spared titled sole ec alive may ey ei)
      rw [eh] at after
      exact ⟨k, after⟩
  | @struck t r e call fail same er passed =>
    subst passed
    refine ⟨same ▸ owned.length, fun i y ey => ?_⟩
    rw [same]
    by_cases ei : i = .inl t
    · subst ei
      rw [update_self] at ey
      cases r with
      | unlink => cases ey
      | openNew | map =>
        cases er
        exact owned.stand _ y ey
      | _ => exact owned.stand _ y ey
    · rw [update_of_ne ei] at ey
      exact owned.stand i y ey
  | @waited t r eh same =>
    subst same
    have longer := s.host.objects_length_le t r
    rw [eh] at longer
    refine ⟨Nat.le_trans owned.length longer, fun i y ey => ?_⟩
    obtain ⟨k, stands⟩ := owned.stand i y ey
    have after := stands.step t (r := r) (by rintro rfl; cases eh)
    rw [eh] at after
    exact ⟨k, after⟩
  | @died t same passed =>
    subst passed
    refine ⟨?_, fun i y ey => ?_⟩
    · rw [same]
      simpa [Host.bury] using owned.length
    · obtain ⟨-, ⟨⟩⟩ | ⟨-, ey⟩ := update_inv ey
      obtain ⟨k, stands⟩ := owned.stand i y ey
      exact ⟨k, same ▸ stands.bury t⟩

/-- Titles stand for objects in every session in which nobody begins to create a segment under a
name that some creator has. -/
theorem of_run {h : Host} {past : List Deed} (run : Run ModestStep (.ofHost h) past s) :
    ∃ τ, s.IsTitled τ ∧ s.IsOwned h.objects.length τ ∧
      ((∀ d ∈ past, d.IsAdmitted) → IsOrderly τ) := by
  induction run with
  | nil => exact ⟨_, .init h, ⟨Nat.le_refl _, nofun⟩, fun _ => nofun⟩
  | cons run st ih =>
    obtain ⟨τ, titled, owned, orderly⟩ := ih
    have sole := IsSole.of_run run
    have run := run.mono fun _ _ _ st => st.1
    obtain ⟨σ, kept⟩ := IsKeptFrom.of_run run
    obtain ⟨τ', titled', passes⟩ := titled.step (IsLent.of_run run) kept st.1
    refine ⟨τ', titled', owned.step titled sole passes, fun admitted => ?_⟩
    have admitted := (List.forall_mem_cons.1 admitted).2
    refine (orderly admitted).step passes fun t c ec => ?_
    exact admitted _ (began_of_run run (fun _ => rfl) ec)

end IsOwned
end Session
end SharedSegment
