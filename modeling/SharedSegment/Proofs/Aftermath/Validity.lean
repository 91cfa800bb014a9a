import SharedSegment.Proofs.Aftermath.Nothing
import SharedSegment.Proofs.Custody.Identity
import SharedSegment.Proofs.Stakes.Agreement

/-!
# Valid facades and others

A facade either has a segment that can be used, and no error, or it has an error and no segment
(`Facade.IsSound`). Which of the two it is, is settled when it is opened, and nothing that is done
with other handles changes it (`facades_are_sound`).
-/

namespace SharedSegment
open Function Scenario Program

lemma Segment.isValid_iff {g : Segment} :
    g.isValid ↔ g.file.isSome ∧ g.mapping.isSome ∧ g.size ≠ 0 := by
  simp [isValid, UInt32.pos_iff_ne_zero, and_assoc]

/-- A segment that is ended with can be used. -/
def Segment.EndsValid (ends : Option Segment) (_ : Unit) : Prop :=
  ∀ g, ends = some g → g.isValid

namespace Facade

/-- A facade has a segment that can be used, or none and the reason, and the size that it was asked
for. -/
inductive IsSound (asked : UInt32) (f : Facade) : Prop where
  | valid {g} :
    f.segment = some g →
    g.isValid →
    f.size = g.size →
    f.error = none →
    IsSound asked f
  | inert {e} :
    f.segment = none →
    f.error = some e →
    f.size = asked →
    IsSound asked f

/-- All bytes of the payload, as a thread finds them. -/
def slice (f : Facade) (t : ThreadId) (h : Host) : Option (List UInt8) :=
  ((f.read 0 f.size.toNat).run t .none [] h).1.value?

section
variable {asked : UInt32} {f : Facade} {g : Segment} {t : ThreadId} {h : Host}

lemma isValid_of_segment (eg : f.segment = some g) : f.isValid = g.isValid := by
  rw [isValid, eg]
  rfl

lemma isValid_of_no_segment (eg : f.segment = none) : f.isValid = false := by
  rw [isValid, eg]
  rfl

/-- A facade without a segment has no bytes. -/
lemma slice_of_no_segment (eg : f.segment = none) : f.slice t h = some [] := by
  have nothing : f.read 0 f.size.toNat = .ret [] := by
    rw [Facade.read, if_neg (by simp [isValid_of_no_segment eg])]
    rfl
  rw [slice, nothing]
  rfl

end

section
variable {raw : String} {size : UInt32} {c : Config}

/-- Every segment that a facade is opened on can be used. -/
lemma ensures_connect_valid : (connect raw size c).Ensures (.asking fun _ => True)
    (fun r s => Segment.EndsValid r.toOption s) () := by
  refine Ensures.connect ?_ ?_ nofun
  · intro role n _ _
    refine (Segment.create_forms n c size).mono ?_
    intro r _ forms g eg
    obtain ⟨f, m, rfl⟩ := forms g eg
    have sized : size ≠ 0 := by
      rintro rfl
      cases role
    exact Segment.isValid_iff.2 ⟨rfl, rfl, sized⟩
  · intro _ n _
    refine (Segment.attach_forms n c).mono ?_
    intro r _ forms g eg
    obtain ⟨size, f, m, sized, rfl⟩ := forms g eg
    exact Segment.isValid_iff.2 ⟨rfl, rfl, sized⟩

lemma ensures_openWith_sound : (openWith raw size c).Ensures (.asking fun _ => True)
    (fun f _ => f.IsSound size) () := by
  refine ensures_connect_valid.bind ?_
  intro r _ valid
  cases r with
  | ok g => exact .valid rfl (valid g rfl) rfl rfl
  | error e => exact .inert rfl rfl rfl

lemma ensures_tryOpen_sound : (tryOpen raw size c).Ensures (.asking fun _ => True)
    (fun r _ => ∀ f, r = .ok f → f.IsSound size) () := by
  refine ensures_connect_valid.bind ?_
  intro r _ valid
  cases r with
  | ok g =>
    rintro _ ⟨⟩
    exact .valid rfl (valid g rfl) rfl rfl
  | error e => exact fun _ => nofun

end

end Facade

/-- Every facade that a call opens is sound. -/
def Program.OpensSound (asked : UInt32) (p : Program Outcome) : Prop :=
  p.Ensures (.asking fun _ => True)
    (fun o _ => ∀ y f, o.effect = .setHandle y (.facade f) → f.IsSound asked) ()

lemma opensSound_openCall (toggle : Option String) (y raw : String) (size : UInt32) (via : Via) :
    (openCall toggle y raw size via).OpensSound size := by
  have opening {α : Type} {p : Program (Except SegmentError α)} {handle : α → Handle}
      (en : p.Ensures (.asking fun _ => True)
        (fun r _ => ∀ a f, r = .ok a → handle a = .facade f → f.IsSound size) ()) :
      (opening y p handle).OpensSound size := by
    refine en.bind ?_
    intro r _ sound
    cases r with
    | error e => exact fun _ _ => nofun
    | ok a =>
      intro x f ee
      injection ee with _ ef
      exact sound a f rfl ef
  have segments (p : Program (Except SegmentError Segment)) :
      (Scenario.opening y p Handle.segment).OpensSound size := by
    refine opening (Ensures.mono ?_ (asks_anything p))
    rintro _ _ - _ _ - ⟨⟩
  cases via with
  | facade c =>
    refine opening (Facade.ensures_openWith_sound.bind ?_)
    rintro f _ sound _ _ ⟨⟩ ⟨⟩
    exact sound
  | attempt c =>
    refine opening (Facade.ensures_tryOpen_sound.mono ?_)
    rintro r _ sound f _ rfl ⟨⟩
    exact sound f rfl
  | create c | attach c => exact segments _

namespace Session

variable {s s' : Session} {d : Deed} {past : List Deed} {t : ThreadId} {y : String} {f : Facade}

/-- Every facade that a call under way opens is sound. -/
def OpensSound (s : Session) : Prop :=
  ∀ t c y raw size via, s.calls t = some c → c.act = .openHandle y raw size via →
    c.program.OpensSound size

lemma OpensSound.step (sound : s.OpensSound) (st : s.Step d s') : s'.OpensSound := by
  have begin {s₀ : Session} {t : ThreadId} {c : Underway} (same : s₀.calls = s.calls)
      (mine : ∀ y raw size via, c.act = .openHandle y raw size via → c.program.OpensSound size) :
      (s₀.begin t c).OpensSound := by
    intro t' c' y raw size via ec
    obtain ⟨-, rfl⟩ | ⟨-, ec⟩ := begin_calls_inv ec
    · exact mine y raw size via
    · exact sound t' c' y raw size via (same ▸ ec)
  cases st with
  | openHandle =>
    refine begin rfl ?_
    rintro _ _ _ _ ⟨⟩
    exact opensSound_openCall ..
  | onHandle | drop | onGuard => exact begin rfl nofun
  | @move t c m p' h' ec alive st =>
    intro t' c' y raw size via ec' act
    obtain ⟨-, rfl⟩ | ⟨-, ec'⟩ := move_calls_inv ec'
    · exact ensures_asking_step (sound t c y raw size via ec act) st
    · exact sound t' c' y raw size via ec' act
  | finish => exact fun t' c' y raw size via ec => sound t' c' y raw size via (conclude_calls_inv ec).2
  | die => exact sound

lemma OpensSound.of_run {h : Host} (run : Run Step (.ofHost h) past s) : s.OpensSound := by
  induction run with
  | nil =>
    intro t c y raw size via ec
    cases ec
  | cons run st ih => exact ih.step st

lemma IsLent.facade_run (lent : s.IsLent) (run : Run Step s past s')
    (ef : s.handles y = some (.facade f)) (kept : ∀ u, .began u (.onHandle y .drop) ∉ past) :
    s'.handles y = some (.facade f) ∧ s'.IsLent := by
  induction run with
  | nil => exact ⟨ef, lent⟩
  | cons run st ih =>
    obtain ⟨ef, lent⟩ := ih fun u mem => kept u (.tail _ mem)
    exact ⟨lent.facade_stays st ef fun u ed => kept u (ed ▸ .head _), lent.step st⟩

/-- The payload of a facade with a segment that can be used has just its size. -/
lemma IsKeptFrom.slice_of_valid {b : ObjectId} {σ : ThreadId ⊕ String → Custody} {g : Segment}
    (kept : s.IsKeptFrom b σ) (ef : s.handles y = some (.facade f)) (eg : f.segment = some g)
    (valid : g.isValid) (sized : f.size = g.size) (u : ThreadId) :
    ∃ bs, f.slice u s.host = some bs ∧ bs.length = f.size.toNat := by
  have ev : f.isValid = true := (Facade.isValid_of_segment eg).trans valid
  obtain ⟨m, em⟩ := Option.isSome_iff_exists.1 (Segment.isValid_iff.1 valid).2.1
  have ed : f.data = some m := by rw [Facade.data, eg, Option.bind_some, em]
  obtain ⟨g', k, o, eg', sees, -⟩ := kept.under_of_facade ef ed
  cases eg.symm.trans eg'
  refine ⟨_, run_read ev eg ed sees 0 f.size.toNat, ?_⟩
  rw [Object.read, List.length_map, List.length_range, sized, Nat.sub_zero, Nat.min_self]

end Session

/-- What a facade is worth is settled when it is opened. From then on, until it is dropped, it stays
what it is, and it comes to the same whether it is valid, has no error, shows a payload, or has a
payload of just its size with at least one byte; a payload without bytes is that of a facade that is
not valid. Such a facade keeps the size that it was asked for and the reason why it is not valid,
there is no guard on it, and every call on it is over when it begins, and changes nothing. -/
theorem facades_are_sound {h₀ : Host} {past later : List Deed} {s s₁ s₂ : Session} {t : ThreadId}
    {y raw : String} {size : UInt32} {via : Via} {r : Result} {f : Facade}
    (run : Run Session.Step (.ofHost h₀) past s)
    (opened : s.Step (.returned t (.openHandle y raw size via) ⟨r, .setHandle y (.facade f)⟩) s₁)
    (run' : Run Session.Step s₁ later s₂) (kept : ∀ u, .began u (.onHandle y .drop) ∉ later) :
    s₂.handles y = some (.facade f) ∧ (f.isValid ↔ f.error = none) ∧
    (f.isValid ↔ f.data.isSome) ∧
    (∀ u, ∃ bs, f.slice u s₂.host = some bs ∧
      (f.isValid ↔ f.size ≠ 0 ∧ bs.length = f.size.toNat) ∧ (f.isValid ↔ bs ≠ [])) ∧
    (f.isValid = false → f.size = size ∧ (∃ e, f.error = some e) ∧
      (∀ u n x, s₂.guards u n = some x → x.handle ≠ y) ∧
      ∀ u op s₃, s₂.Step (.began u (.onHandle y op)) s₃ → ∃ o,
        (Handle.facade f).refusal y op = some o ∧ s₃.outcome? u = some o ∧ s₃.host = s₂.host) := by
  have whole := (run.cons opened).trans run'
  obtain ⟨c, ec, alive, act, ep, rfl⟩ := opened.returned_inv
  have ef : (s.conclude t ⟨r, .setHandle y (.facade f)⟩).handles y = some (.facade f) := by
    rw [Session.conclude_setHandle rfl]
    exact update_self ..
  obtain ⟨ef, lent⟩ := (Session.IsLent.of_run (run.cons opened)).facade_run run' ef kept
  have sound := Session.OpensSound.of_run run t c y raw size via ec act
  rw [ep] at sound
  refine ⟨ef, ?_⟩
  cases sound y f rfl with
  | @valid g eg valid sized error =>
    have ev : f.isValid = true := (Facade.isValid_of_segment eg).trans valid
    obtain ⟨-, mapped, positive⟩ := Segment.isValid_iff.1 valid
    have nonzero : f.size ≠ 0 := sized ▸ positive
    have ed : f.data.isSome := by rwa [Facade.data, eg, Option.bind_some]
    refine ⟨iff_of_true ev error, iff_of_true ev ed, fun u => ?_, fun invalid => ?_⟩
    case refine_2 => cases ev.symm.trans invalid
    obtain ⟨σ, kept⟩ := Session.IsKeptFrom.of_run whole
    obtain ⟨bs, es, length⟩ := kept.slice_of_valid ef eg valid sized u
    refine ⟨bs, es, iff_of_true ev ⟨nonzero, length⟩, iff_of_true ev ?_⟩
    rintro rfl
    exact nonzero (UInt32.toNat_inj.1 length.symm)
  | @inert e eg error sized =>
    have invalid : ¬f.isValid = true := by simp [Facade.isValid_of_no_segment eg]
    have ed : f.data = none := by rw [Facade.data, eg, Option.bind_none]
    refine ⟨iff_of_false invalid (by simp [error]), iff_of_false invalid (by simp [ed]), fun u => ?_,
      fun _ => ⟨sized, ⟨e, error⟩, ?_, fun u op s₃ st => st.over_of_bare ef (.facade eg)⟩⟩
    · refine ⟨[], Facade.slice_of_no_segment eg, iff_of_false invalid ?_,
        iff_of_false invalid (· rfl)⟩
      rintro ⟨nonzero, length⟩
      exact nonzero (UInt32.toNat_inj.1 length.symm)
    · rintro u n x eg' rfl
      obtain ⟨-, -, f', ef', mapped⟩ := lent.guards u n x eg'
      cases ef.symm.trans ef'
      rw [ed] at mapped
      cases mapped

/-- A facade is opened on a segment that is not there, and is inert. -/
theorem a_facade_without_a_segment_is_inert :
    ∃ past s f, Run Session.Step (.ofHost .empty) past s ∧ s.handles "a" = some (.facade f) ∧
      f.isValid = false ∧ f.size = 0 ∧ f.error = some (.notFound "/s") ∧
      ∀ u op s', s.Step (.began u (.onHandle "a" op)) s' → ∃ o,
        (Handle.facade f).refusal "a" op = some o ∧ s'.outcome? u = some o ∧
        s'.host = s.host := by
  let c := Underway.ofOpen "a" "s" 0 (.facade (some .standard))
  have begins : Session.Step (.ofHost .empty) _ (Session.begin (.ofHost .empty) 0 c) :=
    .openHandle ⟨rfl, rfl⟩ rfl (Session.not_isInUse (fun _ _ => rfl) fun _ => rfl)
  let opened := Session.play (List.replicate 2 (0, none)) [] (Session.begin (.ofHost .empty) 0 c)
  have goes : Run Session.Step (Session.begin (.ofHost .empty) 0 c) opened.1 opened.2 :=
    Session.run_play .nil _
  have run := (Run.nil.cons begins).trans goes
  have back : opened.2.Step (.returned 0 _ _) _ := .finish rfl rfl rfl
  obtain ⟨ef, -, -, -, inert⟩ := facades_are_sound run back .nil nofun
  obtain ⟨size, -, -, ended⟩ := inert rfl
  exact ⟨_, _, _, run.cons back, ef, rfl, size, rfl, ended⟩

end SharedSegment
