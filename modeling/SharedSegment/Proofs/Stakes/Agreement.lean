import SharedSegment.Proofs.Custody.Payload
import SharedSegment.Proofs.Stakes.Holders
import SharedSegment.Proofs.Waiting.Parking

/-!
# Handles and their objects

A handle that is not torn down agrees with the object that it shows: its mapping covers just the
header and the payload, the object is as long as that, and the sizes of the handle, of its segment
and in the header are one. The size in a header is written once, and what is written through
handles and guards lies in the payload (`handles_agree_with_their_objects`).
-/

namespace SharedSegment
open Function Scenario Program Header

/-- What is left of a handle that was destroyed. -/
def Scenario.Handle.IsDestroyed (x : Handle) : Prop :=
  ∃ g, x = .segment (Segment.empty g)

/-- A handle has the size of its segment, which holds a file and a mapping. -/
def Scenario.Handle.IsWhole (x : Handle) : Prop :=
  ∀ g, x.segment? = some g → x.size = g.size ∧ g.file.isSome ∧ g.mapping.isSome

/-- Whoever ends with a segment ends with its file and its mapping. -/
def Segment.HoldsAll (ends : Option Segment) (_ : Unit) : Prop :=
  ∀ g, ends = some g → g.file.isSome ∧ g.mapping.isSome

namespace Segment

variable (n : Name) (c : Config)

/-- What making a segment ends with, if it succeeds. -/
lemma create_forms (size : UInt32) : (create n size c).Ensures (.asking fun _ => True)
    (fun r _ => ∀ g, r.toOption = some g →
      ∃ f m, g = ⟨n, c.flavor, .creator, size, some f, some m, true⟩) () := by
  have givesUp (s : Segment) (e : SegmentError) : (s.giveUp e).Ensures (.asking fun _ => True)
      (fun r _ => ∀ g, r.toOption = some g →
        ∃ f m, g = ⟨n, c.flavor, .creator, size, some f, some m, true⟩) () := by
    refine Ensures.bind (p := s.destroy) (asks_anything _) ?_
    rintro _ _ - _ ⟨⟩
  refine Ensures.bind (p := openExclusive n c) (asks_anything _) ?_
  rintro r _ -
  cases r with
  | error e => exact fun _ => nofun
  | ok f =>
    refine ⟨trivial, fun r _ _ => ?_⟩
    cases r with
    | error e => exact givesUp _ _
    | ok =>
      refine ⟨trivial, fun r _ _ => ?_⟩
      cases r with
      | error e => exact givesUp _ _
      | ok m =>
        refine Ensures.bind (p := prepare m size) (asks_anything _) ?_
        rintro r _ -
        cases r with
        | error e => exact givesUp _ _
        | ok =>
          refine Ensures.bind (p := pin n c m size) (asks_anything _) ?_
          rintro _ _ - _ ⟨⟩
          exact ⟨f, m, rfl⟩

lemma create_holds (size : UInt32) : (create n size c).Ensures (.asking fun _ => True)
    (fun r s => HoldsAll r.toOption s) () := by
  refine (create_forms n c size).mono ?_
  intro r _ forms g eg
  obtain ⟨f, m, rfl⟩ := forms g eg
  exact ⟨rfl, rfl⟩

/-- Nothing is mapped as a segment without a size. -/
lemma mapFile_forms (f : FileId) : (mapFile n c f).Ensures (.asking fun _ => True)
    (fun r _ => ∀ x, r = .ok x → x.1 ≠ 0) () := by
  refine ⟨trivial, fun r _ _ => ?_⟩
  cases r with
  | error e => exact fun _ => nofun
  | ok stored =>
    change (if stored < Layout.headerSize then _ else _ : Program _).Ensures _ _ _
    split
    case isTrue => exact fun _ => nofun
    case isFalse =>
      refine Ensures.bind (p := probe n c f) (asks_anything _) ?_
      rintro r _ -
      cases r with
      | error e => exact fun _ => nofun
      | ok size =>
        have sized : (mapWhole n f stored size).Ensures (.asking fun _ => True)
            (fun r _ => ∀ m, r = .ok m → size ≠ 0) () := by
          unfold mapWhole
          split
          case isTrue => exact fun _ => nofun
          case isFalse ne => exact Ensures.mono (fun _ _ _ _ _ => ne) (asks_anything _)
        refine sized.bind ?_
        intro r _ sized
        cases r with
        | error e => exact fun _ => nofun
        | ok m =>
          rintro _ ⟨⟩
          exact sized m rfl

/-- What looking for a segment ends with, if it succeeds. -/
lemma attach_forms : (attach n c).Ensures (.asking fun _ => True)
    (fun r _ => ∀ g, r.toOption = some g →
      ∃ size f m, size ≠ 0 ∧ g = ⟨n, c.flavor, .attacher, size, some f, some m, false⟩) () := by
  refine ⟨trivial, fun r _ _ => ?_⟩
  cases r with
  | error e => exact fun _ => nofun
  | ok f =>
    refine (mapFile_forms n c f).bind ?_
    intro r _ sized
    cases r with
    | error e => exact ⟨trivial, fun _ _ _ _ => nofun⟩
    | ok x =>
      refine Ensures.bind (p := pin n c x.2 x.1) (asks_anything _) ?_
      rintro _ _ - _ ⟨⟩
      exact ⟨x.1, f, x.2, sized x rfl, rfl⟩

lemma attach_holds : (attach n c).Ensures (.asking fun _ => True)
    (fun r s => HoldsAll r.toOption s) () := by
  refine (attach_forms n c).mono ?_
  intro r _ forms g eg
  obtain ⟨size, f, m, -, rfl⟩ := forms g eg
  exact ⟨rfl, rfl⟩

end Segment

section
variable {h raw : String} {size : UInt32} {c : Config}

lemma Facade.connect_holds : (Facade.connect raw size c).Ensures (.asking fun _ => True)
    (fun r s => Segment.HoldsAll r.toOption s) () :=
  Ensures.connect (fun _ n _ _ => Segment.create_holds n c size)
    (fun _ n _ => Segment.attach_holds n c) nofun

/-- Every handle that a call opens is whole. -/
lemma openCall_whole (toggle : Option String) (via : Via) :
    (openCall toggle h raw size via).Ensures (.asking fun _ => True)
      (fun o _ => ∀ h' x, o.effect = .setHandle h' x → x.IsWhole) () := by
  have opening {α : Type} {p : Program (Except SegmentError α)} {handle : α → Handle}
      (en : p.Ensures (.asking fun _ => True) (fun r _ => ∀ a, r = .ok a → (handle a).IsWhole) ()) :
      (opening h p handle).Ensures (.asking fun _ => True)
        (fun o _ => ∀ h' x, o.effect = .setHandle h' x → x.IsWhole) () := by
    refine en.bind ?_
    intro r _ whole
    cases r with
    | error e => exact fun _ _ => nofun
    | ok a =>
      rintro _ _ ⟨⟩
      exact whole a rfl
  have segments {p : Name → Program (Except SegmentError Segment)}
      (en : ∀ n, (p n).Ensures (.asking fun _ => True)
        (fun r s => Segment.HoldsAll r.toOption s) ()) :
      (named raw p).Ensures (.asking fun _ => True)
        (fun r _ => ∀ g, r = .ok g → (Handle.segment g).IsWhole) () := by
    refine (Ensures.named (fun n _ => en n) nofun).mono ?_
    rintro _ _ holds g rfl _ ⟨⟩
    exact ⟨rfl, holds g rfl⟩
  have facades (size : UInt32) (c : Config) (g : Segment)
      (holds : g.file.isSome ∧ g.mapping.isSome) :
      (Handle.facade (.ofSegment size c g)).IsWhole := by
    rintro _ ⟨⟩
    exact ⟨rfl, holds⟩
  cases via with
  | facade c =>
    have opens (c : Config) : (Facade.openWith raw size c).Ensures (.asking fun _ => True)
        (fun f _ => (Handle.facade f).IsWhole) () := by
      refine Facade.connect_holds.bind ?_
      intro r _ holds
      cases r with
      | ok g => exact facades _ _ g (holds g rfl)
      | error e => exact fun _ => nofun
    refine opening ((opens _).bind ?_)
    rintro f _ whole _ ⟨⟩
    exact whole
  | attempt c =>
    refine opening (Facade.connect_holds.bind ?_)
    intro r _ holds
    cases r with
    | ok g =>
      rintro _ ⟨⟩
      exact facades _ _ g (holds g rfl)
    | error e => exact fun _ => nofun
  | create c => exact opening (segments fun n => Segment.create_holds n c size)
  | attach c => exact opening (segments fun n => Segment.attach_holds n c)

end

/-- Every handle was opened as one of some kind, and stays as it is until it is destroyed. -/
structure Session.HasOpened (kind : Handle → Prop) (s : Session) : Prop where
  handles : ∀ h x, s.handles h = some x → x.IsDestroyed ∨ kind x
  programs : ∀ t c, s.calls t = some c → c.act.opensHandle →
    c.program.Ensures (.asking fun _ => True)
      (fun o _ => ∀ h x, o.effect = .setHandle h x → kind x) ()

namespace Session.HasOpened

variable {kind : Handle → Prop} {b : ObjectId} {s s' : Session}
  {σ : ThreadId ⊕ String → Custody} {d : Deed}
  (opens : ∀ toggle h raw size via, (openCall toggle h raw size via).Ensures (.asking fun _ => True)
    (fun o _ => ∀ h' x, o.effect = .setHandle h' x → kind x) ())

include opens

theorem step (opened : s.HasOpened kind) (kept : s.IsKeptFrom b σ) (st : s.Step d s') :
    s'.HasOpened kind := by
  have begin {handles : String → Option Handle} {t : ThreadId} {c : Underway}
      (fewer : ∀ h x, handles h = some x → s.handles h = some x)
      (mine : c.act.opensHandle → c.program.Ensures (.asking fun _ => True)
        (fun o _ => ∀ h x, o.effect = .setHandle h x → kind x) ()) :
      ({ s with handles }.begin t c).HasOpened kind := by
    refine ⟨fun h x ex => opened.handles h x (fewer h x ex), ?_⟩
    intro t' c' ec opens
    obtain ⟨-, rfl⟩ | ⟨-, ec⟩ := begin_calls_inv ec
    · exact mine opens
    · exact opened.programs t' c' ec opens
  cases st with
  | openHandle => exact begin (fun _ _ ex => ex) fun _ => opens ..
  | onHandle | onGuard => exact begin (fun _ _ ex => ex) nofun
  | drop =>
    refine begin ?_ nofun
    intro h x ex
    obtain ⟨-, ⟨⟩⟩ | ⟨-, ex⟩ := update_inv ex
    exact ex
  | @move t c m p' h' ec alive st =>
    refine ⟨opened.handles, ?_⟩
    intro t' c' ec' opens
    obtain ⟨-, rfl⟩ | ⟨-, ec'⟩ := move_calls_inv ec'
    · exact ensures_asking_step (opened.programs t c ec opens) st
    · exact opened.programs t' c' ec' opens
  | @finish t c o ec alive ep =>
    refine ⟨?_, fun t' c' ec' => opened.programs t' c' (conclude_calls_inv ec').2⟩
    have yields := kept.calls t c ec alive
    rw [ep] at yields
    intro h x ex
    cases Act.Yields.returns yields with
    | spares spares =>
      rw [conclude_handles spares] at ex
      exact opened.handles h x ex
    | opens act ee =>
      have ends := opened.programs t c ec (by rw [act]; rfl)
      rw [ep] at ends
      rw [conclude_setHandle ee] at ex
      obtain ⟨-, ⟨⟩⟩ | ⟨-, ex⟩ := update_inv ex
      · exact .inr (ends _ _ ee)
      · exact opened.handles h x ex
    | destroys act ee =>
      rw [conclude_setHandle ee] at ex
      obtain ⟨-, ⟨⟩⟩ | ⟨-, ex⟩ := update_inv ex
      · exact .inl ⟨_, rfl⟩
      · exact opened.handles h x ex
  | die => exact ⟨opened.handles, opened.programs⟩

theorem of_run {h : Host} {past : List Deed} (run : Run Session.Step (.ofHost h) past s) :
    s.HasOpened kind := by
  induction run with
  | nil =>
    refine ⟨?_, ?_⟩
    · intro h x ex
      cases ex
    · intro t c ec
      cases ec
  | cons run st ih =>
    obtain ⟨σ, kept⟩ := Session.IsKeptFrom.of_run run
    exact ih.step opens kept st

end Session.HasOpened

/-- Handles are whole until they are destroyed. -/
lemma Session.hasOpened_whole {h : Host} {past : List Deed} {s : Session}
    (run : Run Session.Step (.ofHost h) past s) : s.HasOpened Handle.IsWhole :=
  .of_run (fun _ _ _ _ => openCall_whole _) run

/-- Bytes of an object may have changed between two places, and nothing else of it. -/
structure Object.IsRewritten (o : Object) (start stop : Nat) (o' : Object) : Prop where
  rest : o' = { o with bytes := o'.bytes }
  bytes : ∀ i, i < start ∨ stop ≤ i → o'.bytes i = o.bytes i

lemma Object.isRewritten_write (o : Object) {start stop off : Nat} {bs : Array UInt8}
    (behind : start ≤ off) (within : ∀ i < bs.size, off + i < stop) :
    o.IsRewritten start stop (o.write off bs) := by
  refine ⟨rfl, ?_⟩
  intro i outside
  have other : ¬(off ≤ i ∧ i < off + bs.size) := by
    rintro ⟨le, lt⟩
    have := within (i - off) (by omega)
    omega
  simp [write, other]

/-- What a call asks for that writes into a payload. -/
lemma Underway.uses_of_writes {c : Underway} {r : Request} (may : c.MayAsk r)
    (writes : c.act.writes) :
    ∃ x g, c.subject = some x ∧ x.segment? = some g ∧ g.Uses true r := by
  obtain ⟨act, uses, subject, program⟩ := c
  cases act with
  | onHandle h op =>
    cases op with
    | write => exact may
    | _ => cases writes
  | onGuard n op =>
    cases op with
    | write => exact may
    | _ => cases writes
  | _ => cases writes

namespace Session

variable {s s' : Session} {t : ThreadId} {c : Underway} {m : Move}

/-- Whoever writes into a payload changes bytes of that payload at most. -/
lemma IsConfined.writes_payload (confined : s.IsConfined) (ec : s.calls t = some c)
    (writes : c.act.writes) (st : s.Step (.moved t s.host m) s') :
    s'.host = s.host ∨ ∃ x g i k o o', c.subject = some x ∧ x.segment? = some g ∧
      g.mapping = some i ∧ s.host.under? i = some (k, o) ∧ s'.host = s.host.setObject k o' ∧
      o.IsRewritten Layout.headerSize (total g.size) o' := by
  have asked {r : Request} {next : r.Answer → Program Outcome} (ep : c.program = .ask r next) :
      ∃ x g i off bs, c.subject = some x ∧ x.segment? = some g ∧ r = .write i off bs ∧
        g.mapping = some i ∧ Layout.headerSize ≤ off ∧ ∀ j < bs.size, off + j < total g.size := by
    obtain ⟨x, g, sub, eg, uses⟩ := Underway.uses_of_writes (confined.asks ec ep) writes
    cases r with
    | write i off bs => exact ⟨x, g, i, off, bs, sub, eg, rfl, uses.2⟩
    | lock | unlock | makeConsistent | park | awake | broadcast | read => cases uses.1
    | _ => cases uses
  cases st with
  | @move _ _ _ p' h' ec' alive st =>
    cases ec.symm.trans ec'
    cases c with
    | mk act uses subject program =>
      cases st with
      | tell | strike => exact .inl rfl
      | wait eh =>
        obtain ⟨x, g, i, off, bs, -, -, rfl, -⟩ := asked rfl
        cases eh
      | answer eh =>
        obtain ⟨x, g, i, off, bs, sub, eg, rfl, em, behind, within⟩ := asked rfl
        cases sees : s.host.under? i with
        | none =>
          refine .inl ?_
          simp only [Host.step, Host.change, sees] at eh
          cases eh
          rfl
        | some y =>
          obtain ⟨k, o⟩ := y
          cases (Host.step_write sees off bs).symm.trans eh
          exact .inr ⟨x, g, i, k, o, _, sub, eg, em, sees, rfl, o.isRewritten_write behind within⟩

end Session

/-- On a host that nobody edits from outside, a handle that is not torn down agrees with its object:
its mapping covers the header and the payload and no more, and the sizes of the handle, of its
segment and in the header of the object are one, as is the length of every object that was made
since. Headers begin without a size, and a size that is there stays. Who writes through a handle or
a guard, wherever and however much, changes bytes of that payload and nothing else. -/
theorem handles_agree_with_their_objects {h₀ : Host} {past : List Deed} {s : Session}
    (run : Run Session.Step (.ofHost h₀) past s) :
    (∀ y x g, s.handles y = some x → x.segment? = some g → g.size ≠ 0 → ¬s.IsDestroying y →
      ¬x.IsDestroyed → ∃ m k o, g.mapping = some m ∧ s.host.mapping? m = some ⟨k, total g.size⟩ ∧
        s.host.object? k = some o ∧ o.sizeField = g.size ∧ x.size = g.size ∧
        (h₀.objects.length ≤ k → o.length = total g.size)) ∧
    (∀ d s' k o, s.Step d s' → s.host.object? k = none → s'.host.object? k = some o →
      o.sizeField = 0) ∧
    (∀ later s' k o, Run Session.Step s later s' → s.host.object? k = some o → o.sizeField ≠ 0 →
      ∃ o', s'.host.object? k = some o' ∧ o'.sizeField = o.sizeField) ∧
    ∀ t c m s', s.calls t = some c → c.act.writes → s.Step (.moved t s.host m) s' →
      s'.host = s.host ∨ ∃ x g i k o o', c.subject = some x ∧ x.segment? = some g ∧
        g.mapping = some i ∧ s.host.under? i = some (k, o) ∧ s'.host = s.host.setObject k o' ∧
        o.IsRewritten Layout.headerSize (total g.size) o' := by
  obtain ⟨ρ, ⟨σ, kept⟩, -, confined, staked⟩ := Session.IsRegular.of_run run
  refine ⟨?_, ?_, ?_, fun t c m s' ec writes st => confined.writes_payload ec writes st⟩
  · intro y x g ex eg positive idle standing
    have isWhole := ((Session.hasOpened_whole run).handles y x ex).resolve_left standing
    obtain ⟨size, -, mapped⟩ := isWhole g eg
    obtain ⟨m, em⟩ := Option.isSome_iff_exists.1 mapped
    obtain ⟨covers, whole⟩ := ((kept.handles y x ex).resolve_right fun busy => idle busy.1) g eg
    obtain ⟨k, o, sees, field, -⟩ := kept.under_of_covers covers whole em
    obtain ⟨shows, here⟩ := Host.under?_eq_some_iff.1 sees
    obtain ⟨z, ez, shown⟩ := (Option.any_eq_true ..).1 shows
    obtain rfl := beq_iff_eq.1 shown
    have mine := (staked.handles y x g ex eg).mapping m em
    obtain ⟨-, f, k', -, known⟩ := (staked.holders.fits _).mapping m _ mine
    obtain rfl := known z ez
    refine ⟨m, k', o, em, ez, here, field, size, fun le => ?_⟩
    have sane := kept.custodians.sane k' _ le (Host.outline?_of_object here)
    have published : o.sizeField ≠ 0 := by rwa [field]
    rw [← field]
    exact sane.length published
  · intro d s' k o st absent here
    obtain gone | ⟨mode, fresh⟩ := kept.absent_step st absent
    · cases gone.symm.trans here
    · cases fresh.symm.trans here
      simp [Object.sizeField, Object.fresh]
  · intro later s' k o run' here published
    obtain ⟨o', here', -, size⟩ := kept.published_run run' k o here published
    exact ⟨o', here', size⟩

/-- A segment was created, and its facade agrees with it. -/
theorem created_facade_agrees :
    ∃ s past x g m o, Run Session.Step .empty past s ∧ s.handles "a" = some x ∧
      x.segment? = some g ∧ g.size = 8 ∧ g.mapping = some m ∧ s.host.mapping? m = some ⟨0, 104⟩ ∧
      s.host.object? 0 = some o ∧ o.length = 104 ∧ o.sizeField = 8 ∧ x.size = 8 := by
  have resting t : Session.started.2.calls t = none := by
    cases t <;> rfl
  have idle : ¬Session.started.2.IsDestroying "a" := by
    rintro ⟨t, c, ec, -⟩
    cases (resting t).symm.trans ec
  have run : Run Session.Step (.ofHost .empty) Session.started.1 Session.started.2 :=
    Session.run_started
  obtain ⟨agree, -⟩ := handles_agree_with_their_objects run
  obtain ⟨m, k, o, em, mapped, here, field, size, length⟩ :=
    agree "a" _ _ rfl rfl (by decide) idle (by rintro ⟨_, ⟨⟩⟩)
  obtain rfl : m = 0 := (Option.some.inj em).symm
  obtain rfl : k = 0 := congrArg Mapping.object (Option.some.inj mapped).symm
  exact ⟨_, _, _, _, 0, o, Session.run_started, rfl, rfl, rfl, em, mapped, here,
    length (Nat.le_refl 0), field, size⟩

end SharedSegment
