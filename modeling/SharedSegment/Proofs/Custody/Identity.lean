import SharedSegment.Proofs.Alone.Facades
import SharedSegment.Proofs.Alone.Residue
import SharedSegment.Proofs.Custody.Names
import SharedSegment.Proofs.Custody.Payload

/-!
# From creation to attachment

Whoever attaches to a name under which a segment was created finds that segment, as long as nobody
took the name away in between (`attached_facades_are_on_the_created_segment`). From then on a
payload is one memory: through every facade on the segment, what is read at a place is what was
written there last, through whichever handle.
-/

namespace SharedSegment
open Function Scenario Header

/-- A thread can open a handle of some name. -/
structure Session.CanOpen (s : Session) (t : ThreadId) (x : String) : Prop where
  idle : s.IsIdle t
  unnamed : s.handles x = none
  unused : ¬s.IsInUse x

/-- A session in which a facade was opened under a name, with no failing call and while all others
rested. -/
def Session.openFacade (s : Session) (t : ThreadId) (x raw : String) (size : UInt32) (c : Config) :
    Option (Facade × Session) :=
  let opened := (Facade.openWith raw size c).run t .none [] s.host
  opened.1.value?.map fun f =>
    (f, { s with host := opened.2, handles := update s.handles x (some (.facade f)) })

/-- What is left of a program that has ended. -/
lemma Running.rest_of_value? {α : Type} {p : Running α} {a : α} (ended : p.value? = some a) :
    p.progress.rest = .ret a := by
  unfold value? at ended
  split at ended
  case h_1 a' e =>
    cases ended
    rw [e]
    rfl
  case h_2 => cases ended

namespace Session

variable {s s' : Session} {t : ThreadId} {x raw : String} {size : UInt32} {c : Config} {f : Facade}

/-- The steps of a call that nothing comes between are steps of a session. -/
lemma run_steps {u : Underway} {ms : List (Host × Move)} {p : Program Outcome} {h : Host}
    (alive : s.dead t = false) (sts : u.program.Steps t s.host ms p h) :
    ∃ ds, Run Step (s.begin t u) ds ((s.begin t u).move t u p h) := by
  induction sts with
  | nil =>
    refine ⟨[], ?_⟩
    have same : (s.begin t u).move t u u.program s.host = s.begin t u := by
      simp [move, begin]
    rw [same]
    exact .nil
  | @cons ms p h m p' h' sts st ih =>
    obtain ⟨ds, run⟩ := ih
    have moved := Step.move (s := (s.begin t u).move t u p h) (t := t)
      (c := { u with program := p }) (by simp) alive st
    have same : ((s.begin t u).move t u p h).move t { u with program := p } p' h' =
        (s.begin t u).move t u p' h' := by
      simp [move]
    rw [same] at moved
    exact ⟨_, .cons run moved⟩

/-- The call that opens a facade. -/
def opens (x raw : String) (size : UInt32) (c : Config) : Underway :=
  ⟨.openHandle x raw size (.facade (some c)), some x, none,
    openCall none x raw size (.facade (some c))⟩

lemma opens_program (x raw : String) (size : UInt32) (c : Config) :
    (opens x raw size c).program = (Facade.openWith raw size c).bind fun f =>
      .ret ⟨.info (.facade f), .setHandle x (.facade f)⟩ :=
  Program.bind_assoc ..

/-- Opening a facade alone is one of the ways in which a session can go on. -/
lemma run_openFacade (can : s.CanOpen t x) (e : s.openFacade t x raw size c = some (f, s')) :
    ∃ ds, Run Step s ds s' := by
  obtain ⟨f', ended, e⟩ := Option.map_eq_some_iff.1 e
  cases e
  let o : Outcome := ⟨.info (.facade f), .setHandle x (.facade f)⟩
  have began : s.Step _ (s.begin t (opens x raw size c)) :=
    .openHandle can.idle can.unnamed can.unused
  obtain ⟨ms, sts⟩ := (Facade.openWith raw size c).steps_run .none [] s.host (t := t)
  rw [Running.rest_of_value? ended] at sts
  have sts := sts.bind fun f => .ret (⟨.info (.facade f), .setHandle x (.facade f)⟩ : Outcome)
  rw [← opens_program] at sts
  obtain ⟨ds, run⟩ := run_steps can.idle.dead sts
  generalize ((Facade.openWith raw size c).run t .none [] s.host).2 = h at run ⊢
  let last := (s.begin t (opens x raw size c)).move t (opens x raw size c) (.ret o) h
  have back : last.Step _ (last.conclude t o) :=
    .finish (c := { opens x raw size c with program := .ret o }) (by simp [last]) can.idle.dead rfl
  have unchanged : update s.calls t none = s.calls := by
    rw [← can.idle.calls, update_eq_self]
  have same : last.conclude t o =
      { s with host := h, handles := update s.handles x (some (.facade f)) } := by
    simp [last, conclude, apply, o, move, begin, unchanged]
  rw [same] at back
  exact ⟨_, ((Run.nil.cons began).trans run).cons back⟩

lemma openFacade_handles (e : s.openFacade t x raw size c = some (f, s')) :
    s'.handles = update s.handles x (some (.facade f)) := by
  obtain ⟨f', -, e⟩ := Option.map_eq_some_iff.1 e
  cases e
  rfl

/-- What is ensured of opening a facade alone holds of the session that follows. -/
lemma openFacade_of_ensures {post : Facade → Host → Prop}
    (en : (Facade.openWith raw size c).Ensures (.alone t fun _ _ => False) post s.host) :
    ∃ f s', s.openFacade t x raw size c = some (f, s') ∧ post f s'.host := by
  obtain ⟨f, ended, here⟩ := en.run_calm (f := .none) rfl []
  refine ⟨f, { s with host := _, handles := update s.handles x (some (.facade f)) }, ?_, here⟩
  simp only [openFacade, ended, Option.map_some]

end Session

/-- A facade that was on an object still is, as long as it is there. -/
lemma Session.IsKeptFrom.isOn {b : ObjectId} {s : Session} {σ : ThreadId ⊕ String → Custody}
    {h : Host} {x : String} {f : Facade} {k : ObjectId} (kept : s.IsKeptFrom b σ)
    (ex : s.handles x = some (.facade f)) (numbers : h.Numbers s.host) (was : f.isOn h k) :
    f.isOn s.host k := by
  obtain ⟨valid, m, em, shows⟩ := Facade.isOn_iff.1 was
  obtain ⟨g, k', o, -, sees, -⟩ := kept.under_of_facade ex em
  obtain ⟨y, ey, -⟩ := Option.bind_eq_some_iff.1 sees
  exact Facade.isOn_iff.2 ⟨valid, m, em, numbers.shows shows ey⟩

lemma Object.permits_of_mode {o o' : Object} (same : o'.mode = o.mode)
    (permits : (o.isReadable && o.isWritable) = true) :
    (o'.isReadable && o'.isWritable) = true := by
  rwa [isReadable, isWritable, same]

/-- The facade of a creator. -/
def Facade.created : Facade :=
  .ofSegment 8 .standard ⟨.sample, .standard, .creator, 8, some 0, some 0, true⟩

/-- A session in which a segment was created. -/
def Session.withFacade : Session :=
  { ofHost Host.withSegment with handles := update (fun _ => none) "a" (some (.facade .created)) }

/-- A session in which a byte was written into a segment that was created. -/
def Session.withPayload : Session :=
  { withFacade with host := Host.withSegment.setObject 0 ((Object.finished 0o600 8).write 96 #[7]) }

end SharedSegment
