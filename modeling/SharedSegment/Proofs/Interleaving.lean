import Mathlib.Logic.Function.Basic
import Mathlib.Tactic.Lemma
import SharedSegment.Run
import SharedSegment.Scenario.Call

/-!
# Interleavings

Threads that run programs on one host take turns at every request. `Program.Step` is one step of one
thread, whichever way it goes: the host answers, the thread has to wait, or a call fails without
effect. `System.Step` lets any thread of a system make such a step, or die.

A run (`Run`) keeps the deeds in it, the latest first, and a move keeps the host that it met. So
what came before what, and what stood where at that time, can be read off a list.
`Program.steps_run` says that running a program to where it waits is one of the ways in which its
steps can go, and `System.play` gives the run of a schedule in which no call fails.
-/

namespace SharedSegment
open Function

/-- What a thread does in one step of a program. -/
inductive Move where
  /-- Puts something out. -/
  | told (o : Output)
  /-- Asks for something and is answered. -/
  | answered (r : Request) (a : r.Answer)
  /-- Asks for something and has to wait. -/
  | waited (r : Request)
  /-- Makes a call that fails without effect. -/
  | struck (r : Request) (e : Errno)

/-- One step of a program on a thread. -/
inductive Program.Step {α : Type} (t : ThreadId) :
    Program α → Host → Move → Program α → Host → Prop where
  | tell {o rest h} :
    Step t (.put o rest) h (.told o) rest h
  | answer {r next h a h'} :
    h.step t r = .done a h' →
    Step t (.ask r next) h (.answered r a) (next a) h'
  | wait {r next h h'} :
    h.step t r = .wait h' →
    Step t (.ask r next) h (.waited r) (.ask r next) h'
  | strike {r next h c fail e} :
    r.call? = some (c, fail) →
    Step t (.ask r next) h (.struck r e) (next (fail e)) h

/-- Steps of a program on a thread that nothing comes between, each with the host that it met, the
latest first. -/
inductive Program.Steps {α : Type} (t : ThreadId) (p : Program α) (h : Host) :
    List (Host × Move) → Program α → Host → Prop where
  | nil :
    Steps t p h [] p h
  | cons {ms p' h' m p'' h''} :
    Steps t p h ms p' h' →
    p'.Step t h' m p'' h'' →
    Steps t p h ((h', m) :: ms) p'' h''

/-- What is left of a program under way. -/
def Progress.rest {α : Type} : Progress α → Program α
  | .ended a => .ret a
  | .waiting r next => .ask r next

namespace Program

variable {α : Type} {t : ThreadId}

/-- A step in front of some steps. -/
lemma Steps.head {p p' p'' : Program α} {h h' h'' m ms}
    (st : p.Step t h m p' h') (sts : p'.Steps t h' ms p'' h'') :
    p.Steps t h (ms ++ [(h, m)]) p'' h'' := by
  induction sts with
  | nil => exact .cons .nil st
  | cons _ st' ih => exact .cons ih st'

lemma Step.bind {β : Type} {p p' : Program α} {h h' m} (st : p.Step t h m p' h')
    (f : α → Program β) : (p.bind f).Step t h m (p'.bind f) h' := by
  cases st with
  | tell => exact .tell
  | answer e => exact .answer e
  | wait e => exact .wait e
  | strike e => exact .strike e

/-- What comes after a program does not change its steps. -/
lemma Steps.bind {β : Type} {p p' : Program α} {h h' ms} (sts : p.Steps t h ms p' h')
    (f : α → Program β) : (p.bind f).Steps t h ms (p'.bind f) h' := by
  induction sts with
  | nil => exact .nil
  | cons _ st ih => exact .cons ih (st.bind f)

/-- A call that is made to fail gives the answer of a failing call. -/
lemma call_of_strike {f f' : Faults} {r : Request} {a}
    (e : f.strike r = (some a, f')) : ∃ c fail err, r.call? = some (c, fail) ∧ a = fail err := by
  unfold Faults.strike at e
  split at e
  case h_1 c fail ec =>
    split at e
    case h_1 err f'' em =>
      cases e
      exact ⟨c, fail, err, ec, rfl⟩
    case h_2 => cases e
  case h_2 => cases e

/-- Running a program to where it ends or waits is a way in which its steps can go. -/
theorem steps_run (p : Program α) (f : Faults) (out : List Output) (h : Host) :
    ∃ ms, p.Steps t h ms (p.run t f out h).1.progress.rest (p.run t f out h).2 := by
  induction p generalizing f out h with
  | ret a => exact ⟨[], .nil⟩
  | put o rest ih =>
    obtain ⟨ms, sts⟩ := ih f (o :: out) h
    exact ⟨_, .head .tell sts⟩
  | ask r next ih =>
    rw [run]
    split
    case h_1 a f' e =>
      obtain ⟨c, fail, err, ec, rfl⟩ := call_of_strike e
      obtain ⟨ms, sts⟩ := ih (fail err) f' out h
      exact ⟨_, .head (.strike ec) sts⟩
    case h_2 f' e =>
      split
      case h_1 a h' eh =>
        obtain ⟨ms, sts⟩ := ih a f' out h'
        exact ⟨_, .head (.answer eh) sts⟩
      case h_2 h' eh => exact ⟨_, .cons .nil (.wait eh)⟩

/-- The next step of a program on a thread when no call fails. -/
def advance (t : ThreadId) : Program α → Host → Option (Move × Program α × Host)
  | .ret _, _ => none
  | .put o rest, h => some (.told o, rest, h)
  | .ask r next, h =>
    match h.step t r with
    | .done a h' => some (.answered r a, next a, h')
    | .wait h' => some (.waited r, .ask r next, h')

lemma step_advance {p p' : Program α} {h h' m}
    (e : p.advance t h = some (m, p', h')) : p.Step t h m p' h' := by
  cases p with
  | ret a => cases e
  | put o rest =>
    cases e
    exact .tell
  | ask r next =>
    rw [advance] at e
    split at e
    case h_1 a h'' eh =>
      cases e
      exact .answer eh
    case h_2 h'' eh =>
      cases e
      exact .wait eh

end Program

/-- Something that happens in a run. -/
inductive Deed where
  /-- A thread begins a call. -/
  | began (t : ThreadId) (a : Scenario.Act)
  /-- A thread makes a step of its program, on the host as it was before. -/
  | moved (t : ThreadId) (h : Host) (m : Move)
  /-- A call is over. -/
  | returned (t : ThreadId) (a : Scenario.Act) (o : Scenario.Outcome)
  | died (t : ThreadId)

/-- Whether a deed is a move in a call. -/
def Deed.isMove : Deed → Bool
  | .moved .. => true
  | _ => false

/-- The thread whose deed it is. -/
def Deed.thread : Deed → ThreadId
  | .began t _ | .moved t _ _ | .returned t _ _ | .died t => t

/-- Whether a deed is a step in which no call fails by itself. -/
def Deed.isCalm : Deed → Bool
  | .moved _ _ (.struck ..) | .died _ => false
  | _ => true

/-- The error number in an answer that tells of a failure. -/
def Request.failure? : (r : Request) → r.Answer → Option Errno
  | .openNew .., .error e | .openExisting .., .error e | .length .., .error e | .map .., .error e
  | .unlink .., .error e | .resize .., .error e | .unmap .., .error e | .pin .., .error e
  | .mutexattrInit, .error e | .mutexattrSetpshared, .error e | .mutexattrSetrobust, .error e
  | .mutexattrSettype, .error e | .mutexattrDestroy, .error e | .mutexInit .., .error e
  | .mutexDestroy .., .error e | .lock .., .error e | .unlock .., .error e
  | .makeConsistent .., .error e | .condattrInit, .error e | .condattrSetclock, .error e
  | .condattrSetpshared, .error e | .condattrDestroy, .error e | .condInit .., .error e
  | .condDestroy .., .error e | .park .., .error e | .awake .., .error e
  | .broadcast .., .error e => some e
  | _, _ => none

/-- The error number that a thread meets by a deed. -/
def Deed.errno? : Deed → Option Errno
  | .moved _ _ (.answered r a) => r.failure? a
  | .moved _ _ (.struck _ e) => some e
  | _ => none

/-- A run of some kind of steps: the deeds in it, the latest first, and where it leads. -/
inductive Run {σ : Type} (Step : σ → Deed → σ → Prop) (s₀ : σ) : List Deed → σ → Prop where
  | nil :
    Run Step s₀ [] s₀
  | cons {past s d s'} :
    Run Step s₀ past s →
    Step s d s' →
    Run Step s₀ (d :: past) s'

namespace Run

variable {σ : Type} {Step Step' : σ → Deed → σ → Prop} {s₀ s s' : σ} {past past' : List Deed}

/-- One run goes on where another has led. -/
lemma trans (run : Run Step s₀ past s) (run' : Run Step s past' s') :
    Run Step s₀ (past' ++ past) s' := by
  induction run' with
  | nil => exact run
  | cons _ st ih => exact .cons ih st

/-- A run comes to every deed in it by a step, and goes on from there. -/
lemma split {later : List Deed} {d : Deed} {earlier : List Deed}
    (run : Run Step s₀ (later ++ d :: earlier) s) :
    ∃ s₁ s₂, Run Step s₀ earlier s₁ ∧ Step s₁ d s₂ ∧ Run Step s₂ later s := by
  induction later generalizing s with
  | nil =>
    cases run with
    | cons run st => exact ⟨_, _, run, st, .nil⟩
  | cons e later ih =>
    cases run with
    | cons run st =>
      obtain ⟨s₁, s₂, before, here, after⟩ := ih run
      exact ⟨s₁, s₂, before, here, .cons after st⟩

lemma mono (run : Run Step s₀ past s) (weaker : ∀ s d s', Step s d s' → Step' s d s') :
    Run Step' s₀ past s := by
  induction run with
  | nil => exact .nil
  | cons _ st ih => exact .cons ih (weaker _ _ _ st)

end Run

/-- Threads that each run a program on one host. -/
structure System (α : Type) where
  host : Host
  /-- What is left of the program of a thread, if there is such a thread. -/
  tasks : ThreadId → Option (Program α)

namespace System

variable {α : Type}

/-- One thread makes a step or dies. -/
inductive Step : System α → Deed → System α → Prop where
  | move {s : System α} {t p m p' h'} :
    s.tasks t = some p →
    p.Step t s.host m p' h' →
    Step s (.moved t s.host m) ⟨h', update s.tasks t (some p')⟩
  | die {s : System α} {t p} :
    s.tasks t = some p →
    Step s (.died t) ⟨s.host.bury t, update s.tasks t none⟩

/-- One turn of a thread in which no call fails; a thread that has nothing to do lets it pass. -/
def turn (s : System α) (t : ThreadId) : Option (Deed × System α) :=
  (s.tasks t).bind fun p =>
    (p.advance t s.host).map fun x =>
      (.moved t s.host x.1, ⟨x.2.2, update s.tasks t (some x.2.1)⟩)

/-- The run in which threads take turns by a schedule, behind some deeds. -/
def play : List ThreadId → List Deed → System α → List Deed × System α
  | [], past, s => (past, s)
  | t :: ts, past, s =>
    match s.turn t with
    | some (d, s') => play ts (d :: past) s'
    | none => play ts past s

lemma step_turn {s s' : System α} {t d} (e : s.turn t = some (d, s')) : s.Step d s' := by
  unfold turn at e
  obtain ⟨p, ep, e⟩ := Option.bind_eq_some_iff.1 e
  obtain ⟨⟨m, p', h'⟩, ea, e⟩ := Option.map_eq_some_iff.1 e
  cases e
  exact .move ep (Program.step_advance ea)

/-- Playing a schedule goes on with a run. -/
theorem run_play {s₀ s : System α} {past} (run : Run Step s₀ past s) (schedule : List ThreadId) :
    Run Step s₀ (play schedule past s).1 (play schedule past s).2 := by
  induction schedule generalizing past s with
  | nil => exact run
  | cons t ts ih =>
    rw [play]
    split
    case h_1 d s' e => exact ih (.cons run (step_turn e))
    case h_2 => exact ih run

end System
end SharedSegment
