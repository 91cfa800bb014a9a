import SharedSegment.Counter
import SharedSegment.Proofs.Requests

/-!
# Critical sections

A critical section takes a guard on a facade, works on the payload under it, and drops the guard.
What it does next may depend on all that it has read. `Work.exec` says what the work comes to when
nobody comes between, and `Serial` does this for sections of several threads, one section after the
other, in a given order of threads.

The section that adds one to a counter is the counter's own program: `programs_replicate_tally`.
-/

namespace SharedSegment
open Function

/-- What is done with a payload under a guard. -/
inductive Work where
  | finish
  | read (off len : Nat) (next : List UInt8 → Work)
  /-- Writes, and is told how many bytes were written. -/
  | write (off : Nat) (bs : List UInt8) (next : Nat → Work)

namespace Work

/-- Work as a program, up to the drop of the guard. -/
def program (f : Facade) : Work → Program Unit
  | .finish => f.unlock
  | .read off len next => do
    let bs ← f.read off len
    (next bs).program f
  | .write off bs next => do
    let n ← f.write off bs
    (next n).program f

/-- What work comes to on an object with a payload of some size: what it reads, and the object after
it. -/
def exec (size : Nat) : Work → Object → List (List UInt8) × Object
  | .finish, o => ([], o)
  | .read off len next, o =>
    let bs := o.read (Layout.headerSize + off) (min len (size - off))
    let (reads, o) := (next bs).exec size o
    (bs :: reads, o)
  | .write off bs next, o =>
    let fitting := bs.take (size - off)
    (next fitting.length).exec size (o.write (Layout.headerSize + off) fitting.toArray)

/-- Adds one to the counter in front. -/
def tally : Work :=
  .read 0 Counter.width fun bs =>
    .write 0 (Counter.toBytes Counter.width (Counter.ofBytes bs + 1)) fun _ => .finish

lemma exec_mutex (size : Nat) (w : Work) (o : Object) : (w.exec size o).2.mutex = o.mutex := by
  induction w generalizing o with
  | finish => rfl
  | read off len next ih => exact ih _ o
  | write off bs next ih => exact ih _ _

end Work

/-- Work under a guard on a facade. -/
structure Section where
  facade : Facade
  work : Work

namespace Section

/-- The payload size that a section sees. -/
def size (c : Section) : Nat :=
  c.facade.segment.elim 0 fun s => s.size.toNat

def program (c : Section) : Program Unit := do
  match ← c.facade.guard with
  | none => return ()
  | some _ => c.work.program c.facade

/-- Some sections, one after the other. -/
def programs : List Section → Program Unit
  | [] => return ()
  | c :: cs => do
    c.program
    programs cs

/-- Counting under a guard is what the counter does. -/
lemma program_tally (f : Facade) : (Section.mk f .tally).program = Counter.increment f := rfl

/-- Counting some times is what the counter does. -/
theorem programs_replicate_tally (f : Facade) (n : Nat) :
    programs (List.replicate n ⟨f, .tally⟩) = Counter.incrementTimes f n := by
  induction n with
  | zero => rfl
  | succ n ih =>
    rw [List.replicate_succ, programs, Counter.incrementTimes, program_tally, ih]

end Section

/-- How far sections have come that run one after the other. -/
structure Serial where
  /-- The sections that each thread still has before it. -/
  rest : ThreadId → List Section
  /-- What was read, in order, and by whom. -/
  reads : List (ThreadId × List UInt8)
  object : Object

namespace Serial

/-- A thread runs its next section. -/
def turn (s : Serial) (t : ThreadId) : Serial :=
  match s.rest t with
  | [] => s
  | c :: cs =>
    let (reads, object) := c.work.exec c.size s.object
    ⟨update s.rest t cs, s.reads ++ reads.map (t, ·), object⟩

/-- Threads run their sections in some order. -/
def run (sections : ThreadId → List Section) (o : Object) (order : List ThreadId) : Serial :=
  order.foldl turn ⟨sections, [], o⟩

variable {sections : ThreadId → List Section} {o : Object}

lemma run_append (order : List ThreadId) (t : ThreadId) :
    run sections o (order ++ [t]) = (run sections o order).turn t := by
  simp [run]

lemma turn_of_cons {s : Serial} {t c cs} (e : s.rest t = c :: cs) :
    s.turn t =
      ⟨update s.rest t cs, s.reads ++ (c.work.exec c.size s.object).1.map (t, ·),
        (c.work.exec c.size s.object).2⟩ := by
  simp only [turn, e]

/-- What every turn keeps holds in the end. -/
theorem run_induction {P : Serial → Prop} (init : P ⟨sections, [], o⟩)
    (keep : ∀ s t, P s → P (s.turn t)) (order : List ThreadId) : P (run sections o order) := by
  unfold run
  generalize (⟨sections, [], o⟩ : Serial) = s at init ⊢
  induction order generalizing s with
  | nil => exact init
  | cons t ts ih => exact ih _ (keep s t init)

lemma run_mutex (order : List ThreadId) : (run sections o order).object.mutex = o.mutex := by
  refine run_induction (P := fun s => s.object.mutex = o.mutex) rfl ?_ order
  intro s t e
  unfold turn
  split
  case h_1 => exact e
  case h_2 => exact (Work.exec_mutex _ _ _).trans e

/-- The sections that a thread has left are some of those it had. -/
lemma run_rest_subset (order : List ThreadId) (t : ThreadId) :
    (run sections o order).rest t ⊆ sections t := by
  refine run_induction (P := fun s => s.rest t ⊆ sections t) (List.Subset.refl _) ?_ order
  intro s t' sub
  unfold turn
  split
  case h_1 => exact sub
  case h_2 c cs e =>
    by_cases et : t = t'
    · subst et
      rw [e] at sub
      simpa using (List.cons_subset.1 sub).2
    · simpa [update_of_ne et] using sub

end Serial
end SharedSegment
