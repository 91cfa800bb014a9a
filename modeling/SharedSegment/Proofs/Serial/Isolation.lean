import SharedSegment.Proofs.Serial.Guarded
import SharedSegment.Proofs.Serial.Tally

/-!
# Isolation

Critical sections under the lock of one object come to the same as the sections one after the other,
in the order in which the lock was taken: `guarded_sections_are_isolated`. The theorem also says
that no thread is left waiting while something is still to be done, and that counters lose nothing.
-/

namespace SharedSegment
open Function

/-- Whether a thread gets further by a move. -/
def Move.isForward : Move → Bool
  | .told _ | .answered .. => true
  | .waited _ | .struck .. => false

/-- All threads have come to the end of their programs. -/
def System.IsOver (s : System Unit) : Prop :=
  ∀ t, s.tasks t = some (.ret ())

/-- Work under a guard goes on with a request that is answered at once. -/
lemma Work.goes_on {h₀ : Host} {k : ObjectId} {o₀ : Object} {f : Facade} (w : Work)
    (here : h₀.object? k = some o₀) (fon : f.isOn h₀ k) (rest : Unit → Program Unit)
    (t : ThreadId) (o : Object) :
    ∃ m p' h', m.isForward ∧ ((w.program f).bind rest).Step t (h₀.setObject k o) m p' h' := by
  obtain ⟨g, mm, eg, valid, em, sh⟩ := Facade.isOn_inv fon
  have sees := Host.under?_of_shows o here sh
  cases w with
  | finish =>
    obtain ⟨next, eu, _⟩ := Section.unlock_eq eg em
    have unlock := Host.step_unlock (t := t) sees
    rw [program, eu]
    exact ⟨_, _, _, rfl, .answer unlock⟩
  | read off len next =>
    rw [program, Program.bind_eq, Section.read_eq eg valid em]
    exact ⟨_, _, _, rfl, .answer (Host.step_read sees _ _)⟩
  | write off bs next =>
    rw [program, Program.bind_eq, Section.write_eq eg valid em]
    exact ⟨_, _, _, rfl, .answer (Host.step_write sees _ _)⟩

namespace Standing

variable {h₀ : Host} {k : ObjectId} {o₀ : Object} {serial : Serial}
  {reads : List (ThreadId × List UInt8)} {s : System Unit}

/-- What was read is what the sections read one after the other, so far. -/
lemma isPrefix (inv : Standing h₀ k serial reads s) : reads <+: serial.reads := by
  cases inv with
  | apart => exact List.prefix_rfl
  | inside c _ _ _ _ _ er => exact ⟨_, er.symm⟩

/-- A thread with a section before it takes a free mutex when it is its turn. -/
lemma apart_goes_on {x t c cs} (here : h₀.object? k = some o₀) (fon : c.facade.isOn h₀ k)
    (eh : s.host = h₀.setObject k (serial.object.withMutex x)) (live : x.life = .live)
    (free : x.hold = .free) (er : serial.rest t = c :: cs) (turn : x.isTurn t) :
    ∃ m p' h', m.isForward ∧ (Section.programs (serial.rest t)).Step t s.host m p' h' := by
  obtain ⟨mm, next, sh, eq, _⟩ := Section.programs_eq cs fon
  have sees := eh ▸ Host.under?_of_shows (serial.object.withMutex x) here sh
  have lock := Host.step_lock_take sees live free turn
  rw [er, eq]
  exact ⟨_, _, _, rfl, .answer lock⟩

/-- As long as not all is done, some thread gets further. -/
theorem goes_on (here : h₀.object? k = some o₀)
    (bound : ∀ t, ∀ c ∈ serial.rest t, c.facade.isOn h₀ k)
    (inv : Standing h₀ k serial reads s) (going : ¬s.IsOver) :
    ∃ t m s', m.isForward ∧ s.Step (.moved t s.host m) s' := by
  cases inv with
  | @apart _ x eh ok free tasks =>
    -- Whoever sleeps longest has a section before it, and may take the mutex before all others.
    obtain ⟨t, turn, left⟩ : ∃ t, x.isTurn t ∧ serial.rest t ≠ [] := by
      cases eq : x.queue with
      | cons t ts => exact ⟨t, by simp [Mutex.isTurn, eq], ok.waiting t (by simp [eq])⟩
      | nil =>
        obtain ⟨t, nt⟩ := not_forall.1 going
        refine ⟨t, by simp [Mutex.isTurn, Mutex.isQueued, eq], fun er => nt ?_⟩
        rw [tasks, er]
        rfl
    obtain ⟨c, cs, er⟩ := List.exists_cons_of_ne_nil left
    have fon := bound t c (by simp [er])
    obtain ⟨m, p', h', fw, st⟩ := apart_goes_on here fon eh ok.live free er turn
    exact ⟨t, m, _, fw, .move (tasks t) st⟩
  | @inside _ x _ t o c eh ok held nq fon er eo own others =>
    obtain ⟨m, p', h', fw, st⟩ :=
      c.work.goes_on here fon (fun _ => Section.programs (serial.rest t)) t (o.withMutex x)
    rw [← eh] at st
    exact ⟨t, m, _, fw, .move own st⟩

/-- When all is done, all sections have run, and the object is what they have made of it. -/
theorem of_isOver (here : h₀.object? k = some o₀)
    (bound : ∀ t, ∀ c ∈ serial.rest t, c.facade.isOn h₀ k) (fresh : serial.object.mutex = .fresh)
    (inv : Standing h₀ k serial reads s) (isOver : s.IsOver) :
    reads = serial.reads ∧ (∀ t, serial.rest t = []) ∧
      s.host = h₀.setObject k serial.object := by
  cases inv with
  | @apart _ x eh ok free tasks =>
    have done t : serial.rest t = [] := by
      cases er : serial.rest t with
      | nil => rfl
      | cons c cs =>
        obtain ⟨mm, next, _, eq, _⟩ := Section.programs_eq cs (bound t c (by simp [er]))
        have ep := (tasks t).symm.trans (isOver t)
        rw [er, eq] at ep
        cases ep
    have ex : x = serial.object.mutex := by
      obtain ⟨life, hold, queue⟩ := x
      have eq : queue = [] := List.eq_nil_iff_forall_not_mem.2 fun t mem =>
        ok.waiting t mem (done t)
      rw [fresh, Mutex.fresh, ← ok.live, ← free, ← eq]
    exact ⟨rfl, done, by rw [eh, ex, Object.withMutex_self]⟩
  | @inside _ x _ t o c eh ok held nq fon er eo own others =>
    obtain ⟨m, p', h', _, st⟩ :=
      c.work.goes_on here fon (fun _ => Section.programs (serial.rest t)) t (o.withMutex x)
    rw [Option.some.inj (own.symm.trans (isOver t))] at st
    cases st

end Standing

/-- Threads that count are threads with sections. -/
lemma System.ofSections_tallies (h : Host) (f : ThreadId → Facade) (ts : Finset ThreadId)
    (n : Nat) :
    (⟨h, fun t => some (Counter.incrementTimes (f t) (if t ∈ ts then n else 0))⟩ : System Unit) =
      .ofSections h (Serial.tallies f ts n) := by
  unfold ofSections Serial.tallies
  simp only [Section.programs_replicate_tally]

/-- Threads work on the payload of one object only in critical sections, each through any handles of
its own. Then whatever is read is read as if the sections ran one after the other, in the order in
which the lock was taken, and so is what they leave behind when all are done; and until then some
thread can get further. So threads that each count some times lose nothing. -/
theorem guarded_sections_are_isolated {h₀ : Host} {k : ObjectId} {o₀ : Object}
    (here : h₀.object? k = some o₀) (fresh : o₀.mutex = .fresh) :
    (∀ (sections : ThreadId → List Section) past s,
      (∀ t, ∀ c ∈ sections t, c.facade.isOn h₀ k) →
      Run System.Step (.ofSections h₀ sections) past s → (∀ d ∈ past, d.isCalm) →
      let serial := Serial.run sections o₀ (acquisitions k past)
      readings past <+: serial.reads ∧
      (s.IsOver → readings past = serial.reads ∧ (∀ t, serial.rest t = []) ∧
        s.host = h₀.setObject k serial.object) ∧
      (¬s.IsOver → ∃ t m s', m.isForward ∧ s.Step (.moved t s.host m) s')) ∧
    ∀ (f : ThreadId → Facade) (ts : Finset ThreadId) (n : Nat) past s,
      (∀ t ∈ ts, (f t).isOn h₀ k ∧ ∀ g ∈ (f t).segment, Counter.width ≤ g.size.toNat) →
      Run System.Step
        ⟨h₀, fun t => some (Counter.incrementTimes (f t) (if t ∈ ts then n else 0))⟩ past s →
      (∀ d ∈ past, d.isCalm) → s.IsOver →
      ∃ o, s.host.object? k = some o ∧ o.counter = (o₀.counter + ts.card * n) % 2 ^ 64 := by
  have general (sections : ThreadId → List Section) past s
      (bound : ∀ t, ∀ c ∈ sections t, c.facade.isOn h₀ k)
      (run : Run System.Step (.ofSections h₀ sections) past s) (calm : ∀ d ∈ past, d.isCalm) :
      let serial := Serial.run sections o₀ (acquisitions k past)
      readings past <+: serial.reads ∧
      (s.IsOver → readings past = serial.reads ∧ (∀ t, serial.rest t = []) ∧
        s.host = h₀.setObject k serial.object) ∧
      (¬s.IsOver → ∃ t m s', m.isForward ∧ s.Step (.moved t s.host m) s') := by
    intro serial
    have inv : Standing h₀ k serial (readings past) s := standing_run here fresh bound run calm
    have bound' t c (mem : c ∈ serial.rest t) := bound t c (Serial.run_rest_subset _ _ mem)
    have mutex : serial.object.mutex = .fresh := (Serial.run_mutex _).trans fresh
    exact ⟨inv.isPrefix, inv.of_isOver here bound' mutex, inv.goes_on here bound'⟩
  refine ⟨general, ?_⟩
  intro f ts n past s fits run calm isOver
  rw [System.ofSections_tallies] at run
  have bound t c (mem : c ∈ Serial.tallies f ts n t) : c.facade.isOn h₀ k := by
    obtain ⟨mem', rfl⟩ := Serial.mem_tallies mem
    exact (fits t mem').1
  obtain ⟨_, ended, _⟩ := general _ past s bound run calm
  obtain ⟨_, done, eh⟩ := ended isOver
  have wide t (mem : t ∈ ts) : Counter.width ≤ (Section.mk (f t) .tally).size := by
    obtain ⟨g, _, eg, _⟩ := Facade.isOn_inv (fits t mem).1
    simpa [Section.size, eg] using (fits t mem).2 g eg
  refine ⟨_, ?_, Serial.counter_run wide _ done⟩
  rw [eh, Host.object?_setObject_self here]

/-- Two threads that count once each. -/
def System.counting : System Unit :=
  ⟨.sample, fun t =>
    some (Counter.incrementTimes (.sample t) (if t ∈ ({0, 1} : Finset ThreadId) then 1 else 0))⟩

/-- The second thread comes while the first is at it, and both count. -/
theorem two_threads_count_to_two :
    ∃ past s o, Run System.Step .counting past s ∧ (∀ d ∈ past, d.isCalm) ∧ s.IsOver ∧
      s.host.object? 0 = some o ∧ o.counter = 2 := by
  let played := System.play [0, 1, 0, 1, 0, 0, 1, 1, 1, 1] [] .counting
  have run : Run System.Step .counting played.1 played.2 := System.run_play .nil _
  have calm : ∀ d ∈ played.1, d.isCalm := by decide
  have isOver : played.2.IsOver := by
    rintro (_ | _ | t) <;> rfl
  obtain ⟨o, here, counted⟩ := (guarded_sections_are_isolated (k := 0) rfl rfl).2 .sample {0, 1}
    1 _ _ (by decide) run calm isOver
  exact ⟨_, _, o, run, calm, isOver, here, counted⟩

end SharedSegment
