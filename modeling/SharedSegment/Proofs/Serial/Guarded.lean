import SharedSegment.Proofs.Serial.Section

/-!
# Guarded sections run one after the other

Threads that work on the payload of one object only in critical sections never come between each
other's reads and writes. `Standing` is the invariant behind this: either all threads are between
sections and the object is what the sections so far have made of it one after the other, or one
thread is inside a section, owns the mutex, and what is left of its section leads to the same. One
step keeps it (`Standing.step`), and so does a run (`standing_run`).

A thread that sleeps for the mutex has a section before it, so that somebody can always go on
(`Standing.go_on`) until every section is done.
-/

namespace SharedSegment
open Function

/-- What a thread reads by a deed. -/
def Deed.reading? : Deed → Option (ThreadId × List UInt8)
  | .moved t _ (.answered (.read ..) bs) => some (t, bs)
  | _ => none

/-- All that is read in a run, in order, and by whom. -/
def readings (past : List Deed) : List (ThreadId × List UInt8) :=
  (past.filterMap Deed.reading?).reverse

lemma readings_cons (d : Deed) (past : List Deed) :
    readings (d :: past) = readings past ++ d.reading?.toList := by
  cases e : d.reading? <;> simp [readings, e]

namespace Section

variable {f : Facade} {s : Segment} {m : MappingId}

/-- A section begins by taking the lock. -/
lemma program_eq {w} (es : f.segment = some s) (em : s.mapping = some m) :
    ∃ next, (Section.mk f w).program = .ask (.lock m) next ∧ next (.ok ()) = w.program f := by
  obtain ⟨n, size, role, flavor, segment, error⟩ := f
  obtain ⟨n', flavor', role', size', file, mapping, sync⟩ := s
  cases es
  cases em
  exact ⟨_, rfl, rfl⟩

/-- A guard is dropped by giving the lock back. -/
lemma unlock_eq (es : f.segment = some s) (em : s.mapping = some m) :
    ∃ next, f.unlock = .ask (.unlock m) next ∧ next (.ok ()) = .ret () := by
  obtain ⟨n, size, role, flavor, segment, error⟩ := f
  obtain ⟨n', flavor', role', size', file, mapping, sync⟩ := s
  cases es
  cases em
  exact ⟨_, rfl, rfl⟩

lemma read_eq (es : f.segment = some s) (valid : s.isValid) (em : s.mapping = some m)
    (off len : Nat) :
    f.read off len =
      .ask (.read m (Layout.headerSize + off) (min len (s.size.toNat - off))) .ret := by
  have ev : f.isValid = true := by simp [Facade.isValid, es, valid]
  rw [Facade.read, if_pos ev, Facade.onSegment_eq es, Segment.read, em]
  rfl

lemma write_eq (es : f.segment = some s) (valid : s.isValid) (em : s.mapping = some m)
    (off : Nat) (bs : List UInt8) :
    f.write off bs =
      .ask (.write m (Layout.headerSize + off) (bs.take (s.size.toNat - off)).toArray)
        fun _ => .ret (bs.take (s.size.toNat - off)).length := by
  have ev : f.isValid = true := by simp [Facade.isValid, es, valid]
  rw [Facade.write, if_pos ev, Facade.onSegment_eq es, Segment.write, em]
  rfl

end Section

/-- A mutex for which only threads sleep that have a section before them. -/
structure Mutex.IsOrderly (x : Mutex) (rest : ThreadId → List Section) : Prop where
  live : x.life = .live
  nodup : x.queue.Nodup
  waiting : ∀ t ∈ x.queue, rest t ≠ []

/-- How a run of sections stands: the sections so far, one after the other, have read what was read
and have made the object what it is, up to what the thread inside a section has still to do. -/
inductive Standing (h₀ : Host) (k : ObjectId) (serial : Serial) :
    List (ThreadId × List UInt8) → System Unit → Prop where
  | apart {s x} :
    s.host = h₀.setObject k (serial.object.withMutex x) →
    x.IsOrderly serial.rest →
    x.hold = .free →
    (∀ t, s.tasks t = some (Section.programs (serial.rest t))) →
    Standing h₀ k serial serial.reads s
  | inside {s x reads t o} (c : Section) :
    s.host = h₀.setObject k (o.withMutex x) →
    x.IsOrderly serial.rest →
    x.hold = .held t →
    t ∉ x.queue →
    c.facade.isOn h₀ k →
    serial.reads = reads ++ (c.work.exec c.size o).1.map (t, ·) →
    serial.object = (c.work.exec c.size o).2 →
    s.tasks t = some ((c.work.program c.facade).bind fun _ =>
      Section.programs (serial.rest t)) →
    (∀ t', t' ≠ t → s.tasks t' = some (Section.programs (serial.rest t'))) →
    Standing h₀ k serial reads s

namespace Mutex

variable {x : Mutex} {t : ThreadId}

/-- A thread takes a free mutex when it is its turn. -/
lemma lock_of_free (live : x.life = .live) (free : x.hold = .free) (turn : x.isTurn t) :
    x.lock t = .answer (.ok ()) (x.take t (.held t)) := by
  simp [lock, live, free, turn]

/-- A thread that sleeps behind another goes on sleeping. -/
lemma lock_of_free_of_not_isTurn (live : x.life = .live) (free : x.hold = .free)
    (turn : ¬x.isTurn t) : x.lock t = .sleep x := by
  simp [lock, live, free, turn]

/-- A thread sleeps for a mutex that is held. -/
lemma lock_of_held {t'} (live : x.life = .live) (held : x.hold = .held t') :
    x.lock t = .sleep (x.enqueue t) := by
  simp [lock, live, held]

lemma unlock_of_held (live : x.life = .live) (held : x.hold = .held t) :
    x.unlock t = (.ok (), { x with hold := .free }) := by
  simp [unlock, live, held]

variable {rest : ThreadId → List Section}

lemma IsOrderly.take (ok : x.IsOrderly rest) (t : ThreadId) (cs : List Section) :
    (x.take t (.held t)).IsOrderly (update rest t cs) where
  live := ok.live
  nodup := ok.nodup.erase t
  waiting := by
    intro t' mem
    obtain ⟨ne, mem⟩ := ok.nodup.mem_erase_iff.1 mem
    rw [update_of_ne ne]
    exact ok.waiting t' mem

lemma IsOrderly.enqueue (ok : x.IsOrderly rest) (ne : rest t ≠ []) :
    (x.enqueue t).IsOrderly rest := by
  unfold Mutex.enqueue isQueued
  split
  case isTrue => exact ok
  case isFalse nq =>
    refine ⟨ok.live, ?_, ?_⟩
    · refine List.nodup_append.2 ⟨ok.nodup, by simp, ?_⟩
      intro a ma b mb e
      rw [List.mem_singleton] at mb
      subst e mb
      exact nq (List.contains_iff_mem.2 ma)
    · intro t' mem
      rcases List.mem_append.1 mem with mem | mem
      · exact ok.waiting t' mem
      · rw [List.mem_singleton] at mem
        exact mem ▸ ne

lemma mem_enqueue_of_ne {t'} (ne : t' ≠ t) (nq : t' ∉ x.queue) : t' ∉ (x.enqueue t).queue := by
  unfold enqueue
  split
  · exact nq
  · simp [nq, ne]

end Mutex

namespace Host

variable {h : Host} {m : MappingId} {k : ObjectId} {o : Object} {t : ThreadId}

/-- A mapping shows the object that a host is changed in. -/
lemma under?_of_shows (o' : Object) (here : h.object? k = some o) (sh : h.shows m k) :
    (h.setObject k o').under? m = some (k, o') :=
  under?_eq_some_iff.2 ⟨sh, object?_setObject_self here⟩

lemma step_lock_take (sees : h.under? m = some (k, o)) (live : o.mutex.life = .live)
    (free : o.mutex.hold = .free) (turn : o.mutex.isTurn t) :
    h.step t (.lock m) =
      .done (α := Except Errno Unit) (.ok ())
        (h.setObject k (o.withMutex (o.mutex.take t (.held t)))) := by
  rw [step_lock sees, Mutex.lock_of_free live free turn]
  rfl

lemma step_lock_pass (sees : h.under? m = some (k, o)) (live : o.mutex.life = .live)
    (free : o.mutex.hold = .free) (turn : ¬o.mutex.isTurn t) :
    h.step t (.lock m) = .wait h := by
  have self := setObject_self (under?_eq_some_iff.1 sees).2
  rw [step_lock sees, Mutex.lock_of_free_of_not_isTurn live free turn]
  exact congrArg Reply.wait self

lemma step_lock_held {t'} (sees : h.under? m = some (k, o)) (live : o.mutex.life = .live)
    (held : o.mutex.hold = .held t') :
    h.step t (.lock m) = .wait (h.setObject k (o.withMutex (o.mutex.enqueue t))) := by
  rw [step_lock sees, Mutex.lock_of_held live held]

end Host

/-- What sections come to by a deed: whoever takes the mutex runs a section. -/
def Serial.after (s : Serial) (k : ObjectId) (d : Deed) : Serial :=
  match d.takes? k with
  | some t => s.turn t
  | none => s

/-- Sections begin by taking the lock, and go on with the work of the first one. -/
lemma Section.programs_eq {h₀ k c} (cs : List Section) (fon : c.facade.isOn h₀ k) :
    ∃ m next, h₀.shows m k ∧ Section.programs (c :: cs) = .ask (.lock m) next ∧
      next (.ok ()) = (c.work.program c.facade).bind fun _ => Section.programs cs := by
  obtain ⟨s, m, es, _, em, sh⟩ := Facade.isOn_inv fon
  obtain ⟨next, ep, en⟩ := Section.program_eq (w := c.work) es em
  refine ⟨m, fun a => (next a).bind fun _ => Section.programs cs, sh, ?_, ?_⟩
  · rw [Section.programs, Program.bind_eq, ep, Program.bind]
  · exact congrArg (Program.bind · fun _ => Section.programs cs) en

/-- A thread that waits has the same before it. -/
lemma System.update_of_waiting {s : System Unit} {t p h} (e : s.tasks t = some p) :
    (⟨h, update s.tasks t (some p)⟩ : System Unit) = ⟨h, s.tasks⟩ := by
  rw [← e, update_eq_self]

namespace Standing

variable {h₀ : Host} {k : ObjectId} {o₀ : Object} {serial : Serial}
  {reads : List (ThreadId × List UInt8)} {s s' : System Unit} {d : Deed}

/-- A step while all threads are between sections: a thread goes into one, or waits for its turn. -/
lemma step_apart {x t m p p' h'} (here : h₀.object? k = some o₀)
    (bound : ∀ t, ∀ c ∈ serial.rest t, c.facade.isOn h₀ k)
    (eh : s.host = h₀.setObject k (serial.object.withMutex x))
    (ok : x.IsOrderly serial.rest) (free : x.hold = .free)
    (tasks : ∀ t, s.tasks t = some (Section.programs (serial.rest t)))
    (ep : s.tasks t = some p) (st : p.Step t s.host m p' h')
    (calm : (Deed.moved t s.host m).isCalm) :
    Standing h₀ k (serial.after k (.moved t s.host m))
      (serial.reads ++ (Deed.moved t s.host m).reading?.toList)
      ⟨h', update s.tasks t (some p')⟩ := by
  obtain rfl := Option.some.inj ((tasks t).symm.trans ep)
  cases er : serial.rest t with
  | nil =>
    rw [er] at st
    cases st
  | cons c cs =>
    have fon := bound t c (by simp [er])
    obtain ⟨mm, next, sh, eq, en⟩ := Section.programs_eq cs fon
    have sees := eh ▸ Host.under?_of_shows (serial.object.withMutex x) here sh
    rw [er, eq] at st
    -- Nobody has the mutex, but a thread that comes while others sleep for it still has to wait.
    by_cases turn : x.isTurn t
    case pos =>
      have lock := Host.step_lock_take sees ok.live free turn
      cases st with
      | wait e => cases lock.symm.trans e
      | strike e => cases calm
      | answer e =>
        cases lock.symm.trans e
        have takes : Deed.takes? k (.moved t s.host (.answered (.lock mm) (.ok ()))) = some t := by
          simp [Deed.takes?, isTaken, (Host.under?_eq_some_iff.1 sees).1]
        simp only [Serial.after, takes, Serial.turn_of_cons er]
        refine .inside (x := x.take t (.held t)) c ?_ (ok.take t cs) rfl ?_ fon ?_ rfl ?_ ?_
        · simp [eh]
        · exact fun mem => (ok.nodup.mem_erase_iff.1 mem).1 rfl
        · simp [Deed.reading?]
        · simp [en]
        · intro t' ne
          simp [ne, tasks]
    case neg =>
      have lock := Host.step_lock_pass sees ok.live free turn
      cases st with
      | answer e => cases lock.symm.trans e
      | strike e => cases calm
      | wait e =>
        cases lock.symm.trans e
        rw [← eq, ← er, System.update_of_waiting ep]
        simpa [Deed.reading?, Serial.after, Deed.takes?] using .apart eh ok free tasks

/-- A step of the thread inside a section: it does the next of its work, and the last of it ends the
section. -/
lemma step_inside_self {x t o m p' h'} {c : Section} (here : h₀.object? k = some o₀)
    (eh : s.host = h₀.setObject k (o.withMutex x)) (ok : x.IsOrderly serial.rest)
    (held : x.hold = .held t) (nq : t ∉ x.queue) (fon : c.facade.isOn h₀ k)
    (er : serial.reads = reads ++ (c.work.exec c.size o).1.map (t, ·))
    (eo : serial.object = (c.work.exec c.size o).2)
    (others : ∀ t', t' ≠ t → s.tasks t' = some (Section.programs (serial.rest t')))
    (st : ((c.work.program c.facade).bind fun _ =>
      Section.programs (serial.rest t)).Step t s.host m p' h')
    (calm : (Deed.moved t s.host m).isCalm) :
    Standing h₀ k (serial.after k (.moved t s.host m))
      (reads ++ (Deed.moved t s.host m).reading?.toList)
      ⟨h', update s.tasks t (some p')⟩ := by
  obtain ⟨g, mm, eg, valid, em, sh⟩ := Facade.isOn_inv fon
  have sees := eh ▸ Host.under?_of_shows (o.withMutex x) here sh
  obtain ⟨f, work⟩ := c
  change f.segment = some g at eg
  have size (w : Work) : (Section.mk f w).size = g.size.toNat := by simp [Section.size, eg]
  rw [size] at er eo
  -- What the work comes to is told by its first step and what the rest of it comes to from there.
  cases work with
  | finish =>
    obtain ⟨next, eu, en⟩ := Section.unlock_eq eg em
    have unlock := Host.step_unlock (t := t) sees
    rw [Object.withMutex_mutex, Mutex.unlock_of_held ok.live held] at unlock
    rw [Work.program, eu] at st
    cases st with
    | wait e => cases unlock.symm.trans e
    | strike e => cases calm
    | answer e =>
      cases unlock.symm.trans e
      have reads_eq : serial.reads = reads := by simpa [Work.exec] using er
      have ok' : Mutex.IsOrderly { x with hold := .free } serial.rest :=
        ⟨ok.live, ok.nodup, ok.waiting⟩
      simp only [Serial.after, Deed.takes?, Deed.reading?, Option.toList_none, List.append_nil]
      rw [← reads_eq]
      refine .apart ?_ ok' rfl ?_
      · simp [eh, eo, Work.exec]
      · intro t'
        by_cases et : t' = t
        · subst et
          simp [en]
        · simp [et, others t' et]
  | read off len next =>
    have read := Host.step_read (t := t) sees (Layout.headerSize + off)
      (min len (g.size.toNat - off))
    rw [Work.program, Program.bind_eq, Section.read_eq eg valid em] at st
    cases st with
    | wait e => cases read.symm.trans e
    | strike e => cases calm
    | answer e =>
      cases read.symm.trans e
      simp only [Serial.after, Deed.takes?, Deed.reading?, Option.toList_some]
      refine .inside ⟨f, next _⟩ eh ok held nq fon ?_ ?_ (update_self ..) ?_
      · rw [size, er, Work.exec, List.map_cons, List.append_assoc]
        rfl
      · rw [size, eo]
        rfl
      · intro t' ne
        exact (update_of_ne ne ..).trans (others t' ne)
  | write off bs next =>
    have write := Host.step_write (t := t) sees (Layout.headerSize + off)
      (bs.take (g.size.toNat - off)).toArray
    rw [Work.program, Program.bind_eq, Section.write_eq eg valid em] at st
    cases st with
    | wait e => cases write.symm.trans e
    | strike e => cases calm
    | answer e =>
      cases write.symm.trans e
      simp only [Serial.after, Deed.takes?, Deed.reading?, Option.toList_none, List.append_nil]
      have eh' := congrArg (Host.setObject · k ((o.withMutex x).write (Layout.headerSize + off)
        (bs.take (g.size.toNat - off)).toArray)) eh
      rw [Host.setObject_setObject, Object.write_withMutex] at eh'
      refine .inside ⟨f, next _⟩ eh' ok held nq fon ?_ ?_ (update_self ..) ?_
      · rw [size, er]
        rfl
      · rw [size, eo]
        rfl
      · intro t' ne
        exact (update_of_ne ne ..).trans (others t' ne)

/-- A step of a thread outside while another is inside: it falls asleep, or sleeps on. -/
lemma step_inside_other {x t t' o m p p' h'} {c : Section} (here : h₀.object? k = some o₀)
    (bound : ∀ t, ∀ c ∈ serial.rest t, c.facade.isOn h₀ k)
    (eh : s.host = h₀.setObject k (o.withMutex x)) (ok : x.IsOrderly serial.rest)
    (held : x.hold = .held t) (nq : t ∉ x.queue) (fon : c.facade.isOn h₀ k)
    (er : serial.reads = reads ++ (c.work.exec c.size o).1.map (t, ·))
    (eo : serial.object = (c.work.exec c.size o).2)
    (own : s.tasks t = some ((c.work.program c.facade).bind fun _ =>
      Section.programs (serial.rest t)))
    (others : ∀ t', t' ≠ t → s.tasks t' = some (Section.programs (serial.rest t')))
    (ne : t' ≠ t) (ep : s.tasks t' = some p) (st : p.Step t' s.host m p' h')
    (calm : (Deed.moved t' s.host m).isCalm) :
    Standing h₀ k (serial.after k (.moved t' s.host m))
      (reads ++ (Deed.moved t' s.host m).reading?.toList)
      ⟨h', update s.tasks t' (some p')⟩ := by
  obtain rfl := Option.some.inj ((others t' ne).symm.trans ep)
  cases el : serial.rest t' with
  | nil =>
    rw [el] at st
    cases st
  | cons c' cs =>
    have fon' := bound t' c' (by simp [el])
    obtain ⟨mm, next, sh, eq, en⟩ := Section.programs_eq cs fon'
    have sees := eh ▸ Host.under?_of_shows (o.withMutex x) here sh
    have lock := Host.step_lock_held (t := t') sees ok.live held
    have ok' := ok.enqueue (t := t') (by simp [el])
    rw [el, eq] at st
    cases st with
    | answer e => cases lock.symm.trans e
    | strike e => cases calm
    | wait e =>
      cases lock.symm.trans e
      rw [← eq, ← el, System.update_of_waiting ep]
      simp only [Serial.after, Deed.takes?, Deed.reading?, Option.toList_none, List.append_nil]
      refine .inside c ?_ ok' ?_ (Mutex.mem_enqueue_of_ne ne.symm nq) fon er eo own others
      · simp [eh]
      · rw [← held, Mutex.enqueue_hold]

/-- One step keeps a run of sections in good standing. -/
theorem step (here : h₀.object? k = some o₀)
    (bound : ∀ t, ∀ c ∈ serial.rest t, c.facade.isOn h₀ k)
    (inv : Standing h₀ k serial reads s) (st : s.Step d s') (calm : d.isCalm) :
    Standing h₀ k (serial.after k d) (reads ++ d.reading?.toList) s' := by
  cases st with
  | die ep => cases calm
  | move ep st =>
    cases inv with
    | apart eh ok free tasks => exact step_apart here bound eh ok free tasks ep st calm
    | @inside _ x _ t o c eh ok held nq fon er eo own others =>
      rename_i t' _ _ _ _
      by_cases et : t' = t
      case pos =>
        subst et
        obtain rfl := Option.some.inj (own.symm.trans ep)
        exact step_inside_self here eh ok held nq fon er eo others st calm
      case neg =>
        exact step_inside_other here bound eh ok held nq fon er eo own others et ep st calm

end Standing

/-- A run of sections, from threads that have not begun. -/
def System.ofSections (h : Host) (sections : ThreadId → List Section) : System Unit :=
  ⟨h, fun t => some (Section.programs (sections t))⟩

/-- A run keeps sections in good standing: those so far have run in the order in which the mutex was
taken. -/
theorem standing_run {h₀ : Host} {k : ObjectId} {o₀ : Object} {sections : ThreadId → List Section}
    {past : List Deed} {s : System Unit} (here : h₀.object? k = some o₀)
    (fresh : o₀.mutex = .fresh) (bound : ∀ t, ∀ c ∈ sections t, c.facade.isOn h₀ k)
    (run : Run System.Step (.ofSections h₀ sections) past s) (calm : ∀ d ∈ past, d.isCalm) :
    Standing h₀ k (Serial.run sections o₀ (acquisitions k past)) (readings past) s := by
  induction run with
  | nil =>
    refine .apart (x := .fresh) ?_ ⟨rfl, .nil, fun t mem => nomatch mem⟩ rfl fun t => rfl
    have self : o₀.withMutex .fresh = o₀ := fresh ▸ Object.withMutex_self
    simp [Serial.run, self, Host.setObject_self here, System.ofSections]
  | @cons past s d s' run st ih =>
    have calm' := List.forall_mem_cons.1 calm
    have bound' t c (mem : c ∈ (Serial.run sections o₀ (acquisitions k past)).rest t) :=
      bound t c (Serial.run_rest_subset _ _ mem)
    have inv := (ih calm'.2).step here bound' st calm'.1
    rw [readings_cons, acquisitions_cons]
    -- A deed that takes the mutex adds one turn to the sections that have run; others add none.
    cases et : d.takes? k with
    | none => simpa [Serial.after, et] using inv
    | some t => simpa [Serial.after, et, Serial.run_append] using inv

end SharedSegment
