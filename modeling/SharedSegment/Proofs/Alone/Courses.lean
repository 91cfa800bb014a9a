import SharedSegment.Proofs.Alone
import SharedSegment.Proofs.Traces

/-!
# Courses

The course of a program that is run with faults ahead of it: its trace, the value that it ends with,
the faults that are then still ahead, and the host that it leaves (`Program.Course`). A program that
never has to wait has a course whatever the faults are (`Ensures.exists_course`), and running it
gives what its course says (`Program.Course.run_eq`).
-/

namespace SharedSegment

/-- A program that is run on a thread, with faults and on a host, has a trace and ends with a value,
with other faults and on another host. -/
inductive Program.Course {α : Type} (t : ThreadId) :
    Program α → Faults → Host → List Entry → α → Faults → Host → Prop where
  | ret {a f h} :
    Course t (.ret a) f h [] a f h
  | put {o rest f h es a f' h'} :
    Course t rest f h es a f' h' →
    Course t (.put o rest) f h (.told o :: es) a f' h'
  | strike {r next f h x f₁ es a f' h'} :
    f.strike r = (some x, f₁) →
    Course t (next x) f₁ h es a f' h' →
    Course t (.ask r next) f h (.asked r x :: es) a f' h'
  | answer {r next f h f₁ x h₁ es a f' h'} :
    f.strike r = (none, f₁) →
    h.step t r = .done x h₁ →
    Course t (next x) f₁ h₁ es a f' h' →
    Course t (.ask r next) f h (.asked r x :: es) a f' h'

namespace Program

variable {α β : Type} {t : ThreadId} {p : Program α} {next : α → Program β} {f f' f'' : Faults}
  {h h' h'' : Host} {es es' : List Entry} {a : α} {b : β}

/-- One program after the other has the one course behind the other. -/
lemma Course.bind (first : p.Course t f h es a f' h')
    (second : (next a).Course t f' h' es' b f'' h'') :
    (p.bind next).Course t f h (es ++ es') b f'' h'' := by
  induction first with
  | ret => exact second
  | put _ ih => exact .put (ih second)
  | strike struck _ ih => exact .strike struck (ih second)
  | answer spared done _ ih => exact .answer spared done (ih second)

/-- Running a program comes to what its course says. -/
theorem Course.run_eq (course : p.Course t f h es a f' h') (out : List Output) :
    p.run t f out h = (⟨.ended a, f', (Entry.outputs es).reverse ++ out⟩, h') := by
  induction course generalizing out with
  | ret => rfl
  | put _ ih => simp [run, ih]
  | strike struck _ ih => simp [run, struck, ih]
  | answer spared done _ ih => simp [run, spared, done, ih]

/-- What a program does in its course is one of its traces. -/
lemma Course.goesThrough (course : p.Course t f h es a f' h') : p.GoesThrough es a := by
  induction course with
  | ret => exact .ret
  | put _ ih => exact .put ih
  | strike _ _ ih => exact .ask ih
  | answer _ _ _ ih => exact .ask ih

/-- A program that never has to wait has a course, whatever faults are ahead of it. -/
theorem Ensures.exists_course {may : Host → Request → Prop} {post : α → Host → Prop}
    (en : p.Ensures (.alone t may) post h) (all : ∀ h r, may h r) (f : Faults) :
    ∃ es a f' h', p.Course t f h es a f' h' ∧ post a h' := by
  induction p generalizing f h with
  | ret a => exact ⟨[], a, f, h, .ret, en⟩
  | put o rest ih =>
    obtain ⟨es, a, f', h', course, here⟩ := ih en f
    exact ⟨_, a, f', h', .put course, here⟩
  | ask r next ih =>
    cases met : f.strike r with
    | mk struck f₁ =>
      cases struck with
      | some x =>
        obtain ⟨call, fail, e, ec, rfl⟩ := call_of_strike met
        have goesOn := en.2 _ _ (.inr ⟨all h r, rfl, call, fail, e, ec, rfl⟩)
        obtain ⟨_, a, f', h', course, here⟩ := ih _ goesOn f₁
        exact ⟨_, a, f', h', .strike met course, here⟩
      | none =>
        cases done : h.step t r with
        | wait h₁ => exact absurd done (en.1 h₁)
        | done x h₁ =>
          obtain ⟨_, a, f', h', course, here⟩ := ih x (en.2 x h₁ (.inl done)) f₁
          exact ⟨_, a, f', h', .answer met done course, here⟩

end Program
end SharedSegment
