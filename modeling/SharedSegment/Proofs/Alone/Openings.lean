import SharedSegment.Proofs.Alone.Courses
import SharedSegment.Proofs.Alone.Failures
import SharedSegment.Proofs.Alone.Refusals

/-!
# Ways of opening

A segment is opened through a facade, through an attempt at one, or by itself. The three go the same
way on every host and whichever calls fail (`ways_of_opening_agree`): they make the same requests,
get the same answers and leave the same host, and they come to the same segment or to the same
failure, of which a facade makes one more record. What comes of them, and that is the failure in
each of its forms too, carries the name that the raw text stands for, or the raw text if it stands
for none (`Name.title`, `Segment.Bears`).
-/

namespace SharedSegment
open Program Header

/-- What is opened under a raw text is called: the name that it stands for, or the text itself. -/
def Name.title (raw : String) : String :=
  match Name.ofRaw raw with
  | .ok n => n.text
  | .error _ => raw

namespace Segment

/-- What opening with a size comes to bears a name: a segment does, which is in the role and of the
size that were asked for, and a failure does. -/
def Bears (n : Name) (size : UInt32) : Except SegmentError Segment → Prop
  | .ok g => g.name = n ∧ g.role = .ofSize size ∧ (size ≠ 0 → g.size = size)
  | .error e => e.name = n.text

variable {n : Name} {c : Config} {size : UInt32}

lemma bears_of_comesOf {r : Except SegmentError Segment} (comes : ComesOf n size r) :
    Bears n size r := by
  cases comes with
  | made name role same => exact ⟨name, role, same⟩
  | failed fails => exact fails.name

/-- Every failure of creation bears the name, and so does the segment. -/
theorem always_create (positive : size ≠ 0) : (create n size c).Always (Bears n size) :=
  (comesOf_create positive).mono fun _ _ => bears_of_comesOf

/-- Every failure of attaching bears the name, and so does the segment. -/
theorem always_attach : (attach n c).Always (Bears n 0) :=
  comesOf_attach.mono fun _ _ => bears_of_comesOf

end Segment

namespace Facade

variable {t : ThreadId} {h : Host} {raw : String} {size : UInt32} {c : Config}

/-- What an opening comes to is called as the raw text says. -/
def Titles (raw : String) (size : UInt32) : Except SegmentError Segment → Prop
  | .ok g => g.name.text = Name.title raw ∧ g.role = .ofSize size ∧ (size ≠ 0 → g.size = size)
  | .error e => e.name = Name.title raw

lemma titles_of_bears {n : Name} (named : Name.ofRaw raw = .ok n)
    {r : Except SegmentError Segment} (bears : Segment.Bears n size r) : Titles raw size r := by
  have title : Name.title raw = n.text := by
    rw [Name.title, named]
  cases r with
  | ok g => exact ⟨by rw [bears.1, title], bears.2⟩
  | error e => exact bears.trans title.symm

/-- In whatever way an opening fails, or if it does not, it is called as the raw text says. -/
theorem always_connect : (connect raw size c).Always (Titles raw size) := by
  cases named : Name.ofRaw raw with
  | error f =>
    have refused : connect raw size c = .ret (.error (.invalidName raw f.reason)) := by
      simp [connect, named]
    have title : Name.title raw = raw := by
      rw [Name.title, named]
    rw [refused]
    exact title.symm
  | ok n =>
    cases valid : c.validate with
    | error f =>
      have refused : connect raw size c = .ret (.error (.invalidConfig n.text f)) := by
        simp [connect, named, valid]
      have titled : Titles raw size (.error (.invalidConfig n.text f)) := titles_of_bears named rfl
      rw [refused]
      exact titled
    | ok =>
      rw [connect_eq named valid]
      split
      case isTrue none =>
        subst none
        exact Segment.always_attach.mono fun _ _ => titles_of_bears named
      case isFalse positive =>
        exact (Segment.always_create positive).mono fun _ _ => titles_of_bears named

/-- An opening never waits, whichever calls fail. -/
lemma alone_connect :
    (connect raw size c).Ensures (.alone t fun _ _ => True) (fun _ _ => True) h := by
  cases named : Name.ofRaw raw with
  | error f => simp [connect, named]
  | ok n =>
    cases valid : c.validate with
    | error f => simp [connect, named, valid]
    | ok =>
      rw [connect_eq named valid]
      split
      · exact (Segment.alone_attach n c).mono fun _ _ _ => trivial
      · exact (Segment.alone_create n size c).mono fun _ _ _ => trivial

/-- With valid settings a facade is connected as a segment is opened by itself. -/
lemma connect_eq_named (valid : c.validate = .ok ()) :
    connect raw size c = Scenario.named raw fun n =>
      if size = 0 then Segment.attach n c else Segment.create n size c := by
  unfold Scenario.named
  cases named : Name.ofRaw raw with
  | error f => simp [connect, named]
  | ok n => exact connect_eq named valid

/-- What a facade records of an attempt to open a segment. -/
def notice (raw : String) (size : UInt32) (c : Config) : Except SegmentError Segment → List Event
  | .ok _ => []
  | .error e => [.unavailable (Name.title raw) (.ofSize size) c.flavor e]

end Facade

open Facade

/-- A segment is opened in one and the same way through a facade, through an attempt at one, and by
itself with valid settings: whichever calls fail, the same is asked for and answered, the host and
the faults ahead are the same afterwards, and the same comes of it. A facade makes one record more,
of the gravest kind, if that is a failure. Whatever comes of it is called as the raw text says. -/
theorem ways_of_opening_agree (t : ThreadId) (h : Host) (f : Faults) (raw : String) (size : UInt32)
    (c : Config) :
    ∃ es r f' h',
      (tryOpen raw size c).Course t f h es (r.map (ofSegment size c)) f' h' ∧
      (openWith raw size c).Course t f h
        (es ++ (notice raw size c r).map fun v => .told (.log v)) (ofResult size c r) f' h' ∧
      (c.validate = .ok () →
        (Scenario.named raw fun n =>
          if size = 0 then Segment.attach n c
          else Segment.create n size c).Course t f h es r f' h') ∧
      (∀ v ∈ notice raw size c r, v.level = .error) ∧
      Titles raw size r ∧ (ofResult size c r).name = Name.title raw := by
  have goesOn : (connect raw size c).Ensures (.alone t fun _ _ => True) (fun _ _ => True) h :=
    alone_connect
  obtain ⟨es, r, f', h', course, -⟩ := goesOn.exists_course (fun _ _ => trivial) f
  have titles : Titles raw size r := course.goesThrough.ends always_connect
  refine ⟨es, r, f', h', ?attempt, ?facade, ?itself, ?grave, titles, ?name⟩
  case attempt =>
    have ends : Program.Course t _ f' h' [] (r.map (ofSegment size c)) f' h' := .ret
    rw [← List.append_nil es]
    cases r with
    | ok g => exact course.bind ends
    | error e => exact course.bind ends
  case facade =>
    rw [openWith_eq]
    cases r with
    | ok g => exact course.bind .ret
    | error e =>
      have title : e.name = Name.title raw := titles
      refine course.bind ?_
      rw [notice, ← title]
      exact .put .ret
  case itself =>
    intro valid
    rw [← connect_eq_named valid]
    exact course
  case grave =>
    cases r with
    | ok g => exact nofun
    | error e => exact List.forall_mem_singleton.2 rfl
  case name =>
    cases r with
    | ok g => exact titles.1
    | error e => exact titles

/-- For an example: the first mapping fails for want of memory. -/
def Faults.unmapped : Faults := .plan [⟨.mmap, 1, ⟨12⟩⟩]

/-- A segment that cannot be mapped is refused alike in all ways, under the name that its raw text
stands for. -/
theorem a_failed_mapping_is_told_of_alike :
    Config.standard.validate = .ok () ∧
    ∃ e, ((tryOpen "//s" 8 .standard).run 0 .unmapped [] .empty).1.value? = some (.error e) ∧
      ((openWith "//s" 8 .standard).run 0 .unmapped [] .empty).1.value? =
        some (ofError 8 .standard e) ∧
      ((Scenario.named "//s" fun n =>
          if (8 : UInt32) = 0 then Segment.attach n .standard
          else Segment.create n 8 .standard).run 0 .unmapped [] .empty).1.value? =
        some (.error e) ∧
      e.name = "/s" := by
  obtain ⟨es, r, f', h', attempt, facade, itself, -, titles, -⟩ :=
    ways_of_opening_agree 0 .empty .unmapped "//s" 8 .standard
  have attempted := attempt.run_eq []
  have alone := (itself Config.validate_standard).run_eq []
  have refused : ((tryOpen "//s" 8 .standard).run 0 .unmapped [] .empty).1.value? =
      some (.error (.acquire "/s" "map" (Errno.text ⟨12⟩))) := rfl
  rw [attempted] at refused
  cases r with
  | ok g => cases refused
  | error e =>
    refine ⟨Config.validate_standard, e, ?_, ?_, ?_, titles⟩
    · rw [attempted]
      rfl
    · rw [facade.run_eq []]
      rfl
    · rw [alone]
      rfl

end SharedSegment
