import SharedSegment.Proofs.Ensures
import SharedSegment.Segment.Open

/-!
# Failures of opening

The failures that creating a segment, or attaching to one, can come to, whatever it is answered
(`Segment.FailsAs`). They are about the store and about what is bound to the name, and all bear the
name; none is about a raw text or about settings, which are looked at before.
-/

namespace SharedSegment
open Program Header

/-- A program ends as a condition says, whatever it is answered. -/
abbrev Program.Always {α : Type} (p : Program α) (post : α → Prop) : Prop :=
  p.Ensures (.asking fun _ => True) (fun a _ => post a) ()

namespace Segment

/-- The failures of creating a segment under a name, or of attaching to it. -/
inductive FailsAs (n : Name) : SegmentError → Prop
  | notFound : FailsAs n (.notFound n.text)
  | nameCollision (reason : String) : FailsAs n (.nameCollision n.text reason)
  | acquire (operation reason : String) : FailsAs n (.acquire n.text operation reason)
  | uninitialized (reason : String) : FailsAs n (.uninitialized n.text reason)
  | syncInit (object reason : String) : FailsAs n (.syncInit n.text object reason)

/-- A step on the way to a segment comes to something, or to a failure. -/
def MayFail {α : Type} (n : Name) (r : Except SegmentError α) : Prop :=
  ∀ e, r = .error e → FailsAs n e

/-- What opening with a size comes to: a segment under the name, in the role and of the size that
were asked for, or a failure. -/
inductive ComesOf (n : Name) (size : UInt32) : Except SegmentError Segment → Prop
  | made {g : Segment} (name : g.name = n) (role : g.role = .ofSize size)
      (same : size ≠ 0 → g.size = size) : ComesOf n size (.ok g)
  | failed {e : SegmentError} (fails : FailsAs n e) : ComesOf n size (.error e)

variable {n : Name} {c : Config} {size : UInt32}

lemma FailsAs.name {e : SegmentError} (fails : FailsAs n e) : e.name = n.text := by
  cases fails <;> rfl

lemma mayFail_error {α : Type} {e : SegmentError} (fails : FailsAs n e) :
    MayFail n (.error e : Except SegmentError α) := by
  rintro _ ⟨⟩
  exact fails

lemma mayFail_ok {α : Type} (a : α) : MayFail n (.ok a) := by
  rintro _ ⟨⟩

lemma failsAs_createError (n : Name) (first : Errno) (removal : Option Errno) :
    FailsAs n (createError n first removal) := by
  by_cases taken : first = .eexist
  · simp only [createError, if_pos taken]
    exact .nameCollision _
  · simp only [createError, if_neg taken]
    exact .acquire _ _

lemma mayFail_openExclusive : (openExclusive n c).Always (MayFail n) := by
  refine ⟨trivial, fun r _ _ => ?_⟩
  cases r with
  | ok f => exact mayFail_ok f
  | error first =>
    refine ⟨trivial, fun r _ _ => ?_⟩
    cases r with
    | error e => exact mayFail_error (failsAs_createError ..)
    | ok =>
      refine ⟨trivial, fun r _ _ => ?_⟩
      cases r with
      | ok f => exact mayFail_ok f
      | error e => exact mayFail_error (failsAs_createError ..)

lemma comesOf_giveUp (g : Segment) {e : SegmentError} (fails : FailsAs n e) :
    (g.giveUp e).Always (ComesOf n size) :=
  Ensures.bind g.destroy.asks_anything fun _ _ _ => .failed fails

/-- What creation comes to, whatever it is answered. -/
theorem comesOf_create (positive : size ≠ 0) : (create n size c).Always (ComesOf n size) := by
  refine mayFail_openExclusive.bind ?_
  intro r _ mayFail
  cases r with
  | error e => exact .failed (mayFail e rfl)
  | ok f =>
    refine ⟨trivial, fun r _ _ => ?_⟩
    cases r with
    | error e => exact comesOf_giveUp _ (.acquire _ _)
    | ok =>
      refine ⟨trivial, fun r _ _ => ?_⟩
      cases r with
      | error e => exact comesOf_giveUp _ (.acquire _ _)
      | ok m =>
        refine Ensures.bind (p := prepare m size) (prepare m size).asks_anything ?_
        intro r _ _
        cases r with
        | error e => exact comesOf_giveUp _ (.syncInit _ _)
        | ok =>
          refine Ensures.bind (p := pin n c m size) (pin n c m size).asks_anything ?_
          intro _ _ _
          exact .made rfl (if_neg positive).symm fun _ => rfl

lemma mayFail_probe (f : FileId) : (probe n c f).Always (MayFail n) := by
  refine ⟨trivial, fun r _ _ => ?_⟩
  cases r with
  | error e => exact mayFail_error (.acquire _ _)
  | ok m =>
    refine ⟨trivial, fun stored _ _ => ⟨trivial, fun r _ _ => ?_⟩⟩
    cases r with
    | ok => exact mayFail_ok stored
    | error e => exact mayFail_ok stored

lemma mayFail_mapWhole (f : FileId) (stored : Nat) :
    (mapWhole n f stored size).Always (MayFail n) := by
  unfold mapWhole
  split
  case isTrue => exact mayFail_error (.uninitialized _)
  case isFalse =>
    split
    case isTrue => exact mayFail_error (.uninitialized _)
    case isFalse =>
      refine ⟨trivial, fun r _ _ => ?_⟩
      cases r with
      | error e => exact mayFail_error (.acquire _ _)
      | ok m => exact mayFail_ok m

lemma mayFail_mapFile (f : FileId) : (mapFile n c f).Always (MayFail n) := by
  refine ⟨trivial, fun r _ _ => ?_⟩
  cases r with
  | error e => exact mayFail_error (.acquire _ _)
  | ok stored =>
    change (if stored < Layout.headerSize then Program.ret _ else _).Ensures _ _ _
    split
    case isTrue => exact mayFail_error (.uninitialized _)
    case isFalse =>
      refine (mayFail_probe f).bind ?_
      intro r _ mayFail
      cases r with
      | error e => exact mayFail_error (mayFail e rfl)
      | ok size =>
        refine (mayFail_mapWhole f stored).bind ?_
        intro r _ mayFail
        cases r with
        | error e => exact mayFail_error (mayFail e rfl)
        | ok m => exact mayFail_ok _

/-- What attaching comes to, whatever it is answered. -/
theorem comesOf_attach : (attach n c).Always (ComesOf n 0) := by
  refine ⟨trivial, fun r _ _ => ?_⟩
  cases r with
  | error e =>
    change ComesOf n 0 (.error (if e = .enoent then SegmentError.notFound n.text else _))
    split
    · exact .failed .notFound
    · exact .failed (.acquire _ _)
  | ok f =>
    refine (mayFail_mapFile f).bind ?_
    intro r _ mayFail
    cases r with
    | error e => exact ⟨trivial, fun _ _ _ => .failed (mayFail e rfl)⟩
    | ok x =>
      refine Ensures.bind (p := pin n c x.2 x.1) (pin n c x.2 x.1).asks_anything ?_
      intro _ _ _
      exact .made rfl rfl fun positive => absurd rfl positive

end Segment
end SharedSegment
