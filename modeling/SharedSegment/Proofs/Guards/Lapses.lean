import SharedSegment.Proofs.Tenure

/-!
# Lapses

A guard of a thread is good for the mutex of its object until it lapses. That happens in two ways:
the thread gives the mutex back in a call that is not on this guard, or waits under this guard and
is refused the mutex at the end. Both can be told from what has happened (`hasLapsed`), without a
look at the mutex.
-/

namespace SharedSegment
open Scenario

/-- The guard that an act is done on. -/
def Scenario.Act.guard? : Act → Option String
  | .onGuard g _ => some g
  | _ => none

/-- Whether a deed is no failing lock that tells its caller that the mutex was taken. -/
def Deed.isHonest : Deed → Bool
  | .moved _ _ (.struck (.lock _) e) => e ≠ .eownerdead
  | _ => true

/-- The thread that is refused the mutex of an object at the end of a wait. -/
def Deed.forgoes? (k : ObjectId) : Deed → Option ThreadId
  | .moved t h (.answered (.awake m) a) => if h.shows m k && !isTaken a then some t else none
  | _ => none

/-- Whether a deed makes a guard lapse, by the act that the thread of the guard has begun last. -/
def Deed.lapses (k : ObjectId) (t : ThreadId) (g : String) (last : Option Act) (d : Deed) : Bool :=
  if last.bind Act.guard? = some g then d.forgoes? k = some t else d.gives? k = some t

/-- The act that a thread has begun last. -/
def lastAct (t : ThreadId) : List Deed → Option Act
  | [] => none
  | .began t' a :: past => if t' = t then some a else lastAct t past
  | _ :: past => lastAct t past

/-- Whether a thread comes back by a deed from the call for a guard of some name. -/
def Deed.remakes (t : ThreadId) (g : String) : Deed → Bool
  | .returned t' (.onHandle _ (.guard g')) _ => t' = t && g' = g
  | _ => false

/-- Whether a guard has lapsed since it was made. -/
def hasLapsed (k : ObjectId) (t : ThreadId) (g : String) : List Deed → Bool
  | [] => false
  | d :: past => !d.remakes t g && (d.lapses k t g (lastAct t past) || hasLapsed k t g past)

section
variable {k : ObjectId} {t : ThreadId} {g : String} {d : Deed} {past : List Deed}

/-- Whoever forgoes a mutex has waited for it, and does not take it. -/
lemma Deed.forgoes_inv (forgoes : d.forgoes? k = some t) :
    ∃ h m a, d = .moved t h (.answered (.awake m) a) ∧ d.takes? k = none := by
  unfold forgoes? at forgoes
  split at forgoes
  case h_1 t' h m a =>
    split at forgoes
    case isFalse => cases forgoes
    case isTrue refused =>
      cases forgoes
      have refused : isTaken a = false := by
        obtain ⟨-, refused⟩ := Bool.and_eq_true_iff.1 refused
        simpa using refused
      exact ⟨h, m, a, rfl, by simp [takes?, refused]⟩
  case h_2 => cases forgoes

lemma lastAct_of_ne (ne : t ≠ d.thread) : lastAct t (d :: past) = lastAct t past := by
  cases d with
  | began t' a => exact if_neg ne.symm
  | moved | returned | died => rfl

lemma Deed.remakes_of_ne (ne : t ≠ d.thread) : d.remakes t g = false := by
  unfold remakes
  split
  case h_1 t' h g' o =>
    have other : t' ≠ t := ne.symm
    simp [other]
  case h_2 => rfl

lemma Deed.remakes_of_returned {a : Act} {o : Outcome}
    (other : ∀ h, a ≠ .onHandle h (.guard g)) : (Deed.returned t a o).remakes t g = false := by
  unfold remakes
  split
  case h_1 t' h g' o e =>
    cases e
    have ne : g' ≠ g := by
      rintro rfl
      exact other h rfl
    simp [ne]
  case h_2 => rfl

/-- A guard that has lapsed stays so until it is made anew. -/
lemma hasLapsed_cons (old : d.remakes t g = false) (lapsed : hasLapsed k t g past) :
    hasLapsed k t g (d :: past) := by
  rw [hasLapsed, old, lapsed, Bool.or_true]
  rfl

lemma hasLapsed_of_lapses (old : d.remakes t g = false)
    (lapses : d.lapses k t g (lastAct t past)) : hasLapsed k t g (d :: past) := by
  rw [hasLapsed, old, lapses, Bool.true_or]
  rfl

end
end SharedSegment
