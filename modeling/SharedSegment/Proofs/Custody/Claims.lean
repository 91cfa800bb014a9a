import Mathlib.Logic.Function.Basic
import Mathlib.Tactic.Lemma

/-!
# Claims

Several parties may each claim one entry of a table: they know what it says, and no two claim the
same. The lemmas say what one party can do without touching the others: nothing (`Claims.keep`),
give its claim up (`Claims.drop`), claim a new entry (`Claims.add`), change its entry
(`Claims.set`), or take it out (`Claims.remove`).
-/

namespace SharedSegment
open Function

/-- Parties claim different entries of a table, and know what these say. -/
structure Claims {ι α : Type} (look : Nat → Option α) (claim : ι → Option (Nat × α)) : Prop where
  known : ∀ i n a, claim i = some (n, a) → look n = some a
  apart : ∀ i j n a b, claim i = some (n, a) → claim j = some (n, b) → i = j

namespace Claims

variable {ι κ α : Type} [DecidableEq ι] {look look' : Nat → Option α} {f : κ → Option (Nat × α)}
  {σ : ι → κ} {i : ι} {c : κ} {n : Nat} {a b : α}

omit [DecidableEq ι] in
lemma nobody : Claims look fun _ : ι => (none : Option (Nat × α)) := by
  constructor
  · intro i n a e
    cases e
  · intro i j n a b e
    cases e

omit [DecidableEq ι] in
/-- Claims may be handed over, as long as no two are merged. -/
lemma reindex {ι' : Type} {e : ι' → ι} (cl : Claims look fun j => f (σ j))
    (inj : Function.Injective e) : Claims look fun j => f (σ (e j)) := by
  constructor
  · intro i n a ea
    exact cl.known (e i) n a ea
  · intro i j n a b ea eb
    exact inj (cl.apart (e i) (e j) n a b ea eb)

/-- One party goes on with another claim, in a table that has changed only where no other party
claims anything. -/
lemma update (cl : Claims look fun j => f (σ j))
    (frame : ∀ j ≠ i, ∀ n a, f (σ j) = some (n, a) → look' n = some a)
    (own : ∀ n a, f c = some (n, a) → look' n = some a ∧ ∀ j ≠ i, ∀ b, f (σ j) ≠ some (n, b)) :
    Claims look' fun j => f (Function.update σ i c j) := by
  refine ⟨?_, ?_⟩
  · intro j n a e
    by_cases ej : j = i
    · subst ej
      rw [update_self] at e
      exact (own n a e).1
    · rw [update_of_ne ej] at e
      exact frame j ej n a e
  · intro j j' n a b e e'
    by_cases ej : j = i
    · by_cases ej' : j' = i
      · rw [ej, ej']
      · subst ej
        rw [update_self] at e
        rw [update_of_ne ej'] at e'
        exact absurd e' ((own n a e).2 j' ej' b)
    · by_cases ej' : j' = i
      · subst ej'
        rw [update_self] at e'
        rw [update_of_ne ej] at e
        exact absurd e ((own n b e').2 j ej a)
      · rw [update_of_ne ej] at e
        rw [update_of_ne ej'] at e'
        exact cl.apart j j' n a b e e'

lemma keep (cl : Claims look fun j => f (σ j))
    (same : ∀ n a, look n = some a → look' n = some a) (e : f c = f (σ i)) :
    Claims look' fun j => f (Function.update σ i c j) := by
  refine cl.update (fun j _ n a ej => same n a (cl.known j n a ej)) ?_
  intro n a ec
  rw [e] at ec
  refine ⟨same n a (cl.known i n a ec), ?_⟩
  intro j ne b ej
  exact ne (cl.apart j i n b a ej ec)

lemma drop (cl : Claims look fun j => f (σ j))
    (same : ∀ n a, look n = some a → look' n = some a) (e : f c = none) :
    Claims look' fun j => f (Function.update σ i c j) := by
  refine cl.update (fun j _ n a ej => same n a (cl.known j n a ej)) ?_
  intro n a ec
  rw [e] at ec
  cases ec

lemma add (cl : Claims look fun j => f (σ j))
    (same : ∀ n a, look n = some a → look' n = some a) (new : look n = none)
    (here : look' n = some a) (e : f c = some (n, a)) :
    Claims look' fun j => f (Function.update σ i c j) := by
  refine cl.update (fun j _ n a ej => same n a (cl.known j n a ej)) ?_
  intro n' a' ec
  cases e.symm.trans ec
  refine ⟨here, ?_⟩
  intro j _ b ej
  have there := cl.known j n b ej
  rw [new] at there
  cases there

lemma set (cl : Claims look fun j => f (σ j)) (mine : f (σ i) = some (n, b))
    (same : ∀ n', n' ≠ n → look' n' = look n') (here : look' n = some a)
    (e : f c = some (n, a)) : Claims look' fun j => f (Function.update σ i c j) := by
  refine cl.update ?_ ?_
  · intro j ne n' a' ej
    have apart : n' ≠ n := by
      rintro rfl
      exact ne (cl.apart j i n' a' b ej mine)
    rw [same n' apart]
    exact cl.known j n' a' ej
  · intro n' a' ec
    cases e.symm.trans ec
    refine ⟨here, ?_⟩
    intro j ne b' ej
    exact ne (cl.apart j i n b' b ej mine)

lemma remove (cl : Claims look fun j => f (σ j)) (mine : f (σ i) = some (n, b))
    (same : ∀ n', n' ≠ n → look' n' = look n') (e : f c = none) :
    Claims look' fun j => f (Function.update σ i c j) := by
  refine cl.update ?_ ?_
  · intro j ne n' a' ej
    have apart : n' ≠ n := by
      rintro rfl
      exact ne (cl.apart j i n' a' b ej mine)
    rw [same n' apart]
    exact cl.known j n' a' ej
  · intro n' a' ec
    rw [e] at ec
    cases ec

end Claims
end SharedSegment
