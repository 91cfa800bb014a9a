import SharedSegment.Proofs.Alone.Growth

/-!
# Entries of the store

Where a segment name leads is decided by its stem and by what that is bound to
(`Store.place_cases`). The stem may be no file name (`Name.IsPlain`), and what a file name is bound
to is an object, a directory or a link (`Host.item?`). So it is decided, too, whether an object is
opened under the name (`Host.openExisting_cases`).
-/

namespace SharedSegment

namespace Name

/-- What stands behind the separator of a name leads into some directory. -/
def IsNested (n : Name) : Prop :=
  separator ∈ n.stem

/-- What stands behind the separator of a name is a name that every directory has. -/
def IsDots (n : Name) : Prop :=
  n.stem = ['.'] ∨ n.stem = ['.', '.']

/-- What stands behind the separator of a name is a file name. -/
def IsPlain (n : Name) : Prop :=
  ¬n.IsNested ∧ ¬n.IsDots

instance : DecidablePred IsNested :=
  fun n => inferInstanceAs (Decidable (separator ∈ n.stem))

instance : DecidablePred IsDots :=
  fun n => inferInstanceAs (Decidable (n.stem = ['.'] ∨ n.stem = ['.', '.']))

instance : DecidablePred IsPlain :=
  fun n => inferInstanceAs (Decidable (¬n.IsNested ∧ ¬n.IsDots))

end Name

/-- Where a name leads: into some directory, to a directory, or to what it is bound to. -/
lemma Store.place_cases (s : Store) (n : Name) :
    (n.IsNested ∧ s.place n = .nested) ∨
      (¬n.IsNested ∧ (n.IsDots ∨ s.get? n.file = some .directory) ∧ s.place n = .directory) ∨
      (n.IsPlain ∧ s.get? n.file ≠ some .directory ∧ s.place n = .file (s.get? n.file)) := by
  by_cases nested : n.IsNested
  · exact .inl ⟨nested, if_pos nested⟩
  have flat : s.place n = ite (n.IsDots) _ _ := if_neg nested
  by_cases dots : n.IsDots
  · exact .inr (.inl ⟨nested, .inl dots, flat.trans (if_pos dots)⟩)
  rw [if_neg dots] at flat
  by_cases bound : s.get? n.file = some .directory
  · rw [bound] at flat
    exact .inr (.inl ⟨nested, .inr bound, flat⟩)
  · refine .inr (.inr ⟨⟨nested, dots⟩, bound, flat.trans ?_⟩)
    split
    case h_1 directory => exact absurd directory bound
    case h_2 => rfl

namespace Host

/-- Something that a file name can be bound to. -/
inductive Item where
  | object (k : ObjectId) (o : Object)
  | directory
  | link (target : String)

/-- What a file name is bound to on a host. The number of no object stands for nothing. -/
def item? (h : Host) (file : String) : Option Item :=
  (h.store.get? file).bind fun
    | .object k => (h.object? k).map (.object k)
    | .directory => some .directory
    | .link target => some (.link target)

lemma item?_eq_directory_iff {h : Host} {file : String} :
    h.item? file = some .directory ↔ h.store.get? file = some .directory := by
  rw [item?]
  cases h.store.get? file with
  | none => simp
  | some b => cases b <;> simp

/-- No object is opened under a name: it is no file name, or it is bound to something else than an
object, or to an object that may not be read and written. -/
def Bars (h : Host) (n : Name) : Prop :=
  ¬n.IsPlain ∨ h.item? n.file = some .directory ∨ (∃ target, h.item? n.file = some (.link target)) ∨
    ∃ k o, h.item? n.file = some (.object k o) ∧ ¬(o.isReadable ∧ o.isWritable)

/-- A file name that bars is bound, and to no object that may be read and written. -/
lemma Bars.bound {h : Host} {n : Name} (bars : h.Bars n) (plain : n.IsPlain) :
    h.item? n.file ≠ none ∧
      ∀ k o, h.item? n.file = some (.object k o) → ¬(o.isReadable ∧ o.isWritable) := by
  obtain crooked | item | ⟨target, item⟩ | ⟨k, o, item, shut⟩ := bars
  · exact absurd plain crooked
  · simp [item]
  · simp [item]
  · rw [item]
    refine ⟨Option.some_ne_none _, ?_⟩
    rintro _ _ ⟨⟩
    exact shut

/-- Opening the object under a name is refused, or leads to the object, by what the name is bound
to. -/
lemma openExisting_cases (h : Host) (n : Name) :
    (∃ e, h.openExisting n = (.error e, h) ∧
      (e ≠ .enoent ∧ h.Bars n ∨ e = .enoent ∧ n.IsPlain ∧ h.item? n.file = none)) ∨
    ∃ k o, h.store.place n = .file (some (.object k)) ∧ h.object? k = some o ∧
      (o.isReadable && o.isWritable) = true ∧ n.IsPlain ∧
      h.item? n.file = some (.object k o) := by
  obtain ⟨nested, leads⟩ | ⟨flat, lost, leads⟩ | ⟨plain, other, leads⟩ := h.store.place_cases n
  · have bars : h.Bars n := .inl fun plain => plain.1 nested
    exact .inl ⟨.einval, by simp [openExisting, leads], .inl ⟨by decide, bars⟩⟩
  · have bars : h.Bars n := by
      obtain dots | bound := lost
      · exact .inl fun plain => plain.2 dots
      · exact .inr (.inl (item?_eq_directory_iff.2 bound))
    exact .inl ⟨.einval, by simp [openExisting, leads], .inl ⟨by decide, bars⟩⟩
  have item : h.item? n.file = (h.store.get? n.file).bind _ := rfl
  cases bound : h.store.get? n.file with
  | none =>
    rw [bound] at leads item
    exact .inl ⟨.enoent, by simp [openExisting, leads], .inr ⟨rfl, plain, item⟩⟩
  | some b =>
    rw [bound] at leads item
    cases b with
    | directory => exact absurd bound other
    | link target =>
      have bars : h.Bars n := .inr (.inr (.inl ⟨target, item⟩))
      exact .inl ⟨.eloop, by simp [openExisting, leads], .inl ⟨by decide, bars⟩⟩
    | object k =>
      cases here : h.object? k with
      -- The number of no object counts as no binding.
      | none =>
        refine .inl ⟨.enoent, by simp [openExisting, leads, here], .inr ⟨rfl, plain, ?_⟩⟩
        simp [item, here]
      | some o =>
        have item : h.item? n.file = some (.object k o) := by simp [item, here]
        by_cases permits : (o.isReadable && o.isWritable) = true
        · exact .inr ⟨k, o, leads, here, permits, plain, item⟩
        · have bars : h.Bars n := .inr (.inr (.inr ⟨k, o, item, by simpa using permits⟩))
          refine .inl ⟨.eacces, ?_, .inl ⟨by decide, bars⟩⟩
          simp only [openExisting, leads, here, if_neg permits]

end Host
end SharedSegment
