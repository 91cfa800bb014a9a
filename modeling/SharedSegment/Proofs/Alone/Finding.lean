import SharedSegment.Proofs.Alone.Entries
import SharedSegment.Proofs.Alone.Making

/-!
# Finding a segment alone

What attaching to a segment comes to when nobody comes between: it adds a file and mappings to the
host and nothing else, and if no call fails, it succeeds exactly if a finished segment is there
(`Host.Offers`).
-/

namespace SharedSegment
open Header

/-- A segment that can be attached to is bound to a name. -/
structure Host.Offers (h : Host) (n : Name) (k : ObjectId) (o : Object) : Prop where
  bound : h.store.place n = .file (some (.object k))
  object : h.object? k = some o
  permits : (o.isReadable && o.isWritable) = true
  length : total o.sizeField ≤ o.length
  published : o.sizeField ≠ 0

namespace Host

variable {h : Host} {t : ThreadId} {k : ObjectId} {o : Object}

lemma step_openExisting {n : Name} (bound : h.store.place n = .file (some (.object k)))
    (here : h.object? k = some o) (permits : (o.isReadable && o.isWritable) = true) :
    h.step t (.openExisting n) = .done (α := Except Errno Nat) (.ok h.files.length)
      (h.grown h.store [] [some k] []) := by
  simp only [step, openExisting, bound, here, permits, addFile_eq]
  rfl

variable {st : Store} {m : MappingId} {x : Mapping} {ms : List (Option Mapping)}

/-- The first file that was added is mapped. -/
lemma step_map_grown (here : h.object? k = some o) (len : Nat) :
    (h.grown st [] [some k] ms).step t (.map h.files.length len) =
      .done (α := Except Errno Nat) (.ok (h.mappings.length + ms.length))
        (h.grown st [] [some k] (ms ++ [some ⟨k, len⟩])) := by
  rw [step_map file?_grown (object?_grown_of_some here), grown_mappings_length]
  simp only [grown, List.append_assoc]
  rfl

end Host

namespace Segment

variable {t : ThreadId} {may : Host → Request → Prop} {h : Host} {k : ObjectId} {o : Object}
  {n : Name} {c : Config}

/-- The size in the header is found, and the mapping that was made for that is gone, unless a call
is let fail. -/
lemma alone_probe (here : h.object? k = some o) :
    (probe n c h.files.length).Ensures (.alone t may)
      (fun r h' => ∃ ms, h' = h.grown h.store [] [some k] ms ∧
        (h.Tidies may → ∀ x ∈ ms, x = none) ∧
        ((∃ e, r = .error e) ∧ (∃ h r, may h r) ∨ r = .ok o.sizeField ∧ ms.length = 1))
      (h.grown h.store [] [some k] []) := by
  refine .asks (Host.step_map_grown here _) ?_ ?_
  case refine_2 =>
    intro call fail e ec spared
    cases ec
    exact ⟨[], rfl, nofun, .inl ⟨⟨_, rfl⟩, _, _, spared⟩⟩
  have sees : (h.grown h.store [] [some k] [some ⟨k, Layout.headerSize⟩]).under?
      h.mappings.length = some (k, o) := by
    have shown := Host.mapping?_grown h h.store [] [some k] [some ⟨k, Layout.headerSize⟩] 0
    rw [Host.under?, show h.mappings.length = h.mappings.length + 0 from rfl, shown]
    simp [Host.object?_grown_of_some here]
  refine .asks_safely rfl (Host.step_loadSize sees) ?_
  refine .asks (a := .ok ()) rfl ?_ ?_
  · exact ⟨[none], by simp [Host.grown], by simp, .inr ⟨rfl, rfl⟩⟩
  · intro call fail e ec spared
    cases ec
    exact ⟨[some ⟨k, Layout.headerSize⟩], rfl, fun tidies => absurd spared (tidies.unmap _ _),
      .inr ⟨rfl, rfl⟩⟩

/-- Whoever maps the segment in an open file finds it finished or not, unless a call is let fail. -/
lemma alone_mapFile (here : h.object? k = some o) :
    (mapFile n c h.files.length).Ensures (.alone t may)
      (fun r h' => ∃ ms, h' = h.grown h.store [] [some k] ms ∧
        ((∃ e, r = .error e) ∧ (h.Tidies may → ∀ x ∈ ms, x = none) ∧
            ((∃ h r, may h r) ∨ ¬(total o.sizeField ≤ o.length ∧ o.sizeField ≠ 0) ∧
              ∃ reason, r = .error (.uninitialized n.text reason)) ∨
          (total o.sizeField ≤ o.length ∧ o.sizeField ≠ 0) ∧
            r = .ok (o.sizeField, h.mappings.length + 1) ∧
            ∃ x, ms = [x, some ⟨k, total o.sizeField⟩]))
      (h.grown h.store [] [some k] []) := by
  refine .asks (Host.step_length Host.file?_grown (Host.object?_grown_of_some here)) ?_ ?_
  case refine_2 =>
    intro call fail e ec spared
    cases ec
    exact ⟨[], rfl, .inl ⟨⟨_, rfl⟩, nofun, .inl ⟨_, _, spared⟩⟩⟩
  change (if o.length < Layout.headerSize then Program.ret _ else _).Ensures _ _ _
  by_cases short : o.length < Layout.headerSize
  · rw [if_pos short]
    refine ⟨[], rfl, .inl ⟨⟨_, rfl⟩, nofun, .inr ⟨?_, _, rfl⟩⟩⟩
    rintro ⟨le, -⟩
    exact Nat.not_lt.2 (Nat.le_trans (Nat.le_add_right ..) le) short
  rw [if_neg short]
  refine (alone_probe here).bind ?_
  rintro r _ ⟨ms, rfl, gone, ⟨⟨e, rfl⟩, spared⟩ | ⟨rfl, one⟩⟩
  · exact ⟨ms, rfl, .inl ⟨⟨e, rfl⟩, gone, .inl spared⟩⟩
  change ((mapWhole n h.files.length o.length o.sizeField).bind _).Ensures _ _ _
  unfold mapWhole
  by_cases zero : o.sizeField = 0
  · rw [if_pos zero]
    exact ⟨ms, rfl, .inl ⟨⟨_, rfl⟩, gone, .inr ⟨fun whole => whole.2 zero, _, rfl⟩⟩⟩
  rw [if_neg zero]
  by_cases cut : o.length < total o.sizeField
  · rw [if_pos cut]
    have unfit : ¬(total o.sizeField ≤ o.length ∧ o.sizeField ≠ 0) := fun whole =>
      Nat.not_lt.2 whole.1 cut
    exact ⟨ms, rfl, .inl ⟨⟨_, rfl⟩, gone, .inr ⟨unfit, _, rfl⟩⟩⟩
  rw [if_neg cut]
  refine .asks (Host.step_map_grown here _) ?_ ?_
  · obtain ⟨x, rfl⟩ := List.length_eq_one_iff.1 one
    exact ⟨_, rfl, .inr ⟨⟨Nat.not_lt.1 cut, zero⟩, rfl, x, rfl⟩⟩
  · intro call fail e ec spared
    cases ec
    exact ⟨ms, rfl, .inl ⟨⟨_, rfl⟩, gone, .inl ⟨_, _, spared⟩⟩⟩

/-- What attaching comes to: a handle on the segment that is there, or an error, and then either a
call was let fail or there is no finished segment. -/
def Finds (h : Host) (may : Host → Request → Prop) (n : Name) (c : Config)
    (r : Except SegmentError Segment) (h' : Host) : Prop :=
  ∃ fs ms, h' = h.grown h.store [] fs ms ∧
    ((∃ e, r = .error e) ∧ (∀ x ∈ fs, x = none) ∧ (h.Tidies may → ∀ x ∈ ms, x = none) ∧
        ((∃ h r, may h r) ∨ ¬∃ k o, h.Offers n k o) ∨
      ∃ k o x, h.Offers n k o ∧ fs = [some k] ∧ ms = [x, some ⟨k, total o.sizeField⟩] ∧
        r = .ok ⟨n, c.flavor, .attacher, o.sizeField, some h.files.length,
          some (h.mappings.length + 1), false⟩)

theorem alone_attach (n : Name) (c : Config) :
    (attach n c).Ensures (.alone t may) (Finds h may n c) h := by
  obtain ⟨e, lost, -⟩ | ⟨k, o, bound, here, permits, -, -⟩ := h.openExisting_cases n
  case inl =>
    have refused : h.step t (.openExisting n) = Host.reply (.error e, h) :=
      congrArg Host.reply lost
    have missing : ¬∃ k o, h.Offers n k o := by
      rintro ⟨k, o, offers⟩
      have found := Host.step_openExisting (t := t) offers.bound offers.object offers.permits
      cases refused.symm.trans found
    refine .asks refused ⟨[], [], by simp, .inl ⟨⟨_, rfl⟩, nofun, fun _ => nofun, .inr missing⟩⟩ ?_
    intro call fail e ec spared
    cases ec
    exact ⟨[], [], by simp, .inl ⟨⟨_, rfl⟩, nofun, fun _ => nofun, .inl ⟨_, _, spared⟩⟩⟩
  refine .asks (Host.step_openExisting bound here permits) ?_ ?_
  case refine_2 =>
    intro call fail e ec spared
    cases ec
    exact ⟨[], [], by simp, .inl ⟨⟨_, rfl⟩, nofun, fun _ => nofun, .inl ⟨_, _, spared⟩⟩⟩
  refine (alone_mapFile here).bind ?_
  rintro r _ ⟨ms, rfl, ⟨⟨e, rfl⟩, gone, why⟩ | ⟨⟨length, published⟩, rfl, x, rfl⟩⟩
  · refine .asks_safely (a := ()) rfl rfl ?_
    rw [Host.close_grown]
    refine ⟨[none], ms, rfl, .inl ⟨⟨e, rfl⟩, by simp, gone, why.imp id ?_⟩⟩
    rintro ⟨unfit, -⟩ ⟨k', o', offers⟩
    cases offers.bound.symm.trans bound
    cases offers.object.symm.trans here
    exact unfit ⟨offers.length, offers.published⟩
  · refine (alone_pin n c o.sizeField).bind ?_
    rintro _ _ rfl
    exact ⟨_, _, rfl, .inr ⟨k, o, x, ⟨bound, here, permits, length, published⟩, rfl, rfl, rfl⟩⟩

end Segment
end SharedSegment
