import SharedSegment.Proofs.Custody.Keeping
import SharedSegment.Proofs.Custody.Objects

/-!
# Payloads

What a request leaves of an object: at every place stands what was written there last
(`Host.keeps_step`). Only a request that sets the length or the size of an object breaks that, and
nobody in a session asks for one once the size of the object is published. So an object that is
published keeps its size, its length and its mode, and a byte of it is the one that was written
last, whichever mapping it was written through (`Session.IsKeptFrom.published_run`).
-/

namespace SharedSegment

/-- The byte that a request writes at some place of an object. -/
def Host.writes? (h : Host) (k : ObjectId) (i : Nat) : Request → Option UInt8
  | .write m off bs =>
    if h.shows m k ∧ off ≤ i ∧ i < off + bs.size then some (bs.getD (i - off) 0) else none
  | .clear m off len => if h.shows m k ∧ off ≤ i ∧ i < off + len then some 0 else none
  | _ => none

/-- Whether a request sets the length or the size of an object. -/
def Host.Shapes (h : Host) (k : ObjectId) : Request → Prop
  | .resize f _ => h.file? f = some k
  | .storeSize m _ => h.shows m k
  | _ => False

/-- The byte that some thread writes by a deed. -/
def Deed.writes? (k : ObjectId) (i : Nat) : Deed → Option UInt8
  | .moved _ h (.answered r _) => h.writes? k i r
  | _ => none

/-- The byte that was written last at some place of an object. -/
def lastWritten (k : ObjectId) (i : Nat) (past : List Deed) : Option UInt8 :=
  past.findSome? (Deed.writes? k i)

lemma lastWritten_cons (k : ObjectId) (i : Nat) (d : Deed) (past : List Deed) :
    lastWritten k i (d :: past) = (d.writes? k i).or (lastWritten k i past) := by
  cases e : d.writes? k i <;> simp [lastWritten, e]

lemma lastWritten_append (k : ObjectId) (i : Nat) (past past' : List Deed) :
    lastWritten k i (past' ++ past) = (lastWritten k i past').or (lastWritten k i past) := by
  simp [lastWritten, List.findSome?_append]

namespace Object

/-- An object keeps its length and its mode, and its bytes are what they were or are written. -/
structure Keeps (o : Object) (written : Nat → Option UInt8) (o' : Object) : Prop where
  length : o'.length = o.length
  mode : o'.mode = o.mode
  bytes : ∀ i, o'.bytes i = (written i).getD (o.bytes i)

variable {o o' o'' : Object} {w w' : Nat → Option UInt8}

lemma keeps_refl (o : Object) : o.Keeps (fun _ => none) o := ⟨rfl, rfl, fun _ => rfl⟩

/-- The mutex and the condition are no part of what is kept. -/
lemma keeps_sync (o : Object) (x : Mutex) (c : Condition) :
    o.Keeps (fun _ => none) { o with mutex := x, condition := c } :=
  ⟨rfl, rfl, fun _ => rfl⟩

lemma Keeps.trans (first : o.Keeps w o') (next : o'.Keeps w' o'') :
    o.Keeps (fun i => (w' i).or (w i)) o'' := by
  refine ⟨next.length.trans first.length, next.mode.trans first.mode, ?_⟩
  intro i
  rw [next.bytes, first.bytes]
  cases w' i <;> rfl

/-- The size stays if nothing is written over it. -/
lemma Keeps.sizeField (keeps : o.Keeps w o') (spared : ∀ i < 4, w i = none) :
    o'.sizeField = o.sizeField := by
  have same i (lt : i < 4) : o'.bytes i = o.bytes i := by
    rw [keeps.bytes, spared i lt]
    rfl
  simp [Object.sizeField, same]

lemma keeps_write (off : Nat) (bs : Array UInt8) :
    o.Keeps (fun i => if off ≤ i ∧ i < off + bs.size then some (bs.getD (i - off) 0) else none)
      (o.write off bs) := by
  refine ⟨rfl, rfl, fun i => ?_⟩
  by_cases within : off ≤ i ∧ i < off + bs.size <;> simp [write, within]

lemma keeps_clear (off len : Nat) :
    o.Keeps (fun i => if off ≤ i ∧ i < off + len then some 0 else none) (o.clear off len) := by
  refine ⟨rfl, rfl, fun i => ?_⟩
  by_cases within : off ≤ i ∧ i < off + len <;> simp [clear, within]

end Object

namespace Host

variable {h h' : Host} {t : ThreadId} {k : ObjectId} {m : MappingId}

/-- A host on which an object is as it was, but for what was written. -/
def Keeps (h : Host) (k : ObjectId) (w : Nat → Option UInt8) (h' : Host) : Prop :=
  ∀ o, h.object? k = some o → ∃ o', h'.object? k = some o' ∧ o.Keeps w o'

lemma keeps_of_objects (same : h'.objects = h.objects) : h.Keeps k (fun _ => none) h' := by
  intro o here
  refine ⟨o, ?_, o.keeps_refl⟩
  rwa [object?, same]

/-- A request writes to no object but the one that it is about. -/
lemma writes?_of_not_isAbout {r : Request} (other : ¬h.isAbout k r) (i : Nat) :
    h.writes? k i r = none := by
  cases r with
  | write | clear => exact if_neg fun within => other within.1
  | _ => rfl

/-- What a request leaves of the object that it is about, and whose length and size it does not
set. -/
lemma keeps_remake {r : Request} (about : h.isAbout k r) (spared : ¬h.Shapes k r) (o : Object) :
    o.Keeps (fun i => h.writes? k i r) (r.remake t o) := by
  cases r with
  | resize => exact absurd (beq_iff_eq.1 about) spared
  | storeSize => exact absurd about spared
  | write m off bs =>
    have shows : h.shows m k := about
    simp only [writes?, shows, true_and]
    exact o.keeps_write off bs
  | clear m off len =>
    have shows : h.shows m k := about
    simp only [writes?, shows, true_and]
    exact o.keeps_clear off len
  | park m =>
    change o.Keeps _ (Host.park t o).2
    unfold Host.park
    split
    · exact o.keeps_sync _ _
    · exact o.keeps_refl
  | awake m =>
    simp only [Request.remake]
    split
    · exact o.keeps_refl
    · exact o.keeps_sync _ _
  | _ => exact o.keeps_sync _ _

/-- What a request leaves of an object whose length and size it does not set. -/
theorem keeps_step {r : Request} (t : ThreadId) (spared : ¬h.Shapes k r) :
    h.Keeps k (fun i => h.writes? k i r) (h.step t r).host := by
  intro o here
  refine ⟨_, object_step here t r, ?_⟩
  by_cases about : h.isAbout k r
  · rw [if_pos about]
    exact keeps_remake about spared o
  · rw [if_neg about]
    simp only [writes?_of_not_isAbout about]
    exact o.keeps_refl

lemma keeps_wait {r : Request} (e : h.step t r = .wait h') : h.Keeps k (fun _ => none) h' := by
  have silent : ¬h.Shapes k r ∧ (fun i => h.writes? k i r) = fun _ => none := by
    cases r with
    | lock | awake | condDestroy | hold => exact ⟨id, rfl⟩
    | _ => cases e
  have keeps := keeps_step t silent.1
  rwa [e, silent.2] at keeps

lemma keeps_bury : h.Keeps k (fun _ => none) (h.bury t) := by
  intro o here
  exact ⟨o.bury t, object?_bury here t, rfl, rfl, fun _ => rfl⟩

end Host

/-- An object goes on with its length, its mode and its size, and with what was written. -/
def Host.Continues (h : Host) (k : ObjectId) (w : Nat → Option UInt8) (h' : Host) : Prop :=
  ∀ o, h.object? k = some o → o.sizeField ≠ 0 →
    ∃ o', h'.object? k = some o' ∧ o.Keeps w o' ∧ o'.sizeField = o.sizeField

lemma Host.Keeps.continues {h h' : Host} {k : ObjectId} {w : Nat → Option UInt8}
    (keeps : h.Keeps k w h') (spared : ∀ i < 4, w i = none) : h.Continues k w h' := by
  intro o here _
  obtain ⟨o', there, kept⟩ := keeps o here
  exact ⟨o', there, kept, kept.sizeField spared⟩

section
variable {ι : Type} {torn : Prop} {b : ObjectId} {h : Host} {σ : ι → Custody}
  {i : ι} {r : Request} {k : ObjectId} {o : Object}

/-- What is published belongs to the party that has published it, which does not shape it again;
and nobody writes over a size. -/
lemma Custodians.spares_published (cu : Custodians torn b h.ledger σ)
    (may : (σ i).Permits torn r) (here : h.object? k = some o) (published : o.sizeField ≠ 0) :
    ¬h.Shapes k r ∧ ∀ j < 4, h.writes? k j r = none := by
  cases r with
  | resize f len =>
    refine ⟨fun opens => ?_, fun _ _ => rfl⟩
    exact published (cu.resizes_own may here opens).1
  | storeSize m n =>
    refine ⟨fun shows => ?_, fun _ _ => rfl⟩
    exact published (cu.makes_own may.2 here shows).1
  | write m off bs | clear m off len =>
    have behind : 4 ≤ off := may
    refine ⟨id, fun j lt => if_neg ?_⟩
    rintro ⟨-, le, -⟩
    exact Nat.not_le.2 lt (Nat.le_trans behind le)
  | _ => exact ⟨id, fun _ _ => rfl⟩

end

namespace Session.IsKeptFrom

variable {b : ObjectId} {s s' : Session} {σ : ThreadId ⊕ String → Custody} {d : Deed}

/-- A step leaves an object that is published as it is, but for the bytes that it writes. -/
lemma published_step (kept : s.IsKeptFrom b σ) (st : s.Step d s') (k : ObjectId) :
    s.host.Continues k (fun i => d.writes? k i) s'.host := by
  cases st.touches with
  | nothing same none =>
    have silent : (fun i => d.writes? k i) = fun _ => Option.none := by
      funext i
      unfold Deed.writes?
      split
      · exact absurd rfl (none _ _ _ _)
      · rfl
    rw [silent, same]
    exact (Host.keeps_of_objects rfl).continues fun _ _ => rfl
  | @answered t c r a next ec alive ep eh =>
    intro o here published
    obtain ⟨spared, unwritten⟩ :=
      kept.custodians.spares_published (kept.permits ec alive ep) here published
    have keeps := Host.keeps_step t spared
    rw [eh] at keeps
    exact keeps.continues unwritten o here published
  | waited eh => exact (Host.keeps_wait eh).continues fun _ _ => rfl
  | died same =>
    rw [same]
    exact Host.keeps_bury.continues fun _ _ => rfl

/-- An object that is published keeps its length, its mode and its size through a whole run, and at
every place stands what was written there last. -/
theorem published_run {past : List Deed} (kept : s.IsKeptFrom b σ)
    (run : Run Session.Step s past s') (k : ObjectId) :
    s.host.Continues k (fun i => lastWritten k i past) s'.host := by
  suffices both : (∃ σ', s'.IsKeptFrom b σ') ∧
      s.host.Continues k (fun i => lastWritten k i past) s'.host from both.2
  induction run with
  | nil => exact ⟨⟨σ, kept⟩, (Host.keeps_of_objects rfl).continues fun _ _ => rfl⟩
  | cons run st ih =>
    obtain ⟨⟨σ', kept'⟩, continued⟩ := ih
    refine ⟨kept'.step st, ?_⟩
    intro o here published
    obtain ⟨o', here', keeps, size⟩ := continued o here published
    obtain ⟨o'', here'', keeps', size'⟩ :=
      kept'.published_step st k o' here' (fun zero => published (size.symm.trans zero))
    simp only [lastWritten_cons]
    exact ⟨o'', here'', keeps.trans keeps', size'.trans size⟩

end Session.IsKeptFrom
end SharedSegment
