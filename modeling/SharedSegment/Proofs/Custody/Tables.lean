import SharedSegment.Proofs.Alone.Growth
import SharedSegment.Proofs.Custody.Ledger
import SharedSegment.Proofs.Session

/-!
# Names, files and mappings of a host

Few requests change what names are bound to, or which files and mappings there are
(`Host.sameTables_step`). Files and mappings are numbered, and no number is given twice: a mapping
that is still there shows what it has always shown (`Session.numbers_run`).
-/

namespace SharedSegment

/-- Whether a request changes names, files or mappings. -/
def Request.isTabled : Request → Bool
  | .openNew .. | .openExisting .. | .unlink .. | .close .. | .map .. | .unmap .. => true
  | _ => false

/-- A table in which no number is given twice has gone on: what a number stands for, it has always
stood for since it was given. -/
structure Numbered {α : Type} (l l' : List (Option α)) : Prop where
  more : l.length ≤ l'.length
  same : ∀ n < l.length, ∀ x, l'[n]?.join = some x → l[n]?.join = some x

namespace Numbered

variable {α : Type} {l l' l'' : List (Option α)}

lemma refl (l : List (Option α)) : Numbered l l :=
  ⟨Nat.le_refl _, fun _ _ _ e => e⟩

lemma trans (first : Numbered l l') (next : Numbered l' l'') : Numbered l l'' :=
  ⟨Nat.le_trans first.more next.more, fun n lt x e =>
    first.same n lt x (next.same n (Nat.lt_of_lt_of_le lt first.more) x e)⟩

lemma append (l : List (Option α)) (x : Option α) : Numbered l (l ++ [x]) := by
  refine ⟨by simp, ?_⟩
  intro n lt y e
  rwa [List.getElem?_append_left lt] at e

lemma set (l : List (Option α)) (n : Nat) : Numbered l (l.set n none) := by
  refine ⟨by simp, ?_⟩
  intro n' lt y e
  by_cases en : n = n'
  · subst en
    simp [lt] at e
  · rwa [List.getElem?_set_ne en] at e

end Numbered

namespace Host

variable {h h' h'' : Host} {t : ThreadId} {k : ObjectId} {m : MappingId}

/-- The names, the files and the mappings of a host are those of another. -/
def SameTables (h h' : Host) : Prop :=
  h'.store = h.store ∧ h'.files = h.files ∧ h'.mappings = h.mappings

lemma sameTables_onFile {α : Type} {f : FileId} {act : ObjectId → Object → α × Host}
    (same : ∀ id o, h.SameTables (act id o).2) : h.SameTables (h.onFile f act).2 := by
  unfold onFile
  split
  · exact same _ _
  · exact ⟨rfl, rfl, rfl⟩

lemma sameTables_change (act : Object → Object) : h.SameTables (h.change m act) := by
  unfold change
  split <;> exact ⟨rfl, rfl, rfl⟩

lemma sameTables_onObject (act : Object → Except Errno Unit × Object) :
    h.SameTables (h.onObject m act).2 := by
  unfold onObject
  split <;> exact ⟨rfl, rfl, rfl⟩

lemma sameTables_onMutex (act : Mutex → Attempt Mutex) :
    h.SameTables (h.onMutex m act).host := by
  unfold onMutex
  split
  · split <;> exact ⟨rfl, rfl, rfl⟩
  · exact ⟨rfl, rfl, rfl⟩

lemma sameTables_onCondition (act : Condition → Attempt Condition) :
    h.SameTables (h.onCondition m act).host := by
  unfold onCondition
  split
  · split <;> exact ⟨rfl, rfl, rfl⟩
  · exact ⟨rfl, rfl, rfl⟩

lemma sameTables_lock : h.SameTables (h.step t (.lock m)).host :=
  sameTables_onMutex fun x => x.lock t

lemma sameTables_awake : h.SameTables (h.step t (.awake m)).host := by
  by_cases parked : h.isParked m t
  · simp only [step, parked]
    exact ⟨rfl, rfl, rfl⟩
  · simp only [step, parked]
    exact sameTables_lock

lemma sameTables_step {r : Request} (other : r.isTabled = false) :
    h.SameTables (h.step t r).host := by
  cases r with
  | openNew | openExisting | unlink | close | map | unmap => cases other
  | resize f len => exact sameTables_onFile fun _ _ => ⟨rfl, rfl, rfl⟩
  | length f => exact sameTables_onFile fun _ _ => ⟨rfl, rfl, rfl⟩
  | storeSize | write | clear => exact sameTables_change _
  | mutexInit | mutexDestroy | unlock | makeConsistent | condInit | park | broadcast =>
    exact sameTables_onObject _
  | lock m => exact sameTables_lock
  | awake m => exact sameTables_awake
  | condDestroy m => exact sameTables_onCondition _
  | _ => exact ⟨rfl, rfl, rfl⟩

/-- No file and no mapping comes back. -/
structure Numbers (h h' : Host) : Prop where
  files : Numbered h.files h'.files
  mappings : Numbered h.mappings h'.mappings

lemma Numbers.of_tables (files : h'.files = h.files) (mappings : h'.mappings = h.mappings) :
    h.Numbers h' :=
  ⟨files ▸ .refl _, mappings ▸ .refl _⟩

lemma Numbers.trans (first : h.Numbers h') (next : h'.Numbers h'') : h.Numbers h'' :=
  ⟨first.files.trans next.files, first.mappings.trans next.mappings⟩

lemma numbers_step {r : Request} {a : r.Answer} (e : h.step t r = .done a h') : h.Numbers h' := by
  cases tabled : r.isTabled with
  | false =>
    have same := sameTables_step (h := h) (t := t) tabled
    rw [e] at same
    exact .of_tables same.2.1 same.2.2
  | true =>
    cases r with
    | openNew n mode =>
      obtain ⟨err, refused⟩ | free := h.step_openNew_cases t n mode
      · cases refused.symm.trans e
        exact .of_tables rfl rfl
      · cases (step_openNew free).symm.trans e
        exact ⟨.append _ _, by simpa [grown] using .refl _⟩
    | openExisting n =>
      cases e
      obtain ⟨err, -, same⟩ | ⟨k, o, -, -, -, same⟩ := ledger_openExisting (h := h) n
      · exact .of_tables (congrArg Ledger.files same) (congrArg Ledger.mappings same)
      · have files : (h.openExisting n).2.files = h.files ++ [some k] :=
          congrArg Ledger.files same
        have mappings : (h.openExisting n).2.mappings = h.mappings :=
          congrArg Ledger.mappings same
        exact ⟨files ▸ .append _ _, mappings ▸ .refl _⟩
    | unlink n =>
      obtain ⟨err, refused⟩ | ⟨b, there⟩ := h.step_unlink_cases t n
      · cases refused.symm.trans e
        exact .of_tables rfl rfl
      · cases (step_unlink there).symm.trans e
        exact .of_tables rfl rfl
    | close f =>
      cases e
      exact ⟨.set _ f, .refl _⟩
    | map f len =>
      cases e
      obtain ⟨-, eq⟩ | ⟨k, o, -, -, eq⟩ := h.onFile_cases f fun id _ =>
        (h.mappings.length, { h with mappings := h.mappings ++ [some ⟨id, len⟩] })
      · exact .of_tables (congrArg (Host.files ∘ Prod.snd) eq)
          (congrArg (Host.mappings ∘ Prod.snd) eq)
      · exact (congrArg Prod.snd eq) ▸ ⟨.refl _, .append _ _⟩
    | unmap m =>
      cases e
      exact ⟨.refl _, .set _ m⟩
    | _ => cases tabled

lemma lt_of_shows (shows : h.shows m k) : m < h.mappings.length := by
  obtain ⟨x, ex, -⟩ := (Option.any_eq_true ..).1 shows
  by_contra ge
  rw [mapping?, List.getElem?_eq_none (Nat.le_of_not_lt ge)] at ex
  cases ex

/-- A mapping that is still there shows what it has always shown. -/
lemma Numbers.shows {x : Mapping} (numbers : h.Numbers h') (shows : h.shows m k)
    (ex : h'.mapping? m = some x) : h'.shows m k := by
  obtain ⟨y, ey, shown⟩ := (Option.any_eq_true ..).1 shows
  obtain rfl : y = x :=
    Option.some.inj (ey.symm.trans (numbers.mappings.same m (lt_of_shows shows) x ex))
  exact (Option.any_eq_true ..).2 ⟨y, ex, shown⟩

/-- What a mapping shows, it has always shown. -/
lemma Numbers.shown (numbers : h.Numbers h') (old : m < h.mappings.length)
    (shows : h'.shows m k) : h.shows m k := by
  obtain ⟨x, ex, shown⟩ := (Option.any_eq_true ..).1 shows
  exact (Option.any_eq_true ..).2 ⟨x, numbers.mappings.same m old x ex, shown⟩

end Host

lemma Session.Touches.numbers {s s' : Session} {d : Deed} (touches : s.Touches s' d) :
    s.host.Numbers s'.host := by
  cases touches with
  | nothing same =>
    rw [same]
    exact .of_tables rfl rfl
  | answered ec alive ep eh => exact Host.numbers_step eh
  | waited eh =>
    have same := Host.ledger_wait eh
    exact .of_tables (congrArg Ledger.files same) (congrArg Ledger.mappings same)
  | died same =>
    rw [same]
    exact .of_tables rfl rfl

lemma Session.numbers_run {s s' : Session} {past : List Deed} (run : Run Session.Step s past s') :
    s.host.Numbers s'.host := by
  induction run with
  | nil => exact .of_tables rfl rfl
  | cons run st ih => exact ih.trans st.touches.numbers

end SharedSegment
