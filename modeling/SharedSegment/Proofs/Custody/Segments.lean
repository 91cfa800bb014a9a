import SharedSegment.Proofs.Asking
import SharedSegment.Proofs.Custody.Custodians

/-!
# Segments in custody

Whatever is done with a segment keeps to the protocol of custodians, whichever calls fail. Locking,
waiting, notifying, reading and writing leave what is in custody as it is (`Program.Spares`), and a
handle may be torn down by whoever has in custody what it holds (`ensures_destroy`).
-/

namespace SharedSegment
open Header Program

/-- Whether a request concerns no custody. -/
def Request.isNeutral : Request → Bool
  | .openNew .. | .openExisting .. | .resize .. | .length .. | .close .. | .map .. | .unmap ..
  | .loadSize .. | .storeSize .. | .mutexInit .. | .mutexDestroy .. | .condInit ..
  | .condDestroy .. | .hold .. => false
  | .write _ off _ | .clear _ off _ => 4 ≤ off
  | _ => true

/-- Whether a request concerns neither custody nor names. -/
def Request.isPlain : Request → Bool
  | .unlink .. => false
  | r => r.isNeutral

/-- A program concerns neither custody nor names. -/
def Program.IsPlain {α : Type} (p : Program α) : Prop :=
  p.Asks fun r => r.isPlain

/-- A program leaves what its party has in custody as it is. -/
def Program.Spares {α : Type} (p : Program α) : Prop :=
  ∀ torn faulty c, p.Ensures (.custody torn faulty) (fun _ c' => c' = c) c

section
variable {α : Type}

lemma permits_of_isNeutral {r : Request} {torn : Prop} {c : Custody} (neutral : r.isNeutral) :
    c.Permits torn r := by
  cases r with
  | write m off bs | clear m off len =>
    have behind : 4 ≤ off := of_decide_eq_true neutral
    exact behind
  | openNew | openExisting | resize | length | close | map | unmap | loadSize | storeSize
  | mutexInit | mutexDestroy | condInit | condDestroy | hold => cases neutral
  | _ => trivial

lemma answers_of_isNeutral {r : Request} {a : r.Answer} {c c' : Custody} (neutral : r.isNeutral)
    (ans : c.Answers r a c') : c' = c := by
  cases r with
  | openNew | openExisting | resize | length | close | map | unmap | loadSize | storeSize
  | mutexInit | mutexDestroy | condInit | condDestroy | hold => cases neutral
  | _ => exact ans

lemma Request.isNeutral_of_isPlain {r : Request} (plain : r.isPlain) : r.isNeutral := by
  cases r with
  | unlink => cases plain
  | _ => exact plain

/-- What a program ends with that asks for nothing in custody, and that it leaves what is in custody
as it is. -/
lemma Program.Ensures.of_neutral {post : α → Prop} {torn faulty : Prop} {c : Custody}
    {p : Program α} (en : p.Ensures (.asking fun r => r.isNeutral) (fun a _ => post a) ()) :
    p.Ensures (.custody torn faulty) (fun a c' => post a ∧ c' = c) c := by
  refine en.of_asking (fun _ => rfl) ?_
  intro r neutral
  refine ⟨permits_of_isNeutral neutral, ?_⟩
  rintro a c' (ans | ⟨-, rfl, -⟩)
  · exact answers_of_isNeutral neutral ans
  · rfl

lemma Program.Asks.spares {p : Program α} (asks : p.Asks fun r => r.isNeutral) : p.Spares := by
  intro torn faulty c
  refine (Ensures.of_neutral asks).mono ?_
  rintro a c' ⟨-, rfl⟩
  rfl

lemma Program.Ensures.of_plain {post : α → Prop} {torn faulty : Prop} {c : Custody} {p : Program α}
    (en : p.Ensures (.asking fun r => r.isPlain) (fun a _ => post a) ()) :
    p.Ensures (.custody torn faulty) (fun a c' => post a ∧ c' = c) c :=
  (en.asking_mono fun _ => Request.isNeutral_of_isPlain).of_neutral

lemma Program.IsPlain.spares {p : Program α} (plain : p.IsPlain) : p.Spares :=
  (Asks.mono plain fun _ => Request.isNeutral_of_isPlain).spares

lemma Program.IsPlain.keeps {p : Program α} (plain : p.IsPlain) :
    p.Keeps (.asking fun r => r.isPlain) () :=
  Asks.keeps_asking plain

end

namespace Segment

variable (s : Segment)

lemma plain_lock : s.lock.IsPlain := s.asks_lock fun _ _ => ⟨rfl, rfl⟩

lemma plain_unlock : s.unlock.IsPlain := s.asks_unlock fun _ _ => rfl

lemma plain_waitLocked : s.waitLocked.IsPlain := s.asks_waitLocked fun _ _ => ⟨rfl, rfl, rfl⟩

lemma plain_wait : s.wait.IsPlain :=
  Ensures.mono (fun _ _ _ => trivial)
    (s.keeps_wait s.plain_lock.keeps s.plain_waitLocked.keeps s.plain_unlock.keeps)

lemma plain_notifyAll : s.notifyAll.IsPlain := s.asks_notifyAll fun _ _ => rfl

lemma plain_read (off len : Nat) : (s.read off len).IsPlain :=
  s.asks_read (fun _ _ _ => rfl) off len

lemma plain_write (off : Nat) (bs : List UInt8) : (s.write off bs).IsPlain :=
  s.asks_write (fun _ _ _ behind => decide_eq_true behind) off bs

lemma plain_pin (n : Name) (c : Config) (m : MappingId) (size : UInt32) :
    (pin n c m size).IsPlain :=
  asks_pin n c (fun _ => rfl) m size

end Segment

/-- A creator that still shows its segment has set it up. -/
def Segment.IsWhole (s : Segment) : Prop :=
  s.role = .creator → s.mapping.isSome → s.ownsSync

lemma Segment.isWhole_of_attacher {s : Segment} (role : s.role = .attacher) : s.IsWhole := by
  intro creator
  cases role.symm.trans creator

lemma Segment.isWhole_empty (s : Segment) : s.empty.IsWhole := nofun

/-- The files and mappings of a handle are in custody, and so is what it has set up and has to take
down. What was found was published, and the size of a handle is the one of its segment. -/
structure Custody.Covers (c : Custody) (s : Segment) : Prop where
  file : ∀ f, s.file = some f → ∃ k, c.file = some (f, k)
  mapping : ∀ m, s.mapping = some m → ∃ x, c.mapping = some (m, x)
  sync : s.role = .creator → s.ownsSync → ∀ m, s.mapping = some m →
    c.Makes m fun o => o.mutex ≠ .blank ∧ o.condition ≠ .blank ∧ o.size = s.size
  found : s.role = .attacher → ∀ m, s.mapping = some m →
    ∃ x, c.mapping = some (m, x) ∧ c.seen = some (x.object, s.size) ∧ s.size ≠ 0

lemma Custody.covers_empty (c : Custody) (s : Segment) : c.Covers s.empty := by
  constructor
  · intro f e
    cases e
  · intro m e
    cases e
  · intro _ _ m e
    cases e
  · intro _ m e
    cases e

section
variable {torn faulty : Prop} {c : Custody} {m : MappingId} {s : Segment}

/-- What is left in custody when something has been taken down. -/
def Custody.TakesDown (m : MappingId) (c c' : Custody) : Prop :=
  c'.file = c.file ∧ c'.mapping = c.mapping ∧ c'.Makes m fun _ => True

lemma Custody.TakesDown.become (makes : c.Makes m fun _ => True) (act : Outline → Outline) :
    c.TakesDown m (c.become act) := by
  obtain ⟨x, o, em, eo, -⟩ := makes
  exact ⟨rfl, rfl, x, act o, em, Custody.become_own eo act, trivial⟩

lemma Custody.Makes.mono {is is' : Outline → Prop} (makes : c.Makes m is)
    (weaker : ∀ o, is o → is' o) : c.Makes m is' := by
  obtain ⟨x, o, em, eo, ok⟩ := makes
  exact ⟨x, o, em, eo, weaker o ok⟩

lemma ensures_condDestroy (tears : torn) (makes : c.Makes m fun _ => True) :
    (checked .condDestroy (Program.request (.condDestroy m))).run.Ensures (.custody torn faulty)
      (fun _ c' => c.TakesDown m c') c := by
  refine ⟨makes.mono fun _ _ => .inr tears, ?_⟩
  rintro a c' ((⟨e, rfl, rfl⟩ | ⟨rfl, rfl⟩) | ⟨-, rfl, call, fail, e, ec, rfl⟩)
  · exact ⟨rfl, rfl, makes⟩
  · exact .become makes _
  · cases ec
    exact ⟨rfl, rfl, makes⟩

lemma ensures_mutexDestroy (tears : torn) (makes : c.Makes m fun _ => True) :
    (checked .mutexDestroy (Program.request (.mutexDestroy m))).run.Ensures (.custody torn faulty)
      (fun _ c' => c.TakesDown m c') c := by
  refine ⟨makes.mono fun _ _ => .inr tears, ?_⟩
  rintro a c' ((⟨e, rfl, rfl⟩ | ⟨rfl, rfl⟩) | ⟨-, rfl, call, fail, e, ec, rfl⟩)
  · exact ⟨rfl, rfl, makes⟩
  · exact .become makes _
  · cases ec
    exact ⟨rfl, rfl, makes⟩

lemma ensures_headerDestroy (tears : torn) (makes : c.Makes m fun _ => True) :
    (Header.destroy m).Ensures (.custody torn faulty) (fun _ c' => c.TakesDown m c') c := by
  have woken : (Header.broadcast m).IsPlain := asks_checked _ (asks_request rfl)
  refine (woken.spares torn faulty c).bind ?_
  rintro _ c' rfl
  refine (ensures_condDestroy tears makes).bind ?_
  rintro _ c₁ ⟨ef₁, em₁, makes₁⟩
  refine (ensures_mutexDestroy tears makes₁).bind ?_
  rintro _ c₂ ⟨ef₂, em₂, makes₂⟩
  exact ⟨ef₂.trans ef₁, em₂.trans em₁, makes₂⟩

end

namespace Segment

variable {torn faulty : Prop} {c : Custody} {n : Name} {cfg : Config} {s : Segment}

/-- Whoever may take down what a handle has set up takes down nothing else. -/
lemma ensures_destroySync (covers : c.Covers s) (may : torn ∨ s.ownsSync = false) :
    s.destroySync.Ensures (.custody torn faulty)
      (fun _ c' => c'.file = c.file ∧ c'.mapping = c.mapping) c := by
  unfold destroySync
  cases em : s.mapping with
  | none => exact ⟨rfl, rfl⟩
  | some m =>
    by_cases owns : s.role = .creator ∧ s.ownsSync
    · simp only [if_pos owns]
      have tears : torn := may.resolve_right (by simp [owns.2])
      have makes := (covers.sync owns.1 owns.2 m em).mono fun _ _ => trivial
      refine (ensures_headerDestroy tears makes).bind ?_
      rintro failures c' ⟨ef, em', -⟩
      refine ((s.asks_logSyncs failures).spares torn faulty c').mono ?_
      rintro _ c'' rfl
      exact ⟨ef, em'⟩
    · simp only [if_neg owns]
      exact ⟨rfl, rfl⟩

lemma ensures_unmap (covers : ∀ m, s.mapping = some m → ∃ x, c.mapping = some (m, x)) :
    s.unmap.Ensures (.custody torn faulty) (fun _ c' => c'.file = c.file) c := by
  unfold unmap
  cases em : s.mapping with
  | none => exact rfl
  | some m =>
    refine ⟨covers m em, ?_⟩
    rintro a c' (⟨rfl, rfl⟩ | ⟨-, rfl, call, fail, e, ec, rfl⟩)
    · exact rfl
    · cases ec
      exact rfl

lemma ensures_release (covers : ∀ f, s.file = some f → ∃ k, c.file = some (f, k)) :
    s.release.Ensures (.custody torn faulty) (fun _ _ => True) c := by
  unfold release
  cases ef : s.file with
  | none => trivial
  | some f =>
    refine ⟨covers f ef, ?_⟩
    intro a c' _
    have told : (Program.log (.released s.name s.flavor s.role)).Asks fun r => r.isNeutral :=
      asks_put (asks_ret ())
    by_cases creator : s.role = .creator
    · simp only [if_pos creator]
      have removed : s.unlink.Asks fun r => r.isNeutral := s.asks_unlink rfl
      exact ((removed.bind fun _ => told).spares torn faulty c').mono fun _ _ _ => trivial
    · simp only [if_neg creator]
      exact (told.spares torn faulty c').mono fun _ _ _ => trivial

/-- A handle may be torn down by whoever has in custody what it holds. -/
theorem ensures_destroy (covers : c.Covers s) (may : torn ∨ s.ownsSync = false) :
    s.destroy.Ensures (.custody torn faulty) (fun s' _ => s' = s.empty) c := by
  refine (ensures_destroySync covers may).bind ?_
  rintro _ c₁ ⟨ef₁, em₁⟩
  refine (ensures_unmap fun m em => em₁ ▸ covers.mapping m em).bind ?_
  intro _ c₂ ef₂
  refine (ensures_release fun f ef => (ef₂.trans ef₁) ▸ covers.file f ef).bind ?_
  intro _ c₃ _
  exact rfl

end Segment
end SharedSegment
