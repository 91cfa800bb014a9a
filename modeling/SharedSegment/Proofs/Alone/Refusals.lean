import SharedSegment.Proofs.Alone.Entries
import SharedSegment.Proofs.Alone.Recovery
import SharedSegment.Proofs.Naming.Spelling

/-!
# Refusals

Whether a facade that is opened with a size gets a segment is decided by its raw name, by the
settings, and by what the name is bound to, in this order (`Facade.Judges`). Only a name that leads
into some directory, or to one, is in the way; anything else that is bound there is replaced. Where
creation is refused, the host is as it was.
-/

namespace SharedSegment
open Program Header

/-- No segment can be made under a name: it is, or is bound to, a directory. -/
def Host.Obstructs (h : Host) (n : Name) : Prop :=
  n.IsDots ∨ h.item? n.file = some .directory

namespace Facade

/-- A raw text is a name, and the settings can be used. -/
def Admits (raw : String) (c : Config) (n : Name) : Prop :=
  Name.ofRaw raw = .ok n ∧ c.validate = .ok ()

/-- The facade that comes of an attempt to open a segment. -/
def ofResult (size : UInt32) (c : Config) : Except SegmentError Segment → Facade
  | .ok g => ofSegment size c g
  | .error e => ofError size c e

/-- What creating under a raw name comes to on a host, by the name, by the settings, and by what the
name is bound to. -/
structure Judges (h : Host) (raw : String) (size : UInt32) (c : Config)
    (r : Except SegmentError Segment) (h' : Host) : Prop where
  misnamed : (∃ x reason, r = .error (.invalidName x reason)) ↔ ∃ f, Name.ofRaw raw = .error f
  misconfigured : (∃ x f, r = .error (.invalidConfig x f)) ↔
    ∃ n f, Name.ofRaw raw = .ok n ∧ c.validate = .error f
  denied : (∃ x reason, r = .error (.acquire x "create" reason)) ↔
    ∃ n, Admits raw c n ∧ n.IsNested
  collides : (∃ x reason, r = .error (.nameCollision x reason)) ↔
    ∃ n, Admits raw c n ∧ ¬n.IsNested ∧ h.Obstructs n
  opens : (∃ g, r = .ok g) ↔ ∃ n, Admits raw c n ∧ ¬n.IsNested ∧ ¬h.Obstructs n
  failed : ∀ e, r = .error e → h' = h
  made : ∀ g, r = .ok g →
    ∃ n, Admits raw c n ∧ g = .madeOn h n size c ∧ h.Recreates n c.mode size h'

variable {h h' : Host} {t : ThreadId} {raw : String} {n : Name} {size : UInt32} {c : Config}

lemma judges_of_misnamed {f : Name.Fault} (named : Name.ofRaw raw = .error f) :
    Judges h raw size c (.error (.invalidName raw f.reason)) h := by
  constructor <;> simp [Admits, named]

lemma judges_of_misconfigured {f : FieldFault} (named : Name.ofRaw raw = .ok n)
    (invalid : c.validate = .error f) :
    Judges h raw size c (.error (.invalidConfig n.text f)) h := by
  constructor <;> simp [Admits, named, invalid]

section
variable {reason : String} (named : Name.ofRaw raw = .ok n) (valid : c.validate = .ok ())
include named valid

lemma judges_of_nested (nested : n.IsNested) :
    Judges h raw size c (.error (.acquire n.text "create" reason)) h := by
  constructor <;> simp [Admits, named, valid, nested]

lemma judges_of_obstructs (flat : ¬n.IsNested) (obstructs : h.Obstructs n) :
    Judges h raw size c (.error (.nameCollision n.text reason)) h := by
  constructor <;> simp [Admits, named, valid, flat, obstructs]

lemma judges_of_opens (flat : ¬n.IsNested) (clear : ¬h.Obstructs n)
    (made : h.Recreates n c.mode size h') : Judges h raw size c (.ok (.madeOn h n size c)) h' := by
  constructor <;> simp [Admits, named, valid, flat, clear, made]

end

/-- Creation is refused where the name can neither be bound nor be freed. -/
lemma calm_create_of_refused {first e : Errno} (bars : h.openNew n c.mode = (.error first, h))
    (stays : h.unlink n = (.error e, h)) (size : UInt32) :
    (Segment.create n size c).Ensures (.alone t fun _ _ => False)
      (fun r h' => r = .error (Segment.createError n first (some e)) ∧ h' = h) h := by
  have refused : h.step t (.openNew n c.mode) = Host.reply (.error first, h) :=
    congrArg Host.reply bars
  have kept : h.step t (.unlink n) = Host.reply (.error e, h) := congrArg Host.reply stays
  refine .asks_calmly refused ?_
  refine .asks_calmly kept ?_
  exact ⟨rfl, rfl⟩

/-- When no call fails, creation is decided by the name, by the settings, and by what the name is
bound to. -/
theorem calm_connect (positive : size ≠ 0) :
    (connect raw size c).Ensures (.alone t fun _ _ => False) (Judges h raw size c) h := by
  cases named : Name.ofRaw raw with
  | error f =>
    have refused : connect raw size c = .ret (.error (.invalidName raw f.reason)) := by
      simp [connect, named]
    rw [refused]
    exact judges_of_misnamed named
  | ok n =>
    cases valid : c.validate with
    | error f =>
      have refused : connect raw size c = .ret (.error (.invalidConfig n.text f)) := by
        simp [connect, named, valid]
      rw [refused]
      exact judges_of_misconfigured named valid
    | ok =>
      rw [connect_eq named valid, if_neg positive]
      -- Both kinds of refusal take one way through creation: only the first error tells them apart.
      obtain ⟨nested, leads⟩ | ⟨flat, lost, leads⟩ | ⟨⟨flat, proper⟩, other, leads⟩ :=
        h.store.place_cases n
      · have bars : h.openNew n c.mode = (.error .einval, h) := by simp [Host.openNew, leads]
        have stays : h.unlink n = (.error .enoent, h) := by simp [Host.unlink, leads]
        refine (calm_create_of_refused bars stays size).mono ?_
        rintro _ _ ⟨rfl, rfl⟩
        exact judges_of_nested named valid nested
      · have bars : h.openNew n c.mode = (.error .eexist, h) := by simp [Host.openNew, leads]
        have stays : h.unlink n = (.error .eisdir, h) := by simp [Host.unlink, leads]
        refine (calm_create_of_refused bars stays size).mono ?_
        rintro _ _ ⟨rfl, rfl⟩
        exact judges_of_obstructs named valid flat (lost.imp_right Host.item?_eq_directory_iff.2)
      · refine (Segment.calm_create leads size c).mono ?_
        rintro _ h' ⟨rfl, made⟩
        refine judges_of_opens named valid flat ?_ made
        exact not_or.2 ⟨proper, fun bound => other (Host.item?_eq_directory_iff.1 bound)⟩

variable {post : Except SegmentError Segment → Host → Prop}

lemma calm_tryOpen
    (en : (connect raw size c).Ensures (.alone t fun _ _ => False) post h) :
    (tryOpen raw size c).Ensures (.alone t fun _ _ => False)
      (fun r h' => ∃ r', r = r'.map (ofSegment size c) ∧ post r' h') h := by
  refine en.bind ?_
  intro r h' here
  cases r with
  | ok g => exact ⟨.ok g, rfl, here⟩
  | error e => exact ⟨.error e, rfl, here⟩

lemma calm_openWith
    (en : (connect raw size c).Ensures (.alone t fun _ _ => False) post h) :
    (openWith raw size c).Ensures (.alone t fun _ _ => False)
      (fun f h' => ∃ r, f = ofResult size c r ∧ post r h') h := by
  rw [openWith_eq]
  refine en.bind ?_
  intro r h' here
  cases r with
  | ok g => exact ⟨.ok g, rfl, here⟩
  | error e => exact ⟨.error e, rfl, here⟩

end Facade

open Facade

/-- Where no call fails, opening a facade with a size is decided by its raw name, by the settings,
and by what the name is bound to. It is the name as it is cut off that counts there, but a NUL in
what is cut off counts too. -/
theorem creating_is_decided_in_order (h : Host) (t : ThreadId) (raw : String) (size : UInt32)
    (c : Config) (positive : size ≠ 0) :
    (∃ r, ((tryOpen raw size c).run t .none [] h).1.value? = some (r.map (ofSegment size c)) ∧
      Judges h raw size c r ((tryOpen raw size c).run t .none [] h).2) ∧
    (∃ r, ((openWith raw size c).run t .none [] h).1.value? = some (ofResult size c r) ∧
      Judges h raw size c r ((openWith raw size c).run t .none [] h).2) ∧
    ((∃ f, Name.ofRaw raw = .error f) ↔
      Name.bare raw.toList = [] ∨ '\x00' ∈ Name.bare raw.toList) ∧
    ∀ n, Name.ofRaw raw = .ok n → n.stem = Text.takeBytes 253 (Name.bare raw.toList) := by
  have connects : (connect raw size c).Ensures (.alone t fun _ _ => False)
      (Judges h raw size c) h := calm_connect positive
  refine ⟨?_, ?_, Name.ofRaw_eq_error_iff, fun _ => Name.stem_of_ofRaw⟩
  · obtain ⟨_, ended, r, rfl, judged⟩ := (calm_tryOpen connects).run_calm (f := .none) rfl []
    exact ⟨r, ended, judged⟩
  · obtain ⟨_, ended, r, rfl, judged⟩ := (calm_openWith connects).run_calm (f := .none) rfl []
    exact ⟨r, ended, judged⟩

/-- A raw text that is cut off in front of its second separator. -/
def Name.overlong : String :=
  String.ofList ('/' :: List.replicate 253 'a' ++ ['/', 'x'])

/-- A separator that is cut off is not in the way. -/
theorem a_separator_that_is_cut_off_does_not_count :
    (8 : UInt32) ≠ 0 ∧ '/' ∈ Name.bare Name.overlong.toList ∧
      ∃ g, ((tryOpen Name.overlong 8 .standard).run 0 .none [] .empty).1.value? =
        some (.ok (ofSegment 8 .standard g)) := by
  have bare : Name.bare Name.overlong.toList = List.replicate 253 'a' ++ ['/', 'x'] :=
    (congrArg Name.bare String.toList_ofList).trans (by decide +kernel)
  obtain ⟨⟨r, ended, judged⟩, -, misnamed, cut⟩ :=
    creating_is_decided_in_order .empty 0 Name.overlong 8 .standard (by decide)
  refine ⟨by decide, bare ▸ List.mem_append_right _ (by decide), ?_⟩
  cases named : Name.ofRaw Name.overlong with
  | error f =>
    have faulty := misnamed.1 ⟨f, named⟩
    rw [bare] at faulty
    exact absurd faulty (by decide +kernel)
  | ok n =>
    have stem : n.stem = List.replicate 253 'a' := by
      rw [cut n named, bare]
      decide +kernel
    have flat : ¬n.IsNested := by
      rw [Name.IsNested, stem]
      decide +kernel
    have clear : ¬Host.empty.Obstructs n := by
      refine not_or.2 ⟨?_, nofun⟩
      rw [Name.IsDots, stem]
      decide +kernel
    obtain ⟨g, rfl⟩ := judged.opens.2 ⟨n, ⟨named, Config.validate_standard⟩, flat, clear⟩
    exact ⟨g, ended⟩

end SharedSegment
