import SharedSegment.Proofs.Alone.Openings
import SharedSegment.Proofs.Commands.Works
import SharedSegment.Proofs.Loading.Drafts
import SharedSegment.Proofs.Text.Decoding

/-!
# Sources of settings

Settings come from the environment alone, from a text, or from a file under the environment. A file
is loaded as its text is, and only then the toggle of the environment replaces the flavor
(`Overrides`), so that the toggle neither saves nor spoils a file. All that is loaded from anywhere
is valid, and opening under valid settings is never refused for them (`always_tryOpen_of_valid`).
-/

namespace SharedSegment
open Program Text

namespace Config

/-- The toggle replaces the flavor if what the environment holds is a text, and changes nothing
else; otherwise it changes nothing at all. -/
structure Overrides (value : Option (List UInt8)) (c c' : Config) : Prop where
  set : ∀ v, value = some (Utf8.bytes v) → c' = { c with flavor := .ofToggle (some v) }
  unset : (∀ v, value ≠ some (Utf8.bytes v)) → c' = c

variable {value : Option (List UInt8)} {c c' : Config}

lemma toggleText_eq_some_iff {v : String} :
    toggleText value = some v ↔ value = some (Utf8.bytes v) := by
  rw [toggleText, Option.bind_eq_some_iff]
  constructor
  · rintro ⟨bs, here, reads⟩
    rw [here, Utf8.decode_eq_some_iff.1 reads]
  · rintro rfl
    exact ⟨_, rfl, Utf8.decode_bytes v⟩

/-- Settings under the toggle are what the toggle makes of them. -/
theorem overrides_iff : Overrides value c c' ↔ c' = c.withToggle (toggleText value) := by
  cases found : toggleText value with
  | some v =>
    have here := toggleText_eq_some_iff.1 found
    constructor
    · intro overrides
      exact overrides.set v here
    · intro same
      refine ⟨fun w there => ?_, fun none => absurd here (none v)⟩
      have known := toggleText_eq_some_iff.2 there
      rw [found] at known
      cases known
      exact same
  | none =>
    have none : ∀ v, value ≠ some (Utf8.bytes v) := by
      intro v here
      rw [toggleText_eq_some_iff.2 here] at found
      cases found
    constructor
    · intro overrides
      exact overrides.unset none
    · intro same
      exact ⟨fun v here => absurd here (none v), fun _ => same⟩

/-- A file that holds a text is loaded as the text is, and then comes under the toggle. -/
lemma loadFile_bytes (toggle : Option String) (path text : String) :
    loadFile toggle path (.found (.ok (Utf8.bytes text))) =
      (load text).map fun c => c.withToggle toggle := by
  simp only [loadFile, Utf8.decode_bytes]

@[simp] lemma withToggle_lockPages (c : Config) (toggle : Option String) :
    (c.withToggle toggle).lockPages = c.lockPages := by
  cases toggle <;> rfl

@[simp] lemma withToggle_mode (c : Config) (toggle : Option String) :
    (c.withToggle toggle).mode = c.mode := by
  cases toggle <;> rfl

/-- Whatever the toggle is, a file comes to the same but for the flavor. -/
lemma loadFile_unflavored (toggle : Option String) (path : String) (x : File) :
    (loadFile toggle path x).map (fun c => (c.lockPages, c.mode)) =
      (loadFile none path x).map fun c => (c.lockPages, c.mode) := by
  cases x with
  | missing => rfl
  | found content =>
    cases content with
    | error e => rfl
    | ok bytes =>
      cases text : Utf8.decode bytes with
      | none => simp only [loadFile, text]
      | some text' =>
        simp only [loadFile, text]
        cases load text' with
        | error e => rfl
        | ok c => simp [Except.map]

end Config

namespace Facade

variable {raw : String} {size : UInt32} {c : Config}

/-- Settings that are valid are no reason to refuse. -/
lemma always_connect_of_valid (valid : c.validate = .ok ()) :
    (connect raw size c).Always fun r => ∀ x f, r ≠ .error (.invalidConfig x f) := by
  have sound {n : Name} {size : UInt32} {r : Except SegmentError Segment}
      (comes : Segment.ComesOf n size r) : ∀ x f, r ≠ .error (.invalidConfig x f) := by
    intro x f same
    cases comes with
    | made => cases same
    | failed fails =>
      cases same
      cases fails
  cases named : Name.ofRaw raw with
  | error f =>
    rw [connect, named]
    intro x f' same
    cases same
  | ok n =>
    rw [connect_eq named valid]
    split
    · exact Segment.comesOf_attach.mono fun _ _ => sound
    · exact (Segment.comesOf_create ‹_›).mono fun _ _ => sound

theorem always_tryOpen_of_valid (valid : c.validate = .ok ()) :
    (tryOpen raw size c).Always fun r => ∀ x f, r ≠ .error (.invalidConfig x f) := by
  refine (always_connect_of_valid valid).bind ?_
  intro r _ sound
  cases r with
  | ok g => exact nofun
  | error e =>
    intro x f same
    cases same
    exact sound x f rfl

theorem always_openWith_of_valid (valid : c.validate = .ok ()) :
    (openWith raw size c).Always fun y => ∀ x f, y.error ≠ some (.invalidConfig x f) := by
  rw [openWith_eq]
  refine (always_connect_of_valid valid).bind ?_
  intro r _ sound
  cases r with
  | ok g => exact nofun
  | error e =>
    intro x f same
    cases same
    exact sound x f rfl

end Facade

open Config Facade

/-- Whatever the environment holds, a file that holds a text fails as the text does, and comes to
the settings of the text with the flavor that the toggle chooses, if it is set; a blank one comes to
the settings of the environment alone. No setting but the flavor depends on the toggle. All settings
that come of the environment, of a text or of a file are valid, so that no segment is refused for
them, whatever is answered. -/
theorem sources_of_settings_agree (value : Option (List UInt8)) (path text : String) :
    (∀ e, loadFile (toggleText value) path (.found (.ok (Utf8.bytes text))) = .error e ↔
      load text = .error e) ∧
    (∀ c', loadFile (toggleText value) path (.found (.ok (Utf8.bytes text))) = .ok c' ↔
      ∃ c, load text = .ok c ∧ Overrides value c c') ∧
    (isBlank text → loadFile (toggleText value) path (.found (.ok (Utf8.bytes text))) =
      .ok (ofToggle (toggleText value))) ∧
    Overrides value .standard (ofToggle (toggleText value)) ∧
    (∀ value' x,
      (loadFile (toggleText value) path x).map (fun c => (c.lockPages, c.mode)) =
        (loadFile (toggleText value') path x).map fun c => (c.lockPages, c.mode)) ∧
    ∀ c, c = ofToggle (toggleText value) ∨ load text = .ok c ∨
        (∃ x, loadFile (toggleText value) path x = .ok c) →
      c.validate = .ok () ∧ ∀ raw size,
        ((tryOpen raw size c).Always fun r => ∀ x f, r ≠ .error (.invalidConfig x f)) ∧
        (openWith raw size c).Always fun y => ∀ x f, y.error ≠ some (.invalidConfig x f) := by
  have loads := loadFile_bytes (toggleText value) path text
  refine ⟨fun e => ?fails, fun c' => ?succeeds, fun blank => ?blank, overrides_iff.2 rfl,
    fun value' x => ?unflavored, fun c origin => ?valid⟩
  case fails =>
    rw [loads]
    cases load text with
    | error e' => exact .rfl
    | ok c => simp [Except.map]
  case succeeds =>
    rw [loads]
    cases load text with
    | error e => simp [Except.map]
    | ok c => simp [Except.map, overrides_iff, eq_comm]
  case blank =>
    rw [loads, load_of_blank blank]
    rfl
  case unflavored =>
    rw [loadFile_unflavored (toggleText value), loadFile_unflavored (toggleText value')]
  case valid =>
    have valid : c.validate = .ok () := by
      obtain rfl | loaded | ⟨x, loaded⟩ := origin
      · rw [ofToggle, validate_withToggle, validate_standard]
      · exact validate_of_load loaded
      · exact validate_of_loadFile loaded
    exact ⟨valid, fun raw size =>
      ⟨always_tryOpen_of_valid valid, always_openWith_of_valid valid⟩⟩

/-- A blank file under a toggle that is set. -/
theorem a_blank_file_leaves_the_flavor_to_the_toggle :
    isBlank " \n" ∧
      loadFile (toggleText (some (Utf8.bytes "10"))) "c" (.found (.ok (Utf8.bytes " \n"))) =
        .ok ⟨.posix, true, 0o600⟩ ∧
      ((tryOpen "/s" 8 ⟨.posix, true, 0o600⟩).Always fun r =>
        ∀ x f, r ≠ .error (.invalidConfig x f)) := by
  have blank : isBlank " \n" := by decide +kernel
  obtain ⟨-, -, alone, under, -, sound⟩ :=
    sources_of_settings_agree (some (Utf8.bytes "10")) "c" " \n"
  have posix : ofToggle (toggleText (some (Utf8.bytes "10"))) = ⟨.posix, true, 0o600⟩ :=
    under.set "10" rfl
  have loads := (alone blank).trans (congrArg Except.ok posix)
  exact ⟨blank, loads, ((sound _ (.inr (.inr ⟨_, loads⟩))).2 "/s" 8).1⟩

end SharedSegment
