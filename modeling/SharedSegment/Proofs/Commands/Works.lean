import SharedSegment.Command
import SharedSegment.Proofs.Commands.Contents
import SharedSegment.Proofs.Commands.Printing

/-!
# The work of commands

What the commands on an existing segment come to while no call fails and nobody comes between. The
settings that a command runs under are valid (`Command.validate_of_settings`), so that the segment
is all that it needs (`Command.ensures_onAttached`). A command that needs the lock has it exactly
if the mutex is vacant, and gives it back (`Command.calm_underGuard`).
-/

namespace SharedSegment
open Program

namespace Config

lemma validate_withToggle (c : Config) (toggle : Option String) :
    (c.withToggle toggle).validate = c.validate := by
  cases toggle with
  | none => rfl
  | some v => rfl

lemma validate_of_validated {c c' : Config} (admitted : validated c = .ok c') :
    c'.validate = .ok () := by
  unfold validated at admitted
  split at admitted
  case h_1 valid =>
    cases admitted
    exact valid
  case h_2 => cases admitted

lemma validate_of_load {text : String} {c : Config} (loads : load text = .ok c) :
    c.validate = .ok () := by
  unfold load at loads
  split at loads
  case isTrue => exact validate_of_validated loads
  case isFalse =>
    split at loads
    case h_1 => exact validate_of_validated loads
    case h_2 => cases loads

lemma validate_of_loadFile {toggle : Option String} {path : String} {x : File} {c : Config}
    (loads : loadFile toggle path x = .ok c) : c.validate = .ok () := by
  unfold loadFile at loads
  split at loads
  case h_1 => cases loads
  case h_2 => cases loads
  case h_3 =>
    split at loads
    case h_1 => cases loads
    case h_2 text _ =>
      cases loaded : load text with
      | error e =>
        rw [loaded] at loads
        cases loads
      | ok c' =>
        rw [loaded] at loads
        cases loads
        rw [validate_withToggle]
        exact validate_of_load loaded

end Config

namespace Command

/-- Whatever settings a command runs under, they are valid. -/
theorem validate_of_settings {env : Environment} {path : Option String} {c : Config}
    (loads : settings env path = .ok c) : c.validate = .ok () := by
  cases path with
  | none =>
    cases loads
    exact (Config.validate_withToggle _ _).trans Config.validate_standard
  | some path =>
    simp only [settings] at loads
    split at loads
    case h_1 loaded =>
      cases loads
      exact Config.validate_of_loadFile loaded
    case h_2 => cases loads

variable {t : ThreadId} {h : Host} {raw : String} {c : Config} {k : ObjectId} {o : Object}
  {f : Facade}

/-- What an attempt to open a segment comes to. -/
def attempt (raw : String) (size : UInt32) (c : Config) (t : ThreadId) (h : Host) :
    Running (Except SegmentError Facade) × Host :=
  (Facade.tryOpen raw size c).run t .none [] h

/-- A visitor that finds no segment complains; one that does works on it and lets it go, which
changes neither the store nor any object. -/
theorem ensures_onAttached {act : Facade → Work}
    {post : Except Complaint Unit → Host × List String → Prop} {lines : List String}
    (valid : c.validate = .ok ())
    (missing : ∀ e, (attempt raw 0 c t h).1.value? = some (.error e) →
      (¬∃ n k o, Name.ofRaw raw = .ok n ∧ h.Offers n k o) →
      ∀ e h', h'.store = h.store → h'.objects = h.objects → post (.error e) (h', lines))
    (found : ∀ f, (attempt raw 0 c t h).1.value? = some (.ok f) →
      ∀ n k o h', (attempt raw 0 c t h).2 = h' → Name.ofRaw raw = .ok n → h.Offers n k o →
      f.Visits h' k o → h'.store = h.store → h'.objects = h.objects →
      (act f).Ensures (.printing t) (fun r s => ∀ h'', h''.store = s.1.store →
        h''.objects = s.1.objects → post r (h'', s.2)) (h', lines)) :
    (onAttached raw c act).Ensures (.printing t) post (h, lines) := by
  have opens : (Facade.tryOpen raw 0 c).Ensures (.alone t fun _ _ => False) _ h :=
    (Facade.calm_tryOpen_zero valid).determined (f := .none) rfl []
  refine ((Facade.isMute_tryOpen raw c).ensures opens lines).bind ?_
  rintro r ⟨h', _⟩ ⟨⟨⟨⟨store, objects⟩, ⟨⟨e, rfl⟩, none⟩ |
    ⟨f, n, k, o, rfl, named, offers, visits, -⟩⟩, opened, left⟩, rfl⟩
  · exact missing e opened none _ h' store objects
  · -- The segment is let go last, which changes nothing that the work has left.
    refine (found f opened n k o h' left named offers visits store objects).bind ?_
    rintro r ⟨h₁, lines⟩ worked
    refine (f.isMute_drop.ensures (visits.calm_drop h₁) lines).bind ?_
    rintro _ ⟨h₂, _⟩ ⟨⟨store', objects'⟩, rfl⟩
    exact worked h₂ store' objects'

/-- A visitor to a segment that is offered finds just that. -/
lemma ensures_onOffered {n : Name} {act : Facade → Work}
    {post : Except Complaint Unit → Host × List String → Prop} {lines : List String}
    (valid : c.validate = .ok ()) (named : Name.ofRaw raw = .ok n) (offers : h.Offers n k o)
    (works : ∀ f h', f.Visits h' k o → h'.store = h.store → h'.objects = h.objects →
      (act f).Ensures (.printing t) (fun r s => ∀ h'', h''.store = s.1.store →
        h''.objects = s.1.objects → post r (h'', s.2)) (h', lines)) :
    (onAttached raw c act).Ensures (.printing t) post (h, lines) := by
  refine ensures_onAttached valid ?_ ?_
  · intro _ _ missing
    exact absurd ⟨n, k, o, named, offers⟩ missing
  · intro f _ n' k' o' h' _ named' offers' visits
    cases named.symm.trans named'
    obtain ⟨rfl, rfl⟩ := offers.unique offers'
    exact works f h' visits

lemma calm_replacePayload (visits : f.Visits h k o) (text : String) (status : LockStatus)
    (x : Mutex) :
    (replacePayload text f status).Ensures (.alone t fun _ _ => False)
      (fun a h' => a = min o.sizeField.toNat (Text.Utf8.bytes text).length ∧
        h' = h.setObject k ((o.inscribed (Text.Utf8.bytes text)).withMutex x))
      (h.setObject k (o.withMutex x)) := by
  let bs := Text.Utf8.bytes text
  let written := (o.withMutex x).write Layout.headerSize (bs.take o.sizeField.toNat).toArray
  have sizes : written.sizeField = (o.withMutex x).sizeField :=
    Object.sizeField_write _ (by decide)
  have visits₁ : f.Visits (h.setObject k (o.withMutex x)) k (o.withMutex x) :=
    visits.setObject rfl
  have visits₂ : f.Visits ((h.setObject k (o.withMutex x)).setObject k written) k written :=
    visits₁.setObject sizes
  have replaces : ((f.write 0 bs).bind fun written => (f.clearFrom written).bind fun _ =>
      Program.ret written).Ensures (.alone t fun _ _ => False)
      (fun a h' => a = min o.sizeField.toNat bs.length ∧
        h' = h.setObject k ((o.inscribed bs).withMutex x)) (h.setObject k (o.withMutex x)) := by
    refine (visits₁.calm_write 0 bs).bind ?_
    rintro _ _ ⟨rfl, rfl⟩
    refine (visits₂.calm_clearFrom _).bind ?_
    rintro _ _ rfl
    refine ⟨rfl, ?_⟩
    rw [Host.setObject_setObject, Host.setObject_setObject, sizes]
    rfl
  -- That the last owner has died is recorded only.
  by_cases died : status = .ownerDied
  · rw [replacePayload, if_pos died]
    exact replaces
  · rw [replacePayload, if_neg died]
    exact replaces

/-- The lock could not be had, and nothing was changed but who awaits it. -/
def Denies {α : Type} (h : Host) (k : ObjectId) (o : Object) (r : Except Complaint α)
    (h' : Host) : Prop :=
  ¬o.mutex.IsVacant ∧ (∃ c, r = .error c) ∧ ∃ x, h' = h.setObject k (o.withMutex x)

section
variable (visits : f.Visits h k o) (awake : o.mutex.isQueued t = false)
  (unowned : o.mutex.hold.owner? = none)
include visits awake unowned

/-- A guard is had exactly if the lock is. -/
lemma calm_guard :
    f.guard.Ensures (.alone t fun _ _ => False)
      (fun r h' => ∃ status x, r = (if status.isHeld then some status else none) ∧
        o.mutex.Lends t status x ∧ h' = h.setObject k (o.withMutex x)) h := by
  refine (visits.calm_lock awake unowned).bind ?_
  rintro status _ ⟨x, lent, rfl⟩
  exact ⟨status, x, rfl, lent, rfl⟩

/-- What is done under a guard is done if the mutex is vacant, and leaves it free. -/
lemma calm_underGuard {α : Type} {act : LockStatus → Program α} {a : α} {o' : Object}
    (same : o'.sizeField = o.sizeField)
    (acts : ∀ status x, (act status).Ensures (.alone t fun _ _ => False)
      (fun a' h' => a' = a ∧ h' = h.setObject k (o'.withMutex x)) (h.setObject k (o.withMutex x))) :
    (underGuard f act).Ensures (.alone t fun _ _ => False)
      (fun r h' => Denies h k o r h' ∨ o.mutex.IsVacant ∧ r = .ok a ∧
        ∃ x, o.mutex.IsReturned x ∧ h' = h.setObject k (o'.withMutex x)) h := by
  refine (calm_guard visits awake unowned).bind ?_
  rintro _ _ ⟨status, x, rfl, lent, rfl⟩
  by_cases held : status.isHeld
  · rw [if_pos held]
    refine (acts status x).bind ?_
    rintro _ _ ⟨rfl, rfl⟩
    have visits' : f.Visits (h.setObject k (o'.withMutex x)) k (o'.withMutex x) :=
      visits.setObject same
    refine (visits'.calm_unlock (lent.had held)).bind ?_
    rintro _ _ rfl
    have returned : o.mutex.IsReturned { x with hold := .free } := ⟨rfl, lent.life, lent.awake⟩
    exact .inr ⟨lent.held.1 held, rfl, _, returned, Host.setObject_setObject ..⟩
  · rw [if_neg held]
    exact .inl ⟨fun vacant => held (lent.held.2 vacant), ⟨_, rfl⟩, x, rfl⟩

/-- A text is written if the mutex is vacant. -/
lemma calm_writeWork (text : String) :
    (writeWork text f).Ensures (.alone t fun _ _ => False)
      (fun r h' => Denies h k o r h' ∨ o.mutex.IsVacant ∧ r = .ok () ∧
        ∃ x y, o.mutex.IsReturned x ∧ h' = h.setObject k
          (((o.inscribed (Text.Utf8.bytes text)).withMutex x).withCondition y)) h := by
  refine (calm_underGuard visits awake unowned Object.inscribed_sizeField
    (calm_replacePayload visits text)).bind ?_
  rintro _ _ (⟨taken, ⟨c, rfl⟩, kept⟩ | ⟨vacant, rfl, x, returned, rfl⟩)
  · exact .inl ⟨taken, ⟨c, rfl⟩, kept⟩
  let o' := (o.inscribed (Text.Utf8.bytes text)).withMutex x
  have visits' : f.Visits (h.setObject k o') k o' := visits.setObject Object.inscribed_sizeField
  refine visits'.calm_notifyAll.bind ?_
  rintro _ _ rfl
  rw [Host.setObject_setObject]
  -- Whether the text was cut off is recorded only.
  by_cases short : min o.sizeField.toNat (Text.Utf8.bytes text).length <
      (Text.Utf8.bytes text).length
  · simp only [if_pos short]
    exact .inr ⟨vacant, rfl, x, _, returned, rfl⟩
  · simp only [if_neg short]
    exact .inr ⟨vacant, rfl, x, _, returned, rfl⟩

/-- The text of a payload is printed if the mutex is vacant. -/
lemma ensures_readWork (lines : List String) :
    (readWork false f).Ensures (.printing t)
      (fun r s => Denies h k o r s.1 ∨ o.mutex.IsVacant ∧ r = .ok () ∧
        (∃ x, s.1 = h.setObject k (o.withMutex x)) ∧ s.2 = lines ++
          [Text.Utf8.decodeLossy (o.readText Layout.headerSize o.sizeField.toNat)])
      (h, lines) := by
  have mute : (underGuard f fun _ => f.readText).IsMute := by
    refine f.isMute_guard.bind fun r => ?_
    cases r with
    | none => exact isMute_ret _
    | some status =>
      exact f.isMute_readText.bind fun bs => f.isMute_unlock.bind fun _ => isMute_ret _
  have texts (x : Mutex) : f.readText.Ensures (.alone t fun _ _ => False)
      (fun bs h' => bs = o.readText Layout.headerSize o.sizeField.toNat ∧
        h' = h.setObject k (o.withMutex x)) (h.setObject k (o.withMutex x)) := by
    have visits' : f.Visits (h.setObject k (o.withMutex x)) k (o.withMutex x) :=
      visits.setObject rfl
    have same : (o.withMutex x).readText Layout.headerSize o.sizeField.toNat =
        o.readText Layout.headerSize o.sizeField.toNat := Object.readText_congr (by rfl) ..
    rw [← same]
    exact visits'.calm_readText
  have reads := calm_underGuard visits awake unowned rfl fun _ => texts
  refine (mute.ensures reads lines).bind ?_
  rintro _ ⟨_, _⟩ ⟨⟨taken, ⟨c, rfl⟩, kept⟩ | ⟨vacant, rfl, x, -, rfl⟩, rfl⟩
  · exact .inl ⟨taken, ⟨c, rfl⟩, kept⟩
  · exact .inr ⟨vacant, rfl, ⟨x, rfl⟩, rfl⟩

end

/-- How the work of a command makes it end. -/
def Ending.ofResult : Except Complaint Unit → Ending
  | .ok () => .succeeded
  | .error c => .complained c

section
variable {env : Environment} {words : List String} {i : Invocation}
  (understood : Invocation.ofWords words = .ok i)
include understood

lemma program_eq_invoke : program env words = invoke env i := by
  rw [program, understood]

/-- A command complains of settings that cannot be loaded, and does nothing. -/
lemma program_of_error {e : Complaint} (fails : settings env i.config = .error e) :
    program env words = .ret (.complained e) := by
  rw [program_eq_invoke understood, invoke, fails]
  rfl

lemma program_of_ok (loads : settings env i.config = .ok c) :
    program env words = ((i.action.work c).keepLogs (isRecorded i.verbose)).bind fun r =>
      .ret (.ofResult r) := by
  rw [program_eq_invoke understood, invoke, loads]
  refine congrArg (Program.bind _) (funext fun r => ?_)
  cases r with
  | ok => rfl
  | error e => rfl

/-- Under settings that can be loaded a command ends as its work does. -/
lemma ensures_program {post : Ending → Host × List String → Prop}
    (loads : settings env i.config = .ok c)
    (works : (i.action.work c).Ensures (.printing t) (fun r => post (.ofResult r)) (h, [])) :
    (program env words).Ensures (.printing t) post (h, []) := by
  rw [program_of_ok understood loads]
  refine (works.keepLogs _ printing_quiet).bind ?_
  intro r s here
  exact here

end
end Command
end SharedSegment
