import SharedSegment.Proofs.Commands.Holding
import SharedSegment.Proofs.Commands.Messages
import SharedSegment.Proofs.Commands.Observers

/-!
# Verdicts

Every command agrees with the library (`commands_agree_with_the_library`). A visitor succeeds
exactly if its settings can be loaded, an attempt to open the segment succeeds, and the lock can be
had where it is needed (`Command.Agrees`). It changes at most the payload of that segment
(`Host.Rewrites`), and where it complains it changes nothing. Commands that only look never change
anything, and a command that creates a segment leaves all other names alone.
-/

namespace SharedSegment
open Program Command

/-- Nothing of an object is replaced but bytes of its payload. -/
structure Object.Rewrites (o o' : Object) : Prop where
  length : o'.length = o.length
  mode : o'.mode = o.mode
  size : o'.sizeField = o.sizeField
  outside : ∀ i, i < Layout.headerSize ∨ Layout.headerSize + o.sizeField.toNat ≤ i →
    o'.bytes i = o.bytes i

namespace Host

/-- The file that a name stands for is bound to an object. -/
def LeadsTo (h : Host) (raw : String) (k : ObjectId) : Prop :=
  ∃ n, Name.ofRaw raw = .ok n ∧ h.store.place n = .file (some (.object k))

/-- Nothing of a host is replaced but bytes of the payload under a name. -/
structure Rewrites (h : Host) (raw : String) (h' : Host) : Prop where
  store : h'.store = h.store
  objects : ∀ k o, h.object? k = some o → ∃ o', h'.object? k = some o' ∧ o.Rewrites o'
  others : ∀ k, ¬h.LeadsTo raw k → h.Keeps k (fun _ => none) h'

/-- Nobody owns the lock of the segment that is offered under a name, and a thread does not await it
yet. -/
def IsUnheld (h : Host) (raw : String) (t : ThreadId) : Prop :=
  ∀ n k o, Name.ofRaw raw = .ok n → h.Offers n k o →
    o.mutex.hold.owner? = none ∧ o.mutex.isQueued t = false

end Host

section
variable {h h' : Host} {raw : String} {k : ObjectId} {o o' : Object}

lemma Object.rewrites_of_bytes (length : o'.length = o.length) (mode : o'.mode = o.mode)
    (bytes : o'.bytes = o.bytes) : o.Rewrites o' where
  length := length
  mode := mode
  size := by rw [sizeField, bytes, sizeField]
  outside i _ := congrFun bytes i

lemma Host.Rests.rewrites (rests : h.Rests h') (raw : String) : h.Rewrites raw h' where
  store := rests.store
  objects k o here := by
    obtain ⟨o', here', keeps⟩ := rests.objects k o here
    exact ⟨o', here', Object.rewrites_of_bytes keeps.length keeps.mode (funext keeps.bytes)⟩
  others k _ := rests.objects k

/-- Only the payload of the object under a name is replaced. -/
lemma Host.rewrites_of_set (leads : h.LeadsTo raw k) (here : h.object? k = some o)
    (rewrites : o.Rewrites o') (store : h'.store = h.store)
    (objects : h'.objects = h.objects.set k o') : h.Rewrites raw h' := by
  obtain ⟨own, others⟩ := Host.object?_of_set here objects
  refine ⟨store, ?_, ?_⟩
  · intro j o₁ there
    by_cases same : j = k
    · subst same
      cases here.symm.trans there
      exact ⟨o', own, rewrites⟩
    · exact ⟨o₁, (others j same).trans there, Object.rewrites_of_bytes rfl rfl rfl⟩
  · intro j astray o₁ there
    have other : j ≠ k := by
      rintro rfl
      exact astray leads
    exact ⟨o₁, (others j other).trans there, o₁.keeps_refl⟩

end

namespace Command

/-- The name that an action is about. -/
def Action.raw : Action → String
  | .create raw .. | .info raw | .write raw _ | .read raw _ | .notify raw => raw

/-- Whether an action works on a segment that exists, and waits for nobody there. -/
def Action.isVisit : Action → Bool
  | .info .. | .write .. | .read _ false | .notify .. => true
  | .create .. | .read _ true => false

/-- Whether an action needs the lock of a segment. -/
def Action.locks : Action → Bool
  | .write .. | .read .. => true
  | .create .. | .info .. | .notify .. => false

/-- The library opens a segment for a visitor, and lends it the lock if that is needed. -/
def Grants (raw : String) (locks : Bool) (c : Config) (t : ThreadId) (h : Host) : Prop :=
  ∃ f, (attempt raw 0 c t h).1.value? = some (.ok f) ∧
    (locks → ∃ status,
      (f.guard.run t .none [] (attempt raw 0 c t h).2).1.value? = some (some status))

/-- What a command that visits a segment has come to. -/
structure Agrees (env : Environment) (path : Option String) (raw : String) (locks : Bool)
    (t : ThreadId) (h : Host) (r : Running Ending × Host) : Prop where
  succeeds : Exits r 0 ↔ ∃ c, settings env path = .ok c ∧ Grants raw locks c t h
  complains : (¬∃ c, settings env path = .ok c ∧ Grants raw locks c t h) →
    Exits r 1 ∧ h.Rests r.2
  changes : h.Rewrites raw r.2

variable {env : Environment} {words : List String} {i : Invocation} {a : Action} {c : Config}
  {h : Host} {t : ThreadId} {k : ObjectId} {o : Object} {f : Facade}

/-- What is done for a visitor: it complains if it needs the lock and cannot have it, or else it
replaces at most the payload. -/
def Serves (locks : Bool) (h : Host) (k : ObjectId) (o : Object) (r : Except Complaint Unit)
    (h' : Host) : Prop :=
  locks ∧ Denies h k o r h' ∨
    (locks → o.mutex.IsVacant) ∧ r = .ok () ∧ ∃ o', o.Rewrites o' ∧ h' = h.setObject k o'

section
variable (visits : f.Visits h k o) (awake : o.mutex.isQueued t = false)
  (unowned : o.mutex.hold.owner? = none)
include visits

lemma serves_infoWork (lines : List String) :
    (infoWork f).Ensures (.printing t) (fun r s => Serves false h k o r s.1) (h, lines) := by
  obtain ⟨-, g, -, ⟨-, -, m, -, sees⟩⟩ := visits
  have here := (Host.under?_eq_some_iff.1 sees).2
  exact .inr ⟨nofun, rfl, o, Object.rewrites_of_bytes rfl rfl rfl, (Host.setObject_self here).symm⟩

lemma serves_notifyWork (lines : List String) :
    (notifyWork f).Ensures (.printing t) (fun r s => Serves false h k o r s.1) (h, lines) := by
  refine (visits.calm_notifyAll.printing lines).bind ?_
  rintro _ ⟨_, _⟩ rfl
  have rewrites : o.Rewrites (o.withCondition o.condition.broadcast) :=
    Object.rewrites_of_bytes rfl rfl rfl
  exact .inr ⟨nofun, rfl, _, rewrites, rfl⟩

include awake unowned

lemma serves_writeWork (text : String) (lines : List String) :
    (writeWork text f).Ensures (.printing t) (fun r s => Serves true h k o r s.1) (h, lines) := by
  refine ((calm_writeWork visits awake unowned text).printing lines).mono ?_
  rintro r ⟨_, _⟩ (denied | ⟨vacant, rfl, x, y, -, rfl⟩)
  · exact .inl ⟨rfl, denied⟩
  · refine .inr ⟨fun _ => vacant, rfl, _, ?_, rfl⟩
    exact ⟨rfl, rfl, Object.inscribed_sizeField, fun i => Object.inscribed_outside⟩

lemma serves_readWork (lines : List String) :
    (readWork false f).Ensures (.printing t) (fun r s => Serves true h k o r s.1) (h, lines) := by
  refine (ensures_readWork visits awake unowned lines).mono ?_
  rintro r ⟨_, _⟩ (denied | ⟨vacant, rfl, ⟨x, rfl⟩, -⟩)
  · exact .inl ⟨rfl, denied⟩
  · have rewrites : o.Rewrites (o.withMutex x) := Object.rewrites_of_bytes rfl rfl rfl
    exact .inr ⟨fun _ => vacant, rfl, _, rewrites, rfl⟩

/-- A guard is had of a mutex that nobody owns exactly if the mutex is vacant. -/
lemma guard_iff_isVacant :
    (∃ status, (f.guard.run t .none [] h).1.value? = some (some status)) ↔ o.mutex.IsVacant := by
  obtain ⟨_, ended, status, x, rfl, lent, -⟩ :=
    (calm_guard visits awake unowned).run_calm (f := .none) rfl []
  rw [ended, ← lent.held]
  by_cases held : status.isHeld
  · simp [held]
  · simp [held]

end

/-- Every visitor works on what it has attached to, and is served. -/
lemma exists_serving (visit : a.isVisit) (c : Config) :
    ∃ act, a.work c = onAttached a.raw c act ∧ ∀ f h k o, f.Visits h k o →
      o.mutex.isQueued t = false → o.mutex.hold.owner? = none → ∀ lines,
      (act f).Ensures (.printing t) (fun r s => Serves a.locks h k o r s.1) (h, lines) := by
  cases a with
  | create => cases visit
  | info => exact ⟨_, rfl, fun _ _ _ _ visits _ _ => serves_infoWork visits⟩
  | notify => exact ⟨_, rfl, fun _ _ _ _ visits _ _ => serves_notifyWork visits⟩
  | write _ text =>
    exact ⟨_, rfl, fun _ _ _ _ visits awake unowned => serves_writeWork visits awake unowned text⟩
  | read _ wait =>
    cases wait with
    | true => cases visit
    | false =>
      exact ⟨_, rfl, fun _ _ _ _ visits awake unowned => serves_readWork visits awake unowned⟩

/-- What a visit has come to: without what it needs it fails and changes nothing, or else it
succeeds and replaces at most a payload. -/
def Concludes (raw : String) (locks : Bool) (c : Config) (t : ThreadId) (h : Host) (e : Ending)
    (h' : Host) : Prop :=
  ¬Grants raw locks c t h ∧ e.exitCode = 1 ∧ h.Rests h' ∨
    Grants raw locks c t h ∧ e.exitCode = 0 ∧ h.Rewrites raw h'

/-- A visitor does its work exactly if the library grants it what it needs. -/
theorem ensures_visit (visit : a.isVisit) (unheld : h.IsUnheld a.raw t)
    (valid : c.validate = .ok ()) :
    (a.work c).Ensures (.printing t)
      (fun r s => Concludes a.raw a.locks c t h (.ofResult r) s.1) (h, []) := by
  obtain ⟨act, work, serves⟩ := exists_serving (t := t) visit c
  rw [work]
  refine ensures_onAttached valid ?_ ?_
  · intro e failed _ _ h' store objects
    refine .inl ⟨?_, rfl, Host.rests_of_eq store objects⟩
    rintro ⟨f, opened, -⟩
    cases failed.symm.trans opened
  · rintro f opened n k o h' left named offers visits store objects
    obtain ⟨unowned, awake⟩ := unheld n k o named offers
    -- Whether the library lends the lock is up to the mutex alone, as it is for the command.
    have guarded := guard_iff_isVacant visits awake unowned
    have granted : Grants a.raw a.locks c t h ↔ (a.locks → o.mutex.IsVacant) := by
      rw [← guarded, ← left]
      constructor
      · rintro ⟨f', opened', lent⟩
        cases opened.symm.trans opened'
        exact lent
      · intro lent
        exact ⟨f, opened, lent⟩
    refine (serves f h' k o visits awake unowned []).mono ?_
    rintro r ⟨_, _⟩ (⟨locks, taken, ⟨_, rfl⟩, x, rfl⟩ | ⟨free, rfl, o', rewrites, rfl⟩)
      h₂ store' objects'
    · have here : h'.object? k = some o := by
        rw [Host.object?, objects]
        exact offers.object
      have rests : h'.Rests (h'.setObject k (o.withMutex x)) :=
        Host.rests_setObject here (o.keeps_sync _ _)
      have first : h.Rests h' := Host.rests_of_eq store objects
      refine .inl ⟨fun lent => taken (granted.1 lent locks), rfl, ?_⟩
      exact (first.trans rests).trans (Host.rests_of_eq store' objects')
    · refine .inr ⟨granted.2 free, rfl, ?_⟩
      exact Host.rewrites_of_set ⟨n, named, offers.bound⟩ offers.object rewrites
        (store'.trans store) (objects'.trans (congrArg (List.set · k o') objects))

/-- A command that visits agrees with what the library says. -/
theorem agrees_of_understood (understood : Invocation.ofWords words = .ok i)
    (visit : i.action.isVisit) (unheld : h.IsUnheld i.action.raw t) :
    Agrees env i.config i.action.raw i.action.locks t h
      ((program env words).run t .none [] h) := by
  cases loads : settings env i.config with
  | error e =>
    have nothing : ¬∃ c, settings env i.config = .ok c ∧
        Grants i.action.raw i.action.locks c t h := by
      rintro ⟨c, loaded, -⟩
      cases loads.symm.trans loaded
    rw [program_of_error understood loads]
    refine ⟨iff_of_false ?_ nothing, fun _ => ⟨⟨_, rfl, rfl⟩, h.rests_refl⟩,
      h.rests_refl.rewrites _⟩
    rintro ⟨_, ⟨⟩, ⟨⟩⟩
  | ok c =>
    have granted : (∃ c, settings env i.config = .ok c ∧
        Grants i.action.raw i.action.locks c t h) ↔ Grants i.action.raw i.action.locks c t h := by
      constructor
      · rintro ⟨c', loaded, grants⟩
        cases loads.symm.trans loaded
        exact grants
      · intro grants
        exact ⟨c, loads, grants⟩
    have works : (program env words).Ensures (.printing t)
        (fun e s => Concludes i.action.raw i.action.locks c t h e s.1) (h, []) :=
      ensures_program understood loads (ensures_visit visit unheld (validate_of_settings loads))
    obtain ⟨e, ended, ⟨denied, one, rests⟩ | ⟨grants, zero, rewrites⟩⟩ := works.run_printing
    · refine ⟨iff_of_false ?_ (mt granted.1 denied), fun _ => ⟨⟨e, ended, one⟩, rests⟩,
        rests.rewrites _⟩
      rintro ⟨e', ended', zero⟩
      cases ended.symm.trans ended'
      cases one.symm.trans zero
    · exact ⟨iff_of_true ⟨e, ended, zero⟩ (granted.2 grants),
        fun denied => absurd (granted.2 grants) denied, rewrites⟩

end Command

/-- What every command comes to that is understood, while no call fails and nobody comes between. -/
theorem commands_agree_with_the_library {env : Environment} {words : List String} {i : Invocation}
    {h : Host} {t : ThreadId} (understood : Invocation.ofWords words = .ok i) :
    let r := (program env words).run t .none [] h
    (i.action.isVisit → h.IsUnheld i.action.raw t →
      Agrees env i.config i.action.raw i.action.locks t h r) ∧
    (i.action.isObserving → (program env words).OnlyLooks ∧ h.Rests r.2) ∧
    ∀ raw size seconds, i.action = .create raw size seconds →
      Creates env i.config raw size seconds t h r := by
  intro r
  refine ⟨fun visit unheld => agrees_of_understood understood visit unheld, ?_, ?_⟩
  · intro observes
    have looks : (program env words).OnlyLooks := onlyLooks_program understood observes
    exact ⟨looks, looks.rests_run t .none [] h⟩
  · intro raw size seconds asks
    exact creates_of_understood understood asks

/-- A segment whose last owner has died is written to, notifying of it changes nothing, and another
one is made beside it. -/
theorem commands_agree_with_the_library_about_a_bequest :
    let written := (program ⟨none, .empty⟩ ["write", "--", "s", "-éé"]).run 0 .none [] .bequeathed
    let held := (program ⟨none, .empty⟩ ["create", "--", "t", "8"]).run 0 .none [] .bequeathed
    Host.bequeathed.IsUnheld "s" 0 ∧ Exits written 0 ∧ Host.bequeathed.Rewrites "s" written.2 ∧
      (program ⟨none, .empty⟩ ["notify", "--", "s"]).OnlyLooks ∧
      ∃ n, Name.ofRaw "t" = .ok n ∧ Holds n 8 none 0 .bequeathed held := by
  intro written held
  have writes : Invocation.ofWords ["write", "--", "s", "-éé"] =
      .ok ⟨none, false, .write "s" "-éé"⟩ := by rfl
  have notifies : Invocation.ofWords ["notify", "--", "s"] =
      .ok ⟨none, false, .notify "s"⟩ := by rfl
  have creates : Invocation.ofWords ["create", "--", "t", "8"] =
      .ok ⟨none, false, .create "t" 8 none⟩ := by rfl
  have unheld : Host.bequeathed.IsUnheld "s" 0 := by
    rintro n k o named ⟨bound, here⟩
    cases named
    cases bound
    cases here
    exact ⟨rfl, rfl⟩
  have agrees : Agrees ⟨none, .empty⟩ none "s" true 0 .bequeathed written :=
    (commands_agree_with_the_library writes).1 rfl unheld
  have grants : Grants "s" true (.ofToggle none) 0 .bequeathed :=
    ⟨_, rfl, fun _ => ⟨.ownerDied, rfl⟩⟩
  have looks : Program.OnlyLooks (program ⟨none, .empty⟩ ["notify", "--", "s"]) :=
    ((commands_agree_with_the_library (h := .bequeathed) (t := 0) notifies).2.1 rfl).1
  have made : Creates ⟨none, .empty⟩ none "t" 8 none 0 .bequeathed held :=
    (commands_agree_with_the_library creates).2.2 _ _ _ rfl
  obtain ⟨n, named, -, holds⟩ := made.made (.ofToggle none) _ (by decide) rfl rfl
  exact ⟨unheld, agrees.succeeds.2 ⟨_, rfl, grants⟩, agrees.changes, looks, n, named,
    holds (by decide)⟩

end SharedSegment
