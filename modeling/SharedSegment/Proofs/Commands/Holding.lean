import SharedSegment.Proofs.Commands.Works

/-!
# Creating and holding

What a command comes to that creates a segment while no call fails and nobody comes between. It
complains and leaves the host as it was, or it makes a segment and holds it (`Command.Creates`).
When the hold is over the segment goes with its name, and nothing else does. If the command is
killed before, the segment stays, and everybody can attach to it.
-/

namespace SharedSegment
open Program Header

/-- One file name is bound no more, and all others are bound to what they were. -/
def Store.Frees (s : Store) (file : String) (s' : Store) : Prop :=
  s'.get? file = none ∧ ∀ other ≠ file, s'.get? other = s.get? other

lemma Store.frees_erase (s : Store) (file : String) : s.Frees file (s.erase file) :=
  ⟨get?_erase_self s file, fun _ => get?_erase_of_ne⟩

section
variable {h : Host} {t : ThreadId} {m : MappingId} {k : ObjectId} {o : Object}

/-- A condition on which nobody is parked is taken down at once. -/
lemma Host.step_condDestroy (sees : h.under? m = some (k, o)) (empty : o.condition.parked = []) :
    h.step t (.condDestroy m) = .done (α := Except Errno Unit) (.ok ())
      (h.setObject k (o.withCondition { o.condition with life := .destroyed })) := by
  simp only [step, onCondition, sees, Condition.destroy, empty]
  rfl

/-- Taking the synchronization objects down waits for nobody, and changes nothing that can be
seen. -/
lemma calm_headerDestroy (h : Host) (m : MappingId) :
    (Header.destroy m).Ensures (.alone t fun _ _ => False) (fun _ h' => h.Rests h') h := by
  cases sees : h.under? m with
  | none =>
    have woken : h.step t (.broadcast m) = .done (α := Except Errno Unit) (.error .einval) h := by
      simp only [Host.step, Host.onObject, Host.reply, sees]
      rfl
    have first : h.step t (.condDestroy m) =
        .done (α := Except Errno Unit) (.error .einval) h := by
      simp only [Host.step, Host.onCondition, sees]
      rfl
    have second : h.step t (.mutexDestroy m) =
        .done (α := Except Errno Unit) (.error .einval) h := by
      simp only [Host.step, Host.onObject, Host.reply, sees]
      rfl
    refine .asks_calmly woken ?_
    refine .asks_calmly first ?_
    refine .asks_calmly second ?_
    exact h.rests_refl
  | some x =>
    obtain ⟨k, o⟩ := x
    let o₁ := o.withCondition o.condition.broadcast
    let o₂ := o₁.withCondition { o₁.condition with life := .destroyed }
    have sees₁ : (h.setObject k o₁).under? m = some (k, o₁) := Host.under?_setObject sees
    have sees₂ : ((h.setObject k o₁).setObject k o₂).under? m = some (k, o₂) :=
      Host.under?_setObject sees₁
    have rests : h.Rests (((h.setObject k o₁).setObject k o₂).setObject k
        (o₂.withMutex o₂.mutex.destroy.2)) := by
      rw [Host.setObject_setObject, Host.setObject_setObject]
      exact Host.rests_setObject (Host.under?_eq_some_iff.1 sees).2 (o.keeps_sync _ _)
    refine .asks_calmly (Host.step_broadcast sees) ?_
    refine .asks_calmly (Host.step_condDestroy sees₁ rfl) ?_
    refine .asks_calmly (Host.step_mutexDestroy sees₂) ?_
    cases o₂.mutex.destroy.1 with
    | ok => exact rests
    | error => exact rests

/-- Whatever was recorded of failures changes no host. -/
lemma calm_logSyncs (g : Segment) (failures : List SyncFailure) :
    (failures.forM g.logSync).Ensures (.alone t fun _ _ => False) (fun _ h' => h' = h) h := by
  induction failures with
  | nil => exact rfl
  | cons f failures ih => exact ih

/-- A creator that lets its segment go takes the name away, and changes nothing else that can be
seen. -/
lemma Segment.calm_destroy_of_creator {g : Segment} {b : Binding} {file : FileId}
    (role : g.role = .creator) (holds : g.file = some file)
    (bound : h.store.place g.name = .file (some b)) :
    g.destroy.Ensures (.alone t fun _ _ => False)
      (fun _ h' => h'.store = h.store.erase g.name.file ∧
        ∀ k, h.Keeps k (fun _ => none) h') h := by
  have syncs : g.destroySync.Ensures (.alone t fun _ _ => False) (fun _ h' => h.Rests h') h := by
    unfold destroySync
    cases g.mapping with
    | none => exact h.rests_refl
    | some m =>
      by_cases owns : g.role = .creator ∧ g.ownsSync
      · simp only [if_pos owns]
        refine (calm_headerDestroy h m).bind ?_
        intro failures h' rests
        refine (calm_logSyncs g failures).mono ?_
        rintro _ _ rfl
        exact rests
      · simp only [if_neg owns]
        exact h.rests_refl
  have unmaps (h' : Host) :
      g.unmap.Ensures (.alone t fun _ _ => False) (fun _ h'' => h'.Rests h'') h' := by
    unfold unmap
    cases g.mapping with
    | none => exact h'.rests_refl
    | some m => exact .asks_calmly (a := .ok ()) rfl (Host.rests_of_eq rfl rfl)
  have releases (h' : Host) (store : h'.store = h.store) :
      g.release.Ensures (.alone t fun _ _ => False)
        (fun _ h'' => h''.store = h.store.erase g.name.file ∧ h''.objects = h'.objects) h' := by
    unfold release
    rw [holds]
    refine .asks_calmly (a := ()) rfl ?_
    rw [role]
    have left : ({ h' with files := h'.files.set file none } : Host).store.place g.name =
        .file (some b) := (congrArg (Store.place · g.name) store).trans bound
    refine .asks_calmly (Host.step_unlink left) ?_
    exact ⟨congrArg (Store.erase · g.name.file) store, rfl⟩
  refine syncs.bind ?_
  intro _ h₁ rests
  refine (unmaps h₁).bind ?_
  intro _ h₂ rests'
  refine (releases h₂ (rests.trans rests').store).bind ?_
  rintro _ h₃ ⟨store, objects⟩
  refine ⟨store, ?_⟩
  intro k o here
  obtain ⟨o', here', keeps⟩ := (rests.trans rests').objects k o here
  refine ⟨o', ?_, keeps⟩
  rwa [Host.object?, objects]

end

namespace Command

/-- What a command still does with a segment that it has made once the hold is over. -/
def afterHold (f : Facade) : Work :=
  .put (.log (.removing f.name)) (f.drop.bind fun _ =>
    .put (.line "✓ Segment removed") (.ret (.ok ())))

variable {env : Environment} {words : List String} {path : Option String} {raw : String}
  {size : UInt32} {seconds : Option Nat} {c : Config} {h : Host} {t : ThreadId} {n : Name}

lemma createWork_eq (positive : size ≠ 0) :
    createWork raw size seconds c = (Facade.tryOpen raw size c).bind fun
      | .error e =>
        .ret (.error (.ofSegmentError ("Failed to create shared memory '" ++ raw ++ "'") e))
      | .ok f => .put (.line ("✓ Created segment " ++ f.name))
        (.put (.line ("  Size:    " ++ toString f.size ++ " bytes"))
          (.put (.line ("  Backend: " ++ f.flavor.label))
            ((hold seconds).bind fun _ => afterHold f))) := by
  rw [createWork, if_neg positive]
  refine congrArg (Program.bind _) (funext fun r => ?_)
  cases r with
  | error e => rfl
  | ok f => rfl

/-- Some work of a command, and how it makes the command end. -/
def ending (keep : Event → Bool) (work : Work) : Program Ending :=
  (work.keepLogs keep).bind fun r => .ret (.ofResult r)

lemma ending_bind {α : Type} (keep : Event → Bool) (p : Program α) (next : α → Work) :
    ending keep (p.bind next) = (p.keepLogs keep).bind fun a => ending keep (next a) := by
  rw [ending, keepLogs_bind, bind_assoc]
  rfl

/-- Whoever holds a segment waits, unless it is for no time at all. -/
lemma run_hold (keep : Event → Bool) (work : Work) (waits : seconds ≠ some 0) (f : Faults)
    (out : List Output) :
    ∃ out', (ending keep ((hold seconds).bind fun _ => work)).run t f out h =
      (⟨.waiting (.hold seconds) fun _ => ending keep work, f, out'⟩, h) := by
  cases seconds with
  | none => exact ⟨_, rfl⟩
  | some s =>
    cases s with
    | zero => exact absurd rfl waits
    | succ s => exact ⟨_, rfl⟩

/-- When the hold is over the segment goes with its name, and nothing else does. -/
lemma calm_afterHold {f : Facade} {g : Segment} {b : Binding} {file : FileId}
    (keep : Event → Bool) (eg : f.segment = some g) (role : g.role = .creator)
    (holds : g.file = some file) (bound : h.store.place g.name = .file (some b)) :
    (ending keep (afterHold f)).Ensures (.alone t fun _ _ => False)
      (fun e h' => e = .succeeded ∧ h'.store = h.store.erase g.name.file ∧
        ∀ k, h.Keeps k (fun _ => none) h') h := by
  have works : (afterHold f).Ensures (.alone t fun _ _ => False)
      (fun r h' => r = .ok () ∧ h'.store = h.store.erase g.name.file ∧
        ∀ k, h.Keeps k (fun _ => none) h') h := by
    have drops : f.drop.Ensures (.alone t fun _ _ => False)
        (fun _ h' => h'.store = h.store.erase g.name.file ∧
          ∀ k, h.Keeps k (fun _ => none) h') h := by
      rw [Facade.drop, Facade.onSegment_eq eg]
      refine (Segment.calm_destroy_of_creator role holds bound).bind ?_
      intro _ h' gone
      exact gone
    refine drops.bind ?_
    intro _ h' gone
    exact ⟨rfl, gone⟩
  refine (works.keepLogs keep fun _ _ => rfl).bind ?_
  rintro _ h' ⟨rfl, gone⟩
  exact ⟨rfl, gone⟩

/-- A command has ended with some number. -/
def Exits (r : Running Ending × Host) (code : Nat) : Prop :=
  ∃ e, r.1.value? = some e ∧ e.exitCode = code

/-- A command holds a segment that it has made under a name. -/
structure Holds (n : Name) (size : UInt32) (seconds : Option Nat) (t : ThreadId) (h : Host)
    (r : Running Ending × Host) : Prop where
  waits : r.1.hold? = some seconds
  offers : ∃ k o, r.2.Offers n k o ∧ o.sizeField = size
  others : ∀ other ≠ n.file, r.2.store.get? other = h.store.get? other
  /-- Whenever the hold ends while the name is bound, the segment goes with its name, and nothing
  else does. -/
  released : ∀ (h' : Host) b, h'.store.place n = .file (some b) → Exits (r.1.release t h') 0 ∧
    h'.store.Frees n.file (r.1.release t h').2.store ∧
    ∀ k, h'.Keeps k (fun _ => none) (r.1.release t h').2
  /-- Whenever the command is killed while its segment is offered, it is offered on, and whoever
  attaches to it finds it with its size. -/
  killed : ∀ (h' : Host) k o, h'.Offers n k o → (h'.bury t).Offers n k (o.bury t) ∧
    ∀ raw c t', Name.ofRaw raw = .ok n → c.validate = .ok () →
      ∃ f, (attempt raw 0 c t' (h'.bury t)).1.value? = some (.ok f) ∧ f.isValid ∧
        f.size = o.sizeField

/-- What a command that creates a segment has come to. -/
structure Creates (env : Environment) (path : Option String) (raw : String) (size : UInt32)
    (seconds : Option Nat) (t : ThreadId) (h : Host) (r : Running Ending × Host) : Prop where
  /-- Without a size or settings nothing is tried. -/
  refused : size = 0 ∨ (∃ e, settings env path = .error e) → Exits r 1 ∧ r.2 = h
  failed : ∀ c e, size ≠ 0 → settings env path = .ok c →
    (attempt raw size c t h).1.value? = some (.error e) → Exits r 1 ∧ r.2 = h
  /-- A hold of no time at all is over at once. -/
  made : ∀ c f, size ≠ 0 → settings env path = .ok c →
    (attempt raw size c t h).1.value? = some (.ok f) → ∃ n, Name.ofRaw raw = .ok n ∧
      (seconds = some 0 → Exits r 0 ∧ h.store.Frees n.file r.2.store) ∧
      (seconds ≠ some 0 → Holds n size seconds t h r)

/-- A segment that is offered is offered on when a thread dies, and can be attached to. -/
lemma offers_bury {k : ObjectId} {o : Object} (offers : h.Offers n k o) (t : ThreadId) :
    (h.bury t).Offers n k (o.bury t) ∧
      ∀ raw c t', Name.ofRaw raw = .ok n → c.validate = .ok () →
        ∃ f, (attempt raw 0 c t' (h.bury t)).1.value? = some (.ok f) ∧ f.isValid ∧
          f.size = o.sizeField := by
  have offers' : (h.bury t).Offers n k (o.bury t) :=
    ⟨offers.bound, Host.object?_bury offers.object t, offers.permits, offers.length,
      offers.published⟩
  refine ⟨offers', ?_⟩
  intro raw c t' named valid
  obtain ⟨r, opened, -, ⟨-, missing⟩ | ⟨f, n', k', o', rfl, named', found, visits, size⟩⟩ :=
    (Facade.calm_tryOpen_zero valid).run_calm (f := .none) rfl []
  · exact absurd ⟨n, k, _, named, offers'⟩ missing
  · cases named.symm.trans named'
    obtain ⟨rfl, rfl⟩ := offers'.unique found
    exact ⟨f, opened, visits.1, size⟩

section
variable {i : Invocation} (understood : Invocation.ofWords words = .ok i)
  (asks : i.action = .create raw size seconds)
include understood asks

lemma program_create (loads : settings env i.config = .ok c) :
    program env words = ending (isRecorded i.verbose) (createWork raw size seconds c) := by
  rw [program_of_ok understood loads, asks]
  rfl

/-- A command that creates goes on from what its attempt has come to. -/
lemma run_create (positive : size ≠ 0) (loads : settings env i.config = .ok c) :
    ∃ r f out h', f.planned = [] ∧ Facade.Judges h raw size c r h' ∧
      (attempt raw size c t h).1.value? = some (r.map (Facade.ofSegment size c)) ∧
      (program env words).run t .none [] h =
        match r with
        | .error e => (⟨.ended (.complained (.ofSegmentError
          ("Failed to create shared memory '" ++ raw ++ "'") e)), f, out⟩, h')
        | .ok g => (ending (isRecorded i.verbose) ((hold seconds).bind fun _ =>
          afterHold (.ofSegment size c g))).run t f out h' := by
  have opens : (Facade.tryOpen raw size c).Ensures (.alone t fun _ _ => False)
      (fun r h' => ∃ r', r = r'.map (Facade.ofSegment size c) ∧
        Facade.Judges h raw size c r' h') h :=
    Facade.calm_tryOpen (Facade.calm_connect positive)
  have kept := ((opens.determined (f := .none) rfl []).keepLogs (isRecorded i.verbose)
    fun _ _ => rfl).printing []
  have printed : ([] : List Output).reverse.filterMap Output.line? = [] := rfl
  obtain ⟨_, f, out, h', calm, ⟨⟨r, rfl, judged⟩, opened, -⟩, ran⟩ :=
    kept.run_bind (f := .none) rfl printed fun r => ending (isRecorded i.verbose) (match r with
      | .error e =>
        .ret (.error (.ofSegmentError ("Failed to create shared memory '" ++ raw ++ "'") e))
      | .ok f => .put (.line ("✓ Created segment " ++ f.name))
        (.put (.line ("  Size:    " ++ toString f.size ++ " bytes"))
          (.put (.line ("  Backend: " ++ f.flavor.label))
            ((hold seconds).bind fun _ => afterHold f))))
  rw [← ending_bind, ← createWork_eq positive] at ran
  rw [program_create understood asks loads, ran]
  cases r with
  | error e => exact ⟨.error e, f, out, h', calm, judged, opened, rfl⟩
  | ok g => exact ⟨.ok g, f, _, h', calm, judged, opened, rfl⟩

/-- A command that creates a segment complains and leaves the host as it was, or makes the segment
and holds it. -/
theorem creates_of_understood :
    Creates env i.config raw size seconds t h ((program env words).run t .none [] h) where
  refused := by
    intro why
    cases loads : settings env i.config with
    | error e =>
      rw [program_of_error understood loads]
      exact ⟨⟨_, rfl, rfl⟩, rfl⟩
    | ok c =>
      have none : size = 0 := by
        obtain none | ⟨e, fails⟩ := why
        · exact none
        · cases fails.symm.trans loads
      have refuses : createWork raw size seconds c =
          .ret (.error ⟨"Size must be greater than 0 to create a segment", []⟩) := by
        rw [createWork, if_pos none]
        rfl
      rw [program_create understood asks loads, refuses]
      exact ⟨⟨_, rfl, rfl⟩, rfl⟩
  failed := by
    intro c e positive loads failed
    obtain ⟨r, f, out, h', -, judged, opened, ran⟩ :=
      run_create (t := t) (h := h) understood asks positive loads
    rw [ran]
    rw [failed] at opened
    cases r with
    | ok g => cases opened
    | error e' => exact ⟨⟨_, rfl, rfl⟩, judged.failed e' rfl⟩
  made := by
    intro c f positive loads opens
    obtain ⟨r, faults, out, h', calm, judged, opened, ran⟩ :=
      run_create (t := t) (h := h) understood asks positive loads
    rw [ran]
    rw [opens] at opened
    cases r with
    | error e => cases opened
    | ok g =>
      obtain ⟨n, ⟨named, valid⟩, rfl, made⟩ := judged.made g rfl
      have offers : h'.Offers n h.objects.length (.finished c.mode size) :=
        { bound := made.bound
          object := by simp [Host.object?, made.objects]
          permits := Object.finished_permits ((c.validate_eq_ok_iff).1 valid)
          length := by simp
          published := by simpa using positive }
      -- Whatever has become of the host meanwhile, the name is all that the end of the hold needs.
      have finishes {h₂ : Host} {b : Binding} (bound : h₂.store.place n = .file (some b)) :=
        calm_afterHold (t := t) (f := .ofSegment size c (.madeOn h n size c))
          (isRecorded i.verbose) rfl rfl rfl bound
      refine ⟨n, named, ?_, ?_⟩
      · rintro rfl
        obtain ⟨_, ended, rfl, store, -⟩ := (finishes made.bound).run_calm calm out
        have gone := h'.store.frees_erase n.file
        refine ⟨⟨_, ended, rfl⟩, (congrArg (Store.get? · n.file) store).trans gone.1, ?_⟩
        intro other ne
        calc
          _ = (h'.store.erase n.file).get? other := congrArg (Store.get? · other) store
          _ = h'.store.get? other := gone.2 other ne
          _ = h.store.get? other := made.others other ne
      · intro waits
        obtain ⟨out', ran'⟩ := run_hold (t := t) (h := h') (isRecorded i.verbose)
          (afterHold (.ofSegment size c (.madeOn h n size c))) waits faults out
        simp only []
        rw [ran']
        refine ⟨rfl, ⟨_, _, offers, Object.finished_sizeField⟩, made.others, ?_, ?_⟩
        · intro h₂ b bound
          obtain ⟨_, ended, rfl, store, keeps⟩ := (finishes bound).run_calm calm out'
          exact ⟨⟨_, ended, rfl⟩,
            (congrArg (h₂.store.Frees n.file) store).mpr (h₂.store.frees_erase n.file), keeps⟩
        · intro h₂ k o offers
          exact offers_bury offers t

end

end Command
end SharedSegment
