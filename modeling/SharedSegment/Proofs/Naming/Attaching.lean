import SharedSegment.Proofs.Alone.Finding
import SharedSegment.Proofs.Custody.Identity
import SharedSegment.Proofs.Naming.Owning

/-!
# Names of creators

The handle of a creator owns the name of its segment, as long as nobody begins to create a segment
under a name that some creator has: the name is bound to the object that the handle shows, and
whoever attaches to the name finds that object if its mode permits
(`Session.creators_own_their_names`). Settings that facades check always permit.
-/

namespace SharedSegment
open Function Scenario Program

/-- A program that is run alone and without faults ends with some value and leaves some host. -/
def Program.Comes {α : Type} (p : Program α) (t : ThreadId) (h : Host) (a : α) (h' : Host) : Prop :=
  (p.run t .none [] h).1.value? = some a ∧ (p.run t .none [] h).2 = h'

/-- Whoever attaches to a name, under whatever spelling and with whatever settings, comes to a
segment of some size on an object, and to a facade on it if the settings are admitted. -/
def Host.IsFound (h : Host) (n : Name) (k : ObjectId) (size : UInt32) : Prop :=
  ∀ t raw c, Name.ofRaw raw = .ok n →
    (∃ g m h', (named raw fun n => Segment.attach n c).Comes t h (.ok g) h' ∧ g.size = size ∧
      g.mapping = some m ∧ h'.shows m k) ∧
    (c.validate = .ok () → ∃ f h', (Facade.openWith raw 0 c).Comes t h f h' ∧ f.size = size ∧
      f.isOn h' k)

lemma Host.Offers.isFound {h : Host} {n : Name} {k : ObjectId} {o : Object}
    (offers : h.Offers n k o) : h.IsFound n k o.sizeField := by
  intro t raw c en
  have shown (x : Option Mapping) : (h.grown h.store [] [some k]
      [x, some ⟨k, Header.total o.sizeField⟩]).shows (h.mappings.length + 1) k := by
    simp [shows, mapping?_grown]
  constructor
  · have calls : (named raw fun n => Segment.attach n c) = Segment.attach n c := by
      simp [named, en]
    have attaches : (Segment.attach n c).Ensures (.alone t fun _ _ => False)
        (Segment.Finds h (fun _ _ => False) n c) h := Segment.alone_attach n c
    obtain ⟨r, ended, fs, ms, grown, ⟨-, -, -, ⟨_, _, ⟨⟩⟩ | missing⟩ |
      ⟨k', o', x, offers', rfl, rfl, rfl⟩⟩ := attaches.run_calm (f := .none) rfl []
    · exact absurd ⟨k, o, offers⟩ missing
    · cases offers.bound.symm.trans offers'.bound
      cases offers.object.symm.trans offers'.object
      rw [calls]
      exact ⟨_, _, _, ⟨ended, grown⟩, rfl, rfl, shown x⟩
  · intro valid
    obtain ⟨f, ended, isValid, size, data, x, grown⟩ :=
      (Facade.ensures_openWith_zero (t := t) en valid offers).run_calm (f := .none) rfl []
    exact ⟨f, _, ⟨ended, grown⟩, size, Facade.isOn_iff.2 ⟨isValid, _, data, shown x⟩⟩

namespace Session

variable {h₀ : Host} {s : Session} {past : List Deed} {h : String} {n : Name} {x : Handle}
  {g : Segment}

/-- As long as nobody begins to create a segment under a name that some creator has, the name of a
creator's handle is bound to the object that the handle shows, whose size is the one of the handle.
Whoever attaches to the name finds that object, if it has a payload and its mode lets the owner read
and write. It does if the handle is a facade, and if all settings are admitted. -/
theorem creators_own_their_names (run : Run ModestStep (.ofHost h₀) past s)
    (named : s.IsNamed h n x g) :
    ∃ m k o, g.mapping = some m ∧ s.host.shows m k ∧ s.host.IsBound n k ∧
      s.host.object? k = some o ∧ o.sizeField = g.size ∧
      ((o.isReadable && o.isWritable) = true → g.size ≠ 0 → s.host.IsFound n k g.size) ∧
      ((∃ f, x = .facade f) ∨ (∀ d ∈ past, d.IsAdmitted) →
        (o.isReadable && o.isWritable) = true) := by
  obtain ⟨τ, titled, owned, orderly⟩ := IsOwned.of_run run
  obtain ⟨σ, kept⟩ := IsKeptFrom.of_run (run.mono fun _ _ _ st => st.1)
  have goes := titled.handles h x named.handle named.free
  obtain ⟨y, ey, isOf⟩ := goes.entitles.of_isEntitled named.segment named.entitled
  obtain ⟨m, ym⟩ := Option.isSome_iff_exists.1 (goes.whole y ey)
  obtain ⟨k, stands⟩ := owned.stand _ y ey
  have em : g.mapping = some m := isOf.mapping.trans ym
  obtain supports | ⟨busy, -⟩ := kept.handles h x named.handle
  case inr => exact absurd busy named.free
  obtain ⟨covers, whole⟩ := supports g named.segment
  obtain ⟨k', o, sees, size, -⟩ := kept.under_of_covers covers whole em
  obtain ⟨shows, here⟩ := Host.under?_eq_some_iff.1 sees
  obtain rfl := stands.shows m k' ym shows
  obtain ⟨o', here', isOpen⟩ := stands.object
  cases here.symm.trans here'
  have bound : s.host.IsBound n k' := by
    have yn : y.name = n := isOf.name.symm.trans named.name
    exact yn ▸ stands.bound
  have sane := kept.custodians.sane k' _ stands.new (Host.outline?_of_object here)
  refine ⟨m, k', o, em, shows, bound, here, size, ?_, ?_⟩
  · intro permits sized
    have published : o.sizeField ≠ 0 := size ▸ sized
    exact size ▸ Host.Offers.isFound
      ⟨bound, here, permits, Nat.le_of_eq (sane.length published).symm, published⟩
  · rintro (⟨f, rfl⟩ | admitted)
    · exact Object.permits_of_owner (isOpen (goes.checked y f ey rfl))
    · exact Object.permits_of_owner (isOpen (orderly admitted _ y ey))

end Session

namespace Session

/-- The first creator has dropped its facade. -/
def cleared : List Deed × Session :=
  let c := Underway.ofDrop "a" (.facade (.ofSegment 8 .standard (.numbered 0)))
  after started.1 0 c.act
    ({ started.2 with handles := update started.2.handles "a" none }.begin 0 c) 10

/-- Another thread has created a segment under the same name. -/
def renewed : List Deed × Session :=
  let c := Underway.ofOpen "b" "//s" 8 (.facade (some .standard))
  after cleared.1 1 c.act (cleared.2.begin 1 c) 30

lemma not_isHeld {s : Session} {n : Name} (handles : ∀ h, s.handles h = none)
    (calls : ∀ t, s.calls t = none) : ¬s.IsHeld n := by
  rintro ⟨t | h, claimant⟩
  · obtain ⟨c, ec, -⟩ := claimant
    cases (calls t).symm.trans ec
  · obtain ⟨x, g, named⟩ := claimant
    cases (handles h).symm.trans named.handle

lemma run_renewed : Run ModestStep .empty renewed.1 renewed.2 := by
  have creates : empty.ModestStep _
      (empty.begin 0 (.ofOpen "a" "/s" 8 (.facade (some .standard)))) :=
    ⟨.openHandle ⟨rfl, rfl⟩ rfl (not_isInUse (fun _ _ => rfl) fun _ => rfl), fun _ _ =>
      not_isHeld (fun _ => rfl) fun _ => rfl⟩
  have resting t : started.2.calls t = none := by
    cases t <;> rfl
  have drops := Step.drop (s := started.2) (t := 0) (h := "a") ⟨rfl, rfl⟩ rfl
    (not_isInUse (fun _ _ => rfl) resting) rfl
  have resting' t : cleared.2.calls t = none := by
    cases t <;> rfl
  have gone h : cleared.2.handles h = none := by
    have handles : cleared.2.handles = update (update (fun _ => none) "a" _) "a" none := rfl
    rw [handles, update_idem, update_eq_self]
  have renews : cleared.2.ModestStep _
      (cleared.2.begin 1 (.ofOpen "b" "//s" 8 (.facade (some .standard)))) :=
    ⟨.openHandle ⟨rfl, rfl⟩ rfl (not_isInUse (fun _ _ => rfl) resting'), fun _ _ =>
      not_isHeld gone resting'⟩
  have first := run_play_of modestStep_turn (.cons .nil creates) (List.replicate 30 (0, none))
  have second := run_play_of modestStep_turn (.cons first ⟨drops, nofun⟩)
    (List.replicate 10 (0, none))
  exact run_play_of modestStep_turn (.cons second renews) (List.replicate 30 (1, none))

/-- After a name was given up, its next creator owns it. -/
theorem the_next_creator_owns_the_name :
    Run ModestStep .empty renewed.1 renewed.2 ∧
      renewed.2.IsNamed "b" .sample (.facade (.ofSegment 8 .standard (.numbered 1)))
        (.numbered 1) ∧
      renewed.2.host.IsBound .sample 1 ∧ renewed.2.host.IsFound .sample 1 8 := by
  have named : renewed.2.IsNamed "b" .sample
      (.facade (.ofSegment 8 .standard (.numbered 1))) (.numbered 1) := by
    refine ⟨rfl, ?_, rfl, rfl, rfl⟩
    rintro ⟨t, c, ec, -⟩
    match t with
    | 0 | 1 | t + 2 => cases ec
  obtain ⟨m, k, o, em, shows, bound, here, size, found, permits⟩ :=
    creators_own_their_names run_renewed named
  cases em
  obtain rfl : k = 1 := Host.shows_unique shows rfl
  exact ⟨run_renewed, named, bound, found (permits (.inl ⟨_, rfl⟩)) (by decide)⟩

/-- A segment was created with a mode that permits nothing. -/
def barred : List Deed × Session :=
  let c := Underway.ofOpen "a" "/s" 8 (.create { Config.standard with mode := 0 })
  after [] 0 c.act (empty.begin 0 c) 30

/-- Two threads have begun to create segments under one name before there was a handle of it, and
both have come back. -/
def raced : List Deed × Session :=
  let c := Underway.ofOpen "a" "/s" 8 (.facade (some .standard))
  let c' := Underway.ofOpen "b" "/s" 8 (.facade (some .standard))
  let begun := (empty.begin 0 c).begin 1 c'
  play (List.replicate 30 (0, none) ++ List.replicate 30 (1, none))
    [.began 1 c'.act, .began 0 c.act] begun

/-- A step in which nobody begins to create a segment under a name that a handle has. -/
def HandleModestStep (s : Session) (d : Deed) (s' : Session) : Prop :=
  s.Step d s' ∧ ∀ n, d.Creates n → ∀ h x g, ¬s.IsNamed h n x g

lemma run_raced : Run HandleModestStep .empty raced.1 raced.2 := by
  let c := Underway.ofOpen "a" "/s" 8 (.facade (some .standard))
  let c' := Underway.ofOpen "b" "/s" 8 (.facade (some .standard))
  have unnamed (n : Name) (s : Session) (none : ∀ h, s.handles h = none) (h x g) :
      ¬s.IsNamed h n x g := by
    intro named
    cases (none h).symm.trans named.handle
  have begins : empty.HandleModestStep _ (empty.begin 0 c) :=
    ⟨.openHandle ⟨rfl, rfl⟩ rfl (not_isInUse (fun _ _ => rfl) fun _ => rfl),
      fun n _ => unnamed n _ fun _ => rfl⟩
  have unused : ¬(empty.begin 0 c).IsInUse "b" := by
    rintro (⟨t, g, x, eg, -⟩ | ⟨t, u, ec, uses⟩)
    · cases eg
    · obtain ⟨-, rfl⟩ | ⟨-, ec⟩ := begin_calls_inv ec
      · exact absurd uses (by decide)
      · cases ec
  have begins' : (empty.begin 0 c).HandleModestStep _ ((empty.begin 0 c).begin 1 c') :=
    ⟨.openHandle ⟨rfl, rfl⟩ rfl unused, fun n _ => unnamed n _ fun _ => rfl⟩
  exact run_play_of (fun e => ⟨step_turn e, fun _ creates => absurd creates (turn_not_creates e)⟩)
    (.cons (.cons .nil begins) begins') _

/-- Nobody can attach to the name of a creator whose segment has a mode that permits nothing. And if
a name counts as given up as long as there is no handle of it, two threads may create segments under
it at the same time, and the handle of one of them does not own the name. -/
theorem some_creators_do_not_own_their_names :
    (Run ModestStep .empty barred.1 barred.2 ∧
      barred.2.IsNamed "a" .sample (.segment (.numbered 0)) (.numbered 0) ∧
      ∀ k size, ¬barred.2.host.IsFound .sample k size) ∧
    Run HandleModestStep .empty raced.1 raced.2 ∧
      raced.2.IsNamed "a" .sample (.facade (.ofSegment 8 .standard (.numbered 0)))
        (.numbered 0) ∧
      raced.2.host.shows 0 0 ∧ ¬raced.2.host.IsBound .sample 0 := by
  refine ⟨⟨?_, ?_, ?_⟩, ?_, ?_, rfl, ?_⟩
  · have creates : empty.ModestStep _ (empty.begin 0
        (.ofOpen "a" "/s" 8 (.create { Config.standard with mode := 0 }))) :=
      ⟨.openHandle ⟨rfl, rfl⟩ rfl (not_isInUse (fun _ _ => rfl) fun _ => rfl), fun _ _ =>
        not_isHeld (fun _ => rfl) fun _ => rfl⟩
    exact run_play_of modestStep_turn (.cons .nil creates) (List.replicate 30 (0, none))
  · refine ⟨rfl, ?_, rfl, rfl, rfl⟩
    rintro ⟨t, c, ec, -⟩
    cases t <;> cases ec
  · intro k size found
    obtain ⟨⟨g, m, h', ⟨ended, -⟩, -⟩, -⟩ := found 1 "/s" .standard rfl
    cases ended
  · exact run_raced
  · refine ⟨rfl, ?_, rfl, rfl, rfl⟩
    rintro ⟨t, c, ec, -⟩
    match t with
    | 0 | 1 | t + 2 => cases ec
  · intro bound
    cases bound

end Session
end SharedSegment
