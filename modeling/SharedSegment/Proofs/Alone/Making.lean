import SharedSegment.Proofs.Alone
import SharedSegment.Proofs.Alone.Growth
import SharedSegment.Proofs.Preparing
import SharedSegment.Segment.Open

/-!
# Making a segment alone

What creating a segment leaves of the host when nobody comes between. Creation goes on once it has
made an object under the name (`Segment.furnish`): it either finishes the object, or gives up what
it has made. What is left of that depends on which of the calls that take things away again may fail
themselves, and if none of them may (`Host.Tidies`), nothing is.
-/

namespace SharedSegment
open Header

/-- No call is let fail that takes away what was made on a host since. -/
structure Host.Tidies (h : Host) (may : Host → Request → Prop) : Prop where
  unmap : ∀ h' m, ¬may h' (.unmap m)
  mutexDestroy : ∀ h' m, ¬may h' (.mutexDestroy m)
  unlink : ∀ h' n, h.objects.length < h'.objects.length → ¬may h' (.unlink n)

/-- A finished object that was made with some mode. -/
def Object.finished (mode : UInt32) (size : UInt32) : Object :=
  ((((Object.fresh mode).resize (total size)).withMutex .fresh).withCondition .fresh).setSizeField
    size

section
variable {t : ThreadId} {may : Host → Request → Prop} {h : Host} {m : MappingId} {k : ObjectId}
  {o : Object} {f : FileId}

lemma alone_spares {r : Request} {a : r.Answer} (e : ∀ h : Host, h.step t r = .done a h) :
    (Protocol.alone t may).Spares r :=
  fun h => .asks (e h) rfl fun _ _ _ _ _ => rfl

lemma alone_spares_attributes : ∀ r ∈ attributeRequests, (Protocol.alone t may).Spares r := by
  intro r mem
  simp only [attributeRequests, List.mem_cons, List.not_mem_nil, or_false] at mem
  obtain rfl | rfl | rfl | rfl | rfl | rfl | rfl | rfl | rfl := mem
  all_goals exact alone_spares fun _ => rfl

lemma alone_mutexInit (sees : h.under? m = some (k, o)) :
    (Program.request (.mutexInit m)).Ensures (.alone t may)
      (SetsUp h (h.setObject k (o.withMutex .fresh))) h := by
  refine .asks (Host.step_mutexInit sees) (.inr ⟨rfl, rfl⟩) ?_
  intro call fail e ec _
  cases ec
  exact .inl ⟨⟨e, rfl⟩, rfl⟩

lemma alone_condInit (sees : h.under? m = some (k, o)) :
    (Program.request (.condInit m)).Ensures (.alone t may)
      (SetsUp h (h.setObject k (o.withCondition .fresh))) h := by
  refine .asks (Host.step_condInit sees) (.inr ⟨rfl, rfl⟩) ?_
  intro call fail e ec _
  cases ec
  exact .inl ⟨⟨e, rfl⟩, rfl⟩

/-- The header is prepared, or the mutex is what it was, or it was taken down again. -/
lemma alone_prepare (sees : h.under? m = some (k, o)) (size : UInt32) :
    (prepare m size).Ensures (.alone t may)
      (fun r h' =>
        r = .ok () ∧
          h' = h.setObject k (((o.withMutex .fresh).withCondition .fresh).setSizeField size) ∨
        (∃ e, r = .error e) ∧ ∃ x, h' = h.setObject k (o.withMutex x) ∧
          (x = o.mutex ∨ x.life = .destroyed ∨ ∃ h', may h' (.mutexDestroy m))) h := by
  have sees₁ : (h.setObject k (o.withMutex .fresh)).under? m = some (k, o.withMutex .fresh) :=
    Host.under?_setObject sees
  have sees₂ : (h.setObject k ((o.withMutex .fresh).withCondition .fresh)).under? m =
      some (k, (o.withMutex .fresh).withCondition .fresh) := Host.under?_setObject sees
  have condition : (Program.request (.condInit m)).Ensures (.alone t may) _ _ :=
    alone_condInit sees₁
  rw [Host.setObject_setObject] at condition
  refine ensures_prepare_of_parts alone_spares_attributes (alone_mutexInit sees) condition ?_ ?_ ?_
  · refine .asks_safely rfl (Host.step_storeSize sees₂ size) ?_
    exact .inl ⟨rfl, Host.setObject_setObject ..⟩
  · refine .asks (Host.step_mutexDestroy sees₁) ?_ ?_
    · intro e
      refine .inr ⟨⟨e, rfl⟩, (Mutex.fresh.destroy).2, ?_, .inr (.inl rfl)⟩
      rw [Host.setObject_setObject]
      rfl
    · intro call fail e ec spared e'
      exact .inr ⟨⟨e', rfl⟩, .fresh, rfl, .inr (.inr ⟨_, spared⟩)⟩
  · intro e
    refine .inr ⟨⟨e, rfl⟩, o.mutex, ?_, .inl rfl⟩
    rw [Object.withMutex_self, Host.setObject_self (Host.under?_eq_some_iff.1 sees).2]

lemma alone_pin (n : Name) (c : Config) (size : UInt32) :
    (Segment.pin n c m size).Ensures (.alone t may) (fun _ h' => h' = h) h := by
  have told (a : Except Errno Unit) (e : Errno → Event) :
      (Program.logFailure a e).Ensures (.alone t may) (fun _ h' => h' = h) h := by
    cases a with
    | ok => exact rfl
    | error => exact rfl
  unfold Segment.pin
  split
  case isTrue =>
    refine .asks (a := .ok ()) rfl (told (.ok ()) (.pinFailed n c.flavor (total size))) ?_
    intro call fail e ec _
    cases ec
    exact told (.error e) (.pinFailed n c.flavor (total size))
  case isFalse => exact rfl

end

/-- What giving a half-made segment up leaves of a host on which its object was bound. -/
def Host.GivesUp (h : Host) (may : Host → Request → Prop) (n : Name) (st : Store) (h' : Host) :
    Prop :=
  ∃ st' o ms, h' = h.grown st' [o] [none] ms ∧ (st' = st ∨ st' = st.erase n.file) ∧
    (h.Tidies may → st' = st.erase n.file ∧ (∀ x ∈ ms, x = none) ∧ o.mutex.life ≠ .live ∧
      o.condition.life ≠ .live)

namespace Segment

/-- Finishes the object in a file that was just made, or gives it up. -/
def furnish (n : Name) (f : FileId) (size : UInt32) (c : Config) :
    Program (Except SegmentError Segment) := do
  let s : Segment :=
    { name := n, flavor := c.flavor, role := .creator, size
      file := some f, mapping := none, ownsSync := false }
  match ← Program.request (.resize f (total size)) with
  | .error e => s.giveUp (acquireError n "resize" e.hostText)
  | .ok () =>
    match ← Program.request (.map f (total size)) with
    | .error e => s.giveUp (acquireError n "map" e.text)
    | .ok m =>
      let s := { s with mapping := some m }
      match ← prepare m size with
      | .error e => s.giveUp (.syncInit n.text e.call.name e.errno.text)
      | .ok () =>
        pin n c m size
        Program.log (.created n c.flavor size)
        return .ok { s with ownsSync := true }

lemma create_eq (n : Name) (size : UInt32) (c : Config) :
    create n size c = (openExclusive n c).bind fun
      | .error e => .ret (.error e)
      | .ok f => furnish n f size c := by
  refine congrArg ((openExclusive n c).bind) (funext fun r => ?_)
  cases r with
  | error => rfl
  | ok f =>
    refine congrArg (Program.bind _) (funext fun r => ?_)
    cases r with
    | error => rfl
    | ok =>
      refine congrArg (Program.bind _) (funext fun r => ?_)
      cases r with
      | error => rfl
      | ok => rfl

variable {t : ThreadId} {may : Host → Request → Prop} {h : Host} {st : Store} {o : Object}
  {s : Segment} {ms : List (Option Mapping)} {n : Name}

/-- The name of a segment that is given up is taken away, unless that is let fail. -/
lemma alone_unlink {b : Binding} (bound : st.place s.name = .file (some b)) :
    s.unlink.Ensures (.alone t may)
      (fun _ h' => ∃ st', h' = h.grown st' [o] [none] ms ∧
        (st' = st ∨ st' = st.erase s.name.file) ∧ (h.Tidies may → st' = st.erase s.name.file))
      (h.grown st [o] [none] ms) := by
  have gone := Host.step_unlink (t := t) (h := h.grown st [o] [none] ms) bound
  refine .asks gone ⟨_, rfl, .inr rfl, fun _ => rfl⟩ ?_
  intro call fail e ec spared
  cases ec
  have more : h.objects.length < (h.grown st [o] [none] ms).objects.length := by simp [Host.grown]
  have kept : ∃ st', h.grown st [o] [none] ms = h.grown st' [o] [none] ms ∧
      (st' = st ∨ st' = st.erase s.name.file) ∧ (h.Tidies may → st' = st.erase s.name.file) :=
    ⟨st, rfl, .inl rfl, fun tidies => absurd spared (tidies.unlink _ _ more)⟩
  change (if e = .enoent then Program.ret () else _).Ensures _ _ _
  split
  · exact kept
  · exact kept

lemma alone_giveUp (ours : s.ownsSync = false) (role : s.role = .creator)
    (file : s.file = some h.files.length) {b : Binding}
    (bound : st.place s.name = .file (some b))
    (mapped : s.mapping = none ∧ ms = [] ∨ s.mapping = some h.mappings.length ∧ ∃ x, ms = [x])
    (down : h.Tidies may → o.mutex.life ≠ .live ∧ o.condition.life ≠ .live) (e : SegmentError) :
    (s.giveUp e).Ensures (.alone t may)
      (fun r h' => r = .error e ∧ h.GivesUp may s.name st h')
      (h.grown st [o] [some h.objects.length] ms) := by
  have nothing : s.destroySync = .ret () := by
    unfold destroySync
    cases s.mapping with
    | none => rfl
    | some m => simp [ours]
  have unmapped : s.unmap.Ensures (.alone t may)
      (fun _ h' => ∃ ms, h' = h.grown st [o] [some h.objects.length] ms ∧
        (h.Tidies may → ∀ x ∈ ms, x = none)) (h.grown st [o] [some h.objects.length] ms) := by
    unfold unmap
    obtain ⟨em, rfl⟩ | ⟨em, x, rfl⟩ := mapped
    · rw [em]
      exact ⟨[], rfl, nofun⟩
    · rw [em]
      refine .asks (a := .ok ()) rfl ⟨[none], by simp [Host.grown], by simp⟩ ?_
      intro call fail e ec spared
      cases ec
      exact ⟨[x], rfl, fun tidies => absurd spared (tidies.unmap _ _)⟩
  have closed (ms : List (Option Mapping)) : s.release.Ensures (.alone t may)
      (fun _ h' => ∃ st', h' = h.grown st' [o] [none] ms ∧
        (st' = st ∨ st' = st.erase s.name.file) ∧ (h.Tidies may → st' = st.erase s.name.file))
      (h.grown st [o] [some h.objects.length] ms) := by
    unfold release
    rw [file]
    refine .asks_safely (a := ()) rfl rfl ?_
    rw [Host.close_grown, role]
    refine (alone_unlink bound).bind ?_
    intro _ h' here
    exact here
  have parts : s.giveUp e =
      s.unmap.bind fun _ => s.release.bind fun _ => .ret (.error e) := by
    simp only [giveUp, destroy, nothing, Program.bind_eq, Program.pure_eq_ret, Program.ret_bind,
      Program.bind_assoc]
  rw [parts]
  refine unmapped.bind ?_
  rintro _ _ ⟨ms, rfl, unmapped⟩
  refine (closed ms).bind ?_
  rintro _ _ ⟨st', rfl, names, erased⟩
  refine ⟨rfl, st', o, ms, rfl, names, ?_⟩
  intro tidies
  exact ⟨erased tidies, unmapped tidies, down tidies⟩

/-- What creating comes to once an object was made under the name: the object is finished, or it is
given up. -/
def Furnishes (h : Host) (may : Host → Request → Prop) (n : Name) (st : Store) (size : UInt32)
    (c : Config) (r : Except SegmentError Segment) (h' : Host) : Prop :=
  r = .ok ⟨n, c.flavor, .creator, size, some h.files.length, some h.mappings.length, true⟩ ∧
      h' = h.grown st [.finished c.mode size] [some h.objects.length]
        [some ⟨h.objects.length, total size⟩] ∨
    (∃ e, r = .error e) ∧ h.GivesUp may n st h'

theorem alone_furnish {b : Binding} (bound : st.place n = .file (some b)) (size : UInt32)
    (c : Config) :
    (furnish n h.files.length size c).Ensures (.alone t may) (Furnishes h may n st size c)
      (h.grown st [.fresh c.mode] [some h.objects.length] []) := by
  have failed {s : Segment} {o : Object} {ms : List (Option Mapping)} (named : s.name = n)
      (ours : s.ownsSync = false) (role : s.role = .creator) (file : s.file = some h.files.length)
      (mapped : s.mapping = none ∧ ms = [] ∨ s.mapping = some h.mappings.length ∧ ∃ x, ms = [x])
      (down : h.Tidies may → o.mutex.life ≠ .live ∧ o.condition.life ≠ .live) (e : SegmentError) :
      (s.giveUp e).Ensures (.alone t may) (Furnishes h may n st size c)
        (h.grown st [o] [some h.objects.length] ms) := by
    subst named
    refine (alone_giveUp ours role file bound mapped down e).mono ?_
    rintro r h' ⟨rfl, gone⟩
    exact .inr ⟨⟨e, rfl⟩, gone⟩
  have untouched : Mutex.blank.life ≠ .live ∧ Condition.blank.life ≠ .live := ⟨nofun, nofun⟩
  have blank (len : Nat) : ((Object.fresh c.mode).resize len).mutex = .blank ∧
      ((Object.fresh c.mode).resize len).condition = .blank := by
    simp [Object.resize, Object.fresh]
  refine .asks (Host.step_resize Host.file?_grown Host.object?_grown (total size)) ?_ ?_
  case refine_2 =>
    intro call fail e ec _
    cases ec
    exact failed rfl rfl rfl rfl (.inl ⟨rfl, rfl⟩) (fun _ => untouched) _
  rw [Host.setObject_grown]
  refine .asks (Host.step_map Host.file?_grown Host.object?_grown (total size)) ?_ ?_
  case refine_2 =>
    intro call fail e ec _
    cases ec
    refine failed rfl rfl rfl rfl (.inl ⟨rfl, rfl⟩) (fun _ => ?_) _
    rw [(blank _).1, (blank _).2]
    exact untouched
  have sees : (h.grown st [(Object.fresh c.mode).resize (total size)] [some h.objects.length]
      [some ⟨h.objects.length, total size⟩]).under? h.mappings.length =
        some (h.objects.length, (Object.fresh c.mode).resize (total size)) := by
    simp [Host.under?, Host.mapping?, Host.object?, Host.grown]
  have mapped : { h.grown st [(Object.fresh c.mode).resize (total size)] [some h.objects.length] []
      with mappings := (h.grown st [(Object.fresh c.mode).resize (total size)]
        [some h.objects.length] []).mappings ++ [some ⟨h.objects.length, total size⟩] } =
      h.grown st [(Object.fresh c.mode).resize (total size)] [some h.objects.length]
        [some ⟨h.objects.length, total size⟩] := by
    simp [Host.grown]
  rw [mapped, Host.grown_mappings_length]
  refine (alone_prepare sees size).bind ?_
  rintro r _ (⟨rfl, rfl⟩ | ⟨⟨e, rfl⟩, x, rfl, down⟩)
  · rw [Host.setObject_grown]
    refine (alone_pin n c size).bind ?_
    rintro _ _ rfl
    exact .inl ⟨rfl, rfl⟩
  · rw [Host.setObject_grown]
    refine failed rfl rfl rfl rfl (.inr ⟨rfl, _, rfl⟩) (fun tidies => ⟨?_, ?_⟩) _
    · rw [Object.withMutex_mutex]
      obtain rfl | destroyed | ⟨h', spared⟩ := down
      · rw [(blank _).1]
        exact untouched.1
      · simp [destroyed]
      · exact absurd spared (tidies.mutexDestroy _ _)
    · rw [Object.withMutex_condition, (blank _).2]
      exact untouched.2

lemma alone_openNew (h : Host) (n : Name) (mode : UInt32) :
    (Program.request (.openNew n mode)).Ensures (.alone t may)
      (fun r h' => (∃ e, r = .error e) ∧ h' = h ∨
        h.store.place n = .file none ∧ r = .ok h.files.length ∧
          h' = h.grown (h.store.insert n.file (.object h.objects.length)) [.fresh mode]
            [some h.objects.length] []) h := by
  have struck : ∀ call fail e, (Request.openNew n mode).call? = some (call, fail) →
      ∃ e', fail e = .error e' := by
    intro call fail e ec
    cases ec
    exact ⟨e, rfl⟩
  obtain ⟨e, refused⟩ | free := Host.step_openNew_cases h t n mode
  · exact .asks refused (.inl ⟨⟨e, rfl⟩, rfl⟩) fun call fail e ec _ =>
      .inl ⟨struck call fail e ec, rfl⟩
  · exact .asks (Host.step_openNew free) (.inr ⟨free, rfl, rfl⟩) fun call fail e ec _ =>
      .inl ⟨struck call fail e ec, rfl⟩

lemma alone_remove (h : Host) (n : Name) :
    (Program.request (.unlink n)).Ensures (.alone t may)
      (fun r h' => (∃ e, r = .error e) ∧ h' = h ∨
        r = .ok () ∧ h' = { h with store := h.store.erase n.file }) h := by
  have struck : ∀ call fail e, (Request.unlink n).call? = some (call, fail) →
      ∃ e', fail e = .error e' := by
    intro call fail e ec
    cases ec
    exact ⟨e, rfl⟩
  obtain ⟨e, refused⟩ | ⟨b, bound⟩ := Host.step_unlink_cases h t n
  · exact .asks refused (.inl ⟨⟨e, rfl⟩, rfl⟩) fun call fail e ec _ =>
      .inl ⟨struck call fail e ec, rfl⟩
  · exact .asks (Host.step_unlink bound) (.inr ⟨rfl, rfl⟩) fun call fail e ec _ =>
      .inl ⟨struck call fail e ec, rfl⟩

/-- What making an object under a name comes to, where the name may have been freed before. -/
def OpensOwn (h : Host) (n : Name) (c : Config) (r : Except SegmentError FileId) (h' : Host) :
    Prop :=
  ∃ st, (st = h.store ∨ st = h.store.erase n.file) ∧
    ((∃ e, r = .error e) ∧ h' = { h with store := st } ∨
      st.place n = .file none ∧ r = .ok h.files.length ∧
        h' = h.grown (st.insert n.file (.object h.objects.length)) [.fresh c.mode]
          [some h.objects.length] [])

theorem alone_openExclusive (n : Name) (c : Config) :
    (openExclusive n c).Ensures (.alone t may) (OpensOwn h n c) h := by
  refine (alone_openNew h n c.mode).bind ?_
  rintro r h' (⟨⟨first, rfl⟩, same⟩ | ⟨free, rfl, rfl⟩)
  case inr => exact ⟨h.store, .inl rfl, .inr ⟨free, rfl, rfl⟩⟩
  rw [same]
  refine (alone_remove h n).bind ?_
  rintro r h' (⟨⟨e, rfl⟩, same⟩ | ⟨rfl, rfl⟩)
  · rw [same]
    exact ⟨h.store, .inl rfl, .inl ⟨⟨_, rfl⟩, rfl⟩⟩
  refine (alone_openNew { h with store := h.store.erase n.file } n c.mode).bind ?_
  rintro r _ (⟨⟨e, rfl⟩, rfl⟩ | ⟨free, rfl, rfl⟩)
  · exact ⟨_, .inr rfl, .inl ⟨⟨_, rfl⟩, rfl⟩⟩
  · exact ⟨_, .inr rfl, .inr ⟨free, rfl, rfl⟩⟩

/-- What creating comes to: nothing was made, or the object that was made is finished or given
up. -/
theorem alone_create (n : Name) (size : UInt32) (c : Config) :
    (create n size c).Ensures (.alone t may)
      (fun r h' => ∃ st, (st = h.store ∨ st = h.store.erase n.file) ∧
        ((∃ e, r = .error e) ∧ h' = { h with store := st } ∨
          st.place n = .file none ∧
            Furnishes h may n (st.insert n.file (.object h.objects.length)) size c r h')) h := by
  rw [create_eq]
  refine (alone_openExclusive n c).bind ?_
  rintro r _ ⟨st, freed, ⟨⟨e, rfl⟩, rfl⟩ | ⟨free, rfl, rfl⟩⟩
  · exact ⟨st, freed, .inl ⟨⟨e, rfl⟩, rfl⟩⟩
  · refine (alone_furnish (Store.place_insert free) size c).mono ?_
    intro r h' made
    exact ⟨st, freed, .inr ⟨free, made⟩⟩

end Segment
end SharedSegment
