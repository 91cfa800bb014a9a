import SharedSegment.Proofs.Calling

/-!
# Titles

Whoever makes an object under a name has a title to the name, until it takes the name away. The
title says what its creator holds of the object. It passes from the call that makes a segment to the
handle that the call opens, and from there to the call that tears the handle down.

By the protocol of titles (`Protocol.naming`), a party takes a name away only if it lays claim to
it, and makes a name only if it has no title yet. Whatever the answers are, a call that makes a
segment ends with the title of the segment (`ensures_create_naming`), and tearing a segment down
gives its title up (`ensures_destroy_naming`).
-/

namespace SharedSegment
open Header Program

/-- A title to a name: the mode that the object was made with, and what the creator holds of it. -/
structure Title where
  name : Name
  mode : UInt32
  file : FileId
  mapping : Option MappingId

/-- Whether a segment is one of a creator that has not torn it down. -/
def Segment.isEntitled (g : Segment) : Bool :=
  g.role = .creator && g.file.isSome

lemma Segment.empty_isEntitled (g : Segment) :
    ∀ g', some g.empty = some g' → g'.isEntitled = false := by
  rintro _ ⟨⟩
  simp [isEntitled, Segment.empty]

/-- A title is the one of a segment. -/
structure Title.IsOf (x : Title) (g : Segment) : Prop where
  role : g.role = .creator
  name : g.name = x.name
  file : g.file = some x.file
  mapping : g.mapping = x.mapping

/-- A party has the title of a segment, if the segment has one. -/
inductive Entitles : Option Title → Option Segment → Prop where
  | nothing {og} :
    (∀ g, og = some g → g.isEntitled = false) →
    Entitles none og
  | title {x g} :
    x.IsOf g →
    Entitles (some x) (some g)

/-- The title that a party has after an answer. -/
def Request.entitle : (r : Request) → r.Answer → Option Title → Option Title
  | .openNew n mode, .ok f, _ => some ⟨n, mode, f, none⟩
  | .unlink _, _, _ => none
  | .map f _, .ok m, x => x.map fun x => if x.file = f then { x with mapping := some m } else x
  | _, _, x => x

/-- How a title comes about by an answer: by making an object, by mapping it, or it was there. -/
inductive Title.Arises : (r : Request) → r.Answer → Option Title → Title → Prop where
  | made {n mode f x} :
    Arises (.openNew n mode) (.ok f) x ⟨n, mode, f, none⟩
  | mapped {y len m} :
    Arises (.map y.file len) (.ok m) (some y) { y with mapping := some m }
  | kept {r a y} :
    (∀ n, r ≠ .unlink n) →
    Arises r a (some y) y

/-- Whether a request may change the title of who makes it. -/
def Request.isEntitling : Request → Bool
  | .openNew .. | .unlink .. | .map .. => true
  | _ => false

/-- How a party behaves that lays claim to some names and makes objects with some modes. -/
def Protocol.naming (claims : Name → Prop) (sets : UInt32 → Prop) : Protocol (Option Title) where
  Permits x
    | .openNew n mode => claims n ∧ sets mode ∧ x = none
    | .unlink n => claims n ∧ ∀ y, x = some y → y.name = n
    | _ => True
  Answers x r a x' := x' = r.entitle a x
  tells x _ := x

section
variable {α : Type} {claims : Name → Prop} {sets : UInt32 → Prop} {x : Option Title}
  {r : Request} {g : Segment}

lemma Request.entitle_of_not_isEntitling (other : r.isEntitling = false) (a : r.Answer) :
    r.entitle a x = x := by
  cases r with
  | openNew | unlink | map => cases other
  | _ => rfl

theorem Request.arises {a : r.Answer} {y : Title} (e : r.entitle a x = some y) :
    Title.Arises r a x y := by
  cases r with
  | openNew n mode =>
    cases a with
    | error err =>
      obtain rfl : x = some y := e
      exact .kept nofun
    | ok f =>
      cases e
      exact .made
  | unlink n => cases e
  | map f len =>
    cases a with
    | error err =>
      obtain rfl : x = some y := e
      exact .kept nofun
    | ok m =>
      obtain ⟨z, rfl, rfl⟩ := Option.map_eq_some_iff.1 e
      by_cases same : z.file = f
      · subst same
        rw [if_pos rfl]
        exact .mapped
      · rw [if_neg same]
        exact .kept nofun
  | _ =>
    obtain rfl : x = some y := e
    exact .kept nofun

/-- A request that changes no title is permitted and leaves the title as it is. -/
lemma spares_naming (other : r.isEntitling = false) :
    (Protocol.naming claims sets).Permits x r ∧
      ∀ a x', (Protocol.naming claims sets).Answers x r a x' → x' = x := by
  refine ⟨?_, ?_⟩
  · cases r with
    | openNew | unlink => cases other
    | _ => trivial
  · rintro a x' rfl
    exact r.entitle_of_not_isEntitling other a

/-- A program that asks for nothing that changes titles leaves the title of its party as it is. -/
lemma Program.Asks.keeps_naming {p : Program α} (asks : p.Asks fun r => r.isEntitling = false) :
    p.Keeps (.naming claims sets) x :=
  asks.keeps (fun _ => rfl) fun _ => spares_naming

lemma Entitles.none_of_file (entitles : Entitles x (some g)) (holds : g.file = none) :
    x = none := by
  cases entitles with
  | nothing => rfl
  | title isOf => cases isOf.file.symm.trans holds

lemma Entitles.none_of_role (entitles : Entitles x (some g)) (other : g.role ≠ .creator) :
    x = none := by
  cases entitles with
  | nothing => rfl
  | title isOf => exact absurd isOf.role other

/-- A creator that has not torn its segment down has a title. -/
lemma Entitles.of_isEntitled {og : Option Segment} (entitles : Entitles x og) (eg : og = some g)
    (entitled : g.isEntitled) : ∃ y, x = some y ∧ y.IsOf g := by
  subst eg
  cases entitles with
  | nothing plain => cases entitled.symm.trans (plain g rfl)
  | title isOf => exact ⟨_, rfl, isOf⟩

lemma Entitles.inv {og : Option Segment} {y : Title} (entitles : Entitles (some y) og) :
    ∃ g, og = some g ∧ y.IsOf g := by
  cases entitles with
  | title isOf => exact ⟨_, rfl, isOf⟩

end

namespace Segment

variable {claims : Name → Prop} {sets : UInt32 → Prop} {x : Option Title} {g : Segment}

/-- Tearing a segment down gives its title up. -/
theorem ensures_destroy_naming (entitles : Entitles x (some g))
    (claimed : ∀ y, x = some y → claims y.name) :
    g.destroy.Ensures (.naming claims sets)
      (fun g' x' => x' = none ∧ Entitles x' (some g')) x := by
  have syncs : g.destroySync.Keeps (.naming claims sets) x :=
    (g.asks_destroySync fun _ _ _ _ => ⟨rfl, rfl, rfl⟩).keeps_naming
  have unmaps : g.unmap.Keeps (.naming claims sets) x :=
    (g.asks_unmap fun _ _ => rfl).keeps_naming
  have releases : g.release.Ensures (.naming claims sets) (fun _ x' => x' = none) x := by
    unfold release
    cases ef : g.file with
    | none => exact entitles.none_of_file ef
    | some f =>
      refine ⟨trivial, ?_⟩
      rintro _ _ rfl
      by_cases creator : g.role = .creator
      · simp only [if_pos creator]
        have entitled : g.isEntitled := by simp [Segment.isEntitled, creator, ef]
        obtain ⟨y, rfl, isOf⟩ := entitles.of_isEntitled rfl entitled
        refine ⟨⟨isOf.name ▸ claimed y rfl, ?_⟩, ?_⟩
        · rintro _ ⟨⟩
          exact isOf.name.symm
        · rintro a _ rfl
          have told : (Program.log (.released g.name g.flavor g.role)).Keeps
              (.naming claims sets) none := rfl
          cases a with
          | ok => exact told
          | error e =>
            change ((if e = .enoent then Program.ret () else Program.log _).bind _).Ensures _ _ _
            by_cases gone : e = .enoent
            · rw [if_pos gone]
              exact told
            · rw [if_neg gone]
              exact told
      · simp only [if_neg creator]
        exact entitles.none_of_role creator
  refine syncs.bind ?_
  rintro _ _ rfl
  refine unmaps.bind ?_
  rintro _ _ rfl
  refine releases.bind ?_
  rintro _ _ rfl
  exact ⟨rfl, .nothing g.empty_isEntitled⟩

lemma ensures_giveUp_naming (entitles : Entitles x (some g))
    (claimed : ∀ y, x = some y → claims y.name) (e : SegmentError) :
    (g.giveUp e).Ensures (.naming claims sets) (fun r x' => r = .error e ∧ x' = none) x := by
  refine (ensures_destroy_naming entitles claimed).bind ?_
  rintro g' _ ⟨rfl, -⟩
  exact ⟨rfl, rfl⟩

variable {n : Name} {c : Config}

/-- Who makes an object under a name has a title to the name. -/
lemma ensures_openExclusive_naming (claimed : claims n) (set : sets c.mode) :
    (openExclusive n c).Ensures (.naming claims sets)
      (fun r x => (∃ e, r = .error e ∧ x = none) ∨
        ∃ f, r = .ok f ∧ x = some ⟨n, c.mode, f, none⟩) none := by
  refine ⟨⟨claimed, set, rfl⟩, ?_⟩
  rintro (e | f) _ rfl
  · refine ⟨⟨claimed, nofun⟩, ?_⟩
    rintro (e' | _) _ rfl
    · exact .inl ⟨_, rfl, rfl⟩
    · refine ⟨⟨claimed, set, rfl⟩, ?_⟩
      rintro (e'' | f) _ rfl
      · exact .inl ⟨_, rfl, rfl⟩
      · exact .inr ⟨f, rfl, rfl⟩
  · exact .inr ⟨f, rfl, rfl⟩

/-- A creation ends with the title of the segment, or with none if it fails. -/
theorem ensures_create_naming {size : UInt32} (claimed : claims n) (set : sets c.mode) :
    (create n size c).Ensures (.naming claims sets)
      (fun r x => Entitles x r.toOption ∧ ∀ y, x = some y → y.mapping.isSome ∧ sets y.mode)
      none := by
  have given {g : Segment} {y : Title} (isOf : y.IsOf g) (named : y.name = n) (e : SegmentError) :
      (g.giveUp e).Ensures (.naming claims sets)
        (fun r x => Entitles x r.toOption ∧ ∀ y, x = some y → y.mapping.isSome ∧ sets y.mode)
        (some y) := by
    have own : ∀ z, some y = some z → claims z.name := by
      rintro _ ⟨⟩
      exact named ▸ claimed
    refine (ensures_giveUp_naming (.title isOf) own e).mono ?_
    rintro _ _ ⟨rfl, rfl⟩
    exact ⟨.nothing nofun, nofun⟩
  refine (ensures_openExclusive_naming claimed set).bind ?_
  rintro r x (⟨e, rfl, rfl⟩ | ⟨f, rfl, rfl⟩)
  · exact ⟨.nothing nofun, nofun⟩
  refine ⟨trivial, ?_⟩
  rintro (e | _) _ rfl
  · exact given ⟨rfl, rfl, rfl, rfl⟩ rfl _
  refine ⟨trivial, ?_⟩
  rintro (e | m) x ans
  · obtain rfl : x = some ⟨n, c.mode, f, none⟩ := ans
    exact given ⟨rfl, rfl, rfl, rfl⟩ rfl _
  have mapped : (Request.map f (total size)).entitle (.ok m) (some ⟨n, c.mode, f, none⟩) =
      some ⟨n, c.mode, f, some m⟩ := congrArg some (if_pos rfl)
  obtain rfl : x = some ⟨n, c.mode, f, some m⟩ := ans.trans mapped
  have preparing {r : Request} (preparing : r.isPreparing) : r.isEntitling = false := by
    cases r with
    | openNew | unlink | map => cases preparing
    | _ => rfl
  refine ((asks_prepare m size).mono fun _ => preparing).keeps_naming.bind ?_
  rintro (e | _) _ rfl
  · exact given ⟨rfl, rfl, rfl, rfl⟩ rfl _
  have pins : (pin n c m size).Keeps (.naming claims sets) (some ⟨n, c.mode, f, some m⟩) :=
    (asks_pin n c (fun _ => rfl) m size).keeps_naming
  refine pins.bind ?_
  rintro _ _ rfl
  refine ⟨.title ⟨rfl, rfl, rfl, rfl⟩, ?_⟩
  rintro _ ⟨⟩
  exact ⟨rfl, set⟩

/-- Attaching gives no title. -/
lemma ensures_attach_naming :
    (attach n c).Ensures (.naming claims sets) (fun r x => x = none ∧ Entitles x r.toOption)
      none := by
  have finding (r : Request) (finding : r.isFinding) :
      (Protocol.naming claims sets).Permits none r ∧
        ∀ a x', (Protocol.naming claims sets).Answers none r a x' → x' = none := by
    cases r with
    | openNew | unlink => cases finding
    | map f len =>
      refine ⟨trivial, ?_⟩
      rintro (e | m) _ rfl
      · rfl
      · rfl
    | _ => exact spares_naming rfl
  refine (((ensures_attach_asking n c).asking_mono fun _ => isFinding_of_finds n).of_asking
    (fun _ => rfl) finding).mono ?_
  rintro r _ ⟨attacher, rfl⟩
  refine ⟨rfl, .nothing ?_⟩
  intro g eg
  simp [isEntitled, attacher g eg]

end Segment
end SharedSegment
