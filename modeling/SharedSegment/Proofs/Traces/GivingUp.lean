import SharedSegment.Proofs.Calling
import SharedSegment.Proofs.Traces.Teardown

/-!
# Giving up

What opening a handle leaves when it fails, read off its trace. Where an object was made, what was
made of the segment by then is torn down like any handle, and nothing is asked for any more
(`Segment.Settles`). So it is in every way in which a handle can be opened
(`Segment.ensures_openCall_settling`).
-/

namespace SharedSegment
open Scenario Program Header

/-- The object that is made by an entry of a trace: its name, and the file that it is open as. -/
def Entry.made? : Entry → Option (Name × FileId)
  | .asked (.openNew n _) (.ok f) => some (n, f)
  | _ => none

/-- The mapping that is made by an entry of a trace. -/
def Entry.mapped? : Entry → Option MappingId
  | .asked (.map ..) (.ok m) => some m
  | _ => none

/-- What is found in no request is found nowhere in a trace. -/
lemma Entry.filterMap_eq_nil {β : Type} {f : Entry → Option β} {es : List Entry}
    (told : ∀ o, f (.told o) = none) (asked : ∀ r ∈ Entry.requests es, ∀ a, f (.asked r a) = none) :
    es.filterMap f = [] := by
  refine List.filterMap_eq_nil_iff.2 ?_
  rintro (o | ⟨r, a⟩) mem
  · exact told o
  · exact asked r (Entry.mem_requests.2 ⟨a, mem⟩) a

namespace Segment

/-- A creator has got as far as a trace: what it holds is what was made, and no more. -/
structure IsHalfMade (g : Segment) (es : List Entry) : Prop where
  role : g.role = .creator
  bare : g.ownsSync = false
  holds : g.file.isSome
  file : es.filterMap Entry.made? = g.file.toList.map (g.name, ·)
  mapping : es.filterMap Entry.mapped? = g.mapping.toList

/-- Opening a handle comes to a segment or makes none, or gives up what it has made. -/
inductive Settles : Option Segment → List Entry → Prop where
  | opened {g es} :
    Settles (some g) es
  | nothing {og es} :
    es.filterMap Entry.made? = [] →
    Settles og es
  | gaveUp {og es₁ es₂ es₃} {g g' : Segment} :
    g.IsHalfMade es₁ →
    g.destroy.GoesThrough es₂ g' →
    Entry.requests es₃ = [] →
    Settles og (es₁ ++ es₂ ++ es₃)

lemma IsHalfMade.requires {g : Segment} {es : List Entry} (half : g.IsHalfMade es) :
    ∃ calls, g.Requires calls := by
  obtain ⟨n, fl, role, size, file, mapping, owns⟩ := g
  obtain ⟨rfl, rfl, holds, -, -⟩ := half
  obtain ⟨f, rfl⟩ := Option.isSome_iff_exists.1 holds
  exact ⟨_, .halfMade⟩

section
variable {es : List Entry} {n : Name} {c : Config} {size : UInt32}

lemma made_eq_nil (none : ∀ r ∈ Entry.requests es, ∀ n mode, r ≠ .openNew n mode) :
    es.filterMap Entry.made? = [] := by
  refine Entry.filterMap_eq_nil (fun _ => rfl) ?_
  intro r mem a
  cases r with
  | openNew n mode => exact absurd rfl (none _ mem n mode)
  | _ => rfl

lemma mapped_eq_nil (none : ∀ r ∈ Entry.requests es, ∀ f len, r ≠ .map f len) :
    es.filterMap Entry.mapped? = [] := by
  refine Entry.filterMap_eq_nil (fun _ => rfl) ?_
  intro r mem a
  cases r with
  | map f len => exact absurd rfl (none _ mem f len)
  | _ => rfl

lemma ensures_openExclusive_tracing :
    (openExclusive n c).Ensures .tracing (fun r es =>
      (∃ e, r = .error e) ∧ es.filterMap Entry.made? = [] ∨
        ∃ f, r = .ok f ∧ es.filterMap Entry.made? = [(n, f)] ∧
          es.filterMap Entry.mapped? = []) [] := by
  refine ⟨trivial, ?_⟩
  rintro a _ rfl
  cases a with
  | ok f => exact .inr ⟨f, rfl, rfl, rfl⟩
  | error first =>
    refine ⟨trivial, ?_⟩
    rintro a _ rfl
    cases a with
    | error e => exact .inl ⟨⟨_, rfl⟩, rfl⟩
    | ok =>
      refine ⟨trivial, ?_⟩
      rintro a _ rfl
      cases a with
      | error e => exact .inl ⟨⟨_, rfl⟩, rfl⟩
      | ok f => exact .inr ⟨f, rfl, rfl, rfl⟩

/-- Who makes and maps nothing leaves it at what was made and mapped before. -/
lemma ensures_sparing_tracing {α : Type} {p : Program α} {ok : Request → Prop} (asks : p.Asks ok)
    (spared : ∀ r, ok r → (∀ n mode, r ≠ .openNew n mode) ∧ ∀ f len, r ≠ .map f len) :
    p.Ensures .tracing (fun _ es' => es'.filterMap Entry.made? = es.filterMap Entry.made? ∧
      es'.filterMap Entry.mapped? = es.filterMap Entry.mapped?) es := by
  refine ensures_tracing_iff.2 ?_
  intro es' a goes
  have kept := goes.asks asks
  rw [List.filterMap_append, List.filterMap_append,
    made_eq_nil fun r mem => (spared r (kept r mem)).1,
    mapped_eq_nil fun r mem => (spared r (kept r mem)).2, List.append_nil, List.append_nil]
  exact ⟨rfl, rfl⟩

lemma ensures_giveUp_tracing {g : Segment} (half : g.IsHalfMade es) (e : SegmentError) :
    (g.giveUp e).Ensures .tracing (fun r es => Settles r.toOption es) es := by
  have torn : g.destroy.Ensures .tracing
      (fun g' es' => ∃ es₂, es' = es ++ es₂ ∧ g.destroy.GoesThrough es₂ g') es :=
    ensures_tracing_iff.2 fun es₂ g' goes => ⟨es₂, rfl, goes⟩
  refine torn.bind ?_
  rintro g' _ ⟨es₂, rfl, goes⟩
  have settles : Settles none (es ++ es₂ ++ []) := .gaveUp half goes rfl
  rwa [List.append_nil] at settles

/-- What making a segment comes to. -/
theorem ensures_create_settling (n : Name) (size : UInt32) (c : Config) :
    (create n size c).Ensures .tracing (fun r es => Settles r.toOption es) [] := by
  refine ensures_openExclusive_tracing.bind ?_
  rintro r es (⟨⟨e, rfl⟩, none⟩ | ⟨f, rfl, made, unmapped⟩)
  · exact .nothing none
  refine ⟨trivial, ?_⟩
  rintro a _ rfl
  cases a with
  | error e =>
    refine ensures_giveUp_tracing ⟨rfl, rfl, rfl, ?_, ?_⟩ _
    · rw [List.filterMap_append, made]
      rfl
    · rw [List.filterMap_append, unmapped]
      rfl
  | ok =>
    refine ⟨trivial, ?_⟩
    rintro a _ rfl
    cases a with
    | error e =>
      refine ensures_giveUp_tracing ⟨rfl, rfl, rfl, ?_, ?_⟩ _
      · rw [List.filterMap_append, List.filterMap_append, made]
        rfl
      · rw [List.filterMap_append, List.filterMap_append, unmapped]
        rfl
    | ok m =>
      refine (ensures_sparing_tracing (asks_prepare m size) ?_).bind ?_
      · intro r preparing
        cases r with
        | openNew | map => cases preparing
        | _ => exact ⟨fun _ _ => nofun, fun _ _ => nofun⟩
      rintro r es' ⟨made', mapped⟩
      cases r with
      | error e =>
        refine ensures_giveUp_tracing ⟨rfl, rfl, rfl, ?_, ?_⟩ _
        · rw [made', List.filterMap_append, List.filterMap_append, made]
          rfl
        · rw [mapped, List.filterMap_append, List.filterMap_append, unmapped]
          rfl
      | ok =>
        have pinned : (pin n c m size).Ensures .tracing (fun _ _ => True) es' :=
          ensures_tracing_iff.2 fun _ _ _ => trivial
        exact pinned.bind fun _ _ _ => .opened

/-- Looking for a segment makes nothing. -/
lemma ensures_attach_settling (n : Name) (c : Config) :
    (attach n c).Ensures .tracing (fun r es => Settles r.toOption es) [] := by
  refine ensures_tracing_iff.2 ?_
  intro es r goes
  refine .nothing (made_eq_nil ?_)
  rintro _ mem n' mode rfl
  cases goes.asks (asks_attach n c) _ mem

/-- Opening a handle comes to a segment or makes none, or gives up what it has made. -/
theorem ensures_openCall_settling (toggle : Option String) (h raw : String) (via : Via) :
    (openCall toggle h raw size via).Ensures .tracing
      (fun o es => Settles o.effect.segment? es) [] := by
  refine (Ensures.openCall Settles toggle ?_ (fun _ n c _ _ => ensures_create_settling n size c)
    (fun _ n c _ => ensures_attach_settling n c) (.nothing rfl)).mono fun _ _ ends => ends.2
  intro es o settles
  cases settles with
  | nothing none =>
    refine .nothing ?_
    change (es ++ [_]).filterMap Entry.made? = []
    rw [List.filterMap_append, none]
    rfl
  | @gaveUp _ es₁ es₂ es₃ _ _ half torn silent =>
    change Settles none (es₁ ++ es₂ ++ es₃ ++ [.told o])
    rw [List.append_assoc _ es₃]
    refine .gaveUp half torn ?_
    rw [Entry.requests_append, silent]
    rfl

end
end Segment
end SharedSegment
