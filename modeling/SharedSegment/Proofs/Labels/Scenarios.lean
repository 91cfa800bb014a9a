import SharedSegment.Proofs.Labels.Worlds

/-!
# Scenarios that differ in labels

A scenario is followed act by act (`World.follow`). Two scenarios that differ in flavor and pinning,
in the toggle and in the faults of pinning are followed alike
(`World.flavor_and_pinning_are_cosmetic`).
-/

namespace SharedSegment.Scenario

/-- What a thread is told to do, and the calls that are made to fail meanwhile. -/
structure Order where
  thread : String
  faults : List Fault
  act : Act

/-- Two orders are the same, but for flavor and pinning, for the toggle, and for the faults of
pinning. -/
structure Order.Alike (o o' : Order) : Prop where
  thread : o.thread = o'.thread
  faults : Fault.AreAlike o.faults o'.faults
  act : o.act.Alike o'.act

namespace World

/-- The answers to some orders, and the world after them. -/
def follow (w : World) : List Order → List Answer × World
  | [] => ([], w)
  | o :: orders =>
    let (answer, w) := w.perform o.thread o.faults o.act
    let (answers, w) := w.follow orders
    (answer :: answers, w)

/-- Flavor and pinning are cosmetic: scenarios that differ in the flavor or the pinning of any
settings, in the toggle, or in what comes of pinning pages, have the same answers and leave the same
host. They differ in the labels of handles, in the backends that records name, and in the records
that tell that pages could not be pinned. -/
theorem flavor_and_pinning_are_cosmetic {w w' : World} {orders orders' : List Order}
    (worlds : w.Alike w') (scenarios : List.Forall₂ Order.Alike orders orders') :
    List.Forall₂ Answer.Alike (w.follow orders).1 (w'.follow orders').1 ∧
      (w.follow orders).2.Alike (w'.follow orders').2 := by
  induction scenarios generalizing w w' with
  | nil => exact ⟨.nil, worlds⟩
  | @cons o o' orders orders' same _ ih =>
    obtain ⟨thread, faults, act⟩ := o
    obtain ⟨_, faults', act'⟩ := o'
    obtain ⟨rfl, fail, acts⟩ := same
    obtain ⟨answer, world⟩ := worlds.perform thread fail acts
    obtain ⟨answers, last⟩ := ih world
    exact ⟨.cons answer answers, last⟩

/-- A segment is made under the toggle with pages that cannot be pinned, and shown by a command. -/
def pinned : List Order :=
  [⟨"a", [], .putFile "settings" []⟩, ⟨"a", [], .setToggle (some "1")⟩,
    ⟨"a", [⟨.mlock, 1, .eperm⟩], .openHandle "h" "/demo" 16 (.facade none)⟩,
    ⟨"b", [], .command ["--config", "settings", "info", "/demo"] none true⟩]

/-- The same without the toggle and without pinning. -/
def unpinned : List Order :=
  [⟨"a", [], .putFile "settings" [0x0a]⟩, ⟨"a", [], .setToggle none⟩,
    ⟨"a", [], .openHandle "h" "/demo" 16 (.facade none)⟩,
    ⟨"b", [], .command ["--config", "settings", "info", "/demo"] none true⟩]

theorem pinned_scenario_is_followed_like_unpinned :
    List.Forall₂ Order.Alike pinned unpinned ∧
      ((empty.follow pinned).1.any fun a => a.own.outputs.any Output.isPinFailure) ∧
      List.Forall₂ Answer.Alike (empty.follow pinned).1 (empty.follow unpinned).1 ∧
      (empty.follow pinned).2.Alike (empty.follow unpinned).2 := by
  have blank : Config.LoadAlike [] [0x0a] := by
    intro path
    -- A file that was read is not named any more, so any path will do.
    have anywhere (bytes : List UInt8) : Config.loadFile none path (.found (.ok bytes)) =
        Config.loadFile none "" (.found (.ok bytes)) := rfl
    have empty : Config.loadFile none path (.found (.ok [])) = .ok .standard :=
      (anywhere []).trans (by decide +kernel)
    have line : Config.loadFile none path (.found (.ok [0x0a])) = .ok .standard :=
      (anywhere [0x0a]).trans (by decide +kernel)
    rw [empty, line]
    exact .ok rfl
  have worlds : empty.Alike empty := ⟨rfl, .nil, .nil, rfl, rfl, rfl, .nil, .nil⟩
  have scenarios : List.Forall₂ Order.Alike pinned unpinned :=
    .cons ⟨rfl, rfl, .putFile blank⟩ (.cons ⟨rfl, rfl, .setToggle⟩
      (.cons ⟨rfl, rfl, .refl⟩ (.cons ⟨rfl, rfl, .refl⟩ .nil)))
  exact ⟨scenarios, by decide +kernel, flavor_and_pinning_are_cosmetic worlds scenarios⟩

end World
end SharedSegment.Scenario
