import SharedSegment.Proofs.Custody.Segments

/-!
# Opening in custody

Creating and attaching keep to the protocol of custodians, whichever calls fail. `ensures_prepare`
is where the size is published: on one path only, with both objects set up. A creator has in custody
what its handle holds (`ensures_create`); so has an attacher, and the size of its handle is the one
that it has read from the object that it has opened (`ensures_attach`).
-/

namespace SharedSegment
open Header Program

section
variable {torn faulty : Prop} {c : Custody} {m : MappingId}

/-- Attributes concern no custody. -/
lemma spares_attributes : ∀ r ∈ attributeRequests, (Protocol.custody torn faulty).Spares r := by
  have neutral : ∀ r ∈ attributeRequests, r.isNeutral := by decide
  intro r mem c
  have asked : (Program.request r).Asks fun r => r.isNeutral := asks_request (neutral r mem)
  exact asked.spares torn faulty c

lemma ensures_mutexInit (makes : c.Makes m fun o => o.mutex = .blank) :
    (Program.request (.mutexInit m)).Ensures (.custody torn faulty)
      (SetsUp c (c.become fun o => o.withMutex .live)) c := by
  refine ⟨makes, ?_⟩
  rintro a c' (⟨rfl, rfl⟩ | ⟨-, rfl, call, fail, e, ec, rfl⟩)
  · exact .inr ⟨rfl, rfl⟩
  · cases ec
    exact .inl ⟨⟨e, rfl⟩, rfl⟩

lemma ensures_condInit (makes : c.Makes m fun o => o.condition = .blank) :
    (Program.request (.condInit m)).Ensures (.custody torn faulty)
      (SetsUp c (c.become fun o => o.withCondition .live)) c := by
  refine ⟨makes, ?_⟩
  rintro a c' (⟨rfl, rfl⟩ | ⟨-, rfl, call, fail, e, ec, rfl⟩)
  · exact .inr ⟨rfl, rfl⟩
  · cases ec
    exact .inl ⟨⟨e, rfl⟩, rfl⟩

/-- The size is published when both objects stand, and on no other path. -/
lemma ensures_prepare {k : ObjectId} {len : Nat} (em : c.mapping = some (m, ⟨k, len⟩))
    (own : c.own = some (k, ⟨total c.target, 0, .blank, .blank⟩)) :
    (prepare m c.target).Ensures (.custody torn faulty)
      (fun r c' => c'.file = c.file ∧ c'.mapping = c.mapping ∧
        ∃ o, c'.own = some (k, o) ∧
          (r = .ok () → o.mutex ≠ .blank ∧ o.condition ≠ .blank ∧ o.size = c.target)) c := by
  have own₁ := Custody.become_own own fun o => o.withMutex .live
  have em₁ : (c.become fun o => o.withMutex .live).mapping = some (m, ⟨k, len⟩) := em
  have own₂ := Custody.become_own own₁ fun o => o.withCondition .live
  refine ensures_prepare_of_parts spares_attributes (ensures_mutexInit ⟨_, _, em, own, rfl⟩)
    (ensures_condInit ⟨_, _, em₁, own₁, rfl⟩) ?_ ?_ fun _ => ⟨rfl, rfl, _, own, nofun⟩
  · refine ⟨⟨rfl, _, _, em₁, own₂, rfl, rfl, rfl, rfl⟩, ?_⟩
    rintro a c' (rfl | ⟨-, -, call, fail, e, ec, -⟩)
    · exact ⟨rfl, rfl, _, Custody.become_own own₂ _, fun _ => ⟨nofun, nofun, rfl⟩⟩
    · cases ec
  -- Without its condition the mutex is taken down again, and no size was published.
  · refine ⟨⟨_, _, em₁, own₁, .inl rfl⟩, ?_⟩
    rintro a c' ((⟨e, -, rfl⟩ | ⟨-, rfl⟩) | ⟨-, rfl, -⟩)
    · exact fun _ => ⟨rfl, rfl, _, own₁, nofun⟩
    · exact fun _ => ⟨rfl, rfl, _, Custody.become_own own₁ _, nofun⟩
    · exact fun _ => ⟨rfl, rfl, _, own₁, nofun⟩

end

/-- A custody with an object that was just made. -/
def Custody.made (c : Custody) (f : FileId) (k : ObjectId) : Custody :=
  { c with opened := some k, file := some (f, k), own := some (k, .blank) }

section
variable {torn faulty : Prop} {c c' : Custody}

lemma answers_openNew {n : Name} {mode : UInt32} {a : (Request.openNew n mode).Answer}
    (ans : (Protocol.custody torn faulty).Answers c (.openNew n mode) a c') :
    (∃ e, a = .error e ∧ c' = c) ∨ ∃ f k, a = .ok f ∧ c' = c.made f k := by
  rcases ans with ans | ⟨-, same, call, fail, e, ec, ea⟩
  · exact ans
  · cases ec
    exact .inl ⟨e, ea, same⟩

lemma answers_resize {f : FileId} {len : Nat} {a : (Request.resize f len).Answer}
    (ans : (Protocol.custody torn faulty).Answers c (.resize f len) a c') :
    (∃ e, a = .error e ∧ c' = c) ∨ a = .ok () ∧ c' = c.become fun o => o.withLength len := by
  rcases ans with ans | ⟨-, same, call, fail, e, ec, ea⟩
  · exact .inr ans
  · cases ec
    exact .inl ⟨e, ea, same⟩

lemma answers_length {f : FileId} {a : (Request.length f).Answer}
    (ans : (Protocol.custody torn faulty).Answers c (.length f) a c') :
    c' = c ∧ ((∃ e, a = .error e ∧ faulty) ∨ ∃ stored, a = .ok stored) := by
  rcases ans with ⟨stored, ea, same⟩ | ⟨struck, same, call, fail, e, ec, ea⟩
  · exact ⟨same, .inr ⟨stored, ea⟩⟩
  · cases ec
    exact ⟨same, .inl ⟨e, ea, struck⟩⟩

def Custody.maps (c : Custody) (m : MappingId) (x : Mapping) : Custody :=
  { c with mapping := some (m, x) }

lemma answers_map {f : FileId} {k : ObjectId} {len : Nat} {a : (Request.map f len).Answer}
    (file : c.file = some (f, k))
    (ans : (Protocol.custody torn faulty).Answers c (.map f len) a c') :
    (∃ e, a = .error e ∧ faulty ∧ c' = c) ∨ ∃ m, a = .ok m ∧ c' = c.maps m ⟨k, len⟩ := by
  rcases ans with ⟨m, k', ea, ef, same⟩ | ⟨struck, same, call, fail, e, ec, ea⟩
  · cases file.symm.trans ef
    exact .inr ⟨m, ea, same⟩
  · cases ec
    exact .inl ⟨e, ea, struck, same⟩

end

namespace Segment

variable {torn faulty : Prop} {c : Custody} {n : Name} {cfg : Config} {s : Segment}

lemma ensures_openExclusive (opened : c.opened = none) (own : c.own = none) :
    (openExclusive n cfg).Ensures (.custody torn faulty)
      (fun r c' => (∃ e, r = .error e) ∨ ∃ f k, r = .ok f ∧ c' = c.made f k) c := by
  refine ⟨⟨opened, own⟩, ?_⟩
  intro a c' ans
  obtain ⟨first, rfl, rfl⟩ | ⟨f, k, rfl, rfl⟩ := answers_openNew ans
  · refine ⟨trivial, ?_⟩
    rintro a c'' (rfl | ⟨-, rfl, -⟩)
    -- Whether the removal was made to fail or not, it concerns no custody.
    all_goals
      cases a with
      | error e => exact .inl ⟨_, rfl⟩
      | ok =>
        refine ⟨⟨opened, own⟩, ?_⟩
        intro a c' ans
        obtain ⟨e, rfl, rfl⟩ | ⟨f, k, rfl, rfl⟩ := answers_openNew ans
        · exact .inl ⟨_, rfl⟩
        · exact .inr ⟨f, k, rfl, rfl⟩
  · exact .inr ⟨f, k, rfl, rfl⟩

lemma ensures_giveUp (covers : c.Covers s) (none : s.ownsSync = false) (e : SegmentError) :
    (s.giveUp e).Ensures (.custody torn faulty) (fun r _ => r = .error e) c := by
  refine (ensures_destroy covers (.inr none)).bind ?_
  intro _ c' _
  exact rfl

/-- A creator has in custody what its handle holds, and has set it up. -/
theorem ensures_create (opened : c.opened = none) (own : c.own = none) :
    (create n c.target cfg).Ensures (.custody torn faulty)
      (fun r c' => ∀ s, r = .ok s → (c'.Covers s ∧ s.IsWhole) ∧ s.role = .creator) c := by
  have given {s : Segment} {c' : Custody} (covers : c'.Covers s) (none : s.ownsSync = false)
      (e : SegmentError) : (s.giveUp e).Ensures (.custody torn faulty)
        (fun r c' => ∀ s, r = .ok s → (c'.Covers s ∧ s.IsWhole) ∧ s.role = .creator) c' := by
    refine (ensures_giveUp covers none e).mono ?_
    rintro r c'' rfl s ⟨⟩
  refine (ensures_openExclusive opened own).bind ?_
  rintro r c' (⟨e, rfl⟩ | ⟨f, k, rfl, rfl⟩)
  · exact nofun
  have bare {c' : Custody} (ef : c'.file = some (f, k)) :
      c'.Covers ⟨n, cfg.flavor, .creator, c.target, some f, none, false⟩ := by
    refine ⟨?_, nofun, nofun, nofun⟩
    rintro _ ⟨⟩
    exact ⟨k, ef⟩
  refine ⟨⟨k, .blank, rfl, rfl, rfl, rfl, rfl⟩, ?_⟩
  intro a c₁ ans
  obtain ⟨e, rfl, rfl⟩ | ⟨rfl, rfl⟩ := answers_resize ans
  · exact given (bare rfl) rfl _
  refine ⟨⟨k, rfl⟩, ?_⟩
  intro a c₂ ans
  obtain ⟨e, rfl, -, rfl⟩ | ⟨m, rfl, rfl⟩ := answers_map rfl ans
  · exact given (bare rfl) rfl _
  refine (ensures_prepare rfl rfl).bind ?_
  rintro r c₃ ⟨ef, em, o, eo, stands⟩
  have holds : ∀ f', some f = some f' → ∃ k, c₃.file = some (f', k) := by
    rintro _ ⟨⟩
    exact ⟨k, ef⟩
  have shows : ∀ m', some m = some m' → ∃ x, c₃.mapping = some (m', x) := by
    rintro _ ⟨⟩
    exact ⟨_, em⟩
  cases r with
  | error e =>
    have half : c₃.Covers ⟨n, cfg.flavor, .creator, c.target, some f, some m, false⟩ :=
      ⟨holds, shows, nofun, nofun⟩
    exact given half rfl _
  | ok =>
    refine ((plain_pin n cfg m c.target).spares torn faulty c₃).bind ?_
    rintro _ c₄ rfl s ⟨⟩
    refine ⟨⟨⟨holds, shows, ?_, nofun⟩, fun _ _ => rfl⟩, rfl⟩
    rintro - - _ ⟨⟩
    exact ⟨_, o, em, eo, stands rfl⟩

end Segment

/-- A handle is on the object that was opened, and has the size that was read from it. -/
structure Custody.Attaches (c : Custody) (s : Segment) : Prop where
  covers : c.Covers s
  role : s.role = .attacher
  published : s.size ≠ 0
  shows : ∃ m k, s.mapping = some m ∧ c.mapping = some (m, ⟨k, total s.size⟩) ∧
    c.opened = some k ∧ c.seen = some (k, s.size)

/-- What attaching may come to, by whether a call has failed by itself. Otherwise an object that was
opened and is refused is no finished segment. -/
def Custody.Finds (failed : Prop) (n : Name) (r : Except SegmentError Segment) (c : Custody) :
    Prop :=
  (∃ s, r = .ok s ∧ c.Attaches s) ∨
    ∃ e, r = .error e ∧ (failed ∨ c.opened = none ∨ ∃ why, e = .uninitialized n.text why)

namespace Segment

variable {torn faulty : Prop} {c : Custody} {n : Name} {cfg : Config} {s : Segment}
  {f : FileId} {k : ObjectId}

lemma ensures_probe (file : c.file = some (f, k)) :
    (probe n cfg f).Ensures (.custody torn faulty)
      (fun r c' => c'.file = some (f, k) ∧ c'.opened = c.opened ∧
        ((∃ e, r = .error e) ∧ faulty ∨ ∃ size, r = .ok size ∧ c'.seen = some (k, size))) c := by
  refine ⟨⟨k, file⟩, ?_⟩
  intro a c₁ ans
  obtain ⟨e, rfl, struck, rfl⟩ | ⟨m, rfl, rfl⟩ := answers_map file ans
  · exact ⟨file, rfl, .inl ⟨⟨_, rfl⟩, struck⟩⟩
  refine ⟨⟨_, rfl⟩, ?_⟩
  rintro size c₂ (⟨x, em, rfl⟩ | ⟨-, -, call, fail, e, ec, -⟩)
  · cases em
    refine ⟨⟨_, rfl⟩, ?_⟩
    rintro a c₃ (⟨rfl, rfl⟩ | ⟨-, rfl, call, fail, e, ec, rfl⟩)
    · exact ⟨file, rfl, .inr ⟨size, rfl, rfl⟩⟩
    · cases ec
      exact ⟨file, rfl, .inr ⟨size, rfl, rfl⟩⟩
  · cases ec

lemma ensures_mapWhole (file : c.file = some (f, k)) (stored : Nat) (size : UInt32) :
    (mapWhole n f stored size).Ensures (.custody torn faulty)
      (fun r c' => (∃ e, r = .error e ∧ c' = c ∧ (faulty ∨ ∃ why, e = .uninitialized n.text why)) ∨
        ∃ m, r = .ok m ∧ size ≠ 0 ∧
          c' = c.maps m ⟨k, total size⟩) c := by
  unfold mapWhole
  by_cases zero : size = 0
  · rw [if_pos zero]
    exact .inl ⟨_, rfl, rfl, .inr ⟨_, rfl⟩⟩
  rw [if_neg zero]
  by_cases short : stored < total size
  · rw [if_pos short]
    exact .inl ⟨_, rfl, rfl, .inr ⟨_, rfl⟩⟩
  rw [if_neg short]
  refine ⟨⟨k, file⟩, ?_⟩
  intro a c' ans
  obtain ⟨e, rfl, struck, rfl⟩ | ⟨m, rfl, rfl⟩ := answers_map file ans
  · exact .inl ⟨_, rfl, rfl, .inl struck⟩
  · exact .inr ⟨m, rfl, zero, rfl⟩

lemma ensures_mapFile (file : c.file = some (f, k)) :
    (mapFile n cfg f).Ensures (.custody torn faulty)
      (fun r c' => c'.file = some (f, k) ∧ c'.opened = c.opened ∧
        ((∃ e, r = .error e ∧ (faulty ∨ ∃ why, e = .uninitialized n.text why)) ∨
          ∃ size m, r = .ok (size, m) ∧ size ≠ 0 ∧ c'.mapping = some (m, ⟨k, total size⟩) ∧
            c'.seen = some (k, size))) c := by
  refine ⟨⟨k, file⟩, ?_⟩
  intro a c' ans
  obtain ⟨rfl, ⟨e, rfl, struck⟩ | ⟨stored, rfl⟩⟩ := answers_length ans
  · exact ⟨file, rfl, .inl ⟨_, rfl, .inl struck⟩⟩
  change (if stored < Layout.headerSize then Program.ret _ else _).Ensures _ _ _
  by_cases short : stored < Layout.headerSize
  · rw [if_pos short]
    exact ⟨file, rfl, .inl ⟨_, rfl, .inr ⟨_, rfl⟩⟩⟩
  rw [if_neg short]
  refine (ensures_probe file).bind ?_
  rintro r c₁ ⟨file₁, opened, ⟨⟨e, rfl⟩, struck⟩ | ⟨size, rfl, seen⟩⟩
  · exact ⟨file₁, opened, .inl ⟨_, rfl, .inl struck⟩⟩
  refine (ensures_mapWhole file₁ stored size).bind ?_
  rintro r c₂ (⟨e, rfl, rfl, why⟩ | ⟨m, rfl, ne, rfl⟩)
  · exact ⟨file₁, opened, .inl ⟨e, rfl, why⟩⟩
  · exact ⟨file₁, opened, .inr ⟨size, m, rfl, ne, rfl, seen⟩⟩

/-- An attacher has in custody what its handle holds, and its handle has the size that was read. -/
theorem ensures_attach (opened : c.opened = none) :
    (attach n cfg).Ensures (.custody torn faulty) (fun r c' => c'.Finds faulty n r) c := by
  refine ⟨opened, ?_⟩
  rintro a c₁ ((⟨e, rfl, rfl⟩ | ⟨f, k, rfl, rfl⟩) | ⟨struck, rfl, call, fail, e, ec, rfl⟩)
  · exact .inr ⟨_, rfl, .inr (.inl opened)⟩
  · refine (ensures_mapFile rfl).bind ?_
    rintro r c₂ ⟨file₂, opened₂, ⟨e, rfl, why⟩ | ⟨size, m, rfl, ne, mapping, seen⟩⟩
    · refine ⟨⟨k, file₂⟩, ?_⟩
      intro _ c₃ _
      exact .inr ⟨e, rfl, why.imp id .inr⟩
    · refine ((plain_pin n cfg m size).spares torn faulty c₂).bind ?_
      rintro _ c₃ rfl
      refine .inl ⟨_, rfl, ?_, rfl, ne, m, k, rfl, mapping, opened₂, seen⟩
      refine ⟨?_, ?_, nofun, ?_⟩
      · rintro _ ⟨⟩
        exact ⟨k, file₂⟩
      · rintro _ ⟨⟩
        exact ⟨_, mapping⟩
      · rintro - _ ⟨⟩
        exact ⟨_, mapping, seen, ne⟩
  · cases ec
    exact .inr ⟨_, rfl, .inl struck⟩

end Segment
end SharedSegment
