import SharedSegment.Proofs.Calling
import SharedSegment.Proofs.Stakes.Stake

/-!
# Segments and stakes

Making a segment, looking for one and tearing one down keep to the protocol of stakes, whatever the
answers are. A handle that is opened goes through numbers of its party only, its mapping has the
length of its segment, and what it has to take down was set up (`Stake.Backs`). Whoever has such a
stake may tear the handle down (`Segment.ensures_destroy_staking`).
-/

namespace SharedSegment
open Header Program

/-- What a handle holds are numbers in a stake, and its mapping covers its segment. -/
structure Stake.Holds (c : Stake) (g : Segment) : Prop where
  file : ∀ f, g.file = some f → c.Has (.file f)
  mapping : ∀ m, g.mapping = some m → (m, total g.size) ∈ c.mappings
  made : g.mapping.isSome → (c.made ↔ g.role = .creator)

/-- A handle holds numbers in a stake, and what it has to take down was set up. -/
structure Stake.Backs (c : Stake) (g : Segment) : Prop extends c.Holds g where
  sync : g.role = .creator → g.ownsSync → g.mapping.isSome → c.mutex = .live ∧ c.condition = .live

/-- Two stakes have the same numbers and come from the same. -/
structure Stake.Alike (c c' : Stake) : Prop where
  opened : c'.opened = c.opened
  mappings : c'.mappings = c.mappings
  made : c'.made = c.made

namespace Stake

variable {α : Type} {c c' c'' : Stake} {g : Segment} {m : MappingId}

lemma Alike.refl (c : Stake) : c.Alike c := ⟨rfl, rfl, rfl⟩

lemma Alike.trans (first : c.Alike c') (next : c'.Alike c'') : c.Alike c'' :=
  ⟨next.opened.trans first.opened, next.mappings.trans first.mappings, next.made.trans first.made⟩

lemma Alike.has {ν : Number} (alike : c.Alike c') : c'.Has ν ↔ c.Has ν := by
  cases ν <;> simp [Has, alike.opened, alike.mappings]

lemma Alike.holds (alike : c.Alike c') (holds : c.Holds g) : c'.Holds g where
  file f ef := alike.has.2 (holds.file f ef)
  mapping m em := alike.mappings ▸ holds.mapping m em
  made some := by
    rw [alike.made]
    exact holds.made some

lemma Holds.has (holds : c.Holds g) (em : g.mapping = some m) : c.Has (.mapping m) :=
  ⟨_, holds.mapping m em⟩

/-- A handle that holds nothing is no matter of stakes. -/
lemma backs_empty (c : Stake) (g : Segment) : c.Backs g.empty :=
  ⟨⟨nofun, nofun, nofun⟩, nofun⟩

/-- A handle of an attacher has nothing to take down. -/
lemma Holds.backs_of_attacher (holds : c.Holds g) (role : g.role = .attacher) : c.Backs g := by
  refine ⟨holds, ?_⟩
  intro creator
  cases role.symm.trans creator


end Stake

/-- A request is no matter of stakes, and goes through a number that a party has. -/
def Stake.MayUse (c : Stake) (r : Request) : Prop :=
  r.isStaking = false ∧ ∀ ν, r.through? = some ν → c.Has ν

section
variable {α : Type} {c c' : Stake} {p : Program α} {m : MappingId}

/-- Whoever only uses its numbers keeps its stake. -/
lemma Program.Asks.keeps_staking (asks : p.Asks c.MayUse) : p.Keeps .staking c :=
  asks.keeps (fun _ => rfl) fun _ ok => Stake.spares ok.1 ok.2

lemma mayUse_mapping {r : Request} (other : r.isStaking = false)
    (through : r.through? = some (.mapping m)) (has : c.Has (.mapping m)) : c.MayUse r := by
  refine ⟨other, ?_⟩
  intro ν eν
  cases through.symm.trans eν
  exact has

lemma spares_attributes_staking : ∀ r ∈ attributeRequests, Protocol.staking.Spares r := by
  have free : ∀ r ∈ attributeRequests, r.isStaking = false ∧ r.through? = none := by decide
  intro r mem c
  obtain ⟨other, none⟩ := free r mem
  refine (asks_request ⟨other, ?_⟩).keeps_staking
  intro ν eν
  cases none.symm.trans eν

/-- Both parts are set up once, and a mutex without its condition is taken down again. -/
lemma ensures_prepare_staking {size : UInt32} (has : c.Has (.mapping m)) (made : c.made)
    (mutex : c.mutex = .blank) (condition : c.condition = .blank) :
    (prepare m size).Ensures .staking (fun r c' => c.Alike c' ∧
      (r = .ok () → c'.mutex = .live ∧ c'.condition = .live)) c := by
  let standing : Stake := { c with mutex := .live }
  let whole : Stake := { standing with condition := .live }
  have through {c' : Stake} (alike : c.Alike c') (ν : Number) (eν : some (.mapping m) = some ν) :
      c'.Has ν := by
    cases eν
    exact alike.has.2 has
  have first : c.Alike standing := ⟨rfl, rfl, rfl⟩
  have second : c.Alike whole := ⟨rfl, rfl, rfl⟩
  have setMutex : (Program.request (.mutexInit m)).Ensures .staking (SetsUp c standing) c := by
    refine ⟨⟨through (.refl c), made, mutex⟩, ?_⟩
    rintro a _ ⟨k, rfl⟩
    cases a with
    | ok => exact .inr ⟨rfl, rfl⟩
    | error e => exact .inl ⟨⟨e, rfl⟩, rfl⟩
  have setCondition :
      (Program.request (.condInit m)).Ensures .staking (SetsUp standing whole) standing := by
    refine ⟨⟨through first, made, condition⟩, ?_⟩
    rintro a _ ⟨k, rfl⟩
    cases a with
    | ok => exact .inr ⟨rfl, rfl⟩
    | error e => exact .inl ⟨⟨e, rfl⟩, rfl⟩
  refine ensures_prepare_of_parts spares_attributes_staking setMutex setCondition ?_ ?_
    fun _ => ⟨.refl c, nofun⟩
  · refine ⟨⟨through second, trivial⟩, ?_⟩
    rintro a _ ⟨k, rfl⟩
    exact ⟨second, fun _ => ⟨rfl, rfl⟩⟩
  · refine ⟨⟨through first, made, rfl⟩, ?_⟩
    rintro a _ ⟨k, rfl⟩ e
    refine ⟨?_, nofun⟩
    cases a <;> exact ⟨rfl, rfl, rfl⟩

end

namespace Segment

variable {c : Stake} {g : Segment} {n : Name} {cfg : Config}

/-- A handle without anything to take down is torn down through its numbers. -/
lemma keeps_staking_destroy (holds : c.Holds g) (none : g.role = .creator → g.ownsSync = false) :
    g.destroy.Keeps .staking c := by
  refine (g.asks_destroy.mono ?_).keeps_staking
  intro r tears
  cases r with
  | broadcast | condDestroy | mutexDestroy =>
    obtain ⟨role, owns, -⟩ := tears
    cases (none role).symm.trans owns
  | unmap m => exact mayUse_mapping rfl rfl (holds.has tears)
  | close f =>
    refine ⟨rfl, ?_⟩
    rintro _ ⟨⟩
    exact holds.file f tears
  | unlink => exact ⟨rfl, nofun⟩
  | _ => cases tears

/-- What was set up is taken down once. -/
lemma ensures_destroySync_staking (backs : c.Backs g) :
    g.destroySync.Ensures .staking (fun _ c' => c.Alike c') c := by
  unfold destroySync
  cases em : g.mapping with
  | none => exact .refl c
  | some m =>
    by_cases owns : g.role = .creator ∧ g.ownsSync
    · simp only [if_pos owns]
      have some : g.mapping.isSome := by
        rw [em]
        rfl
      obtain ⟨mutex, condition⟩ := backs.sync owns.1 owns.2 some
      have made := (backs.made some).2 owns.1
      have through {c' : Stake} (alike : c.Alike c') (ν : Number)
          (eν : Option.some (.mapping m) = .some ν) : c'.Has ν := by
        cases eν
        exact alike.has.2 (backs.has em)
      have woken : (Header.broadcast m).Keeps .staking c :=
        (asks_checked _ (asks_request (mayUse_mapping rfl rfl (backs.has em)))).keeps_staking
      have first : (checked .condDestroy (Program.request (.condDestroy m))).run.Ensures .staking
          (fun _ c' => c' = { c with condition := .destroyed }) c := by
        refine ⟨⟨through (.refl c), made, condition⟩, ?_⟩
        rintro a _ ⟨k, rfl⟩
        cases a <;> rfl
      have second : (checked .mutexDestroy (Program.request (.mutexDestroy m))).run.Ensures .staking
          (fun _ c' => c.Alike c') { c with condition := .destroyed } := by
        refine ⟨⟨through ⟨rfl, rfl, rfl⟩, made, mutex⟩, ?_⟩
        rintro a _ ⟨k, rfl⟩
        cases a <;> exact ⟨rfl, rfl, rfl⟩
      have down : (Header.destroy m).Ensures .staking (fun _ c' => c.Alike c') c := by
        refine woken.bind ?_
        rintro _ _ rfl
        refine first.bind ?_
        rintro _ _ rfl
        exact second.bind fun _ _ alike => alike
      refine down.bind ?_
      rintro failures c' alike
      have told : (failures.forM g.logSync).Asks c'.MayUse := g.asks_logSyncs failures
      refine told.keeps_staking.mono ?_
      rintro _ _ rfl
      exact alike
    · simp only [if_neg owns]
      exact .refl c

/-- Whoever has a stake that backs a handle may tear the handle down. -/
theorem ensures_destroy_staking (backs : c.Backs g) :
    g.destroy.Ensures .staking (fun _ c' => c.Alike c') c := by
  refine (ensures_destroySync_staking backs).bind ?_
  intro _ c' alike
  have holds := alike.holds backs.toHolds
  have unmaps : g.unmap.Asks c'.MayUse :=
    g.asks_unmap fun m em => mayUse_mapping rfl rfl (holds.has em)
  have releases : g.release.Asks c'.MayUse := by
    refine g.asks_release (fun f ef => ⟨rfl, ?_⟩) fun _ _ => ⟨rfl, nofun⟩
    rintro _ ⟨⟩
    exact holds.file f ef
  refine unmaps.keeps_staking.bind ?_
  rintro _ _ rfl
  refine releases.keeps_staking.bind ?_
  rintro _ _ rfl
  exact alike

lemma asks_pin_mapping {m : MappingId} {size : UInt32} (has : c.Has (.mapping m)) :
    (pin n cfg m size).Asks c.MayUse := by
  unfold pin
  split
  case isTrue => exact asks_ask (mayUse_mapping rfl rfl has) fun a => asks_logFailure a _
  case isFalse => exact asks_ret _

lemma ensures_openExclusive_staking :
    (openExclusive n cfg).Ensures .staking
      (fun r c' => (∃ e, r = .error e) ∨ ∃ f k, r = .ok f ∧ c' = .start f k true) .nothing := by
  refine ⟨⟨nofun, rfl⟩, ?_⟩
  rintro a _ ⟨k, rfl⟩
  cases a with
  | ok f => exact .inr ⟨f, k, rfl, rfl⟩
  | error first =>
    refine ⟨⟨nofun, trivial⟩, ?_⟩
    rintro a _ ⟨-, rfl⟩
    cases a with
    | error e => exact .inl ⟨_, rfl⟩
    | ok =>
      refine ⟨⟨nofun, rfl⟩, ?_⟩
      rintro a _ ⟨k, rfl⟩
      cases a with
      | ok f => exact .inr ⟨f, k, rfl, rfl⟩
      | error e => exact .inl ⟨_, rfl⟩

/-- A creator has the numbers that its handle holds, and has set both parts up. -/
theorem ensures_create_staking {size : UInt32} :
    (create n size cfg).Ensures .staking
      (fun r c' => ∀ g, r.toOption = some g → c'.Backs g) .nothing := by
  refine ensures_openExclusive_staking.bind ?_
  rintro r c (⟨e, rfl⟩ | ⟨f, k, rfl, rfl⟩)
  · exact nofun
  have opened (c' : Stake) (e : c'.opened = some (f, k)) (f' : FileId) (ef : some f = some f') :
      c'.Has (.file f') := by
    cases ef
    exact ⟨k, e⟩
  have gives {c' : Stake} {g : Segment} (holds : c'.Holds g) (none : g.ownsSync = false)
      (e : SegmentError) : (g.giveUp e).Ensures .staking
        (fun r c' => ∀ g, r.toOption = some g → c'.Backs g) c' := by
    refine (keeps_staking_destroy holds fun _ => none).bind ?_
    rintro _ _ - _ ⟨⟩
  have bare (c' : Stake) (e : c'.opened = some (f, k)) :
      c'.Holds ⟨n, cfg.flavor, .creator, size, some f, none, false⟩ :=
    ⟨opened c' e, nofun, nofun⟩
  refine ⟨⟨?_, rfl, rfl, rfl⟩, ?_⟩
  · rintro _ ⟨⟩
    exact ⟨k, rfl⟩
  rintro a _ ⟨k', rfl⟩
  rw [Stake.next_resize]
  cases a with
  | error e => exact gives (bare _ rfl) rfl _
  | ok =>
    refine ⟨⟨?_, fun _ => rfl⟩, ?_⟩
    · rintro _ ⟨⟩
      exact ⟨k, rfl⟩
    rintro a _ ⟨k', rfl⟩
    cases a with
    | error e => exact gives (bare _ rfl) rfl _
    | ok m =>
      have mine : (m, total size) ∈ [(m, total size)] := List.mem_singleton_self _
      refine (ensures_prepare_staking ⟨_, mine⟩ rfl rfl rfl).bind ?_
      rintro r c' ⟨alike, whole⟩
      have holds (owns : Bool) :
          c'.Holds ⟨n, cfg.flavor, .creator, size, some f, some m, owns⟩ := by
        refine ⟨opened c' alike.opened, ?_, fun _ => iff_of_true alike.made rfl⟩
        rintro _ ⟨⟩
        exact alike.mappings ▸ mine
      cases r with
      | error e => exact gives (holds false) rfl _
      | ok =>
        have pins : (pin n cfg m size).Asks c'.MayUse := asks_pin_mapping ((holds true).has rfl)
        refine pins.keeps_staking.bind ?_
        rintro _ _ rfl _ ⟨⟩
        exact ⟨holds true, fun _ _ _ => whole rfl⟩

end Segment

/-- A party has opened an object that it has not made, whatever it has mapped of it. -/
def Stake.HasFound (c : Stake) (f : FileId) (k : ObjectId) : Prop :=
  c.opened = some (f, k) ∧ c.made = false

section
variable {c : Stake} {n : Name} {cfg : Config} {f : FileId} {k : ObjectId}

lemma Stake.HasFound.through (found : c.HasFound f k) {r : Request}
    (through : r.through? = some (.file f)) (ν : Number) (eν : r.through? = some ν) : c.Has ν := by
  cases through.symm.trans eν
  exact ⟨k, found.1⟩

namespace Segment

lemma ensures_map_staking (found : c.HasFound f k) (len : Nat) :
    (Program.request (.map f len)).Ensures .staking
      (fun r c' => c'.HasFound f k ∧ ∀ m, r = .ok m → (m, len) ∈ c'.mappings) c := by
  refine ⟨⟨found.through rfl, ?_⟩, ?_⟩
  · intro made
    cases found.2.symm.trans made
  · rintro a _ ⟨_, rfl⟩
    cases a with
    | error e => exact ⟨found, nofun⟩
    | ok m =>
      refine ⟨found, ?_⟩
      rintro _ ⟨⟩
      exact List.mem_cons_self

lemma ensures_probe_staking (found : c.HasFound f k) :
    (probe n cfg f).Ensures .staking (fun _ c' => c'.HasFound f k) c := by
  refine (ensures_map_staking found Layout.headerSize).bind ?_
  rintro r c' ⟨found', mapped⟩
  cases r with
  | error e => exact found'
  | ok m =>
    have has : c'.Has (.mapping m) := ⟨_, mapped m rfl⟩
    refine (asks_request (mayUse_mapping (r := .loadSize m) rfl rfl has)).keeps_staking.bind ?_
    rintro size _ rfl
    refine (asks_request (mayUse_mapping (r := .unmap m) rfl rfl has)).keeps_staking.bind ?_
    rintro r _ rfl
    refine (asks_logFailure r _).keeps_staking.bind ?_
    rintro _ _ rfl
    exact found'

lemma ensures_mapWhole_staking (found : c.HasFound f k) (stored : Nat) (size : UInt32) :
    (mapWhole n f stored size).Ensures .staking
      (fun r c' => c'.HasFound f k ∧ ∀ m, r = .ok m → (m, total size) ∈ c'.mappings) c := by
  unfold mapWhole
  split
  · exact ⟨found, nofun⟩
  · split
    · exact ⟨found, nofun⟩
    · refine (ensures_map_staking found (total size)).bind ?_
      rintro r c' ⟨found', mapped⟩
      cases r with
      | error e => exact ⟨found', nofun⟩
      | ok m => exact ⟨found', fun _ em => mapped _ (congrArg _ (Except.ok.inj em))⟩

lemma ensures_mapFile_staking (found : c.HasFound f k) :
    (mapFile n cfg f).Ensures .staking (fun r c' => c'.HasFound f k ∧
      ∀ size m, r = .ok (size, m) → (m, total size) ∈ c'.mappings) c := by
  have measured : c.MayUse (.length f) := ⟨rfl, found.through rfl⟩
  refine (asks_request measured).keeps_staking.bind ?_
  rintro r _ rfl
  cases r with
  | error e => exact ⟨found, nofun⟩
  | ok stored =>
    change (if stored < Layout.headerSize then Program.ret _ else _).Ensures _ _ _
    split
    · exact ⟨found, nofun⟩
    · refine (ensures_probe_staking found).bind ?_
      intro r c' found'
      cases r with
      | error e => exact ⟨found', nofun⟩
      | ok size =>
        refine (ensures_mapWhole_staking found' stored size).bind ?_
        rintro r c'' ⟨found'', mem⟩
        cases r with
        | error e => exact ⟨found'', nofun⟩
        | ok m =>
          refine ⟨found'', ?_⟩
          rintro _ _ ⟨⟩
          exact mem m rfl

/-- An attacher has the numbers that its handle holds. -/
theorem ensures_attach_staking :
    (attach n cfg).Ensures .staking
      (fun r c' => ∀ g, r.toOption = some g → c'.Backs g) .nothing := by
  refine ⟨⟨nofun, rfl⟩, ?_⟩
  rintro a _ ⟨k, rfl⟩
  cases a with
  | error e => exact nofun
  | ok f =>
    have found : (Stake.start f k false).HasFound f k := ⟨rfl, rfl⟩
    refine (ensures_mapFile_staking found).bind ?_
    rintro r c ⟨found', mem⟩
    cases r with
    | error e =>
      have closes : c.MayUse (.close f) := ⟨rfl, found'.through rfl⟩
      refine (asks_request closes).keeps_staking.bind ?_
      rintro _ _ - _ ⟨⟩
    | ok x =>
      obtain ⟨size, m⟩ := x
      have mine := mem size m rfl
      have pins : (pin n cfg m size).Asks c.MayUse := asks_pin_mapping ⟨_, mine⟩
      refine pins.keeps_staking.bind ?_
      rintro _ _ rfl _ ⟨⟩
      refine Stake.Holds.backs_of_attacher ⟨?_, ?_, fun _ => iff_of_false ?_ nofun⟩ rfl
      · rintro _ ⟨⟩
        exact ⟨k, found'.1⟩
      · rintro _ ⟨⟩
        exact mine
      · intro made
        cases found'.2.symm.trans made

end Segment
end
end SharedSegment
