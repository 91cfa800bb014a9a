import SharedSegment.Proofs.Custody.Names
import SharedSegment.Proofs.Custody.Objects

/-!
# Stakes

A party has a stake in the one object that it has opened: the file and the mappings that the host
has numbered for it, with their lengths, and, if it has made the object, how far the mutex and the
condition of the object have come by its doing. Numbers stay in a stake when they are given back,
since no number is given twice.

By the protocol of stakes (`Protocol.staking`), a party goes through its own numbers only, maps an
object of its own making once, and sets up and takes down each part of it once, and only if setting
it up has worked. Parties that keep to it never share a number, nor the making of an object
(`Stakeholders.answer`).
-/

namespace SharedSegment
open Function

/-- What a host has numbered. -/
inductive Number where
  | file (f : FileId)
  | mapping (m : MappingId)
deriving DecidableEq

/-- The number that a request goes through. -/
def Request.through? : Request → Option Number
  | .resize f _ | .length f | .close f | .map f _ => some (.file f)
  | .unmap m | .pin m | .loadSize m | .storeSize m _ | .read m .. | .readText m .. | .write m ..
  | .clear m .. | .mutexInit m | .mutexDestroy m | .lock m | .unlock m | .makeConsistent m
  | .condInit m | .condDestroy m | .park m | .awake m | .broadcast m => some (.mapping m)
  | _ => none

/-- Whether a request may change the stake of who makes it, or needs more than a number. -/
def Request.isStaking : Request → Bool
  | .openNew .. | .openExisting .. | .resize .. | .map .. | .mutexInit .. | .mutexDestroy ..
  | .condInit .. | .condDestroy .. => true
  | _ => false

/-- What a party has of the object that it has opened. -/
structure Stake where
  /-- The file that was opened, with its object. -/
  opened : Option (FileId × ObjectId)
  /-- The mappings that were made, with their lengths. -/
  mappings : List (MappingId × Nat)
  /-- Whether the party has made the object. -/
  made : Bool
  /-- The mutex as the party has left it. What it has tried to take down is down for it. -/
  mutex : Life
  /-- The condition as the party has left it. -/
  condition : Life

namespace Stake

def nothing : Stake := ⟨none, [], false, .blank, .blank⟩

/-- The stake in an object that was just opened. -/
def start (f : FileId) (k : ObjectId) (made : Bool) : Stake :=
  ⟨some (f, k), [], made, .blank, .blank⟩

/-- The object that a stake is in. -/
def object? (c : Stake) : Option ObjectId :=
  c.opened.map Prod.snd

/-- The numbers in a stake. -/
def Has (c : Stake) : Number → Prop
  | .file f => ∃ k, c.opened = some (f, k)
  | .mapping m => ∃ len, (m, len) ∈ c.mappings

/-- A stake after a call that was tried, whatever has come of it. -/
def tried (c : Stake) : Request → Stake
  | .mutexDestroy _ => { c with mutex := .destroyed }
  | .condDestroy _ => { c with condition := .destroyed }
  | _ => c

/-- A stake after an answer, by which an object may have been opened. -/
def next (c : Stake) (k : ObjectId) : (r : Request) → r.Answer → Stake
  | .openNew .., .ok f => start f k true
  | .openExisting _, .ok f => start f k false
  | .map _ len, .ok m => { c with mappings := (m, len) :: c.mappings }
  | .mutexInit _, .ok () => { c with mutex := .live }
  | .condInit _, .ok () => { c with condition := .live }
  | r, _ => c.tried r

/-- What a party may ask. -/
structure Permits (c : Stake) (r : Request) : Prop where
  through : ∀ ν, r.through? = some ν → c.Has ν
  further : match r with
    | .openNew .. | .openExisting .. => c = nothing
    | .resize .. => c.made ∧ c.mutex = .blank ∧ c.condition = .blank
    | .map .. => c.made → c.mappings = []
    | .mutexInit _ => c.made ∧ c.mutex = .blank
    | .condInit _ => c.made ∧ c.condition = .blank
    | .mutexDestroy _ => c.made ∧ c.mutex = .live
    | .condDestroy _ => c.made ∧ c.condition = .live
    | _ => True

end Stake

/-- How a party behaves that has a stake in one object. -/
def Protocol.staking : Protocol Stake where
  Permits := Stake.Permits
  Answers c r a c' := ∃ k, c' = c.next k r a
  tells c _ := c

namespace Stake

variable {c : Stake} {r : Request} {k : ObjectId}

/-- What is no matter of stakes leaves a stake as it is. -/
lemma next_of_not_isStaking (other : r.isStaking = false) (a : r.Answer) : c.next k r a = c := by
  cases r with
  | openNew | openExisting | resize | map | mutexInit | mutexDestroy | condInit | condDestroy =>
    cases other
  | _ => rfl

/-- Setting the length of an object leaves a stake as it is. -/
lemma next_resize {f : FileId} {len : Nat} (a : (Request.resize f len).Answer) :
    c.next k (.resize f len) a = c := by
  cases a <;> rfl

/-- A call that fails is one that was tried. -/
lemma next_fail {call : Call} {fail : Errno → r.Answer} (ec : r.call? = some (call, fail))
    (e : Errno) : c.next k r (fail e) = c.tried r := by
  cases r with
  | close | loadSize | storeSize | read | readText | write | clear | mutexattrDestroy
  | condattrDestroy | awake | hold => cases ec
  | _ =>
    cases ec
    rfl

@[simp] lemma has_tried {ν : Number} : (c.tried r).Has ν ↔ c.Has ν := by
  cases r <;> cases ν <;> exact .rfl

/-- What is no matter of stakes may be asked by whoever has the number for it. -/
lemma spares (other : r.isStaking = false) (has : ∀ ν, r.through? = some ν → c.Has ν) :
    Protocol.staking.Permits c r ∧ ∀ a c', Protocol.staking.Answers c r a c' → c' = c := by
  refine ⟨⟨has, ?_⟩, ?_⟩
  · cases r with
    | openNew | openExisting | resize | map | mutexInit | mutexDestroy | condInit | condDestroy =>
      cases other
    | _ => trivial
  · rintro a _ ⟨k, rfl⟩
    exact next_of_not_isStaking other a

/-- A party has left the parts of an object as they are, if it has not tried to take them down. -/
structure IsAt (c : Stake) (o : Object) : Prop where
  mutex : c.mutex ≠ .destroyed → o.mutex.life = c.mutex
  condition : c.condition ≠ .destroyed → o.condition.life = c.condition

/-- A stake is as the host says. -/
structure Fits (c : Stake) (h : Host) : Prop where
  file : ∀ f k, c.opened = some (f, k) →
    f < h.files.length ∧ k < h.objects.length ∧ ∀ j, h.file? f = some j → j = k
  mapping : ∀ m len, (m, len) ∈ c.mappings →
    m < h.mappings.length ∧
      ∃ f k, c.opened = some (f, k) ∧ ∀ x, h.mapping? m = some x → x = ⟨k, len⟩
  parts : c.made → ∀ f k o, c.opened = some (f, k) → h.object? k = some o → c.IsAt o
  single : c.made → ∀ x ∈ c.mappings, ∀ y ∈ c.mappings, x = y

lemma fits_nothing (h : Host) : nothing.Fits h :=
  ⟨nofun, nofun, nofun, nofun⟩

lemma not_has_nothing (ν : Number) : ¬nothing.Has ν := by
  cases ν with
  | file f => rintro ⟨_, ⟨⟩⟩
  | mapping m => rintro ⟨_, ⟨⟩⟩

end Stake

/-- Whether a request may set a part of an object up or take it down. -/
def Request.isAging : Request → Bool
  | .resize .. | .mutexInit .. | .mutexDestroy .. | .condInit .. | .condDestroy .. => true
  | _ => false

lemma Mutex.lock_object_life {x : Mutex} {t : ThreadId} : (x.lock t).object.life = x.life := by
  cases e : x.lock t with
  | answer r y => exact lock_life e
  | sleep y => exact lock_sleep_life e

namespace Host

variable {h h' : Host} {m : MappingId} {set : Object → Object} {k : ObjectId} {o : Object}

/-- Setting something up under a mapping works if and only if the mapping is still there. -/
lemma setUp_ok_iff {a : Except Errno Unit}
    (e : reply (h.onObject m fun o => (.ok (), set o)) = .done a h') :
    a = .ok () ↔ ∃ k o, h.under? m = some (k, o) := by
  cases e
  obtain ⟨blind, eq⟩ | ⟨k, o, sees, eq⟩ := h.onObject_cases m fun o => (.ok (), set o)
  · rw [congrArg Prod.fst eq]
    simp [blind]
  · exact iff_of_true (congrArg Prod.fst eq) ⟨k, o, sees⟩

lemma not_shows_of_setUp {err : Errno} (here : h.object? k = some o)
    (e : reply (h.onObject m fun o => (.ok (), set o)) = .done (.error err) h') :
    ¬h.shows m k := by
  intro shows
  cases (setUp_ok_iff e).2 ⟨k, o, under?_eq_some_iff.2 ⟨shows, here⟩⟩

end Host

namespace Stake

variable {c c' : Stake} {h h' : Host} {t : ThreadId} {r : Request} {a : r.Answer} {k : ObjectId}
  {o : Object} {m : MappingId} {f : FileId}

/-- A request that sets nothing up and takes nothing down leaves the parts of an object as they
are. -/
lemma IsAt.remake (isAt : c.IsAt o) (other : r.isAging = false) (t : ThreadId) :
    c.IsAt (r.remake t o) := by
  have mutex {x : Mutex} (e : x.life = o.mutex.life) : c.IsAt (o.withMutex x) :=
    ⟨fun ne => e.trans (isAt.mutex ne), isAt.condition⟩
  cases r with
  | resize | mutexInit | mutexDestroy | condInit | condDestroy => cases other
  | lock => exact mutex Mutex.lock_object_life
  | unlock => exact mutex Mutex.unlock_life
  | makeConsistent => exact mutex Mutex.makeConsistent_life
  | park =>
    have same := o.outline_park t
    exact ⟨fun ne => (congrArg Outline.mutex same).trans (isAt.mutex ne),
      fun ne => (congrArg Outline.condition same).trans (isAt.condition ne)⟩
  | awake =>
    simp only [Request.remake]
    split
    · exact isAt
    · exact mutex Mutex.lock_object_life
  | broadcast => exact ⟨isAt.mutex, isAt.condition⟩
  | storeSize | write | clear => exact ⟨isAt.mutex, isAt.condition⟩
  | _ => exact isAt

/-- The length of an object may be set as long as nothing in it has been set up, so that nothing is
lost. -/
lemma IsAt.resize (isAt : c.IsAt o) (mutex : c.mutex = .blank) (condition : c.condition = .blank)
    (len : Nat) : c.IsAt (o.resize len) := by
  have blank : o.mutex.life = .blank := mutex ▸ isAt.mutex (by simp [mutex])
  have blank' : o.condition.life = .blank := condition ▸ isAt.condition (by simp [condition])
  refine ⟨fun _ => ?_, fun _ => ?_⟩
  · rw [mutex]
    change (if _ then Mutex.blank else o.mutex).life = _
    split
    · rfl
    · exact blank
  · rw [condition]
    change (if _ then Condition.blank else o.condition).life = _
    split
    · rfl
    · exact blank'

lemma object?_eq_some_iff : c.object? = some k ↔ ∃ f, c.opened = some (f, k) := by
  simp [object?]

/-- A mapping in a stake shows the object that the stake is in. -/
lemma Fits.object?_of_shows (fits : c.Fits h) (has : c.Has (.mapping m)) (shows : h.shows m k) :
    c.object? = some k := by
  obtain ⟨len, mem⟩ := has
  obtain ⟨-, f, k', opened, known⟩ := fits.mapping m len mem
  obtain ⟨x, ex, here⟩ := (Option.any_eq_true ..).1 shows
  obtain rfl := known x ex
  obtain rfl := beq_iff_eq.1 here
  exact object?_eq_some_iff.2 ⟨f, opened⟩

/-- A file in a stake is open on the object that the stake is in. -/
lemma Fits.object?_of_file (fits : c.Fits h) (has : c.Has (.file f)) (opens : h.file? f = some k) :
    c.object? = some k := by
  obtain ⟨k', opened⟩ := has
  obtain ⟨-, -, known⟩ := fits.file f k' opened
  obtain rfl := known k opens
  exact object?_eq_some_iff.2 ⟨f, opened⟩

/-- What a party has set up through a mapping of its own is its object. -/
lemma Fits.shows_of_setUp {set : Object → Object} (fits : c.Fits h) (has : c.Has (.mapping m))
    (ek : c.object? = some k)
    (e : Host.reply (h.onObject m fun o => (.ok (), set o)) = .done (.ok ()) h') :
    h.shows m k := by
  obtain ⟨j, o, sees⟩ := (Host.setUp_ok_iff e).1 rfl
  have shows := (Host.under?_eq_some_iff.1 sees).1
  cases ek.symm.trans (fits.object?_of_shows has shows)
  exact shows

/-- What a party asks for is about the object that its stake is in. -/
lemma Fits.object?_of_isAbout (fits : c.Fits h) (has : ∀ ν, r.through? = some ν → c.Has ν)
    (about : h.isAbout k r) : c.object? = some k := by
  cases r with
  | resize f len => exact fits.object?_of_file (has _ rfl) (beq_iff_eq.1 about)
  | storeSize | write | clear | mutexInit | mutexDestroy | lock | unlock | makeConsistent
  | condInit | condDestroy | park | awake | broadcast =>
    exact fits.object?_of_shows (has _ rfl) about
  | _ => cases about

/-- A stake goes on to be as the host says with the same numbers, if what the party has done to its
object is as the host says. -/
lemma Fits.keep (fits : c.Fits h) (numbers : h.Numbers h')
    (objects : ∀ k < h.objects.length, k < h'.objects.length) (opened : c'.opened = c.opened)
    (mappings : c'.mappings = c.mappings) (made : c'.made = c.made)
    (parts : c.made → ∀ k o o', c.object? = some k → h.object? k = some o →
      h'.object? k = some o' → c.IsAt o → c'.IsAt o') : c'.Fits h' := by
  refine ⟨?_, ?_, ?_, ?_⟩
  · intro f k ek
    obtain ⟨old, here, known⟩ := fits.file f k (opened ▸ ek)
    refine ⟨Nat.lt_of_lt_of_le old numbers.files.more, objects k here, ?_⟩
    exact fun j ej => known j (numbers.files.same f old j ej)
  · intro m len mem
    obtain ⟨old, f, k, ek, known⟩ := fits.mapping m len (mappings ▸ mem)
    refine ⟨Nat.lt_of_lt_of_le old numbers.mappings.more, f, k, opened.trans ek, ?_⟩
    exact fun x ex => known x (numbers.mappings.same m old x ex)
  · intro mine f k o' ek here'
    rw [made] at mine
    rw [opened] at ek
    obtain ⟨-, lt, -⟩ := fits.file f k ek
    have here : h.object? k = some h.objects[k] := List.getElem?_eq_getElem lt
    exact parts mine k _ o' (object?_eq_some_iff.2 ⟨f, ek⟩) here here'
      (fits.parts mine f k _ ek here)
  · intro mine
    rw [made] at mine
    rw [mappings]
    exact fits.single mine

end Stake

namespace Host

variable {h h' : Host} {t : ThreadId} {r : Request} {a : r.Answer} {k : ObjectId} {o : Object}

/-- What an answered request makes of an object. -/
lemma object?_of_done (e : h.step t r = .done a h') (here : h.object? k = some o) :
    h'.object? k = some (if h.isAbout k r then r.remake t o else o) := by
  have stepped := object_step here t r
  rwa [e] at stepped

lemma objects_of_done (e : h.step t r = .done a h') :
    ∀ k < h.objects.length, k < h'.objects.length := by
  intro k lt
  have here : h.object? k = some h.objects[k] := List.getElem?_eq_getElem lt
  obtain ⟨lt', -⟩ := List.getElem?_eq_some_iff.1 (object?_of_done e here)
  exact lt'

end Host

/-- Parties with stakes that are as the host says, that share no number, and of which no two have
made the same object. -/
structure Stakeholders {ι : Type} (h : Host) (ρ : ι → Stake) : Prop where
  fits : ∀ i, (ρ i).Fits h
  apart : ∀ i j ν, (ρ i).Has ν → (ρ j).Has ν → i = j
  sole : ∀ i j k, (ρ i).made → (ρ j).made → (ρ i).object? = some k → (ρ j).object? = some k → i = j

namespace Stakeholders

variable {ι : Type} [DecidableEq ι] {h h' : Host} {ρ : ι → Stake} {i : ι} {c : Stake}
  {t : ThreadId} {r : Request} {a : r.Answer}

/-- A request that sets nothing up and takes nothing down leaves a stake as the host says. -/
lemma fits_of_not_isAging {c : Stake} (fits : c.Fits h) (other : r.isAging = false)
    (e : h.step t r = .done a h') : c.Fits h' := by
  refine fits.keep (Host.numbers_step e) (Host.objects_of_done e) rfl rfl rfl ?_
  intro _ k o o' _ here here' isAt
  cases here'.symm.trans (Host.object?_of_done e here)
  split
  · exact isAt.remake other t
  · exact isAt

/-- One party goes on with another stake. -/
lemma update (holders : Stakeholders h ρ) (others : ∀ j ≠ i, (ρ j).Fits h') (mine : c.Fits h')
    (gains : ∀ ν, c.Has ν → (ρ i).Has ν ∨ ∀ j, ¬(ρ j).Has ν)
    (makes : c.made → ∀ k, c.object? = some k →
      (ρ i).made ∧ (ρ i).object? = some k ∨ ∀ j, (ρ j).object? ≠ some k) :
    Stakeholders h' (Function.update ρ i c) := by
  have apart (j : ι) (ne : j ≠ i) (ν : Number) (has : c.Has ν) : ¬(ρ j).Has ν := by
    intro has'
    obtain old | new := gains ν has
    · exact ne (holders.apart j i ν has' old)
    · exact new j has'
  have sole (j : ι) (ne : j ≠ i) (k : ObjectId) (made : c.made) (ek : c.object? = some k)
      (made' : (ρ j).made) : (ρ j).object? ≠ some k := by
    intro ek'
    obtain ⟨old, eo⟩ | new := makes made k ek
    · exact ne (holders.sole j i k made' old ek' eo)
    · exact new j ek'
  refine ⟨?_, ?_, ?_⟩
  · intro j
    by_cases ej : j = i
    · subst ej
      rwa [update_self]
    · rw [update_of_ne ej]
      exact others j ej
  · intro j j' ν has has'
    by_cases ej : j = i <;> by_cases ej' : j' = i
    · rw [ej, ej']
    · subst ej
      rw [update_self] at has
      rw [update_of_ne ej'] at has'
      exact absurd has' (apart j' ej' ν has)
    · subst ej'
      rw [update_of_ne ej] at has
      rw [update_self] at has'
      exact absurd has (apart j ej ν has')
    · rw [update_of_ne ej] at has
      rw [update_of_ne ej'] at has'
      exact holders.apart j j' ν has has'
  · intro j j' k made made' ek ek'
    by_cases ej : j = i <;> by_cases ej' : j' = i
    · rw [ej, ej']
    · subst ej
      rw [update_self] at made ek
      rw [update_of_ne ej'] at made' ek'
      exact absurd ek' (sole j' ej' k made ek made')
    · subst ej'
      rw [update_of_ne ej] at made ek
      rw [update_self] at made' ek'
      exact absurd ek (sole j ej k made' ek' made)
    · rw [update_of_ne ej] at made ek
      rw [update_of_ne ej'] at made' ek'
      exact holders.sole j j' k made made' ek ek'

omit [DecidableEq ι] in
/-- Nobody has a file yet that is to be opened. -/
lemma not_has_file (holders : Stakeholders h ρ) (j : ι) : ¬(ρ j).Has (.file h.files.length) := by
  rintro ⟨k, opened⟩
  exact Nat.lt_irrefl _ ((holders.fits j).file _ k opened).1

omit [DecidableEq ι] in
/-- Nobody has a mapping yet that is to be made. -/
lemma not_has_mapping (holders : Stakeholders h ρ) (j : ι) :
    ¬(ρ j).Has (.mapping h.mappings.length) := by
  rintro ⟨len, mem⟩
  exact Nat.lt_irrefl _ ((holders.fits j).mapping _ len mem).1

omit [DecidableEq ι] in
lemma object?_lt (holders : Stakeholders h ρ) {j : ι} {k : ObjectId}
    (here : (ρ j).object? = some k) : k < h.objects.length := by
  obtain ⟨f, opened⟩ := Stake.object?_eq_some_iff.1 here
  exact ((holders.fits j).file f k opened).2.1

/-- A party opens a file, on an object that was there or on one that is new. -/
lemma start {k : ObjectId} {made : Bool} (holders : Stakeholders h ρ)
    (others : ∀ j, (ρ j).Fits h') (files : h'.files = h.files ++ [some k])
    (here : k < h'.objects.length)
    (new : made → k = h.objects.length ∧
      ∀ o, h'.object? k = some o → o.mutex.life = .blank ∧ o.condition.life = .blank) :
    Stakeholders h' (Function.update ρ i (.start h.files.length k made)) := by
  refine holders.update (fun j _ => others j) ⟨?_, nofun, ?_, nofun⟩ ?_ ?_
  · rintro _ _ ⟨⟩
    refine ⟨by simp [files], here, ?_⟩
    intro j ej
    simpa [Host.file?, files] using ej.symm
  · rintro mine _ _ o ⟨⟩ here'
    obtain ⟨mutex, condition⟩ := (new mine).2 o here'
    exact ⟨fun _ => mutex, fun _ => condition⟩
  · rintro (f | m) has
    · obtain ⟨_, ⟨⟩⟩ := has
      exact .inr holders.not_has_file
    · obtain ⟨_, ⟨⟩⟩ := has
  · rintro mine _ ⟨⟩
    refine .inr fun j there => ?_
    have lt := holders.object?_lt there
    rw [(new mine).1] at lt
    exact Nat.lt_irrefl _ lt

/-- A party maps the object that it has opened. -/
lemma map {f : FileId} {k : ObjectId} {len : Nat} (holders : Stakeholders h ρ)
    (others : ∀ j, (ρ j).Fits h') (opened : (ρ i).opened = some (f, k))
    (mappings : h'.mappings = h.mappings ++ [some ⟨k, len⟩])
    (first : (ρ i).made → (ρ i).mappings = []) :
    Stakeholders h' (Function.update ρ i
      { ρ i with mappings := (h.mappings.length, len) :: (ρ i).mappings }) := by
  have fits := others i
  refine holders.update (fun j _ => others j) ⟨fits.file, ?_, ?_, ?_⟩ ?_ fun made k ek =>
    .inl ⟨made, ek⟩
  · rintro m l (_ | ⟨_, mem⟩)
    · refine ⟨by simp [mappings], f, k, opened, ?_⟩
      intro x ex
      simpa [Host.mapping?, mappings] using ex.symm
    · exact fits.mapping m l mem
  · intro made f k o ek here
    obtain ⟨mutex, condition⟩ := fits.parts made f k o ek here
    exact ⟨mutex, condition⟩
  · intro made
    simp [first made]
  · rintro (f | m) has
    · exact .inl has
    · obtain ⟨_, _ | ⟨_, mem⟩⟩ := has
      · exact .inr holders.not_has_mapping
      · exact .inl ⟨_, mem⟩

/-- A party sets a part of its object up or takes it down, or sets the length of the object. -/
lemma age (holders : Stakeholders h ρ) (through : ∀ ν, r.through? = some ν → (ρ i).Has ν)
    (made : (ρ i).made) (e : h.step t r = .done a h') (opened : c.opened = (ρ i).opened)
    (mappings : c.mappings = (ρ i).mappings) (same : c.made = (ρ i).made)
    (parts : ∀ k o o', (ρ i).object? = some k → h.object? k = some o →
      o' = (if h.isAbout k r then r.remake t o else o) → (ρ i).IsAt o → c.IsAt o') :
    Stakeholders h' (Function.update ρ i c) := by
  have numbers := Host.numbers_step e
  have objects := Host.objects_of_done e
  have has {ν : Number} : c.Has ν ↔ (ρ i).Has ν := by
    cases ν <;> simp [Stake.Has, opened, mappings]
  refine holders.update ?_ ?_ (fun ν mine => .inl (has.1 mine)) ?_
  · intro j ne
    refine (holders.fits j).keep numbers objects rfl rfl rfl ?_
    intro made' k o o' ek here here' isAt
    -- Nobody else has made the object that the request is about.
    have other : ¬h.isAbout k r := by
      intro about
      have mine := (holders.fits i).object?_of_isAbout through about
      exact ne (holders.sole j i k made' made ek mine)
    cases here'.symm.trans (Host.object?_of_done e here)
    rwa [if_neg other]
  · refine (holders.fits i).keep numbers objects opened mappings same ?_
    intro _ k o o' ek here here' isAt
    cases here'.symm.trans (Host.object?_of_done e here)
    exact parts k o _ ek here rfl isAt
  · intro _ k ek
    refine .inl ⟨made, ?_⟩
    rwa [Stake.object?, opened] at ek

/-- A party that keeps to the protocol goes on as it says with every answer, and takes nothing from
the stakes of the others. -/
theorem answer (holders : Stakeholders h ρ) (may : (ρ i).Permits r) (e : h.step t r = .done a h') :
    Stakeholders h' (Function.update ρ i ((ρ i).next ((h.ledger.opens? r a).getD 0) r a)) := by
  have st := Host.ledger_step e
  have unchanged (other : r.isAging = false) : Stakeholders h' (Function.update ρ i (ρ i)) := by
    rw [update_eq_self]
    exact ⟨fun j => fits_of_not_isAging (holders.fits j) other e, holders.apart, holders.sole⟩
  cases r with
  | openNew n mode =>
    obtain ⟨err, rfl, -⟩ | ⟨rfl, grown⟩ := st
    · exact unchanged rfl
    · have outlines := congrArg Ledger.outlines grown
      have length : h.ledger.outlines.length = h.objects.length := by simp [Host.ledger]
      have count : h'.objects.length = h.objects.length + 1 := by
        simpa [Host.ledger] using congrArg List.length outlines
      refine holders.start (fun j => fits_of_not_isAging (holders.fits j) rfl e) ?_ ?_ ?_
      · exact congrArg Ledger.files grown
      · simp [Ledger.opens?, length, count]
      · refine fun _ => ⟨length, ?_⟩
        intro o here
        have shape := Host.outline?_of_object here
        have blank : h'.ledger.outline? h.ledger.outlines.length = some .blank := by
          rw [Ledger.outline?, outlines]
          simp
        have same := Option.some.inj (shape.symm.trans blank)
        exact ⟨congrArg Outline.mutex same, congrArg Outline.condition same⟩
  | openExisting n =>
    obtain ⟨err, rfl, -⟩ | ⟨k, y, bound, here, rfl, grown⟩ := st
    · exact unchanged rfl
    · have opens : (h.ledger.bound? n).getD 0 = k := by
        simp [bound]
      refine holders.start (fun j => fits_of_not_isAging (holders.fits j) rfl e) ?_ ?_ ?_
      · exact (congrArg Ledger.files grown).trans (congrArg (h.files ++ [some ·]) opens.symm)
      · change (h.ledger.bound? n).getD 0 < _
        rw [opens]
        rw [Host.ledger_outline?] at here
        obtain ⟨o, here, -⟩ := Option.map_eq_some_iff.1 here
        obtain ⟨lt, -⟩ := List.getElem?_eq_some_iff.1 (Host.object?_of_done e here)
        exact lt
      · rintro ⟨⟩
  | map f len =>
    obtain ⟨err, rfl, -⟩ | ⟨k, y, opened, rfl, grown⟩ := st
    · exact unchanged rfl
    · obtain ⟨k', mine⟩ := may.through _ rfl
      obtain ⟨j, ej, ey⟩ := Option.bind_eq_some_iff.1 opened
      obtain ⟨_, -, ⟨⟩⟩ := Option.map_eq_some_iff.1 ey
      obtain rfl := ((holders.fits i).file f k' mine).2.2 k ej
      exact holders.map (fun j => fits_of_not_isAging (holders.fits j) rfl e) mine
        (congrArg Ledger.mappings grown) may.further
  | resize f len =>
    obtain ⟨made, mutex, condition⟩ := may.further
    rw [Stake.next_resize]
    refine holders.age may.through made e rfl rfl rfl ?_
    rintro k o _ - - rfl isAt
    split
    · exact isAt.resize mutex condition len
    · exact isAt
  | mutexInit m =>
    have made := may.further.1
    cases a with
    | error err =>
      refine holders.age may.through made e rfl rfl rfl ?_
      rintro k o _ - here rfl isAt
      rwa [if_neg (show ¬h.isAbout k (.mutexInit m) from Host.not_shows_of_setUp here e)]
    | ok =>
      refine holders.age may.through made e rfl rfl rfl ?_
      rintro k o _ ek - rfl isAt
      have shows := (holders.fits i).shows_of_setUp (may.through _ rfl) ek e
      rw [if_pos (show h.isAbout k (.mutexInit m) from shows)]
      exact ⟨fun _ => rfl, isAt.condition⟩
  | condInit m =>
    have made := may.further.1
    cases a with
    | error err =>
      refine holders.age may.through made e rfl rfl rfl ?_
      rintro k o _ - here rfl isAt
      rwa [if_neg (show ¬h.isAbout k (.condInit m) from Host.not_shows_of_setUp here e)]
    | ok =>
      refine holders.age may.through made e rfl rfl rfl ?_
      rintro k o _ ek - rfl isAt
      have shows := (holders.fits i).shows_of_setUp (may.through _ rfl) ek e
      rw [if_pos (show h.isAbout k (.condInit m) from shows)]
      exact ⟨isAt.mutex, fun _ => rfl⟩
  | mutexDestroy m =>
    have made := may.further.1
    have down : (ρ i).next ((h.ledger.opens? (.mutexDestroy m) a).getD 0) (.mutexDestroy m) a =
        { ρ i with mutex := .destroyed } := by
      cases a <;> rfl
    rw [down]
    refine holders.age may.through made e rfl rfl rfl ?_
    rintro k o _ - - rfl isAt
    refine ⟨fun ne => absurd rfl ne, ?_⟩
    split <;> exact isAt.condition
  | condDestroy m =>
    have made := may.further.1
    have down : (ρ i).next ((h.ledger.opens? (.condDestroy m) a).getD 0) (.condDestroy m) a =
        { ρ i with condition := .destroyed } := by
      cases a <;> rfl
    rw [down]
    refine holders.age may.through made e rfl rfl rfl ?_
    rintro k o _ - - rfl isAt
    refine ⟨?_, fun ne => absurd rfl ne⟩
    split <;> exact isAt.mutex
  | _ => exact unchanged rfl

end Stakeholders
end SharedSegment
