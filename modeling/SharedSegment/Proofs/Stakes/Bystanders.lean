import SharedSegment.Proofs.Stakes.Discarding
import SharedSegment.Proofs.Stakes.Forgiving
import SharedSegment.Proofs.Stakes.Newcomers

/-!
# Hosts on which others are at work

Two hosts that agree on an object and on the numbers that lead there go on to agree while others ask
one of them for whatever is about other objects and goes through other numbers; these only use up
numbers that are given next (`Host.AgreesOn.elsewhere`). Where the hosts differ in names, they
answer alike but for taking a name away, which makes no difference to whoever is past opening
(`Host.Matches.mirror`).
-/

namespace SharedSegment
open Function Program

/-- A host on which some numbers were given to others, and given back. -/
def Host.skip (h : Host) (i j : Nat) : Host :=
  { h with
    files := h.files ++ List.replicate i none
    mappings := h.mappings ++ List.replicate j none }

/-- The same names stand for directories. -/
def Store.HasDirectoriesOf (s s' : Store) : Prop :=
  ∀ n, s.place n = .directory ↔ s'.place n = .directory

namespace Store

variable {s s' s'' : Store} {n : Name}

lemma HasDirectoriesOf.symm (same : s.HasDirectoriesOf s') : s'.HasDirectoriesOf s :=
  fun n => (same n).symm

lemma HasDirectoriesOf.trans (same : s.HasDirectoriesOf s') (same' : s'.HasDirectoriesOf s'') :
    s.HasDirectoriesOf s'' :=
  fun n => (same n).trans (same' n)

/-- What becomes of a name that stands for no directory is no matter of directories. -/
lemma hasDirectoriesOf_of_file {x y : Option Binding} (before : s.place n = .file x)
    (after : s'.place n = .file y) (others : ∀ f ≠ n.file, s'.get? f = s.get? f) :
    s'.HasDirectoriesOf s := by
  intro n'
  by_cases same : n'.file = n.file
  · obtain rfl := Name.file_injective same
    rw [before, after]
    exact iff_of_false nofun nofun
  · rw [place_congr (others n'.file same)]

end Store

namespace Host

variable {N N' : Number → Prop} {K : ObjectId → Prop} {h h' g : Host} {t : ThreadId} {r : Request}
  {a : r.Answer} {m : MappingId} {f : FileId} {i j : Nat}

lemma join_append_replicate {α : Type} (l : List (Option α)) (i k : Nat) :
    (l ++ List.replicate i none)[k]?.join = l[k]?.join := by
  obtain lt | le := Nat.lt_or_ge k l.length
  · rw [List.getElem?_append_left lt]
  · rw [List.getElem?_append_right le, List.getElem?_eq_none le, List.getElem?_replicate]
    split <;> rfl

@[simp] lemma file?_skip : (h.skip i j).file? f = h.file? f :=
  join_append_replicate ..

@[simp] lemma mapping?_skip : (h.skip i j).mapping? m = h.mapping? m :=
  join_append_replicate ..

@[simp] lemma object?_skip {k : ObjectId} : (h.skip i j).object? k = h.object? k := rfl

@[simp] lemma store_skip : (h.skip i j).store = h.store := rfl

@[simp] lemma skip_zero : h.skip 0 0 = h := by
  simp [skip]

/-- Requests make no directory and take none away. -/
theorem directories_step (e : h.step t r = .done a h') :
    h'.store.HasDirectoriesOf h.store := by
  cases rebinds_step e with
  | made free =>
    exact Store.hasDirectoriesOf_of_file free (Store.place_insert free) fun _ ne =>
      Store.get?_insert_of_ne ne
  | refused => exact fun _ => .rfl
  | taken there =>
    exact Store.hasDirectoriesOf_of_file there (Store.place_erase there) fun _ ne =>
      Store.get?_erase_of_ne ne
  | kept _ _ same =>
    rw [same]
    exact fun _ => .rfl

/-- A file stays open on what it is open on until it is closed. -/
lemma file?_step (e : h.step t r = .done a h') (old : f < h.files.length)
    (spared : r ≠ .close f) : h'.file? f = h.file? f := by
  have grown {x : Option ObjectId} (files : h'.files = h.files ++ [x]) :
      h'.file? f = h.file? f := by
    rw [file?, file?, files, List.getElem?_append_left old]
  have same (files : h'.files = h.files) : h'.file? f = h.file? f := by
    rw [file?, file?, files]
  have st := ledger_step e
  cases tabled : r.isTabled with
  | false =>
    have tables := sameTables_step (h := h) (t := t) tabled
    rw [e] at tables
    exact same tables.2.1
  | true =>
    cases r with
    | openNew n mode =>
      obtain ⟨err, -, eq⟩ | ⟨-, eq⟩ := st
      · exact same (congrArg Ledger.files eq)
      · exact grown (congrArg Ledger.files eq)
    | openExisting n =>
      obtain ⟨err, -, eq⟩ | ⟨k, y, -, -, -, eq⟩ := st
      · exact same (congrArg Ledger.files eq)
      · exact grown (congrArg Ledger.files eq)
    | unlink n =>
      obtain ⟨err, -, eq⟩ | ⟨-, eq⟩ := st <;> exact same (congrArg Ledger.files eq)
    | map f len =>
      obtain ⟨err, -, -, eq⟩ | ⟨k, y, -, -, eq⟩ := st <;> exact same (congrArg Ledger.files eq)
    | unmap m => exact same (congrArg Ledger.files st.2)
    | close f' =>
      cases e
      have ne : f' ≠ f := by
        rintro rfl
        exact spared rfl
      simp only [file?, join_set, if_neg ne]
    | _ => cases tabled

/-- A mapping stays what it is until it is unmapped. -/
lemma mapping?_step (e : h.step t r = .done a h') (old : m < h.mappings.length)
    (spared : r ≠ .unmap m) : h'.mapping? m = h.mapping? m := by
  have same (mappings : h'.mappings = h.mappings) : h'.mapping? m = h.mapping? m := by
    rw [mapping?, mapping?, mappings]
  have st := ledger_step e
  cases tabled : r.isTabled with
  | false =>
    have tables := sameTables_step (h := h) (t := t) tabled
    rw [e] at tables
    exact same tables.2.2
  | true =>
    cases r with
    | openNew n mode =>
      obtain ⟨err, -, eq⟩ | ⟨-, eq⟩ := st <;> exact same (congrArg Ledger.mappings eq)
    | openExisting n =>
      obtain ⟨err, -, eq⟩ | ⟨k, y, -, -, -, eq⟩ := st <;>
        exact same (congrArg Ledger.mappings eq)
    | unlink n =>
      obtain ⟨err, -, eq⟩ | ⟨-, eq⟩ := st <;> exact same (congrArg Ledger.mappings eq)
    | map f len =>
      obtain ⟨err, -, -, eq⟩ | ⟨k, y, -, -, eq⟩ := st
      · exact same (congrArg Ledger.mappings eq)
      · have mappings : h'.mappings = h.mappings ++ [some ⟨k, len⟩] :=
          congrArg Ledger.mappings eq
        rw [mapping?, mapping?, mappings, List.getElem?_append_left old]
    | close f => exact same (congrArg Ledger.mappings st)
    | unmap m' =>
      cases e
      have ne : m' ≠ m := by
        rintro rfl
        exact spared rfl
      simp only [mapping?, join_set, if_neg ne]
    | _ => cases tabled

namespace AgreesOn

lemma mono (agrees : h.AgreesOn N K g) (fewer : ∀ ν, N' ν → N ν) : h.AgreesOn N' K g where
  files f known := agrees.files f (fewer _ known)
  mappings m known := agrees.mappings m (fewer _ known)
  objects := agrees.objects
  opened f k known := agrees.opened f k (fewer _ known)
  mapped m x known := agrees.mapped m x (fewer _ known)
  filesCount := agrees.filesCount
  mappingsCount := agrees.mappingsCount

/-- Hosts that give the same numbers next agree on all numbers that were not given yet. -/
lemma widen (agrees : h.AgreesOn N K g) : h.AgreesOn (fun ν => N ν ∨ ¬h.HasGiven ν) K g := by
  have file {f : FileId} (new : ¬f < h.files.length) : h.file? f = none ∧ g.file? f = none := by
    have le := Nat.le_of_not_lt new
    exact ⟨by rw [file?, List.getElem?_eq_none le]; rfl,
      by rw [file?, List.getElem?_eq_none (agrees.filesCount ▸ le)]; rfl⟩
  have mapping {m : MappingId} (new : ¬m < h.mappings.length) :
      h.mapping? m = none ∧ g.mapping? m = none := by
    have le := Nat.le_of_not_lt new
    exact ⟨by rw [mapping?, List.getElem?_eq_none le]; rfl,
      by rw [mapping?, List.getElem?_eq_none (agrees.mappingsCount ▸ le)]; rfl⟩
  refine ⟨?_, ?_, agrees.objects, ?_, ?_, agrees.filesCount, agrees.mappingsCount⟩
  · rintro f (known | new)
    · exact agrees.files f known
    · exact (file new).2.trans (file new).1.symm
  · rintro m (known | new)
    · exact agrees.mappings m known
    · exact (mapping new).2.trans (mapping new).1.symm
  · rintro f k (known | new) opened
    · exact agrees.opened f k known opened
    · cases (file new).1.symm.trans opened
  · rintro m x (known | new) mapped
    · exact agrees.mapped m x known mapped
    · cases (mapping new).1.symm.trans mapped

lemma bury (agrees : h.AgreesOn N K g) (t : ThreadId) : (h.bury t).AgreesOn N K (g.bury t) where
  files := agrees.files
  mappings := agrees.mappings
  objects k kept := by
    change (g.objects.map _)[k]? = (h.objects.map _)[k]?
    rw [List.getElem?_map, List.getElem?_map]
    exact congrArg (Option.map _) (agrees.objects k kept)
  opened := agrees.opened
  mapped := agrees.mapped
  filesCount := agrees.filesCount
  mappingsCount := agrees.mappingsCount

lemma withStore (agrees : h.AgreesOn N K g) (s s' : Store) :
    AgreesOn N K { h with store := s } { g with store := s' } where
  files := agrees.files
  mappings := agrees.mappings
  objects := agrees.objects
  opened := agrees.opened
  mapped := agrees.mapped
  filesCount := agrees.filesCount
  mappingsCount := agrees.mappingsCount

/-- Whatever opens nothing and takes no name away is answered alike. -/
lemma step_plain (agrees : h.AgreesOn N K g) (t : ThreadId) (opens : r.opens? = none)
    (spared : ∀ n, r ≠ .unlink n) (known : ∀ ν, r.through? = some ν → N ν) :
    (h.step t r).Like (AgreesOn N K) (g.step t r) := by
  cases through : r.through? with
  | some ν => exact agrees.step t through (known ν through)
  | none =>
    cases r with
    | mutexattrInit | mutexattrSetpshared | mutexattrSetrobust | mutexattrSettype
    | mutexattrDestroy | condattrInit | condattrSetclock | condattrSetpshared
    | condattrDestroy => exact .done agrees
    | hold => exact .wait agrees
    | openNew | openExisting => cases opens
    | unlink n => exact absurd rfl (spared n)
    | _ => cases through

/-- What others do to a host leaves it to agree with another, on which the numbers that they are
given are skipped. -/
lemma elsewhere (agrees : h.AgreesOn N K (g.skip i j)) (numbers : h.Numbers h')
    (files : ∀ f, N (.file f) → h'.file? f = h.file? f)
    (mappings : ∀ m, N (.mapping m) → h'.mapping? m = h.mapping? m)
    (objects : ∀ k, K k → h'.object? k = h.object? k) :
    ∃ i j, h'.AgreesOn N K (g.skip i j) := by
  have filesCount : g.files.length + i = h.files.length := by
    simpa [skip] using agrees.filesCount
  have mappingsCount : g.mappings.length + j = h.mappings.length := by
    simpa [skip] using agrees.mappingsCount
  have more := numbers.files.more
  have more' := numbers.mappings.more
  refine ⟨h'.files.length - g.files.length, h'.mappings.length - g.mappings.length, ?_⟩
  refine ⟨?_, ?_, ?_, ?_, ?_, ?_, ?_⟩
  · intro f known
    rw [files f known, ← agrees.files f known, file?_skip, file?_skip]
  · intro m known
    rw [mappings m known, ← agrees.mappings m known, mapping?_skip, mapping?_skip]
  · intro k kept
    rw [objects k kept, ← agrees.objects k kept, object?_skip, object?_skip]
  · intro f k known opened
    exact agrees.opened f k known (files f known ▸ opened)
  · intro m x known mapped
    exact agrees.mapped m x known (mappings m known ▸ mapped)
  · simp only [skip, List.length_append, List.length_replicate]
    omega
  · simp only [skip, List.length_append, List.length_replicate]
    omega

end AgreesOn
end Host

/-- Two hosts agree on an object and on some numbers that lead there, but for numbers that were given
to others, and they have the same directories. -/
structure Host.Matches (N : Number → Prop) (k : ObjectId) (h g : Host) : Prop where
  agrees : ∃ i j, h.AgreesOn N (· = k) (g.skip i j)
  directories : g.store.HasDirectoriesOf h.store

/-- Two moves are the same, but for an answer to taking a name away that makes no difference. -/
inductive Move.Alike : Move → Move → Prop where
  | same {m} :
    Alike m m
  | excused {r a a'} :
    r.Excuses a a' →
    Alike (.answered r a) (.answered r a')

namespace Host.Matches

variable {α : Type} {N N' : Number → Prop} {k : ObjectId} {h h' g : Host} {t : ThreadId}
  {r : Request} {a : r.Answer} {p p' : Program α} {m : Move} {c : Stake}

lemma mono (like : h.Matches N k g) (fewer : ∀ ν, N' ν → N ν) : h.Matches N' k g := by
  obtain ⟨i, j, agrees⟩ := like.agrees
  exact ⟨⟨i, j, agrees.mono fewer⟩, like.directories⟩

lemma bury (like : h.Matches N k g) (t : ThreadId) : (h.bury t).Matches N k (g.bury t) := by
  obtain ⟨i, j, agrees⟩ := like.agrees
  exact ⟨⟨i, j, agrees.bury t⟩, like.directories⟩

/-- What others do leaves two hosts to match. -/
lemma elsewhere (like : h.Matches N k g) (st : p.Step t h m p' h')
    (there : k < h.objects.length) (given : ∀ ν, N ν → h.HasGiven ν)
    (other : ∀ r next ν, p = .ask r next → r.through? = some ν → ¬N ν)
    (about : ∀ r next, p = .ask r next → ¬h.isAbout k r) : h'.Matches N k g := by
  obtain ⟨i, j, agrees⟩ := like.agrees
  have here : h.object? k = some h.objects[k] := List.getElem?_eq_getElem there
  cases st with
  | tell | strike => exact like
  | @answer r next _ a _ e =>
    refine ⟨agrees.elsewhere (numbers_step e) ?_ ?_ ?_,
      like.directories.trans (directories_step e).symm⟩
    · intro f known
      refine file?_step e (given _ known) ?_
      rintro rfl
      exact other _ _ _ rfl rfl known
    · intro m known
      refine mapping?_step e (given _ known) ?_
      rintro rfl
      exact other _ _ _ rfl rfl known
    · rintro _ rfl
      rw [object?_of_done e here, if_neg (about r next rfl), here]
  | @wait r next _ _ e =>
    have same := ledger_wait e
    have files : h'.files = h.files := congrArg Ledger.files same
    have mappings : h'.mappings = h.mappings := congrArg Ledger.mappings same
    have store : h'.store = h.store := congrArg Ledger.store same
    refine ⟨agrees.elsewhere (.of_tables files mappings) ?_ ?_ ?_, store ▸ like.directories⟩
    · intro f _
      rw [file?, file?, files]
    · intro m _
      rw [mapping?, mapping?, mappings]
    · rintro _ rfl
      have stepped := object_step here t r
      rw [e, if_neg (about r next rfl)] at stepped
      exact stepped.trans here.symm

/-- Where two hosts have the same directories, it makes no difference on which of them a name is
taken away. -/
lemma unlink_excuses {n : Name} (same : g.store.HasDirectoriesOf h.store) :
    Request.Excuses (.unlink n) (h.unlink n).1 (g.unlink n).1 := by
  have told (h : Host) : (h.store.place n = .directory ∧ (h.unlink n).1 = .error .eisdir) ∨
      h.store.place n ≠ .directory ∧
        ((h.unlink n).1 = .ok () ∨ (h.unlink n).1 = .error .enoent) := by
    unfold unlink
    cases h.store.place n with
    | nested => exact .inr ⟨nofun, .inr rfl⟩
    | directory => exact .inl ⟨rfl, rfl⟩
    | file bound =>
      cases bound with
      | none => exact .inr ⟨nofun, .inr rfl⟩
      | some => exact .inr ⟨nofun, .inl rfl⟩
  obtain ⟨here, e⟩ | ⟨other, gone⟩ := told h <;> obtain ⟨here', e'⟩ | ⟨other', gone'⟩ := told g
  · exact .inl (e.trans e'.symm)
  · exact absurd ((same n).2 here) other'
  · exact absurd ((same n).1 here') other
  · exact .inr ⟨gone, gone'⟩

lemma unlink_eq (h : Host) (n : Name) :
    (h.unlink n).2 = { h with store := (h.unlink n).2.store } := by
  unfold unlink
  split <;> rfl

/-- Whoever is past opening an object makes the same step on a host that matches. -/
theorem mirror (like : h.Matches N k g) (st : p.Step t h m p' h') (forgives : p.Forgives true)
    (opens : ∀ r next, p = .ask r next → r.opens? = none)
    (known : ∀ r next ν, p = .ask r next → r.through? = some ν → N ν) :
    ∃ i j m' g', p.Step t (g.skip i j) m' p' g' ∧ m.Alike m' ∧
      h'.Matches (fun ν => N ν ∨ ¬h.HasGiven ν) k g' := by
  obtain ⟨i, j, agrees⟩ := like.agrees
  have agrees := agrees.widen
  have matches' {h' g' : Host} (agrees : h'.AgreesOn (fun ν => N ν ∨ ¬h.HasGiven ν) (· = k) g')
      (directories : g'.store.HasDirectoriesOf h'.store) :
      h'.Matches (fun ν => N ν ∨ ¬h.HasGiven ν) k g' :=
    ⟨⟨0, 0, by rwa [skip_zero]⟩, directories⟩
  refine ⟨i, j, ?_⟩
  cases st with
  | tell => exact ⟨_, _, .tell, .same, matches' agrees like.directories⟩
  | strike er => exact ⟨_, _, .strike er, .same, matches' agrees like.directories⟩
  | @wait r next _ _ e =>
    have spared n : r ≠ .unlink n := by
      rintro rfl
      cases e
    have reply := agrees.step_plain t (opens r next rfl) spared fun ν through =>
      .inl (known r next ν rfl through)
    rw [e] at reply
    cases reply' : (g.skip i j).step t r with
    | done =>
      rw [reply'] at reply
      cases reply
    | wait g' =>
      rw [reply'] at reply
      cases reply with
      | wait agrees =>
        have stores : g'.store = g.store := congrArg Ledger.store (ledger_wait reply')
        have stores' : h'.store = h.store := congrArg Ledger.store (ledger_wait e)
        exact ⟨_, g', .wait reply', .same, matches' agrees (by
          rw [stores, stores']
          exact like.directories)⟩
  | @answer r next _ a _ e =>
    by_cases names : ∃ n, r = .unlink n
    · obtain ⟨n, rfl⟩ := names
      cases e
      have excused := unlink_excuses (g := g.skip i j) (n := n) like.directories
      have same : next ((g.skip i j).unlink n).1 = next (h.unlink n).1 :=
        (forgives.1 rfl _ _ excused).symm
      have kept := agrees.withStore (h.unlink n).2.store ((g.skip i j).unlink n).2.store
      rw [← unlink_eq, ← unlink_eq] at kept
      have told : (h.step t (.unlink n)) = .done (h.unlink n).1 (h.unlink n).2 := rfl
      have told' : (g.skip i j).step t (.unlink n) =
        .done ((g.skip i j).unlink n).1 ((g.skip i j).unlink n).2 := rfl
      refine ⟨_, _, same ▸ .answer told', .excused excused, matches' kept ?_⟩
      exact (directories_step told').trans (like.directories.trans (directories_step told).symm)
    · have reply := agrees.step_plain t (opens r next rfl) (fun n en => names ⟨n, en⟩)
        fun ν through => .inl (known r next ν rfl through)
      rw [e] at reply
      cases reply' : (g.skip i j).step t r with
      | wait =>
        rw [reply'] at reply
        cases reply
      | done a' g' =>
        rw [reply'] at reply
        cases reply with
        | done agrees =>
          refine ⟨_, g', .answer reply', .same, matches' agrees ?_⟩
          exact (directories_step reply').trans
            (like.directories.trans (directories_step e).symm)

end Host.Matches
end SharedSegment
