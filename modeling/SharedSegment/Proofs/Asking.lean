import SharedSegment.Facade
import SharedSegment.Proofs.Preparing

/-!
# What segments ask for

Which requests the programs on a segment can make, whatever the answers are: those that use it
(`Segment.asks_lock` and its likes, each by the requests that it makes through the mapping of the
handle), `Segment.asks_destroy`, `Segment.asks_create` and `Segment.asks_attach`. A party whose
state these requests leave as it is stays in that state throughout (`Program.Asks.keeps`).
-/

namespace SharedSegment
open Header Program

/-- Whether a request is made when synchronization objects are set up. -/
def Request.isPreparing : Request → Bool
  | .storeSize .. | .mutexInit .. | .mutexDestroy .. | .condInit .. => true
  | r => r ∈ attributeRequests

/-- Whether a request is made when the segment in an open file is measured and mapped. -/
def Request.isMeasuring : Request → Bool
  | .length .. | .map .. | .loadSize .. | .unmap .. => true
  | _ => false

/-- Whether a request is made when a segment is looked for. -/
def Request.isFinding : Request → Bool
  | .openExisting .. | .length .. | .map .. | .loadSize .. | .unmap .. | .close .. | .pin .. => true
  | _ => false

/-- A request is made when a handle is torn down. -/
def Segment.Tears (s : Segment) : Request → Prop
  | .broadcast m | .condDestroy m | .mutexDestroy m =>
    s.role = .creator ∧ s.ownsSync ∧ s.mapping = some m
  | .unmap m => s.mapping = some m
  | .close f => s.file = some f
  | .unlink n => s.role = .creator ∧ s.file.isSome ∧ s.name = n
  | _ => False

/-- A request is made when a segment is made under a name. -/
def Name.Makes (n : Name) : Request → Prop
  | .openNew n' _ | .unlink n' => n' = n
  | .resize .. | .map .. | .unmap .. | .close .. | .pin .. => True
  | r => r.isPreparing

/-- A request is made when a segment is looked for under a name. -/
def Name.Finds (n : Name) : Request → Prop
  | .openExisting n' => n' = n
  | r => r.isFinding

/-- A program ends in the state in which it has begun. -/
abbrev Program.Keeps {α σ : Type} (P : Protocol σ) (s : σ) (p : Program α) : Prop :=
  p.Ensures P (fun _ s' => s' = s) s

section
variable {α σ : Type} {ok : Request → Prop}

/-- A party whose state no request changes that a program asks for stays in that state. -/
lemma Program.Ensures.of_asking {P : Protocol σ} {s : σ} {post : α → Prop} {p : Program α}
    (en : p.Ensures (.asking ok) (fun a _ => post a) ()) (quiet : ∀ o, P.tells s o = s)
    (spared : ∀ r, ok r → P.Permits s r ∧ ∀ a s', P.Answers s r a s' → s' = s) :
    p.Ensures P (fun a s' => post a ∧ s' = s) s := by
  induction p with
  | ret a => exact ⟨en, rfl⟩
  | put o rest ih =>
    rw [ensures_put, quiet]
    exact ih en
  | ask r next ih =>
    refine ⟨(spared r en.1).1, ?_⟩
    intro a s' ans
    obtain rfl := (spared r en.1).2 a s' ans
    exact ih a (en.2 a () trivial)

lemma Program.Asks.keeps {P : Protocol σ} {s : σ} {p : Program α} (asks : p.Asks ok)
    (quiet : ∀ o, P.tells s o = s)
    (spared : ∀ r, ok r → P.Permits s r ∧ ∀ a s', P.Answers s r a s' → s' = s) :
    p.Keeps P s :=
  (Ensures.of_asking asks quiet spared).mono fun _ _ ends => ends.2

lemma Program.Asks.keeps_asking {p : Program α} (asks : p.Asks ok) : p.Keeps (.asking ok) () :=
  Ensures.mono (fun _ _ _ => rfl) asks

lemma asks_logFailure (r : Except Errno Unit) (e : Errno → Event) :
    (Program.logFailure r e).Asks ok := by
  cases r with
  | ok => exact asks_ret ()
  | error errno => exact asks_put (asks_ret ())

lemma asks_checked {p : Program (Except Errno Unit)} (call : Call) (asks : p.Asks ok) :
    (checked call p).run.Asks ok := by
  refine asks.bind ?_
  intro r
  cases r with
  | ok => exact asks_ret _
  | error e => exact asks_ret _

end

section
variable {ok : Request → Prop} {m : MappingId} {s : Segment}

lemma asks_acquired (call : Call) (r : Except Errno Unit) (may : ok (.makeConsistent m)) :
    (acquired m call r).Asks ok := by
  cases r with
  | ok => exact asks_ret _
  | error e =>
    by_cases died : e = .eownerdead
    · rw [acquired, if_pos died]
      refine asks_ask may ?_
      intro a
      exact (asks_logFailure a _).bind fun _ => asks_ret _
    · rw [acquired, if_neg died]
      exact asks_ret _

lemma asks_headerLock (locks : ok (.lock m)) (may : ok (.makeConsistent m)) :
    (Header.lock m).Asks ok :=
  asks_ask locks fun a => asks_acquired _ a may

lemma asks_headerWait (parks : ok (.park m)) (wakes : ok (.awake m))
    (may : ok (.makeConsistent m)) : (Header.wait m).Asks ok := by
  refine asks_ask parks ?_
  intro a
  cases a with
  | ok => exact asks_ask wakes fun a => asks_acquired .condWait a may
  | error e => exact asks_acquired .condWait (.error e) may

lemma asks_headerDestroy (wakes : ok (.broadcast m)) (first : ok (.condDestroy m))
    (second : ok (.mutexDestroy m)) : (Header.destroy m).Asks ok :=
  (asks_checked _ (asks_request wakes)).bind fun _ =>
    (asks_checked _ (asks_request first)).bind fun _ =>
      (asks_checked _ (asks_request second)).bind fun _ => asks_ret _

lemma asks_settle (died : Event) (r : Except SyncFailure LockStatus) :
    (s.settle died r).Asks ok := by
  cases r with
  | ok status =>
    cases status with
    | acquired => exact asks_ret _
    | ownerDied => exact asks_put (asks_ret _)
    | unavailable => exact asks_ret _
  | error f => exact asks_put (asks_ret _)

lemma asks_report (r : Except SyncFailure Unit) : (s.report r).Asks ok := by
  cases r with
  | ok => exact asks_ret _
  | error f => exact asks_put (asks_ret _)

lemma asks_prepare (m : MappingId) (size : UInt32) :
    (Header.prepare m size).Asks fun r => r.isPreparing := by
  have attributes : ∀ r ∈ attributeRequests,
      (Protocol.asking fun r => r.isPreparing).Spares r := by
    have asked : ∀ r ∈ attributeRequests, r.isPreparing := by decide
    exact fun r mem _ => ⟨asked r mem, fun _ _ _ => rfl⟩
  have setsUp (a : Except Errno Unit) : SetsUp () () a () := by
    cases a with
    | ok => exact .inr ⟨rfl, rfl⟩
    | error e => exact .inl ⟨⟨e, rfl⟩, rfl⟩
  exact Header.ensures_prepare_of_parts attributes ⟨rfl, fun a _ _ => setsUp a⟩
    ⟨rfl, fun a _ _ => setsUp a⟩ ⟨rfl, fun _ _ _ => trivial⟩ ⟨rfl, fun _ _ _ _ => trivial⟩
    fun _ => trivial

end

namespace Segment

section
variable (s : Segment) {ok : Request → Prop}

lemma asks_lock (may : ∀ m, s.mapping = some m → ok (.lock m) ∧ ok (.makeConsistent m)) :
    s.lock.Asks ok := by
  unfold lock
  cases em : s.mapping with
  | none => exact asks_ret _
  | some m => exact (asks_headerLock (may m em).1 (may m em).2).bind (asks_settle _)

lemma asks_unlock (may : ∀ m, s.mapping = some m → ok (.unlock m)) : s.unlock.Asks ok := by
  unfold unlock
  cases em : s.mapping with
  | none => exact asks_ret _
  | some m => exact (asks_checked _ (asks_request (may m em))).bind asks_report

lemma asks_waitLocked
    (may : ∀ m, s.mapping = some m → ok (.park m) ∧ ok (.awake m) ∧ ok (.makeConsistent m)) :
    s.waitLocked.Asks ok := by
  unfold waitLocked
  cases em : s.mapping with
  | none => exact asks_ret _
  | some m =>
    obtain ⟨parks, wakes, settles⟩ := may m em
    exact (asks_headerWait parks wakes settles).bind (asks_settle _)

/-- Whoever takes the lock, waits and gives the lock back without changing its state stays in it. -/
lemma keeps_wait {σ : Type} {P : Protocol σ} {c : σ} (locks : s.lock.Keeps P c)
    (waits : s.waitLocked.Keeps P c) (unlocks : s.unlock.Keeps P c) : s.wait.Keeps P c := by
  refine locks.bind ?_
  rintro status _ rfl
  by_cases held : status.isHeld
  · rw [if_pos held]
    refine waits.bind ?_
    rintro _ _ rfl
    exact unlocks
  · rw [if_neg held]
    exact rfl

lemma asks_notifyAll (may : ∀ m, s.mapping = some m → ok (.broadcast m)) :
    s.notifyAll.Asks ok := by
  unfold notifyAll
  cases em : s.mapping with
  | none => exact asks_ret _
  | some m => exact (asks_checked _ (asks_request (may m em))).bind asks_report

lemma asks_read (may : ∀ m off len, ok (.read m off len)) (off len : Nat) :
    (s.read off len).Asks ok := by
  unfold read
  cases s.mapping with
  | none => exact asks_ret _
  | some m => exact asks_request (may _ _ _)

/-- What is written lies behind the header. -/
lemma asks_write (may : ∀ m off bs, 4 ≤ off → ok (.write m off bs)) (off : Nat)
    (bs : List UInt8) : (s.write off bs).Asks ok := by
  unfold write
  cases s.mapping with
  | none => exact asks_ret _
  | some m =>
    have behind : 4 ≤ Layout.headerSize + off := Nat.le_trans (by decide) (Nat.le_add_right ..)
    exact asks_ask (may _ _ _ behind) fun _ => asks_ret _

lemma asks_unlink (may : ok (.unlink s.name)) : s.unlink.Asks ok := by
  refine asks_ask may ?_
  intro a
  cases a with
  | ok => exact asks_ret _
  | error e =>
    change (if e = .enoent then Program.ret () else Program.log _).Asks ok
    by_cases gone : e = .enoent
    · rw [if_pos gone]
      exact asks_ret _
    · rw [if_neg gone]
      exact asks_put (asks_ret _)

lemma asks_logSyncs (failures : List SyncFailure) : (failures.forM s.logSync).Asks ok := by
  induction failures with
  | nil => exact asks_ret ()
  | cons f failures ih => exact asks_put ih

lemma asks_destroySync (may : ∀ m, s.role = .creator → s.ownsSync → s.mapping = some m →
    ok (.broadcast m) ∧ ok (.condDestroy m) ∧ ok (.mutexDestroy m)) : s.destroySync.Asks ok := by
  unfold destroySync
  cases em : s.mapping with
  | none => exact asks_ret _
  | some m =>
    by_cases owns : s.role = .creator ∧ s.ownsSync
    · simp only [if_pos owns]
      obtain ⟨wakes, first, second⟩ := may m owns.1 owns.2 em
      exact (asks_headerDestroy wakes first second).bind s.asks_logSyncs
    · simp only [if_neg owns]
      exact asks_ret _

lemma asks_unmap (may : ∀ m, s.mapping = some m → ok (.unmap m)) : s.unmap.Asks ok := by
  unfold unmap
  cases em : s.mapping with
  | none => exact asks_ret _
  | some m => exact asks_ask (may m em) fun a => asks_logFailure a _

lemma asks_release (closes : ∀ f, s.file = some f → ok (.close f))
    (unlinks : s.role = .creator → s.file.isSome → ok (.unlink s.name)) : s.release.Asks ok := by
  unfold release
  cases ef : s.file with
  | none => exact asks_ret _
  | some f =>
    have told : (Program.log (.released s.name s.flavor s.role)).Asks ok := asks_put (asks_ret _)
    refine asks_ask (closes f ef) fun _ => ?_
    by_cases creator : s.role = .creator
    · simp only [if_pos creator]
      have removed : s.unlink.Asks ok := s.asks_unlink (unlinks creator (by rw [ef]; rfl))
      exact removed.bind fun _ => told
    · simp only [if_neg creator]
      exact told

/-- Tearing a handle down takes no name away but the creator's own, and leaves a handle that holds
nothing. -/
theorem ensures_destroy_asking :
    s.destroy.Ensures (.asking s.Tears) (fun s' _ => s' = s.empty) () := by
  have syncs : s.destroySync.Asks s.Tears := s.asks_destroySync fun m role owns em =>
    ⟨⟨role, owns, em⟩, ⟨role, owns, em⟩, ⟨role, owns, em⟩⟩
  have unmaps : s.unmap.Asks s.Tears := s.asks_unmap fun _ em => em
  have releases : s.release.Asks s.Tears :=
    s.asks_release (fun _ ef => ef) fun role holds => ⟨role, holds, rfl⟩
  exact Ensures.bind syncs fun _ _ _ => Ensures.bind unmaps fun _ _ _ =>
    Ensures.bind releases fun _ _ _ => rfl

lemma asks_destroy : s.destroy.Asks s.Tears :=
  s.ensures_destroy_asking.mono fun _ _ _ => trivial

end

section
variable (n : Name) (c : Config)

lemma asks_pin {ok : Request → Prop} (may : ∀ m, ok (.pin m)) (m : MappingId) (size : UInt32) :
    (pin n c m size).Asks ok := by
  unfold pin
  split
  case isTrue => exact asks_ask (may m) fun a => asks_logFailure a _
  case isFalse => exact asks_ret _

lemma asks_openExclusive : (openExclusive n c).Asks n.Makes := by
  refine asks_ask rfl fun r => ?_
  cases r with
  | ok f => exact asks_ret _
  | error first =>
    refine asks_put (asks_ask rfl fun r => ?_)
    cases r with
    | error e => exact asks_ret _
    | ok =>
      refine asks_ask rfl fun r => ?_
      cases r with
      | ok f => exact asks_put (asks_ret _)
      | error e => exact asks_ret _

/-- A segment that has set nothing up is given up without a broadcast. -/
lemma makes_of_tears {s : Segment} {r : Request} (named : s.name = n) (none : s.ownsSync = false)
    (tears : s.Tears r) : n.Makes r := by
  cases r with
  | broadcast | condDestroy | mutexDestroy =>
    obtain ⟨-, owns, -⟩ := tears
    cases none.symm.trans owns
  | unlink n' =>
    obtain ⟨-, -, rfl⟩ := tears
    exact named
  | unmap | close => trivial
  | _ => cases tears

lemma makes_of_isPreparing {r : Request} (preparing : r.isPreparing) : n.Makes r := by
  cases r with
  | openNew | unlink => cases preparing
  | resize | map | unmap | close | pin => trivial
  | _ => exact preparing

/-- Making a segment takes no name away but its own. -/
theorem asks_create (size : UInt32) : (create n size c).Asks n.Makes := by
  have givesUp (s : Segment) (named : s.name = n) (none : s.ownsSync = false) (e : SegmentError) :
      (s.giveUp e).Asks n.Makes :=
    (s.asks_destroy.mono fun _ => makes_of_tears n named none).bind fun _ => asks_ret _
  refine (asks_openExclusive n c).bind fun r => ?_
  cases r with
  | error e => exact asks_ret _
  | ok f =>
    refine asks_ask trivial fun r => ?_
    cases r with
    | error e => exact givesUp _ rfl rfl _
    | ok =>
      refine asks_ask trivial fun r => ?_
      cases r with
      | error e => exact givesUp _ rfl rfl _
      | ok m =>
        refine ((asks_prepare m size).mono fun _ => makes_of_isPreparing n).bind fun r => ?_
        cases r with
        | error e => exact givesUp _ rfl rfl _
        | ok => exact (asks_pin n c (fun _ => trivial) m size).bind fun _ => asks_put (asks_ret _)

lemma asks_mapWhole {ok : Request → Prop} (f : FileId) (stored : Nat) (size : UInt32)
    (may : ok (.map f (Header.total size))) : (mapWhole n f stored size).Asks ok := by
  unfold mapWhole
  split
  · exact asks_ret _
  · split
    · exact asks_ret _
    · refine asks_ask may fun r => ?_
      cases r with
      | error e => exact asks_ret _
      | ok m => exact asks_ret _

lemma asks_mapFile (f : FileId) : (mapFile n c f).Asks fun r => r.isMeasuring := by
  have probed : (probe n c f).Asks fun r => r.isMeasuring := by
    refine asks_ask rfl fun r => ?_
    cases r with
    | error e => exact asks_ret _
    | ok m =>
      refine asks_ask rfl fun size => asks_ask rfl fun r => ?_
      exact (asks_logFailure r _).bind fun _ => asks_ret _
  refine asks_ask rfl fun r => ?_
  cases r with
  | error e => exact asks_ret _
  | ok stored =>
    change (if stored < Layout.headerSize then Program.ret _ else _).Asks _
    split
    · exact asks_ret _
    · refine probed.bind fun r => ?_
      cases r with
      | error e => exact asks_ret _
      | ok size =>
        have mapped : (mapWhole n f stored size).Asks fun r => r.isMeasuring :=
          asks_mapWhole n f stored size rfl
        refine mapped.bind fun r => ?_
        cases r with
        | error e => exact asks_ret _
        | ok m => exact asks_ret _

lemma finds_of_isMeasuring {r : Request} (measuring : r.isMeasuring) : n.Finds r := by
  cases r with
  | length | map | loadSize | unmap => exact rfl
  | _ => cases measuring

lemma isFinding_of_finds {r : Request} (finds : n.Finds r) : r.isFinding := by
  cases r with
  | openExisting => rfl
  | _ => exact finds

/-- Looking for a segment takes no name away, opens nothing under another name than its own, and
makes nobody a creator. -/
theorem ensures_attach_asking : (attach n c).Ensures (.asking n.Finds)
    (fun r _ => ∀ g, r.toOption = some g → g.role = .attacher) () := by
  refine ⟨rfl, fun r _ _ => ?_⟩
  cases r with
  | error e => exact nofun
  | ok f =>
    have maps : (mapFile n c f).Asks n.Finds :=
      (asks_mapFile n c f).mono fun _ => finds_of_isMeasuring n
    refine Ensures.bind (p := mapFile n c f) maps ?_
    intro r _ _
    cases r with
    | error e => exact ⟨rfl, fun _ _ _ => nofun⟩
    | ok x =>
      refine Ensures.bind (p := pin n c x.2 x.1) (asks_pin n c (fun _ => rfl) x.2 x.1) ?_
      rintro _ _ - g ⟨⟩
      rfl

lemma asks_attach_named : (attach n c).Asks n.Finds :=
  (ensures_attach_asking n c).mono fun _ _ _ => trivial

lemma asks_attach : (attach n c).Asks fun r => r.isFinding :=
  (asks_attach_named n c).mono fun _ => isFinding_of_finds n

end
end Segment
end SharedSegment
