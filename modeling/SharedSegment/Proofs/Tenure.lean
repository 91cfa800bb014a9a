import SharedSegment.Proofs.Interleaving

/-!
# Tenures

Who has the mutex of an object can be told from what has happened: a thread takes it when a lock, or
the end of a wait, is answered with the mutex, and its tenure lasts until it gives the mutex back,
parks, or dies. `tenure` reads this off the deeds alone and never looks at a mutex, so that it can
be held against what the mutex says.
-/

namespace SharedSegment

/-- Whether a mapping shows an object. -/
def Host.shows (h : Host) (m : MappingId) (k : ObjectId) : Bool :=
  (h.mapping? m).any fun x => x.object == k

/-- Whether an answer leaves the asking thread with the mutex. -/
def isTaken : Except Errno Unit → Bool
  | .ok () => true
  | .error e => e = .eownerdead

/-- Whether an answer is a success. -/
def isGranted : Except Errno Unit → Bool
  | .ok () => true
  | .error _ => false

/-- The thread that a deed leaves with the mutex of an object. -/
def Deed.takes? (k : ObjectId) : Deed → Option ThreadId
  | .moved t h (.answered (.lock m) a) => if h.shows m k && isTaken a then some t else none
  | .moved t h (.answered (.awake m) a) => if h.shows m k && isTaken a then some t else none
  | _ => none

/-- The thread that gives the mutex of an object back by a deed. -/
def Deed.gives? (k : ObjectId) : Deed → Option ThreadId
  | .moved t h (.answered (.unlock m) a) => if h.shows m k && isGranted a then some t else none
  | .moved t h (.answered (.park m) a) => if h.shows m k && isGranted a then some t else none
  | _ => none

namespace Deed

variable {k : ObjectId} {d : Deed} {t : ThreadId}

lemma takes?_inv (takes : d.takes? k = some t) :
    ∃ h m, h.shows m k ∧ ((∃ a, d = .moved t h (.answered (.lock m) a)) ∨
      ∃ a, d = .moved t h (.answered (.awake m) a)) := by
  unfold takes? at takes
  split at takes
  case h_1 t' h m a =>
    split at takes
    case isTrue both =>
      obtain rfl := Option.some.inj takes
      exact ⟨h, m, (Bool.and_eq_true_iff.1 both).1, .inl ⟨a, rfl⟩⟩
    case isFalse => cases takes
  case h_2 t' h m a =>
    split at takes
    case isTrue both =>
      obtain rfl := Option.some.inj takes
      exact ⟨h, m, (Bool.and_eq_true_iff.1 both).1, .inr ⟨a, rfl⟩⟩
    case isFalse => cases takes
  case h_3 => cases takes

lemma thread_of_takes? (takes : d.takes? k = some t) : d.thread = t := by
  obtain ⟨h, m, -, ⟨a, rfl⟩ | ⟨a, rfl⟩⟩ := takes?_inv takes
  · rfl
  · rfl

lemma thread_of_gives? (gives : d.gives? k = some t) : d.thread = t := by
  unfold gives? at gives
  split at gives
  case h_1 | h_2 =>
    split at gives
    · exact Option.some.inj gives
    · cases gives
  case h_3 => cases gives

/-- Whoever takes a mutex by a deed gives none back by it. -/
lemma gives?_of_takes? (takes : d.takes? k = some t) : d.gives? k = none := by
  obtain ⟨h, m, -, ⟨a, rfl⟩ | ⟨a, rfl⟩⟩ := takes?_inv takes
  · rfl
  · rfl

section
variable (silent : ∀ t h r a, d ≠ .moved t h (.answered r a))
include silent

/-- Nobody takes a mutex without being answered. -/
lemma takes?_of_silent : d.takes? k = none := by
  by_contra some
  obtain ⟨t, takes⟩ := Option.ne_none_iff_exists'.1 some
  obtain ⟨h, m, -, ⟨a, rfl⟩ | ⟨a, rfl⟩⟩ := takes?_inv takes
  · exact silent _ _ _ _ rfl
  · exact silent _ _ _ _ rfl

/-- Nobody gives a mutex back without being answered. -/
lemma gives?_of_silent : d.gives? k = none := by
  unfold gives?
  split
  case h_1 | h_2 => exact absurd rfl (silent _ _ _ _)
  case h_3 => rfl

end

end Deed

/-- How it stands with the latest tenure of a mutex. -/
inductive Tenure where
  /-- Nobody has had the mutex. -/
  | none
  /-- It lasts. -/
  | running (t : ThreadId)
  /-- Its thread has given the mutex back. -/
  | over
  /-- Its thread has died. -/
  | cutShort
deriving DecidableEq

/-- How it stands with the latest tenure of the mutex of an object after some deeds. -/
def tenure (k : ObjectId) : List Deed → Tenure
  | [] => .none
  | .died t :: past => if tenure k past = .running t then .cutShort else tenure k past
  | d :: past =>
    match d.takes? k, d.gives? k with
    | some t, _ => .running t
    | Option.none, some _ => .over
    | Option.none, Option.none => tenure k past

/-- The threads that have taken the mutex of an object, in order. -/
def acquisitions (k : ObjectId) (past : List Deed) : List ThreadId :=
  (past.filterMap fun d => d.takes? k).reverse

@[simp] lemma acquisitions_nil (k : ObjectId) : acquisitions k [] = [] := rfl

lemma acquisitions_cons (k : ObjectId) (d : Deed) (past : List Deed) :
    acquisitions k (d :: past) = acquisitions k past ++ (d.takes? k).toList := by
  cases e : d.takes? k <;> simp [acquisitions, e]

/-- For a deed that takes the mutex of an object, whether a dead owner had left it. -/
def verdicts (k : ObjectId) (past : List Deed) (d : Deed) : List Bool :=
  if (d.takes? k).isSome then [tenure k past = .cutShort] else []

/-- What a thread records by a deed. -/
def Deed.record? : Deed → Option Event
  | .moved _ _ (.told (.log e)) => some e
  | _ => none

/-- What has come of a call on an object, as the deeds tell. -/
structure Account where
  act : Scenario.Act
  /-- The thread had the mutex when it began. -/
  owner : Bool
  /-- For every time that the thread took the mutex, whether a dead owner had left it. -/
  verdicts : List Bool
  records : List Event

/-- What has come of the call that a thread is in. -/
def account (k : ObjectId) (t : ThreadId) : List Deed → Option Account
  | [] => none
  | .began t' a :: past =>
    if t' = t then some ⟨a, tenure k past = .running t, [], []⟩ else account k t past
  | .moved t' h m :: past =>
    if t' = t then
      (account k t past).map fun x =>
        { x with
          verdicts := x.verdicts ++ SharedSegment.verdicts k past (.moved t' h m)
          records := x.records ++ (Deed.moved t' h m).record?.toList }
    else account k t past
  | _ :: past => account k t past

end SharedSegment
