import SharedSegment.Proofs.Custody.Tables
import SharedSegment.Proofs.Guards.Borrowing
import SharedSegment.Proofs.Guards.Lapses
import SharedSegment.Proofs.Guards.Owners

/-!
# The grip of a guard

A thread that has a guard owns the mutex under it, unless the guard has lapsed. What carries this
through a session is how the calls of the thread go on: a call on a guard leaves the mutex alone,
or gives it back in order to wait and then takes it again (`Session.Uses`), and a call for a guard
takes the mutex first, when all guards that its thread has had on it have lapsed (`Session.Making`).
`Session.Grip` puts this together for one thread; the deeds of other threads leave it as it is
(`Session.Grip.others`), and so it holds in every session (`Session.Grip.of_run`).
-/

namespace SharedSegment
open Function Scenario Program Header

/-- A program neither takes a mutex nor gives one back. -/
def Program.IsQuiet {α : Type} (p : Program α) : Prop :=
  p.Asks fun r => r.isQuiet

lemma Program.IsQuiet.step {α : Type} {p p' : Program α} {t : ThreadId} {h h' : Host} {mv : Move}
    (quiet : p.IsQuiet) (st : p.Step t h mv p' h') : p'.IsQuiet :=
  ensures_asking_step quiet st

/-- A call neither takes a mutex nor gives one back, and how it ends. -/
def Program.Settles (p : Program Outcome) (is : Effect → Prop) : Prop :=
  p.Ensures (.asking fun r => r.isQuiet) (fun o _ => is o.effect) ()

lemma Program.Settles.quiet {p : Program Outcome} {is : Effect → Prop} (settles : p.Settles is) :
    p.IsQuiet :=
  Ensures.mono (fun _ _ _ => trivial) settles

lemma Program.Settles.step {p p' : Program Outcome} {is : Effect → Prop} {t : ThreadId}
    {h h' : Host} {mv : Move} (settles : p.Settles is) (st : p.Step t h mv p' h') :
    p'.Settles is :=
  ensures_asking_step settles st

/-- A program waits to have the mutex again, and leaves it alone afterwards. -/
def Program.IsParked (m : MappingId) (p : Program Outcome) : Prop :=
  ∃ next, p = .ask (.awake m) next ∧ ∀ a, (next a).IsQuiet

/-- A program gives the mutex back to wait, or leaves it alone if it cannot. -/
def Program.IsParking (m : MappingId) (p : Program Outcome) : Prop :=
  ∃ next, p = .ask (.park m) next ∧ (∀ e, (next (.error e)).IsQuiet) ∧ (next (.ok ())).IsParked m

/-- A program takes the mutex and then makes a guard, or makes none. -/
def Program.IsTaking (m : MappingId) (made : Effect → Prop) (p : Program Outcome) : Prop :=
  ∃ next, p = .ask (.lock m) next ∧
    ∀ a, (next a).Settles fun e => if isTaken a then made e else e = .none

section
variable {f : Facade} {m : MappingId}

/-- What comes of an answer to taking the mutex. -/
lemma ensures_taken (g : Segment) (call : Call) (died : Event) (a : Except Errno Unit) :
    ((acquired m call a).bind (g.settle died)).Ensures (.asking fun r => r.isQuiet)
      (fun status _ => status.isHeld = isTaken a) () := by
  cases a with
  | ok => exact rfl
  | error e =>
    by_cases dead : e = .eownerdead
    · subst dead
      refine ⟨rfl, ?_⟩
      intro a _ _
      cases a with
      | ok => exact rfl
      | error => exact rfl
    · have refused : isTaken (.error e) = false := decide_eq_false dead
      rw [acquired, if_neg dead, refused]
      exact rfl

lemma Facade.data_inv (ed : f.data = some m) : ∃ g, f.segment = some g ∧ g.mapping = some m :=
  Option.bind_eq_some_iff.1 ed

/-- A call for a guard takes the mutex first, and comes to a guard only if it has it. -/
lemma isTaking_guardCall (t : ThreadId) (h g : String) (ed : f.data = some m) :
    (guardCall t h g f).IsTaking m fun e => ∃ status, e = .setGuard ⟨t, g, h, status⟩ := by
  obtain ⟨s, es, em⟩ := Facade.data_inv ed
  have locks : f.lock = .ask (.lock m) fun a =>
      (acquired m .mutexLock a).bind (s.settle (.ownerDied s.name s.flavor)) := by
    rw [Facade.lock, Facade.onSegment_eq es]
    simp only [Segment.lock, em]
    rfl
  unfold guardCall Facade.guard
  rw [locks]
  refine ⟨_, rfl, ?_⟩
  intro a
  have guards : (((acquired m .mutexLock a).bind (s.settle (.ownerDied s.name s.flavor))).bind
      fun status => .ret (if status.isHeld then some status else none)).Ensures
        (.asking fun r => r.isQuiet) (fun r _ => r.isSome = isTaken a) () := by
    apply (ensures_taken s .mutexLock _ a).bind
    intro status _ held
    rw [← held]
    cases status <;> rfl
  apply guards.bind
  intro r _ some
  rw [← some]
  cases r with
  | none => exact rfl
  | some status => exact ⟨status, rfl⟩

/-- A wait under a guard gives the mutex back first. -/
lemma isParking_guardWait (x : Guard) (ed : f.data = some m) :
    (guardOperationCall x f .wait).IsParking m := by
  obtain ⟨s, es, em⟩ := Facade.data_inv ed
  have waits : f.guardWait x.status =
      (Header.wait m).bind (s.settle (.ownerDiedInWait s.name s.flavor)) := by
    rw [Facade.guardWait, Facade.onSegment_eq es]
    simp only [Segment.waitLocked, em]
    rfl
  have asks := congrArg (fun p => Program.bind p fun status =>
    .ret (⟨.waited status, .setGuard { x with status }⟩ : Outcome)) waits
  have quiet (a : Except Errno Unit) : (((acquired m .condWait a).bind
      (s.settle (.ownerDiedInWait s.name s.flavor))).bind fun status =>
        .ret (⟨.waited status, .setGuard { x with status }⟩ : Outcome)).IsQuiet := by
    have taken : (acquired m .condWait a).IsQuiet := asks_acquired .condWait a rfl
    exact (taken.bind fun _ => asks_settle _ _).bind fun _ => asks_ret _
  exact ⟨_, asks, fun e => quiet (.error e), _, rfl, quiet⟩

lemma quiet_guardUse (x : Guard) (f : Facade) {op : GuardOperation} (nowait : op ≠ .wait)
    (nodrop : op ≠ .drop) : (guardOperationCall x f op).IsQuiet := by
  have keeps (g : Segment) : op.Keeps (.asking fun r => r.isQuiet) () g := by
    cases op with
    | status => trivial
    | read => exact fun off len => (g.asks_read (fun _ _ _ => rfl) off len).keeps_asking
    | write => exact fun off bs => (g.asks_write (fun _ _ _ _ => rfl) off bs).keeps_asking
    | wait => exact absurd rfl nowait
    | drop => exact absurd rfl nodrop
  exact (Ensures.guardUse x fun g _ => keeps g).mono fun _ _ _ => trivial

end

namespace Session

/-- The facade of some name has a mapping. -/
def IsLinked (s : Session) (h : String) (m : MappingId) : Prop :=
  ∃ f, s.handles h = some (.facade f) ∧ f.data = some m

/-- A guard of a thread is on an object, by way of a mapping. -/
def GuardIsOn (s : Session) (t : ThreadId) (g : String) (m : MappingId) (k : ObjectId) : Prop :=
  ∃ x, s.guards t g = some x ∧ s.IsLinked x.handle m ∧ s.host.shows m k

/-- A thread owns the mutex of an object, or its guard has lapsed. -/
def IsFirm (s : Session) (past : List Deed) (t : ThreadId) (g : String) (k : ObjectId) : Prop :=
  s.host.owner? k = some t ∨ hasLapsed k t g past

/-- How a call on a guard goes on that does not drop it. -/
inductive Uses (s : Session) (past : List Deed) (t : ThreadId) (g : String) (m : MappingId)
    (k : ObjectId) (p : Program Outcome) : Prop where
  | firm :
    p.IsQuiet ∨ p.IsParking m →
    s.IsFirm past t g k →
    Uses s past t g m k p
  | parked :
    p.IsParked m →
    s.host.owner? k ≠ some t →
    Uses s past t g m k p

/-- The effect of a call that makes a guard. -/
def Makes (t : ThreadId) (h g : String) (e : Effect) : Prop :=
  ∃ status, e = .setGuard ⟨t, g, h, status⟩

/-- A thread has taken the mutex under a mapping, and all guards lapsed that it has had there. -/
def HasTaken (s : Session) (b : ObjectId) (past : List Deed) (t : ThreadId) (m : MappingId) :
    Prop :=
  ∀ k, s.host.shows m k → b ≤ k → s.host.owner? k = some t ∧
    ∀ g m', s.GuardIsOn t g m' k → hasLapsed k t g past

/-- How a call for a guard goes on. -/
inductive Making (s : Session) (b : ObjectId) (past : List Deed) (t : ThreadId) (h g : String)
    (m : MappingId) (p : Program Outcome) : Prop where
  | asking :
    p.IsTaking m (Makes t h g) →
    Making s b past t h g m p
  | taken :
    p.Settles (Makes t h g) →
    s.HasTaken b past t m →
    Making s b past t h g m p
  | refused :
    p.Settles (· = .none) →
    Making s b past t h g m p

/-- The guards of a thread that lives, on objects from some number on. -/
structure Grip (b : ObjectId) (past : List Deed) (s : Session) (t : ThreadId) : Prop where
  last : ∀ c, s.calls t = some c → lastAct t past = some c.act
  firm : ∀ g m k, s.GuardIsOn t g m k → b ≤ k →
    (∀ c, s.calls t = some c → c.act.guard? ≠ some g) → s.IsFirm past t g k
  uses : ∀ g m k c op, s.GuardIsOn t g m k → b ≤ k → s.calls t = some c →
    c.act = .onGuard g op → op ≠ .drop → s.Uses past t g m k c.program
  making : ∀ c h g m, s.calls t = some c → c.act = .onHandle h (.guard g) → s.IsLinked h m →
    s.Making b past t h g m c.program
  apart : ∀ g g' m m' k, g ≠ g' → s.GuardIsOn t g m k → s.GuardIsOn t g' m' k → b ≤ k →
    hasLapsed k t g past ∨ hasLapsed k t g' past

section
variable {b : ObjectId} {s s' : Session} {past : List Deed} {σ : ThreadId ⊕ String → Custody}
  {d : Deed} {t : ThreadId} {g h : String} {m : MappingId} {k : ObjectId} {c : Underway}

/-- The mutex under a facade was set up. -/
lemma IsLinked.isSetUp (kept : s.IsKeptFrom b σ) (linked : s.IsLinked h m)
    (shows : s.host.shows m k) (le : b ≤ k) : s.host.IsSetUp k := by
  obtain ⟨f, ef, em⟩ := linked
  obtain ⟨g, k', o, -, sees, -, setUp⟩ := kept.under_of_facade ef em
  obtain ⟨shows', here⟩ := Host.under?_eq_some_iff.1 sees
  obtain rfl := Host.shows_unique shows shows'
  exact ⟨o, here, setUp le⟩

/-- A facade that is in use is linked after a step as it was before. -/
lemma IsLinked.of_step (lent : s.IsLent) (st : s.Step d s') (linked : s'.IsLinked h m)
    (used : s.IsInUse h) (there : ∃ f, s.handles h = some (.facade f)) : s.IsLinked h m := by
  obtain ⟨f, ef⟩ := there
  obtain ⟨f', ef', em⟩ := linked
  cases (lent.facade_step st ef used).symm.trans ef'
  exact ⟨f, ef, em⟩

/-- A facade is linked after a step as it was before if a guard of it is being made. -/
lemma IsLinked.of_use (lent : s.IsLent) (st : s.Step d s') (linked : s'.IsLinked h m)
    (ec : s.calls t = some c) (act : c.act = .onHandle h (.guard g)) : s.IsLinked h m := by
  obtain ⟨-, uses, there⟩ := lent.guarding_inv ec act
  exact linked.of_step lent st (.inr ⟨t, c, ec, uses⟩) there

/-- A mapping that a facade has shows after a step what it has shown before. -/
lemma IsLinked.shows_of_step (kept : s.IsKeptFrom b σ) (st : s.Step d s') (linked : s.IsLinked h m)
    (shows : s'.host.shows m k) : s.host.shows m k := by
  obtain ⟨f, ef, em⟩ := linked
  obtain ⟨g, k', o, -, sees, -⟩ := kept.under_of_facade ef em
  obtain ⟨shows', -⟩ := Host.under?_eq_some_iff.1 sees
  obtain ⟨x, ex, -⟩ := (Option.any_eq_true ..).1 shows
  have numbers := Session.numbers_run (.cons .nil st)
  obtain rfl := Host.shows_unique shows (numbers.shows shows' ex)
  exact shows'

/-- A guard that was there before is on the object that it was on. -/
lemma GuardIsOn.of_step {x x' : Guard} (kept : s.IsKeptFrom b σ) (lent : s.IsLent)
    (st : s.Step d s') (there' : s'.GuardIsOn t g m k) (eg : s.guards t g = some x)
    (eg' : s'.guards t g = some x') (same : x.handle = x'.handle) : s.GuardIsOn t g m k := by
  obtain ⟨y, ey, linked, shows⟩ := there'
  cases eg'.symm.trans ey
  obtain ⟨-, -, f, ef, -⟩ := lent.guards t g x eg
  have linked := (same ▸ linked).of_step lent st (.inl ⟨t, g, x, eg, rfl⟩) ⟨f, ef⟩
  exact ⟨x, eg, linked, linked.shows_of_step kept st shows⟩

/-- A firm guard stays so, unless its thread gives the mutex back and this is no lapse. -/
lemma IsFirm.step (firm : s.IsFirm past t g k)
    (hands : d.Hands k (s.host.owner? k) (s'.host.owner? k)) (alive : d ≠ .died t)
    (old : d.remakes t g = false) (gives : d.gives? k = some t → hasLapsed k t g (d :: past)) :
    s'.IsFirm (d :: past) t g k := by
  obtain owns | lapsed := firm
  · by_cases given : d.gives? k = some t
    · exact .inr (gives given)
    · rw [owns] at hands
      exact .inl (hands.owns given alive)
  · exact .inr (hasLapsed_cons old lapsed)

/-- A step of a quiet program hands no mutex over. -/
lemma quiet_moved {p p' : Program Outcome} {mv : Move} {h h' : Host} (quiet : p.IsQuiet)
    (st : p.Step t h mv p' h') :
    (Deed.moved t h mv).takes? k = none ∧ (Deed.moved t h mv).gives? k = none := by
  cases st with
  | tell | wait | strike => exact ⟨rfl, rfl⟩
  | @answer r next _ a =>
    have quiet : r.isQuiet := quiet.1
    cases r with
    | lock | awake | unlock | park => cases quiet
    | _ => exact ⟨rfl, rfl⟩

/-- A thread goes on in a call on a guard. -/
lemma Uses.step {p p' : Program Outcome} {mv : Move} {h' : Host}
    (uses : s.Uses past t g m k p) (shows : s.host.shows m k) (st : p.Step t s.host mv p' h')
    (hands : (Deed.moved t s.host mv).Hands k (s.host.owner? k) (s'.host.owner? k))
    (last : (lastAct t past).bind Act.guard? = some g) :
    s'.Uses (.moved t s.host mv :: past) t g m k p' := by
  have old : (Deed.moved t s.host mv).remakes t g = false := rfl
  cases uses with
  | firm rest firm =>
    have firm' (keeps : (Deed.moved t s.host mv).gives? k = none) :
        s'.IsFirm (.moved t s.host mv :: past) t g k := by
      apply firm.step hands nofun old
      intro gives
      cases keeps.symm.trans gives
    obtain quiet | ⟨next, rfl, refused, parked⟩ := rest
    · obtain ⟨-, keeps⟩ := quiet_moved (k := k) quiet st
      exact .firm (.inl (quiet.step st)) (firm' keeps)
    · cases st with
      | @answer _ _ _ a _ eh =>
        cases a with
        | ok =>
          have gives : (Deed.moved t s.host (.answered (.park m) (.ok ()))).gives? k = some t := by
            simp [Deed.gives?, shows, isGranted]
          obtain ⟨-, free⟩ := hands.of_gives gives
          exact .parked parked (by simp [free])
        | error e =>
          have keeps : (Deed.moved t s.host (.answered (.park m) (.error e))).gives? k = none := by
            simp [Deed.gives?, isGranted]
          exact .firm (.inl (refused e)) (firm' keeps)
      | wait eh => exact .firm (.inr ⟨next, rfl, refused, parked⟩) (firm' rfl)
      | strike er =>
        cases er
        exact .firm (.inl (refused _)) (firm' rfl)
  | parked rest away =>
    obtain ⟨next, rfl, quiet⟩ := rest
    cases st with
    | @answer _ _ _ a _ eh =>
      by_cases taken : isTaken a
      · have takes : (Deed.moved t s.host (.answered (.awake m) a)).takes? k = some t := by
          simp [Deed.takes?, shows, taken]
        obtain ⟨-, owns⟩ := hands.of_takes takes
        exact .firm (.inl (quiet a)) (.inl owns)
      · have forgoes : (Deed.moved t s.host (.answered (.awake m) a)).forgoes? k = some t := by
          simp [Deed.forgoes?, shows, taken]
        have lapses : (Deed.moved t s.host (.answered (.awake m) a)).lapses k t g
            (lastAct t past) := by
          rw [Deed.lapses, if_pos last]
          exact decide_eq_true forgoes
        exact .firm (.inl (quiet a)) (.inr (hasLapsed_of_lapses old lapses))
    | wait eh => exact .parked ⟨next, rfl, quiet⟩ (hands.away away (by simp [Deed.takes?]))
    | strike er => cases er

/-- A step hands the mutex under a guard over as its deed tells. -/
lemma GuardIsOn.hands (kept : s.IsKeptFrom b σ) (st : s.Step d s') (there : s.GuardIsOn t g m k)
    (le : b ≤ k) : d.Hands k (s.host.owner? k) (s'.host.owner? k) := by
  obtain ⟨x, -, linked, shows⟩ := there
  exact kept.hands_step st (linked.isSetUp kept shows le)

lemma GuardIsOn.of_same (kept : s.IsKeptFrom b σ) (lent : s.IsLent) (st : s.Step d s')
    (same : s'.guards t = s.guards t) (there' : s'.GuardIsOn t g m k) : s.GuardIsOn t g m k := by
  obtain ⟨x, eg, -⟩ := id there'
  exact there'.of_step kept lent st ((congrFun same g).symm.trans eg) eg rfl

/-- A thread that has taken the mutex goes on to have it. -/
lemma HasTaken.step (taken : s.HasTaken b past t m) (kept : s.IsKeptFrom b σ) (lent : s.IsLent)
    (st : s.Step d s') (linked : s.IsLinked h m) (same : s'.guards t = s.guards t)
    (keeps : ∀ k, d.gives? k ≠ some t) (alive : d ≠ .died t)
    (old : ∀ g, d.remakes t g = false) : s'.HasTaken b (d :: past) t m := by
  intro k shows' le
  have shows := linked.shows_of_step kept st shows'
  obtain ⟨owns, lapsed⟩ := taken k shows le
  have hands := kept.hands_step st (linked.isSetUp kept shows le)
  rw [owns] at hands
  refine ⟨hands.owns (keeps k) alive, ?_⟩
  intro g m' there'
  exact hasLapsed_cons (old g) (lapsed g m' (there'.of_same kept lent st same))

/-- A thread goes on in a call for a guard. -/
lemma Making.step {p p' : Program Outcome} {mv : Move} {h' : Host}
    (making : s.Making b past t h g m p) (kept : s.IsKeptFrom b σ) (lent : s.IsLent)
    (step : s.Step (.moved t s.host mv) s') (st : p.Step t s.host mv p' h')
    (linked : s.IsLinked h m) (same : s'.guards t = s.guards t)
    (firm : ∀ g m k, s.GuardIsOn t g m k → b ≤ k → s.IsFirm past t g k)
    (honest : (Deed.moved t s.host mv).isHonest) :
    s'.Making b (.moved t s.host mv :: past) t h g m p' := by
  cases making with
  | asking rest =>
    obtain ⟨next, rfl, settles⟩ := rest
    cases st with
    | wait => exact .asking ⟨next, rfl, settles⟩
    | @answer _ _ _ a _ eh =>
      by_cases taken : isTaken a
      · have made := settles a
        simp only [if_pos taken] at made
        refine .taken made ?_
        intro k shows' le
        have shows := linked.shows_of_step kept step shows'
        have takes : (Deed.moved t s.host (.answered (.lock m) a)).takes? k = some t := by
          simp [Deed.takes?, shows, taken]
        have hands := kept.hands_step step (linked.isSetUp kept shows le)
        obtain ⟨free, owns⟩ := hands.of_takes takes
        refine ⟨owns, ?_⟩
        -- Nobody has had the mutex, so a guard on it that was there has lapsed.
        intro g' m' there'
        obtain owned | lapsed := firm g' m' k (there'.of_same kept lent step same) le
        · cases free.symm.trans owned
        · exact hasLapsed_cons rfl lapsed
      · have refused := settles a
        simp only [if_neg taken] at refused
        exact .refused refused
    | @strike _ _ _ _ _ e er =>
      cases er
      have refused := settles (.error e)
      have dishonest : ¬isTaken (.error e) := by simpa [isTaken, Deed.isHonest] using honest
      simp only [if_neg dishonest] at refused
      exact .refused refused
  | taken settles taken =>
    have keeps k : (Deed.moved t s.host mv).gives? k ≠ some t := by
      simp [(quiet_moved (k := k) settles.quiet st).2]
    exact .taken (settles.step st)
      (taken.step kept lent step linked same keeps (by simp) fun _ => rfl)
  | refused settles => exact .refused (settles.step st)

/-- The deeds of others leave the guards of a thread to it. -/
lemma Grip.others (grip : s.Grip b past t) (kept : s.IsKeptFrom b σ) (lent : s.IsLent)
    (st : s.Step d s') (ne : t ≠ d.thread) : s'.Grip b (d :: past) t := by
  obtain ⟨calls, guards, -⟩ := lent.others_step st ne
  have alive : d ≠ .died t := by
    rintro rfl
    exact ne rfl
  have old g : d.remakes t g = false := Deed.remakes_of_ne ne
  have keeps k : d.gives? k ≠ some t := by
    intro gives
    exact ne (Deed.thread_of_gives? gives).symm
  have leaves k : d.takes? k ≠ some t := by
    intro takes
    exact ne (Deed.thread_of_takes? takes).symm
  have before {g m k} (there' : s'.GuardIsOn t g m k) : s.GuardIsOn t g m k :=
    there'.of_same kept lent st guards
  have stays {g m k} (there : s.GuardIsOn t g m k) (le : b ≤ k) (firm : s.IsFirm past t g k) :
      s'.IsFirm (d :: past) t g k :=
    firm.step (there.hands kept st le) alive (old g) fun gives => absurd gives (keeps k)
  refine ⟨?_, ?_, ?_, ?_, ?_⟩
  · intro c ec
    rw [lastAct_of_ne ne]
    exact grip.last c (calls ▸ ec)
  · intro g m k there' le free
    have there := before there'
    exact stays there le (grip.firm g m k there le fun c ec => free c (calls.symm ▸ ec))
  · intro g m k c op there' le ec act nodrop
    have there := before there'
    cases grip.uses g m k c op there le (calls ▸ ec) act nodrop with
    | firm rest firm => exact .firm rest (stays there le firm)
    | parked rest away => exact .parked rest ((there.hands kept st le).away away (leaves k))
  · intro c h g m ec act linked'
    have ec := calls ▸ ec
    have linked := linked'.of_use lent st ec act
    cases grip.making c h g m ec act linked with
    | asking rest => exact .asking rest
    | taken settles taken =>
      exact .taken settles (taken.step kept lent st linked guards keeps alive old)
    | refused settles => exact .refused settles
  · intro g g' m m' k other there there' le
    exact (grip.apart g g' m m' k other (before there) (before there') le).imp
      (hasLapsed_cons (old g)) (hasLapsed_cons (old g'))

/-- A thread begins a call. -/
lemma Grip.begin {a : Act} (grip : s.Grip b past t) (kept : s.IsKeptFrom b σ) (lent : s.IsLent)
    (st : s.Step (.began t a) s') (idle : s.calls t = none) (same : s'.guards t = s.guards t)
    (begun : s'.calls t = some c) (act : c.act = a)
    (goes : ∀ g op m k, a = .onGuard g op → op ≠ .drop → s'.GuardIsOn t g m k →
      c.program.IsQuiet ∨ c.program.IsParking m)
    (taking : ∀ h g m, a = .onHandle h (.guard g) → s'.IsLinked h m →
      c.program.IsTaking m (Makes t h g)) :
    s'.Grip b (.began t a :: past) t := by
  have firm {g m k} (there' : s'.GuardIsOn t g m k) (le : b ≤ k) :
      s'.IsFirm (.began t a :: past) t g k := by
    have there := there'.of_same kept lent st same
    have firm : s.IsFirm past t g k := by
      apply grip.firm g m k there le
      intro c ec
      cases idle.symm.trans ec
    exact firm.step (there.hands kept st le) nofun rfl nofun
  refine ⟨?_, ?_, ?_, ?_, ?_⟩
  · intro c' ec
    cases begun.symm.trans ec
    rw [act]
    exact if_pos rfl
  · intro g m k there' le _
    exact firm there' le
  · intro g m k c' op there' le ec act' nodrop
    cases begun.symm.trans ec
    exact .firm (goes g op m k (act.symm.trans act') nodrop there') (firm there' le)
  · intro c' h g m ec act' linked'
    cases begun.symm.trans ec
    exact .asking (taking h g m (act.symm.trans act') linked')
  · intro g g' m m' k other there there' le
    exact (grip.apart g g' m m' k other (there.of_same kept lent st same)
      (there'.of_same kept lent st same) le).imp (hasLapsed_cons rfl) (hasLapsed_cons rfl)

/-- A thread makes a step in its call. -/
lemma Grip.move {mv : Move} {p' : Program Outcome} {h' : Host} (grip : s.Grip b past t)
    (kept : s.IsKeptFrom b σ) (lent : s.IsLent) (ec : s.calls t = some c)
    (alive : s.dead t = false) (st : c.program.Step t s.host mv p' h')
    (honest : (Deed.moved t s.host mv).isHonest) :
    (s.move t c p' h').Grip b (.moved t s.host mv :: past) t := by
  have step := Session.Step.move ec alive st
  have last := grip.last c ec
  have moved {c'} (ec' : (s.move t c p' h').calls t = some c') :
      c' = { c with program := p' } := by
    obtain ⟨-, rfl⟩ | ⟨ne, -⟩ := move_calls_inv ec'
    · rfl
    · exact absurd rfl ne
  have before {g m k} (there' : (s.move t c p' h').GuardIsOn t g m k) : s.GuardIsOn t g m k :=
    there'.of_same kept lent step rfl
  have firm {g m k} (there : s.GuardIsOn t g m k) (le : b ≤ k) (free : c.act.guard? ≠ some g) :
      s.IsFirm past t g k := by
    apply grip.firm g m k there le
    intro c' ec'
    cases ec.symm.trans ec'
    exact free
  refine ⟨?_, ?_, ?_, ?_, ?_⟩
  · intro c' ec'
    rw [moved ec']
    exact last
  · intro g m k there' le free
    have there := before there'
    have free : c.act.guard? ≠ some g := free { c with program := p' } (update_self ..)
    apply (firm there le free).step (there.hands kept step le) nofun rfl
    intro gives
    have lapses : (Deed.moved t s.host mv).lapses k t g (lastAct t past) := by
      rw [Deed.lapses, last, Option.bind_some, if_neg free]
      exact decide_eq_true gives
    exact hasLapsed_of_lapses rfl lapses
  · intro g m k c' op there' le ec' act nodrop
    have there := before there'
    rw [moved ec'] at act ⊢
    have uses := grip.uses g m k c op there le ec act nodrop
    have own : (lastAct t past).bind Act.guard? = some g := by
      rw [last, Option.bind_some]
      exact congrArg Act.guard? act
    obtain ⟨x, -, -, shows⟩ := id there
    exact uses.step shows st (there.hands kept step le) own
  · intro c' h g m ec' act linked'
    rw [moved ec'] at act ⊢
    have linked := linked'.of_use lent step ec act
    apply (grip.making c h g m ec act linked).step kept lent step st linked rfl ?_ honest
    intro g' m' k there le
    have free : c.act.guard? ≠ some g' := by
      rw [show c.act = .onHandle h (.guard g) from act]
      nofun
    exact firm there le free
  · intro g g' m m' k other there there' le
    exact (grip.apart g g' m m' k other (before there) (before there') le).imp
      (hasLapsed_cons rfl) (hasLapsed_cons rfl)

/-- A thread comes back from its call. -/
lemma Grip.conclude {o : Outcome} (grip : s.Grip b past t) (kept : s.IsKeptFrom b σ)
    (lent : s.IsLent) (ec : s.calls t = some c) (alive : s.dead t = false)
    (ep : c.program = .ret o) : (s.conclude t o).Grip b (.returned t c.act o :: past) t := by
  have st := Session.Step.finish ec alive ep
  have rests : (s.conclude t o).calls t = none := by
    rw [conclude_calls, update_self]
  -- A guard that was just made is on a mutex that its call has taken.
  have new {g m k} (there' : (s.conclude t o).GuardIsOn t g m k) (le : b ≤ k) :
      (∃ m, s.GuardIsOn t g m k ∧ c.act ≠ .onGuard g .drop ∧
        ∀ h, c.act ≠ .onHandle h (.guard g)) ∨
      (∃ h, c.act = .onHandle h (.guard g)) ∧ s.host.owner? k = some t ∧
        ∀ g' m', s.GuardIsOn t g' m' k → hasLapsed k t g' past := by
    obtain ⟨x', eg', linked', shows'⟩ := id there'
    obtain ⟨x, eg, same, old⟩ | ⟨act, status, e⟩ := lent.guards_conclude ec ep eg'
    · exact .inl ⟨m, there'.of_step kept lent st eg eg' same, old⟩
    · have linked := linked'.of_use lent st ec act
      have shows := linked.shows_of_step kept st shows'
      have making := grip.making c _ g m ec act linked
      rw [ep] at making
      cases making with
      | asking rest =>
        obtain ⟨next, e, -⟩ := rest
        cases e
      | taken settles taken => exact .inr ⟨⟨_, act⟩, taken k shows le⟩
      | refused settles =>
        have none : o.effect = .none := settles
        cases none.symm.trans e
  refine ⟨?_, ?_, ?_, ?_, ?_⟩
  · intro c' ec'
    cases rests.symm.trans ec'
  · intro g m k there' le _
    obtain ⟨m, there, nodrop, old⟩ | ⟨-, owns, -⟩ := new there' le
    · have firm : s.IsFirm past t g k := by
        by_cases own : c.act.guard? = some g
        · cases ea : c.act with
          | onGuard g' op =>
            rw [ea] at own nodrop
            cases own
            have uses := grip.uses g m k c op there le ec ea (by simpa using nodrop)
            rw [ep] at uses
            cases uses with
            | firm _ firm => exact firm
            | parked rest =>
              obtain ⟨next, e, -⟩ := rest
              cases e
          | _ =>
            rw [ea] at own
            cases own
        · apply grip.firm g m k there le
          intro c' ec'
          cases ec.symm.trans ec'
          exact own
      exact firm.step (there.hands kept st le) nofun (Deed.remakes_of_returned old) nofun
    · left
      rw [conclude_host]
      exact owns
  · intro g m k c' op _ _ ec'
    cases rests.symm.trans ec'
  · intro c' h g m ec'
    cases rests.symm.trans ec'
  · intro g g' m m' k other there there' le
    obtain ⟨m, there, -, old⟩ | ⟨⟨h, act⟩, -, lapsed⟩ := new there le
    · obtain ⟨m', there', -, old'⟩ | ⟨⟨h, act⟩, -, lapsed⟩ := new there' le
      · exact (grip.apart g g' m m' k other there there' le).imp
          (hasLapsed_cons (Deed.remakes_of_returned old))
          (hasLapsed_cons (Deed.remakes_of_returned old'))
      · exact .inl (hasLapsed_cons (Deed.remakes_of_returned old) (lapsed g m there))
    · obtain ⟨m', there', -, old'⟩ | ⟨⟨h', act'⟩, -⟩ := new there' le
      · exact .inr (hasLapsed_cons (Deed.remakes_of_returned old') (lapsed g' m' there'))
      · cases act.symm.trans act'
        exact absurd rfl other

/-- A step leaves the guards of a thread to it, or is one that it makes by itself. -/
theorem Grip.step (grip : s.dead t = false → s.Grip b past t) (kept : s.IsKeptFrom b σ)
    (lent : s.IsLent) (st : s.Step d s') (honest : d.isHonest) (alive' : s'.dead t = false) :
    s'.Grip b (d :: past) t := by
  by_cases ne : t ≠ d.thread
  · obtain ⟨-, -, dead⟩ := lent.others_step st ne
    exact (grip (dead.symm.trans alive')).others kept lent st ne
  obtain rfl := not_not.1 ne
  cases st with
  | @openHandle t toggle h raw size via idle unnamed unused =>
    exact (grip idle.dead).begin kept lent (.openHandle idle unnamed unused) idle.calls rfl
      (update_self ..) rfl nofun nofun
  | @onHandle t h op x p idle ex excl free nodrop ep =>
    apply (grip idle.dead).begin kept lent (.onHandle idle ex excl free nodrop ep) idle.calls rfl
      (update_self ..) rfl nofun
    rintro _ g m ⟨⟩ ⟨f, ef, em⟩
    cases ex.symm.trans ef
    cases ep
    exact isTaking_guardCall t h g em
  | @drop t h x p idle ex unused ep =>
    exact (grip idle.dead).begin kept lent (.drop idle ex unused ep) idle.calls rfl
      (update_self ..) rfl nofun nofun
  | @onGuard t g x f op idle eg ef =>
    refine (grip idle.dead).begin kept lent (.onGuard idle eg ef) idle.calls rfl
      (update_self ..) rfl ?_ nofun
    rintro _ _ m k ⟨⟩ nodrop ⟨y, ey, ⟨f', ef', em⟩, -⟩
    cases eg.symm.trans ey
    cases ef.symm.trans ef'
    by_cases wait : op = .wait
    · subst wait
      exact .inr (isParking_guardWait x em)
    · exact .inl (quiet_guardUse x f wait nodrop)
  | @move t c mv p' h' ec alive st => exact (grip alive).move kept lent ec alive st honest
  | @finish t c o ec alive ep => exact (grip alive).conclude kept lent ec alive ep
  | die => exact absurd rfl (bury_dead_inv alive').1

lemma Grip.init (h : Host) (t : ThreadId) : (Session.ofHost h).Grip b [] t := by
  refine ⟨?_, ?_, ?_, ?_, ?_⟩
  · intro c ec
    cases ec
  · intro g m k there
    obtain ⟨x, eg, -⟩ := there
    cases eg
  · intro g m k c op there
    obtain ⟨x, eg, -⟩ := there
    cases eg
  · intro c h g m ec
    cases ec
  · intro g g' m m' k _ there
    obtain ⟨x, eg, -⟩ := there
    cases eg

/-- In every session each thread has a grip on what its guards guard, as long as it lives. -/
theorem Grip.of_run {h : Host} (run : Run Session.Step (.ofHost h) past s)
    (honest : ∀ d ∈ past, d.isHonest) (alive : s.dead t = false) :
    s.Grip h.objects.length past t := by
  induction run with
  | nil => exact .init h t
  | cons run st ih =>
    obtain ⟨honest, honest'⟩ := List.forall_mem_cons.1 honest
    obtain ⟨σ, kept⟩ := IsKeptFrom.of_run run
    exact Grip.step (fun alive => ih honest' alive) kept (IsLent.of_run run) st honest alive

end
end Session
end SharedSegment
