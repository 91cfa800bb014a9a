import SharedSegment.Proofs.Stakes.Discarding
import SharedSegment.Proofs.Stakes.Newcomers

/-!
# Sides

The handles on an object make a side of a session, with the guards and the calls that belong to them
(`Side`). What is done on a side can be done as well where there is nothing but that side
(`Session.Step.only`), and what is done elsewhere leaves it as it is (`Session.only_of_misses`).
Which side a deed belongs to can be read off the deeds, once nobody comes to the object any more
(`Side.Tracks.step`).
-/

namespace SharedSegment
open Function Scenario Program

/-- Some of the handles, guards and calls of a session. -/
structure Side where
  handles : String → Bool
  guards : ThreadId → String → Bool
  calls : ThreadId → Bool

namespace Side

/-- Whether a deed is done on a side. Whoever opens a handle is elsewhere, and whoever dies is dead
on every side. -/
def meets (P : Side) : Deed → Bool
  | .began _ (.onHandle h _) => P.handles h
  | .began t (.onGuard g _) => P.guards t g
  | .began .. => false
  | .moved t _ _ | .returned t _ _ => P.calls t
  | .died _ => true

/-- A side after a deed: what was done on it stays on it, and all else is elsewhere. -/
def after (P : Side) : Deed → Side
  | .began t a => { P with calls := update P.calls t (P.meets (.began t a)) }
  | .returned t _ ⟨_, .setHandle h _⟩ => { P with handles := update P.handles h (P.calls t) }
  | .returned t _ ⟨_, .setGuard g⟩ =>
    { P with guards := update P.guards g.owner (update (P.guards g.owner) g.name (P.calls t)) }
  | _ => P

/-- A side after some deeds. -/
def through (P : Side) : List Deed → Side
  | [] => P
  | d :: past => (P.through past).after d

/-- The deeds that are done on a side. -/
def cull (P : Side) : List Deed → List Deed
  | [] => []
  | d :: past => if (P.through past).meets d then d :: P.cull past else P.cull past

/-- What is left of some things. -/
def keep {α β : Type} (p : α → Bool) (f : α → Option β) (a : α) : Option β :=
  if p a then f a else none

section
variable {α β : Type} {p : α → Bool} {f : α → Option β} {a : α} {b : β}

lemma keep_of (here : p a) : keep p f a = f a := if_pos here

lemma keep_eq_none (gone : f a = none) : keep p f a = none := by
  unfold keep
  split
  · exact gone
  · rfl

lemma keep_of_not (away : p a = false) : keep p f a = none := by
  unfold keep
  rw [away]
  rfl

lemma keep_eq_some (e : keep p f a = some b) : p a ∧ f a = some b := by
  unfold keep at e
  split at e
  case isTrue here => exact ⟨here, e⟩
  case isFalse => cases e

lemma keep_update [DecidableEq α] {x : Bool} {y : Option β} :
    keep (update p a x) (update f a y) = update (keep p f) a (if x then y else none) := by
  funext a'
  by_cases ea : a' = a
  · subst ea
    simp [keep]
  · simp [keep, update_of_ne ea]

/-- What changes elsewhere is not among what is left. -/
lemma keep_update_away [DecidableEq α] {y : Option β} (gone : keep p f a = none) :
    keep (update p a false) (update f a y) = keep p f := by
  rw [keep_update, if_neg Bool.false_ne_true, ← gone, update_eq_self]

lemma keep_update_same [DecidableEq α] {y : Option β} :
    keep p (update f a y) = update (keep p f) a (if p a then y else none) := by
  have same := keep_update (p := p) (f := f) (a := a) (x := p a) (y := y)
  rwa [update_eq_self] at same

end

/-- What is left of guards after one of them was changed. -/
lemma keep_guards {p : ThreadId → String → Bool} {f : ThreadId → String → Option Guard}
    {t : ThreadId} {g : String} {x : Bool} {y : Option Guard} :
    (fun t' => keep (update p t (update (p t) g x) t')
      (update f t (update (f t) g y) t')) =
      update (fun t' => keep (p t') (f t')) t
        (update (keep (p t) (f t)) g (if x then y else none)) := by
  funext t'
  by_cases et : t' = t
  · subst et
    simp only [update_self, keep_update]
  · simp only [update_of_ne et]
end Side

/-- A session with nothing in it but one side. -/
def Session.only (s : Session) (P : Side) : Session where
  host := s.host
  handles := Side.keep P.handles s.handles
  guards t := Side.keep (P.guards t) (s.guards t)
  calls := Side.keep P.calls s.calls
  dead := s.dead

/-- A side is what works with stakes in an object. -/
structure Side.Tracks (P : Side) (k : ObjectId) (s : Session) (ρ : ThreadId ⊕ String → Stake) :
    Prop where
  handles : ∀ h x, s.handles h = some x → P.handles h = (ρ (.inr h)).isIn k
  guards : ∀ t g x, s.guards t g = some x → P.guards t g = P.handles x.handle
  calls : ∀ t c, s.calls t = some c → P.calls t = (ρ (c.party t)).isIn k

/-- The side of an object. -/
def Session.side (s : Session) (ρ : ThreadId ⊕ String → Stake) (k : ObjectId) : Side where
  handles h := (ρ (.inr h)).isIn k
  guards t g := (s.guards t g).any fun x => (ρ (.inr x.handle)).isIn k
  calls t := (s.calls t).any fun c => (ρ (c.party t)).isIn k

/-- A call on a guard uses the handle of that guard. -/
def Session.IsGuardful (s : Session) : Prop :=
  ∀ t c g op x, s.calls t = some c → c.act = .onGuard g op → s.guards t g = some x →
    c.uses = some x.handle

namespace Session

variable {s s' : Session} {d : Deed} {P : Side} {t : ThreadId} {c : Underway} {h : String}
  {past : List Deed}

lemma IsGuardful.step (guardful : s.IsGuardful) (lent : s.IsLent) (st : s.Step d s') :
    s'.IsGuardful := by
  have begin {handles : String → Option Handle} {t : ThreadId} {c : Underway}
      (mine : ∀ g op x, c.act = .onGuard g op → s.guards t g = some x → c.uses = some x.handle) :
      ({ s with handles }.begin t c).IsGuardful := by
    intro t' c' g op x ec act eg
    obtain ⟨rfl, rfl⟩ | ⟨-, ec⟩ := begin_calls_inv ec
    · exact mine g op x act eg
    · exact guardful t' c' g op x ec act eg
  have whole := st
  cases st with
  | openHandle | onHandle | drop => exact begin nofun
  | @onGuard t g x f op idle eg =>
    refine begin ?_
    rintro g' op' x' ⟨⟩ eg'
    cases eg.symm.trans eg'
    rfl
  | @move t c m p' h' ec =>
    intro t' c' g op x ec' act eg
    obtain ⟨rfl, rfl⟩ | ⟨-, ec'⟩ := move_calls_inv ec'
    · exact guardful t' c g op x ec act eg
    · exact guardful t' c' g op x ec' act eg
  | @finish t c o =>
    intro t' c' g op x ec' act eg
    obtain ⟨ne, ec'⟩ := conclude_calls_inv ec'
    obtain ⟨-, same, -⟩ := lent.others_step whole (t := t') ne
    exact guardful t' c' g op x ec' act ((congrFun same g).symm.trans eg)
  | die => exact guardful

lemma IsGuardful.of_run {h : Host} (run : Run Session.Step (.ofHost h) past s) :
    s.IsGuardful := by
  induction run with
  | nil => exact fun t c g op x ec => nomatch ec
  | cons run st ih => exact ih.step (.of_run run) st

lemma idle_only (idle : s.IsIdle t) : (s.only P).IsIdle t :=
  ⟨Side.keep_eq_none idle.calls, idle.dead⟩

lemma inUse_only (used : (s.only P).IsInUse h) : s.IsInUse h := by
  obtain ⟨t, g, x, eg, eh⟩ | ⟨t, c, ec, uses⟩ := used
  · exact .inl ⟨t, g, x, (Side.keep_eq_some eg).2, eh⟩
  · exact .inr ⟨t, c, (Side.keep_eq_some ec).2, uses⟩

lemma only_begin (here : P.meets (.began t c.act)) :
    (s.begin t c).only (P.after (.began t c.act)) = (s.only P).begin t c := by
  have calls := Side.keep_update (p := P.calls) (f := s.calls) (a := t)
    (x := P.meets (.began t c.act)) (y := some c)
  rw [if_pos here] at calls
  exact congrArg (fun calls => { s.only P with calls }) calls

lemma only_move {p : Program Outcome} {h : Host} (here : P.calls t) :
    (s.move t c p h).only P = (s.only P).move t c p h := by
  have calls := Side.keep_update_same (p := P.calls) (f := s.calls) (a := t)
    (y := some { c with program := p })
  rw [if_pos here] at calls
  exact congrArg (fun calls => { s.only P with host := h, calls }) calls

/-- What a call on a side changes belongs to that side. -/
lemma only_conclude {o : Outcome} {a : Act} (here : P.calls t) :
    (s.conclude t o).only (P.after (.returned t a o)) = (s.only P).conclude t o := by
  have calls : Side.keep P.calls (update s.calls t none) =
      update (Side.keep P.calls s.calls) t none := by
    rw [Side.keep_update_same, ite_self]
  obtain ⟨r, e⟩ := o
  cases e with
  | none => exact congrArg (fun calls => { s.only P with calls }) calls
  | setHandle h x =>
    have handles := Side.keep_update (p := P.handles) (f := s.handles) (a := h)
      (x := P.calls t) (y := some x)
    rw [if_pos here] at handles
    exact congrArg₂ (fun handles calls => { s.only P with handles, calls }) handles calls
  | setGuard g =>
    have guards := Side.keep_guards (p := P.guards) (f := s.guards) (t := g.owner)
      (g := g.name) (x := P.calls t) (y := some g)
    rw [if_pos here] at guards
    exact congrArg₂ (fun guards calls => { s.only P with guards, calls }) guards calls
  | removeGuard g =>
    have guards := Side.keep_guards (p := P.guards) (f := s.guards) (t := g.owner)
      (g := g.name) (x := P.guards g.owner g.name) (y := none)
    rw [update_eq_self, update_eq_self, ite_self] at guards
    exact congrArg₂ (fun guards calls => { s.only P with guards, calls }) guards calls

/-- What is done on a side can be done as well where there is nothing else. -/
theorem Step.only (st : s.Step d s') (meets : P.meets d)
    (guards : ∀ t g x, s.guards t g = some x → P.guards t g = P.handles x.handle) :
    (s.only P).Step d (s'.only (P.after d)) := by
  cases st with
  | openHandle => cases meets
  | @onHandle t h op x p idle ex excl taken nodrop ep =>
    have here : P.handles h := meets
    rw [only_begin meets]
    exact .onHandle (idle_only idle) ((Side.keep_of here).trans ex)
      (fun ex used => excl ex (inUse_only used)) (fun g eg => Side.keep_eq_none (taken g eg)) nodrop
      ep
  | @drop t h x p idle ex unused ep =>
    have here : P.handles h := meets
    have taken : Session.only { s with handles := update s.handles h none } P =
        { s.only P with handles := update (s.only P).handles h none } := by
      have handles := Side.keep_update_same (p := P.handles) (f := s.handles) (a := h)
        (y := none)
      rw [ite_self] at handles
      exact congrArg (fun handles => { s.only P with handles }) handles
    rw [only_begin meets, taken]
    exact .drop (idle_only idle) ((Side.keep_of here).trans ex)
      (fun used => unused (inUse_only used)) ep
  | @onGuard t g x f op idle eg ex =>
    have here : P.guards t g := meets
    have here' : P.handles x.handle := guards t g x eg ▸ here
    rw [only_begin meets]
    exact .onGuard (idle_only idle) ((Side.keep_of here).trans eg) ((Side.keep_of here').trans ex)
  | @move t c m p' h' ec alive st =>
    have here : P.calls t := meets
    change (s.only P).Step _ ((s.move t c p' h').only P)
    rw [only_move here]
    exact .move (s := s.only P) ((Side.keep_of here).trans ec) alive st
  | @finish t c o ec alive ep =>
    have here : P.calls t := meets
    rw [only_conclude here]
    exact .finish (s := s.only P) ((Side.keep_of here).trans ec) alive ep
  | die alive => exact .die (s := s.only P) alive

/-- What begins elsewhere is not on a side. -/
lemma only_begin_of_misses (free : s.calls t = none)
    (away : P.meets (.began t c.act) = false) :
    (s.begin t c).only (P.after (.began t c.act)) = s.only P := by
  have calls : Side.keep (update P.calls t (P.meets (.began t c.act)))
      (update s.calls t (some c)) = Side.keep P.calls s.calls := by
    rw [away]
    exact Side.keep_update_away (Side.keep_eq_none free)
  exact congrArg (fun calls => { s.only P with calls }) calls

lemma tracks_side (k : ObjectId) (ρ : ThreadId ⊕ String → Stake) :
    (s.side ρ k).Tracks k s ρ := by
  refine ⟨fun _ _ _ => rfl, ?_, ?_⟩
  · intro t g x eg
    simp only [side, eg, Option.any_some]
  · intro t c ec
    simp only [side, ec, Option.any_some]

end Session

namespace Side.Tracks

variable {b : ObjectId} {s s' : Session} {d : Deed} {P : Side} {t : ThreadId} {c : Underway}
  {k : ObjectId} {ρ : ThreadId ⊕ String → Stake} {h : String} {o : Outcome}

/-- A call that uses a handle which is there is on the side of that handle. -/
lemma calls_of_uses {x : Handle} (tracks : P.Tracks k s ρ) (ec : s.calls t = some c)
    (ex : s.handles h = some x) (uses : c.uses = some h) (other : c.act.opensHandle = false) :
    P.calls t = P.handles h := by
  have party : c.party t = .inr h := by
    obtain ⟨act, _, subject, program⟩ := c
    cases uses
    cases act with
    | openHandle => cases other
    | _ => rfl
  rw [tracks.calls t c ec, tracks.handles h x ex, party]

/-- Whoever comes back elsewhere changes nothing on a side. -/
lemma only_conclude_of_misses {a : Act} (tracks : P.Tracks k s ρ) (regular : s.IsRegular b ρ)
    (guardful : s.IsGuardful) (ec : s.calls t = some c) (ep : c.program = .ret o)
    (alive : s.dead t = false) (away : P.calls t = false) :
    (s.conclude t o).only (P.after (.returned t a o)) = s.only P := by
  have calls : keep P.calls (update s.calls t none) = keep P.calls s.calls := by
    have gone : keep P.calls s.calls t = none := keep_of_not away
    rw [keep_update_same, ite_self, ← gone, update_eq_self]
  have handle {h : String} {x : Handle} (uses : c.uses = some h)
      (replaced : s.handles h = none ∨
        (∃ g, s.handles h = some (.segment g)) ∧ ∃ g, x = .segment g)
      (ee : o.effect = .setHandle h x) : keep P.handles s.handles h = none := by
    obtain free | ⟨⟨g, there⟩, -⟩ := replaced
    · exact keep_eq_none free
    · refine keep_of_not ((tracks.calls_of_uses ec there uses ?_).symm.trans away)
      cases act : c.act with
      | openHandle =>
        obtain ⟨-, free⟩ := regular.lent.opening_inv ec act ep ee
        cases there.symm.trans free
      | _ => rfl
  have guard {g : String} {x : Guard} {op : GuardOperation} (act : c.act = .onGuard g op)
      (eg : s.guards t g = some x) : P.guards t g = false := by
    obtain ⟨-, -, f, there, -⟩ := regular.lent.guards t g x eg
    have same := tracks.calls_of_uses ec there (guardful t c g op x ec act eg) (by rw [act]; rfl)
    exact (tracks.guards t g x eg).trans (same.symm.trans away)
  have regards {t' : ThreadId} {g : String} {y : Option Guard}
      (gone : keep (P.guards t') (s.guards t') g = none) :
      (fun u => keep (update P.guards t' (update (P.guards t') g false) u)
        (update s.guards t' (update (s.guards t') g y) u)) =
        fun u => keep (P.guards u) (s.guards u) := by
    rw [keep_guards, if_neg Bool.false_ne_true, ← gone, update_eq_self, update_eq_self]
  have brings := (regular.lent.calls t c ec).brings ep
  obtain ⟨r, e⟩ := o
  cases brings with
  | nothing => exact congrArg (fun calls => { s.only P with calls }) calls
  | @handle h x kind uses replaced =>
    have handles : keep (update P.handles h (P.calls t)) (update s.handles h (some x)) =
        keep P.handles s.handles := by
      rw [away]
      exact keep_update_away (handle uses replaced rfl)
    exact congrArg₂ (fun handles calls => { s.only P with handles, calls }) handles calls
  | @guard h g f status act there free =>
    have guards := regards (y := some ⟨t, g, h, status⟩) (keep_eq_none free)
    rw [← away] at guards
    exact congrArg₂ (fun guards calls => { s.only P with guards, calls }) guards calls
  | @waited g x status act eg =>
    obtain ⟨rfl, rfl, -⟩ := regular.lent.guards _ _ _ eg
    have guards := regards (y := some { x with status }) (keep_of_not (guard act eg))
    rw [← away] at guards
    exact congrArg₂ (fun guards calls => { s.only P with guards, calls }) guards calls
  | @dropped g x act eg =>
    obtain ⟨rfl, rfl, -⟩ := regular.lent.guards _ _ _ eg
    have guards := regards (y := none) (keep_of_not (guard act eg))
    rw [← guard act eg, update_eq_self, update_eq_self] at guards
    exact congrArg₂ (fun guards calls => { s.only P with guards, calls }) guards calls

/-- What is done elsewhere leaves a side as it is. -/
theorem only_of_misses (tracks : P.Tracks k s ρ) (regular : s.IsRegular b ρ)
    (guardful : s.IsGuardful) (st : s.Step d s') (misses : P.meets d = false) :
    s'.only (P.after d) = (s.only P).onHost s'.host := by
  cases st with
  | openHandle idle | onHandle idle | onGuard idle =>
    exact Session.only_begin_of_misses idle.calls misses
  | @drop t h x p idle ex unused ep =>
    have away : P.handles h = false := misses
    have handles : keep P.handles (update s.handles h none) = keep P.handles s.handles := by
      have gone : keep P.handles s.handles h = none := keep_of_not away
      rw [keep_update_same, ite_self, ← gone, update_eq_self]
    refine (Session.only_begin_of_misses (s := { s with handles := update s.handles h none })
      idle.calls misses).trans ?_
    exact congrArg (fun handles => { s.only P with handles }) handles
  | @move t c m p' h' ec alive st =>
    have away : P.calls t = false := misses
    have calls : keep P.calls (update s.calls t (some { c with program := p' })) =
        keep P.calls s.calls := by
      have gone : keep P.calls s.calls t = none := keep_of_not away
      rw [keep_update_same, if_neg (by simp [away]), ← gone, update_eq_self]
    exact congrArg (fun calls => { s.only P with host := h', calls }) calls
  | finish ec alive ep =>
    rw [tracks.only_conclude_of_misses regular guardful ec ep alive misses, Session.conclude_host]
    rfl
  | die => cases misses

/-- A thread begins a call, and no other call or handle works with a stake that changes. -/
lemma begin {handles : String → Option Handle} {ρ' : ThreadId ⊕ String → Stake}
    (tracks : P.Tracks k s ρ)
    (mine : P.meets (.began t c.act) = (ρ' (c.party t)).isIn k)
    (others : ∀ t' c', s.calls t' = some c' → ρ' (c'.party t') = ρ (c'.party t'))
    (kept : ∀ h x, handles h = some x → s.handles h = some x ∧ ρ' (.inr h) = ρ (.inr h)) :
    (P.after (.began t c.act)).Tracks k ({ s with handles }.begin t c) ρ' := by
  refine ⟨?_, tracks.guards, ?_⟩
  · intro h x ex
    obtain ⟨there, same⟩ := kept h x ex
    exact same ▸ tracks.handles h x there
  · intro t' c' ec
    change update P.calls t (P.meets (.began t c.act)) t' = _
    obtain ⟨rfl, rfl⟩ | ⟨ne, ec⟩ := Session.begin_calls_inv ec
    · rwa [update_self]
    · rw [update_of_ne ne, others t' c' ec]
      exact tracks.calls t' c' ec

/-- A thread makes a step in its call, by which no stake comes to be in the object. -/
lemma move {m : Move} {p' : Program Outcome} {h' : Host} {x : Stake} (tracks : P.Tracks k s ρ)
    (ec : s.calls t = some c) (same : x.isIn k = (ρ (c.party t)).isIn k) :
    (P.after (.moved t s.host m)).Tracks k (s.move t c p' h') (update ρ (c.party t) x) := by
  have stays (i : ThreadId ⊕ String) : (update ρ (c.party t) x i).isIn k = (ρ i).isIn k := by
    by_cases ei : i = c.party t
    · subst ei
      rw [update_self, same]
    · rw [update_of_ne ei]
  refine ⟨fun h x ex => (tracks.handles h x ex).trans (stays _).symm, tracks.guards, ?_⟩
  intro t' c' ec'
  obtain ⟨rfl, rfl⟩ | ⟨-, ec'⟩ := Session.move_calls_inv ec'
  · exact (tracks.calls t' c ec).trans (stays _).symm
  · exact (tracks.calls t' c' ec').trans (stays _).symm

/-- A thread comes back with a handle. -/
lemma conclude_handle {x : Handle} {ρ' : ThreadId ⊕ String → Stake} (tracks : P.Tracks k s ρ)
    (lent : s.IsLent) (ec : s.calls t = some c) (ep : c.program = .ret o)
    (ee : o.effect = .setHandle h x) (mine : P.calls t = (ρ' (.inr h)).isIn k)
    (handles : ∀ h' ≠ h, ρ' (.inr h') = ρ (.inr h'))
    (others : ∀ t' ≠ t, ∀ c', s.calls t' = some c' → ρ' (c'.party t') = ρ (c'.party t')) :
    Tracks { P with handles := update P.handles h (P.calls t) } k (s.conclude t o) ρ' := by
  have brings := (lent.calls t c ec).brings ep
  rw [ee] at brings
  refine ⟨?_, ?_, ?_⟩
  · intro h' x' ex'
    change update P.handles h (P.calls t) h' = _
    rw [Session.conclude_setHandle ee] at ex'
    obtain ⟨rfl, -⟩ | ⟨ne, ex'⟩ := Session.update_inv ex'
    · rw [update_self, mine]
    · rw [update_of_ne ne, handles h' ne]
      exact tracks.handles h' x' ex'
  · intro t' g y eg
    rw [Session.conclude_eq_ended (by rw [ee]; rfl)] at eg
    obtain ⟨-, -, f, there, -⟩ := lent.guards t' g y eg
    have ne : y.handle ≠ h := by
      rintro rfl
      cases brings with
      | handle kind uses replaced => exact Session.IsLent.no_facade replaced there
    exact (tracks.guards t' g y eg).trans (update_of_ne ne _ _).symm
  · intro t' c' ec'
    obtain ⟨ne, ec'⟩ := Session.conclude_calls_inv ec'
    rw [others t' ne c' ec']
    exact tracks.calls t' c' ec'

/-- A thread comes back from its call. -/
lemma conclude (tracks : P.Tracks k s ρ) (regular : s.IsRegular b ρ) (guardful : s.IsGuardful)
    (ec : s.calls t = some c) (alive : s.dead t = false) (ep : c.program = .ret o) :
    (P.after (.returned t c.act o)).Tracks k (s.conclude t o)
      (s.restake ρ (.returned t c.act o)) := by
  obtain ⟨σ, kept⟩ := regular.kept
  have yields := kept.calls t c ec alive
  rw [ep] at yields
  have calls t' c' (ec' : (s.conclude t o).calls t' = some c') :
      P.calls t' = (ρ (c'.party t')).isIn k :=
    tracks.calls t' c' (Session.conclude_calls_inv ec').2
  have brings := (regular.lent.calls t c ec).brings ep
  obtain ⟨result, effect⟩ := o
  cases effect with
  | none =>
    rw [Session.restake_of_spares rfl]
    exact ⟨tracks.handles, tracks.guards, calls⟩
  | setHandle h x =>
    cases Act.Yields.returns yields with
    | spares spares => cases spares
    | opens act ee =>
      cases ee
      have party : c.party t = .inl t := Underway.party_of_opensHandle (by rw [act]; rfl)
      have handed (h' : String) : update (SharedSegment.handOver ρ t h) (.inl t) Stake.nothing
          (.inr h') = SharedSegment.handOver ρ t h (.inr h') := update_of_ne (by simp) _ _
      obtain ⟨uses, free⟩ := regular.lent.opening_inv ec act ep rfl
      rw [Session.restake_of_opens (by rw [act]; rfl) rfl]
      refine tracks.conclude_handle regular.lent ec ep rfl ?_ ?_ ?_
      · rw [handed, handOver_handle, tracks.calls t c ec, party]
      · intro h' ne
        rw [handed, handOver_handle_ne ρ ne]
      · intro t' ne c' ec'
        have other : c'.party t' ≠ .inr h := by
          intro e
          exact ne (regular.lent.sole t' t c' c h free ec' (Underway.uses_of_party e) ec uses)
        have other' : c'.party t' ≠ .inl t := Underway.party_ne_call ne
        rw [update_of_ne other', SharedSegment.handOver, Equiv.swap_apply_of_ne_of_ne other' other]
    | @destroys _ g act ee =>
      cases ee
      rw [Session.restake_of_not_opens (by rw [act]; rfl)]
      refine tracks.conclude_handle regular.lent ec ep rfl ?_ (fun _ _ => rfl) fun _ _ _ _ => rfl
      cases brings with
      | handle kind uses replaced =>
        have party : c.party t = .inr h := by rw [Underway.party, act, uses]
        rw [tracks.calls t c ec, party]
  | setGuard g =>
    rw [Session.restake_of_spares rfl]
    refine ⟨tracks.handles, ?_, calls⟩
    have mine : P.calls t = P.handles g.handle := by
      cases brings with
      | guard act there =>
        exact tracks.calls_of_uses ec there (regular.lent.guarding_inv ec act).2.1 (by rw [act]; rfl)
      | @waited n y status act eg =>
        obtain ⟨-, -, f, there, -⟩ := regular.lent.guards t n y eg
        exact tracks.calls_of_uses ec there (guardful t c n _ y ec act eg) (by rw [act]; rfl)
    intro t' n x eg
    change update P.guards g.owner (update (P.guards g.owner) g.name (P.calls t)) t' n =
      P.handles x.handle
    obtain ⟨rfl, rfl, ⟨⟩⟩ | ⟨other, eg⟩ := Session.guards_update_inv eg
    · rw [update_self, update_self, mine]
    · rw [← tracks.guards t' n x eg]
      by_cases et : t' = g.owner
      · subst et
        rw [update_self, update_of_ne (other rfl)]
      · rw [update_of_ne et]
  | removeGuard g =>
    rw [Session.restake_of_spares rfl]
    refine ⟨tracks.handles, ?_, calls⟩
    intro t' n x eg
    obtain ⟨-, -, ⟨⟩⟩ | ⟨-, eg⟩ := Session.guards_update_inv eg
    exact tracks.guards t' n x eg

/-- Once nobody comes to an object any more, its side is known from the deeds. -/
theorem step (tracks : P.Tracks k s ρ) (regular : s.IsRegular b ρ) (guardful : s.IsGuardful)
    (st : s.Step d s') (unbound : ∀ n, ¬s'.host.IsBound n k) :
    (P.after d).Tracks k s' (s.restake ρ d) := by
  cases st with
  | @openHandle t toggle h raw size via idle =>
    refine tracks.begin (c := ⟨.openHandle h raw size via, _, _, _⟩) ?_ ?_ ?_
    · change false = (update ρ (.inl t) Stake.nothing (.inl t)).isIn k
      rw [update_self]
      rfl
    · intro t' c' ec
      exact update_of_ne (Session.IsStaked.party_ne_idle idle.calls ec) _ _
    · intro h x ex
      refine ⟨ex, ?_⟩
      change update ρ (.inl t) Stake.nothing (.inr h) = _
      exact update_of_ne (by simp) _ _
  | @onHandle t h op x p idle ex excl taken nodrop ep =>
    rw [Session.restake_onHandle nodrop]
    exact tracks.begin (c := ⟨.onHandle h op, some h, some x, p⟩) (tracks.handles h x ex)
      (fun _ _ _ => rfl) fun _ _ ex => ⟨ex, rfl⟩
  | @drop t h x p idle ex unused ep =>
    have taken : update (handOver ρ t h) (.inr h) .nothing (.inl t) = ρ (.inr h) :=
      (update_of_ne (by simp) _ _).trans (handOver_call ρ)
    refine tracks.begin (c := ⟨.onHandle h .drop, none, some x, p⟩) ?_ ?_ ?_
    · exact (tracks.handles h x ex).trans (congrArg (Stake.isIn · k) taken.symm)
    · intro t' c' ec
      have ne := Session.IsStaked.party_ne_handle unused ec
      have ne' := Session.IsStaked.party_ne_idle idle.calls ec
      exact (update_of_ne ne _ _).trans
        (congrArg ρ (Equiv.swap_apply_of_ne_of_ne ne' ne))
    · intro h' x' ex'
      obtain ⟨-, ⟨⟩⟩ | ⟨ne, ex'⟩ := Session.update_inv ex'
      exact ⟨ex', (update_of_ne (by simpa using ne) _ _).trans (handOver_handle_ne ρ ne)⟩
  | @onGuard t g x f op idle eg ex =>
    refine tracks.begin (c := ⟨.onGuard g op, some x.handle, _, _⟩) ?_ (fun _ _ _ => rfl)
      fun _ _ ex => ⟨ex, rfl⟩
    exact (tracks.guards t g x eg).trans (tracks.handles x.handle _ ex)
  | @move t c m p' h' ec alive st =>
    rw [Session.restake_moved ec]
    refine tracks.move ec (Stake.isIn_moves st ?_ unbound)
    exact fun r next ep => regular.staked.permits regular.confined ec alive ep
  | finish ec alive ep => exact tracks.conclude regular guardful ec alive ep
  | die => exact ⟨tracks.handles, tracks.guards, tracks.calls⟩

end Side.Tracks

/-- A thread has opened an object in the call that it has begun last. -/
inductive Deed.HasOpened (t : ThreadId) (k : ObjectId) : List Deed → Prop where
  | here {d past} :
    d.opens? t = some k →
    HasOpened t k (d :: past)
  | later {d past} :
    HasOpened t k past →
    (∀ a, d ≠ .began t a) →
    HasOpened t k (d :: past)

lemma Deed.hasOpened_cons {d : Deed} {t : ThreadId} {k : ObjectId} {past : List Deed} :
    HasOpened t k (d :: past) ↔
      d.opens? t = some k ∨ HasOpened t k past ∧ ∀ a, d ≠ .began t a := by
  refine ⟨?_, ?_⟩
  · rintro (here | ⟨before, other⟩)
    · exact .inl here
    · exact .inr ⟨before, other⟩
  · rintro (here | ⟨before, other⟩)
    · exact .here here
    · exact .later before other

/-- A side is the side of an object: it has the handles that show the object, with the guards and
the calls on them, and the calls that have opened it. -/
structure Side.IsOf (P : Side) (k : ObjectId) (past : List Deed) (s : Session) : Prop where
  handles : ∀ y x g m j, s.handles y = some x → x.segment? = some g → g.mapping = some m →
    s.host.shows m j → (P.handles y ↔ j = k)
  guards : ∀ t n x, s.guards t n = some x → P.guards t n = P.handles x.handle
  subjects : ∀ t c x g m j, s.calls t = some c → c.act.opensHandle = false →
    c.subject = some x → x.segment? = some g → g.mapping = some m → s.host.shows m j →
      (P.calls t ↔ j = k)
  openings : ∀ t c, s.calls t = some c → c.act.opensHandle →
    (P.calls t ↔ Deed.HasOpened t k past)

/-- The stake of a call that opens a handle is in the object that the call has opened. -/
def Session.Recalls (s : Session) (past : List Deed) (ρ : ThreadId ⊕ String → Stake) : Prop :=
  ∀ t c k, s.calls t = some c → c.act.opensHandle →
    ((ρ (.inl t)).isIn k ↔ Deed.HasOpened t k past)

/-- A stake is in an object after a move if it was before, or if the object was just opened. -/
lemma Stake.isIn_moves_iff {c : Stake} {h h' : Host} {t : ThreadId} {m : Move}
    {p p' : Program Outcome} {k : ObjectId} (st : p.Step t h m p' h')
    (may : ∀ r next, p = .ask r next → c.Permits r) :
    (c.moves h m).isIn k ↔ (Deed.moved t h m).opens? t = some k ∨ c.isIn k := by
  have stays {c' : Stake} (same : c'.object? = c.object?) :
      c'.isIn k ↔ (none : Option ObjectId) = some k ∨ c.isIn k := by
    simp [isIn, same]
  have opened {j : ObjectId} {f : FileId} {made : Bool} (fresh : c = nothing) :
      (start f j made).isIn k ↔ some j = some k ∨ c.isIn k := by
    simp [isIn, fresh, start, nothing, object?]
  cases st with
  | tell | wait => exact stays rfl
  | strike => exact stays object?_tried
  | @answer r next _ a _ e =>
    rw [Deed.opens?, if_pos rfl]
    have may := may r next rfl
    cases r with
    | openNew n mode =>
      cases a with
      | error => exact stays rfl
      | ok f => exact opened may.further
    | openExisting n =>
      cases a with
      | error => exact stays rfl
      | ok f =>
        obtain ⟨err, ⟨⟩, -⟩ | ⟨j, y, bound, -⟩ := Host.ledger_step e
        change (start f ((h.ledger.bound? n).getD 0) false).isIn k ↔ h.ledger.bound? n = some k ∨ _
        rw [bound]
        exact opened may.further
    | _ => exact @stays (c.next 0 _ a) (object?_next rfl a)

namespace Session.Recalls

variable {b : ObjectId} {s s' : Session} {d : Deed} {P : Side} {k : ObjectId}
  {ρ : ThreadId ⊕ String → Stake} {past : List Deed}

theorem step (recalls : s.Recalls past ρ) (regular : s.IsRegular b ρ) (st : s.Step d s') :
    s'.Recalls (d :: past) (s.restake ρ d) := by
  intro t c k ec opens
  rw [Deed.hasOpened_cons]
  have before (ec : s.calls t = some c) (none : d.opens? t = none) (other : ∀ a, d ≠ .began t a)
      (same : s.restake ρ d (.inl t) = ρ (.inl t)) :
      (s.restake ρ d (.inl t)).isIn k ↔
        d.opens? t = some k ∨ Deed.HasOpened t k past ∧ ∀ a, d ≠ .began t a := by
    rw [same, none, recalls t c k ec opens]
    simp [other]
  by_cases et : t = d.thread
  case neg =>
    refine before ((regular.lent.others_step st et).1.symm.trans ec) ?_ ?_ (restake_of_ne et)
    · cases d with
      | moved t' h m =>
        cases m with
        | answered r a => exact if_neg (Ne.symm et)
        | _ => rfl
      | _ => rfl
    · rintro a rfl
      exact et rfl
  cases st with
  | @openHandle t' =>
    obtain rfl : t = t' := et
    have fresh : update ρ (.inl t) Stake.nothing (.inl t) = .nothing := update_self ..
    change (update ρ (.inl t) Stake.nothing (.inl t)).isIn k ↔ _
    rw [fresh]
    refine iff_of_false ?_ ?_
    · rintro ⟨⟩
    · rintro (⟨⟨⟩⟩ | ⟨-, other⟩)
      exact other _ rfl
  | onHandle | drop | onGuard =>
    obtain ⟨-, rfl⟩ | ⟨ne, -⟩ := begin_calls_inv ec
    · cases opens
    · exact absurd et ne
  | @move t' c' m p' h' ec' alive st =>
    obtain rfl : t = t' := et
    obtain ⟨-, rfl⟩ | ⟨ne, -⟩ := move_calls_inv ec
    · have opens : c'.act.opensHandle := opens
      have party := Underway.party_of_opensHandle (t := t) opens
      have may r next (ep : c'.program = .ask r next) : (ρ (.inl t)).Permits r :=
        party ▸ regular.staked.permits regular.confined ec' alive ep
      rw [restake_moved_opening ec' opens, Stake.isIn_moves_iff st may, recalls t c' k ec' opens]
      simp
    · exact absurd rfl ne
  | finish => exact absurd et (conclude_calls_inv ec).1
  | die =>
    refine before ec rfl ?_ rfl
    rintro a ⟨⟩

end Session.Recalls

/-- What works with stakes in an object is the side of the object. -/
theorem Side.Tracks.isOf {b : ObjectId} {s : Session} {P : Side} {k : ObjectId}
    {ρ : ThreadId ⊕ String → Stake} {past : List Deed} (tracks : P.Tracks k s ρ)
    (regular : s.IsRegular b ρ) (recalls : s.Recalls past ρ) : P.IsOf k past s := by
  have shown {i : ThreadId ⊕ String} {g : Segment} {m : MappingId} {j : ObjectId}
      (holds : (ρ i).Holds g) (em : g.mapping = some m) (shows : s.host.shows m j) :
      (ρ i).isIn k ↔ j = k := by
    have here := (regular.staked.holders.fits i).object?_of_shows (holds.has em) shows
    simp [Stake.isIn, here]
  refine ⟨?_, tracks.guards, ?_, ?_⟩
  · intro y x g m j ex eg em shows
    rw [tracks.handles y x ex]
    exact shown (regular.staked.handles y x g ex eg) em shows
  · intro t c x g m j ec other sub eg em shows
    rw [tracks.calls t c ec]
    exact shown (regular.staked.subjects t c x g ec other sub eg) em shows
  · intro t c ec opens
    rw [tracks.calls t c ec, Underway.party_of_opensHandle opens]
    exact recalls t c k ec opens

end SharedSegment
