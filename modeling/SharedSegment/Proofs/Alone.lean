import SharedSegment.Proofs.Ensures

/-!
# A thread alone

While no other thread makes a step, a program meets the host as its own steps have left it. So the
host itself is the state of a protocol, `Protocol.alone`, in which calls may fail where a condition
lets them. What is ensured by it holds of whatever the steps of the program lead to
(`Ensures.of_steps`), and if no call fails, the program ends (`Ensures.run_calm`): it may ask for
nothing that it would have to wait for.
-/

namespace SharedSegment

/-- How a host behaves towards a thread that is alone with it. -/
def Protocol.alone (t : ThreadId) (may : Host → Request → Prop) : Protocol Host where
  Permits h r := ∀ h', h.step t r ≠ .wait h'
  Answers h r a h' :=
    h.step t r = .done a h' ∨
    may h r ∧ h' = h ∧ ∃ call fail e, r.call? = some (call, fail) ∧ a = fail e
  tells h _ := h

/-- Whether a move is no failing call, or one that a condition lets fail. -/
def Move.IsLet (may : Host → Request → Prop) (h : Host) : Move → Prop
  | .struck r _ => may h r
  | _ => True

lemma Move.IsLet.of_forall {may : Host → Request → Prop} {h : Host} {m : Move}
    (all : ∀ r, may h r) : m.IsLet may h := by
  cases m with
  | struck r e => exact all r
  | _ => trivial

namespace Program

variable {α : Type} {t : ThreadId} {may : Host → Request → Prop} {post : α → Host → Prop}
  {p p' : Program α} {h h' : Host}

/-- A request that the host answers, or that is let fail. -/
lemma Ensures.asks {r : Request} {next : r.Answer → Program α} {a : r.Answer}
    (e : h.step t r = .done a h') (answered : (next a).Ensures (.alone t may) post h')
    (struck : ∀ call fail e, r.call? = some (call, fail) → may h r →
      (next (fail e)).Ensures (.alone t may) post h) :
    (Program.ask r next).Ensures (.alone t may) post h := by
  constructor
  · intro _ waits
    cases e.symm.trans waits
  · rintro _ _ (done | ⟨spared, rfl, call, fail, e', ec, rfl⟩)
    · cases e.symm.trans done
      exact answered
    · exact struck call fail e' ec spared

/-- A request that the host answers, and that is no call that may fail. -/
lemma Ensures.asks_safely {r : Request} {next : r.Answer → Program α} {a : r.Answer}
    (safe : r.call? = none) (e : h.step t r = .done a h')
    (answered : (next a).Ensures (.alone t may) post h') :
    (Program.ask r next).Ensures (.alone t may) post h := by
  refine asks e answered ?_
  intro call fail e' ec
  cases safe.symm.trans ec

/-- A request that the host answers, where no call fails. -/
lemma Ensures.asks_calmly {r : Request} {next : r.Answer → Program α} {a : r.Answer}
    (e : h.step t r = .done a h') (answered : (next a).Ensures (.alone t fun _ _ => False) post h') :
    (Program.ask r next).Ensures (.alone t fun _ _ => False) post h :=
  asks e answered fun _ _ _ _ => False.elim

lemma Ensures.of_step {m : Move} (en : p.Ensures (.alone t may) post h) (st : p.Step t h m p' h')
    (spared : m.IsLet may h) : p'.Ensures (.alone t may) post h' := by
  cases st with
  | tell => exact en
  | answer eh => exact en.2 _ _ (.inl eh)
  | wait eh => exact absurd eh (en.1 _)
  | strike ec => exact en.2 _ _ (.inr ⟨spared, rfl, _, _, _, ec, rfl⟩)

/-- What is ensured holds wherever the steps lead. -/
theorem Ensures.of_steps {ms : List (Host × Move)} (en : p.Ensures (.alone t may) post h)
    (sts : p.Steps t h ms p' h') (spared : ∀ x ∈ ms, x.2.IsLet may x.1) :
    p'.Ensures (.alone t may) post h' := by
  induction sts with
  | nil => exact en
  | cons _ st ih =>
    have spared := List.forall_mem_cons.1 spared
    exact (ih spared.2).of_step st spared.1

/-- A program ends with a value on a thread that is alone with its host, and no calls fail but such
as a condition lets fail. -/
def Ends (p : Program α) (t : ThreadId) (may : Host → Request → Prop) (h : Host) (a : α)
    (h' : Host) : Prop :=
  ∃ ms, p.Steps t h ms (.ret a) h' ∧ ∀ x ∈ ms, x.2.IsLet may x.1

theorem Ensures.of_ends {a : α} (en : p.Ensures (.alone t may) post h)
    (ends : p.Ends t may h a h') : post a h' := by
  obtain ⟨ms, sts, spared⟩ := ends
  exact en.of_steps sts spared

lemma planned_of_next? {f : Faults} {c : Call} {e : Errno} (en : f.next? c = some e) :
    ∃ x ∈ f.planned, x.call = c := by
  obtain ⟨x, ex, -⟩ := Option.map_eq_some_iff.1 en
  have hit := List.find?_some ex
  simp only [Bool.and_eq_true, beq_iff_eq] at hit
  exact ⟨x, List.mem_of_find?_eq_some ex, hit.1⟩

/-- A call that is made to fail was planned to. -/
lemma planned_of_meetWithin {fuel : Nat} {f f' : Faults} {c : Call} {r : Option Errno}
    (e : f.meetWithin fuel c = (r, f')) :
    f'.planned = f.planned ∧ (r.isSome → ∃ x ∈ f.planned, x.call = c) := by
  induction fuel generalizing f with
  | zero =>
    cases e
    refine ⟨rfl, fun some => ?_⟩
    obtain ⟨err, en⟩ := Option.isSome_iff_exists.1 some
    exact planned_of_next? en
  | succ fuel ih =>
    rw [Faults.meetWithin] at e
    split at e
    case h_2 =>
      cases e
      exact ⟨rfl, nofun⟩
    case h_1 err en =>
      split at e
      case isFalse =>
        cases e
        exact ⟨rfl, fun _ => planned_of_next? en⟩
      case isTrue => exact ⟨(ih e).1, fun _ => planned_of_next? en⟩

lemma planned_of_strike {f f' : Faults} {r : Request} {a : Option r.Answer}
    (e : f.strike r = (a, f')) :
    f'.planned = f.planned ∧ ∀ b, a = some b → ∃ x ∈ f.planned, ∃ fail err,
      r.call? = some (x.call, fail) ∧ b = fail err := by
  unfold Faults.strike at e
  split at e
  case h_2 =>
    cases e
    exact ⟨rfl, nofun⟩
  case h_1 c fail ec =>
    split at e
    case h_1 err f'' em =>
      cases e
      obtain ⟨same, planned⟩ := planned_of_meetWithin em
      obtain ⟨x, mem, rfl⟩ := planned rfl
      refine ⟨same, ?_⟩
      rintro b ⟨⟩
      exact ⟨x, mem, fail, err, ec, rfl⟩
    case h_2 f'' em =>
      cases e
      exact ⟨(planned_of_meetWithin em).1, nofun⟩

/-- A step in front of what ends. -/
lemma Ends.head {m : Move} {a : α} {h'' : Host} (st : p.Step t h m p' h') (spared : m.IsLet may h)
    (ends : p'.Ends t may h' a h'') : p.Ends t may h a h'' := by
  obtain ⟨ms, sts, others⟩ := ends
  refine ⟨_, .head st sts, ?_⟩
  exact List.forall_mem_append.2 ⟨others, List.forall_mem_singleton.2 spared⟩

/-- A program that is run to its end, with faults of calls that may fail, ends so. -/
theorem Ends.of_run (f : Faults) (out : List Output) {a : α}
    (spared : ∀ x ∈ f.planned, ∀ (h : Host) (r : Request) fail, r.call? = some (x.call, fail) →
      may h r)
    (ended : (p.run t f out h).1.value? = some a) : p.Ends t may h a (p.run t f out h).2 := by
  induction p generalizing f out h with
  | ret b =>
    cases ended
    exact ⟨[], .nil, nofun⟩
  | put o rest ih => exact .head .tell trivial (ih f (o :: out) spared ended)
  | ask r next ih =>
    rw [run] at ended ⊢
    split at ended
    case h_1 b f' e =>
      obtain ⟨same, planned⟩ := planned_of_strike e
      obtain ⟨x, mem, fail, err, ec, rfl⟩ := planned b rfl
      exact .head (.strike ec) (spared x mem h r fail ec) (ih _ f' out (same ▸ spared) ended)
    case h_2 f' e =>
      split at ended
      case h_1 b h' eh =>
        exact .head (.answer eh) trivial (ih b f' out ((planned_of_strike e).1 ▸ spared) ended)
      case h_2 => cases ended

/-- Without faults no call fails. -/
lemma strike_calm {f : Faults} (calm : f.planned = []) (r : Request) :
    ∃ f', f.strike r = (none, f') ∧ f'.planned = [] := by
  unfold Faults.strike
  cases ec : r.call? with
  | none => exact ⟨f, rfl, calm⟩
  | some x =>
    have met : f.meet x.1 = (none, f.after x.1) := by
      simp [Faults.meet, Faults.meetWithin, Faults.next?, calm]
    exact ⟨f.after x.1, by simp only [met], calm⟩

/-- A program that never has to wait ends when no call fails. -/
theorem Ensures.run_calm (en : p.Ensures (.alone t may) post h) {f : Faults}
    (calm : f.planned = []) (out : List Output) :
    ∃ a, (p.run t f out h).1.value? = some a ∧ post a (p.run t f out h).2 := by
  induction p generalizing f out h with
  | ret a => exact ⟨a, rfl, en⟩
  | put o rest ih => exact ih en calm (o :: out)
  | ask r next ih =>
    obtain ⟨f', spared, calm'⟩ := strike_calm calm r
    rw [run, spared]
    cases eh : h.step t r with
    | wait h' => exact absurd eh (en.1 h')
    | done a h' => exact ih a (en.2 a h' (.inl eh)) calm' out

/-- The first of some steps, and the others. -/
lemma Steps.head_inv {ms : List (Host × Move)} {x : Host × Move}
    (sts : p.Steps t h (ms ++ [x]) p' h') :
    x.1 = h ∧ ∃ p₁ h₁, p.Step t h x.2 p₁ h₁ ∧ p₁.Steps t h₁ ms p' h' := by
  induction ms generalizing p' h' with
  | nil =>
    cases sts with
    | cons first st =>
      cases first with
      | nil => exact ⟨rfl, _, _, st, .nil⟩
  | cons y ms ih =>
    cases sts with
    | cons sts st =>
      obtain ⟨here, p₁, h₁, first, rest⟩ := ih sts
      exact ⟨here, p₁, h₁, first, .cons rest st⟩

end Program
end SharedSegment
