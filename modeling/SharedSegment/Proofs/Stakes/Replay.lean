import Mathlib.Data.List.Forall2
import SharedSegment.Proofs.Stakes.Bystanders
import SharedSegment.Proofs.Stakes.Sides

/-!
# Replaying one side

When an object has lost its names, whatever is done on its side from then on can be done as well
where there is nothing but that side, in the same order and with the same results, and comes to the
same object (`Session.IsReplayed.run`). There the names may still be as they were.
-/

namespace SharedSegment
open Function Scenario Program

/-- A step, before which numbers may be given to others. -/
def Session.SparseStep (s : Session) (d : Deed) (s' : Session) : Prop :=
  ∃ i j, (s.onHost (s.host.skip i j)).Step d s'

/-- Two deeds are the same, but for the host that they find and for an answer to taking a name away
that makes no difference. -/
inductive Deed.Alike : Deed → Deed → Prop where
  | same {d} :
    Alike d d
  | moved {t h h' m m'} :
    m.Alike m' →
    Alike (.moved t h m) (.moved t h' m')

/-- A number leads to an object: somebody has it with a stake in the object. -/
def Stake.LeadsTo (ρ : ThreadId ⊕ String → Stake) (k : ObjectId) (ν : Number) : Prop :=
  ∃ i, (ρ i).isIn k ∧ (ρ i).Has ν

/-- A side of a session is replayed: there is another host on which all is the same as far as that
side is concerned. -/
structure Session.IsReplayed (b : ObjectId) (ρ : ThreadId ⊕ String → Stake) (k : ObjectId)
    (P : Side) (s : Session) (h : Host) : Prop where
  regular : s.IsRegular b ρ
  forgiving : s.IsForgiving ρ
  guardful : s.IsGuardful
  tracks : P.Tracks k s ρ
  there : k < s.host.objects.length
  like : s.host.Matches (Stake.LeadsTo ρ k) k h

section
variable {s s' : Session} {ρ : ThreadId ⊕ String → Stake} {d : Deed} {k : ObjectId} {ν : Number}
  {h h' : Host} {t : ThreadId} {m : Move} {p p' : Program Outcome} {i : ThreadId ⊕ String}

/-- By what is no move nobody comes to a number. -/
lemma Stake.LeadsTo.of_restake (other : ∀ t h m, d ≠ .moved t h m)
    (leads : LeadsTo (s.restake ρ d) k ν) : LeadsTo ρ k ν := by
  obtain ⟨i, here, has⟩ := leads
  obtain none | ⟨j, same⟩ := Session.restake_eq (s := s) (ρ := ρ) other i
  · rw [none] at has
    exact absurd has (not_has_nothing ν)
  · exact ⟨j, same ▸ here, same ▸ has⟩

/-- By a move one comes only to numbers that are new, and only where one has a stake already. -/
lemma Stake.LeadsTo.of_move (st : p.Step t h m p' h')
    (same : ((ρ i).moves h m).isIn k = (ρ i).isIn k)
    (leads : LeadsTo (update ρ i ((ρ i).moves h m)) k ν) :
    LeadsTo ρ k ν ∨ (ρ i).isIn k ∧ ¬h.HasGiven ν := by
  obtain ⟨j, here, has⟩ := leads
  by_cases ej : j = i
  · subst ej
    rw [update_self] at here has
    rw [same] at here
    exact (Stake.has_of_moves st has).imp (fun old => ⟨j, here, old⟩) fun new => ⟨here, new⟩
  · rw [update_of_ne ej] at here has
    exact .inl ⟨j, here, has⟩

end

namespace Session.IsReplayed

variable {b : ObjectId} {ρ : ThreadId ⊕ String → Stake} {k : ObjectId} {P : Side} {s s' : Session}
  {h : Host} {d : Deed} {t : ThreadId} {c : Underway} {later : List Deed}

/-- Where all names are as they are, a side may begin to be replayed. -/
lemma begin (regular : s.IsRegular b ρ) (forgiving : s.IsForgiving ρ) (guardful : s.IsGuardful)
    (there : k < s.host.objects.length) : s.IsReplayed b ρ k (s.side ρ k) s.host := by
  refine ⟨regular, forgiving, guardful, tracks_side k ρ, there, ⟨0, 0, ?_⟩, fun _ => .rfl⟩
  rw [Host.skip_zero]
  have fits i := regular.staked.holders.fits i
  refine ⟨fun _ _ => rfl, fun _ _ => rfl, fun _ _ => rfl, ?_, ?_, rfl, rfl⟩
  · rintro f j ⟨i, here, has⟩ opened
    exact Option.some.inj (((fits i).object?_of_file has opened).symm.trans (beq_iff_eq.1 here))
  · rintro m x ⟨i, here, has⟩ mapped
    have shows : s.host.shows m x.object := (Option.any_eq_true ..).2 ⟨x, mapped, beq_self_eq_true _⟩
    exact Option.some.inj (((fits i).object?_of_shows has shows).symm.trans (beq_iff_eq.1 here))

/-- What goes on in a session besides the hosts. -/
lemma goesOn {h' : Host} (replayed : s.IsReplayed b ρ k P h) (st : s.Step d s')
    (unbound : ∀ n, ¬s'.host.IsBound n k)
    (like : s'.host.Matches (Stake.LeadsTo (s.restake ρ d) k) k h') :
    s'.IsReplayed b (s.restake ρ d) k (P.after d) h' where
  regular := replayed.regular.step st
  forgiving := replayed.forgiving.step replayed.regular st
  guardful := replayed.guardful.step replayed.regular.lent st
  tracks := replayed.tracks.step replayed.regular replayed.guardful st unbound
  there := Nat.lt_of_lt_of_le replayed.there st.touches.objects_le
  like := like

/-- What others ask for goes through none of the numbers that lead to an object, and is not about
it. -/
lemma bypasses {r : Request} {next : r.Answer → Program Outcome}
    (replayed : s.IsReplayed b ρ k P h) (ec : s.calls t = some c) (alive : s.dead t = false)
    (away : (ρ (c.party t)).isIn k = false) (ep : c.program = .ask r next) :
    (∀ ν, r.through? = some ν → ¬Stake.LeadsTo ρ k ν) ∧ ¬s.host.isAbout k r := by
  have staked := replayed.regular.staked
  have may := staked.permits replayed.regular.confined ec alive ep
  refine ⟨?_, ?_⟩
  · rintro ν through ⟨i, here, has⟩
    obtain rfl := staked.holders.apart _ _ ν has (may.through ν through)
    cases here.symm.trans away
  · intro about
    have here := (staked.holders.fits _).object?_of_isAbout may.through about
    cases (beq_iff_eq.2 here).symm.trans away

/-- What is done elsewhere is not replayed. -/
theorem missed (replayed : s.IsReplayed b ρ k P h) (st : s.Step d s')
    (unbound : ∀ n, ¬s'.host.IsBound n k) (misses : P.meets d = false) :
    (s'.only (P.after d)).onHost h = (s.only P).onHost h ∧
      s'.IsReplayed b (s.restake ρ d) k (P.after d) h := by
  have regular := replayed.regular
  have same := replayed.tracks.only_of_misses regular replayed.guardful st misses
  refine ⟨by rw [same]; rfl, replayed.goesOn st unbound ?_⟩
  have rest (other : ∀ t h m, d ≠ .moved t h m) (host : s'.host = s.host) :
      s'.host.Matches (Stake.LeadsTo (s.restake ρ d) k) k h := by
    rw [host]
    exact replayed.like.mono fun ν => Stake.LeadsTo.of_restake other
  cases st with
  | openHandle | onHandle | drop | onGuard => exact rest (by rintro _ _ _ ⟨⟩) rfl
  | finish => exact rest (by rintro _ _ _ ⟨⟩) conclude_host
  | die => cases misses
  | @move t c m p' h' ec alive st =>
    have away : (ρ (c.party t)).isIn k = false := (replayed.tracks.calls t c ec).symm.trans misses
    have may r next (ep : c.program = .ask r next) : (ρ (c.party t)).Permits r :=
      regular.staked.permits regular.confined ec alive ep
    have matches' : h'.Matches (Stake.LeadsTo ρ k) k h := by
      refine replayed.like.elsewhere st replayed.there ?_ ?_ ?_
      · rintro ν ⟨i, -, has⟩
        exact (regular.staked.holders.fits i).hasGiven has
      · intro r next ν ep through
        exact (replayed.bypasses ec alive away ep).1 ν through
      · intro r next ep
        exact (replayed.bypasses ec alive away ep).2
    refine matches'.mono ?_
    intro ν leads
    rw [restake_moved ec] at leads
    obtain old | ⟨here, -⟩ := Stake.LeadsTo.of_move st (Stake.isIn_moves st may unbound) leads
    · exact old
    · cases here.symm.trans away

/-- What is done on a side is replayed. -/
theorem met (replayed : s.IsReplayed b ρ k P h) (st : s.Step d s')
    (unbound : ∀ n, ¬s'.host.IsBound n k) (meets : P.meets d) :
    ∃ d' h', d.Alike d' ∧ ((s.only P).onHost h).SparseStep d' ((s'.only (P.after d)).onHost h') ∧
      s'.IsReplayed b (s.restake ρ d) k (P.after d) h' := by
  have regular := replayed.regular
  have rest (other : ∀ t h m, d ≠ .moved t h m) :
      ∃ d' h', d.Alike d' ∧ ((s.only P).onHost h).SparseStep d' ((s'.only (P.after d)).onHost h') ∧
        s'.IsReplayed b (s.restake ρ d) k (P.after d) h' := by
    obtain ⟨h', st', like⟩ := (st.only meets replayed.tracks.guards).onHost
      (R := Host.Matches (Stake.LeadsTo ρ k) k) replayed.like
      (fun t c m r next ed => absurd ed (other _ _ _)) replayed.like.bury
    have same : d.onHost h = d := by
      cases d with
      | moved t g m => exact absurd rfl (other t g m)
      | _ => rfl
    rw [same] at st'
    refine ⟨d, h', .same, ⟨0, 0, ?_⟩, replayed.goesOn st unbound ?_⟩
    · rwa [Host.skip_zero]
    · exact like.mono fun ν => Stake.LeadsTo.of_restake other
  have whole := st
  cases d with
  | began | returned | died => exact rest (by rintro _ _ _ ⟨⟩)
  | moved t g m =>
    cases st with
    | @move _ c _ p' h' ec alive st =>
      have mine : P.calls t := meets
      have here : (ρ (c.party t)).isIn k := (replayed.tracks.calls t c ec).symm.trans mine
      have ek : (ρ (c.party t)).object? = some k := beq_iff_eq.1 here
      have may r next (ep : c.program = .ask r next) : (ρ (c.party t)).Permits r :=
        regular.staked.permits regular.confined ec alive ep
      have forgives : c.program.Forgives true := by
        have forgives := replayed.forgiving t c ec
        cases opens : c.act.opensHandle with
        | false => simpa [opens] using forgives
        | true =>
          rw [Underway.party_of_opensHandle opens] at ek
          simpa [opens, ek] using forgives
      obtain ⟨i, j, m', g', st', alike, like⟩ := replayed.like.mirror st forgives
        (fun r next ep => (may r next ep).opens?_eq_none ek)
        fun r next ν ep through => ⟨_, here, (may r next ep).through ν through⟩
      refine ⟨.moved t (h.skip i j) m', g', .moved alike, ⟨i, j, ?_⟩, replayed.goesOn whole unbound ?_⟩
      · have stepped := Step.move (s := (s.only P).onHost (h.skip i j))
          ((Side.keep_of mine).trans ec) alive st'
        have same : ((s.move t c p' h').only P).onHost g' =
            ((s.only P).onHost (h.skip i j)).move t c p' g' := by
          rw [only_move mine]
          rfl
        exact same ▸ stepped
      · refine like.mono ?_
        intro ν leads
        rw [restake_moved ec] at leads
        exact (Stake.LeadsTo.of_move st (Stake.isIn_moves st may unbound) leads).imp_right And.right

/-- Whatever happens after an object has lost its names is replayed, as far as it is done on the side
of the object. -/
theorem run (replayed : s.IsReplayed b ρ k P h) (unbound : ∀ n, ¬s.host.IsBound n k)
    (run : Run Step s later s') :
    ∃ ρ' later' h', Run SparseStep ((s.only P).onHost h) later'
        ((s'.only (P.through later)).onHost h') ∧
      List.Forall₂ Deed.Alike (P.cull later) later' ∧
      s'.IsReplayed b ρ' k (P.through later) h' ∧ (∀ n, ¬s'.host.IsBound n k) ∧
      ∀ past, s.Recalls past ρ → s'.Recalls (later ++ past) ρ' := by
  induction run with
  | nil => exact ⟨ρ, [], h, .nil, .nil, replayed, unbound, fun _ recalls => recalls⟩
  | @cons past s' d s'' run st ih =>
    obtain ⟨ρ', later', h', run', culled, replayed', unbound', recalls'⟩ := ih
    have recalls'' past' (recalls : s.Recalls past' ρ) :
        s''.Recalls (d :: past ++ past') (s'.restake ρ' d) :=
      (recalls' past' recalls).step replayed'.regular st
    have retired : s'.host.HasRetired (fun _ => True) (· = k) := by
      refine ⟨?_, ?_⟩
      · rintro _ rfl
        exact replayed'.there
      · rintro n _ - rfl
        exact unbound' n
    have unbound'' n : ¬s''.host.IsBound n k := (retired.step st).unbound n k trivial rfl
    cases meets : (P.through past).meets d with
    | true =>
      obtain ⟨d', h'', alike, st', replayed''⟩ := replayed'.met st unbound'' meets
      refine ⟨_, d' :: later', h'', run'.cons st', ?_, replayed'', unbound'', recalls''⟩
      rw [Side.cull, if_pos meets]
      exact .cons alike culled
    | false =>
      obtain ⟨same, replayed''⟩ := replayed'.missed st unbound'' meets
      refine ⟨_, later', h', same ▸ run', ?_, replayed'', unbound'', recalls''⟩
      rwa [Side.cull, if_neg (by simp [meets])]

end Session.IsReplayed
end SharedSegment
