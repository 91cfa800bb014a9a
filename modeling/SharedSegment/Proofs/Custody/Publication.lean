import SharedSegment.Proofs.Custody.Deeds
import SharedSegment.Proofs.Custody.Opening

/-!
# Publication

Threads create segments and attach to segments, in any number and all at the same time, on a host
with whatever there was before. Calls of theirs fail and threads die at any point. An attacher that
comes upon an object that one of them has made, at whatever point its creator is then, goes on with
it only after the size has been published, and then finds it finished, with the size that it was
made for (`attached_segments_are_finished`).

`Witnessed` is what holds on the way: parties keep to the protocol of custodians, and a size that
stands in a header was stored there by a deed in the past.
-/

namespace SharedSegment
open Function

/-- The object that an answered request makes. -/
def Ledger.makes? (l : Ledger) : (r : Request) → r.Answer → Option ObjectId
  | .openNew .., .ok _ => some l.outlines.length
  | _, _ => none

namespace Deed

/-- The object that a thread makes by a deed. -/
def makes? (t : ThreadId) : Deed → Option ObjectId
  | .moved t' h (.answered r a) => if t' = t then h.ledger.makes? r a else none
  | _ => none

/-- The object that a thread makes or opens by a deed. -/
def opens? (t : ThreadId) : Deed → Option ObjectId
  | .moved t' h (.answered r a) => if t' = t then h.ledger.opens? r a else none
  | _ => none

/-- A thread reads the size in the header of an object. -/
def Probes (t : ThreadId) (k : ObjectId) : Deed → Prop
  | .moved t' h (.answered r _) => t' = t ∧ h.ledger.Probes k r
  | _ => False

/-- Some thread stores a size in the header of an object. -/
def Publishes (k : ObjectId) : Deed → Prop
  | .moved _ h (.answered (.storeSize m n) _) =>
    n ≠ 0 ∧ ∃ x, h.ledger.mapping? m = some x ∧ x.object = k
  | _ => False

variable {t t' : ThreadId} {h : Host} {r : Request} {a : r.Answer} {k : ObjectId}

lemma makes?_moved : (Deed.moved t' h (.answered r a)).makes? t = some k ↔
    t' = t ∧ h.ledger.makes? r a = some k := by
  simp [makes?]

lemma opens?_moved : (Deed.moved t' h (.answered r a)).opens? t = some k ↔
    t' = t ∧ h.ledger.opens? r a = some k := by
  simp [opens?]

end Deed

/-- A call of a thread has failed by itself. -/
def IsStruck (past : List Deed) (t : ThreadId) : Prop :=
  ∃ h r e, .moved t h (.struck r e) ∈ past

/-- A thread has read the size of an object after one was published. -/
def ProbedAfterPublication (past : List Deed) (t : ThreadId) (k : ObjectId) : Prop :=
  ∃ later probe earlier, past = later ++ probe :: earlier ∧ probe.Probes t k ∧
    ∃ d ∈ earlier, d.Publishes k

lemma ProbedAfterPublication.cons {past : List Deed} {t : ThreadId} {k : ObjectId} {d : Deed}
    (probed : ProbedAfterPublication past t k) : ProbedAfterPublication (d :: past) t k := by
  obtain ⟨later, probe, earlier, rfl, probes, published⟩ := probed
  exact ⟨d :: later, probe, earlier, rfl, probes, published⟩

namespace Custody

variable {torn : Prop} {c c' : Custody} {l : Ledger} {r : Request} {a : r.Answer} {k : ObjectId}

lemma own_become {act : Outline → Outline} :
    ∀ k o, c.own = some (k, o) → ∃ o', (c.become act).own = some (k, o') :=
  fun _ _ own => ⟨_, become_own own act⟩

/-- The target of a party and the object that it has made stay. -/
lemma keeps (may : c.Permits torn r) (ans : c.Answers r a c') :
    c'.target = c.target ∧ ∀ k o, c.own = some (k, o) → ∃ o', c'.own = some (k, o') := by
  have same : ∀ k o, c.own = some (k, o) → ∃ o', c.own = some (k, o') := fun _ o own => ⟨o, own⟩
  cases r with
  | openNew =>
    rcases ans with ⟨e, -, rfl⟩ | ⟨f, k, -, rfl⟩
    · exact ⟨rfl, same⟩
    · refine ⟨rfl, fun k o own => ?_⟩
      rw [may.2] at own
      cases own
  | openExisting =>
    rcases ans with ⟨e, -, rfl⟩ | ⟨f, k, -, rfl⟩
    · exact ⟨rfl, same⟩
    · exact ⟨rfl, same⟩
  | resize | mutexInit | condInit =>
    obtain ⟨-, rfl⟩ := ans
    exact ⟨rfl, own_become⟩
  | mutexDestroy | condDestroy =>
    rcases ans with ⟨e, -, rfl⟩ | ⟨-, rfl⟩
    · exact ⟨rfl, same⟩
    · exact ⟨rfl, own_become⟩
  | storeSize =>
    obtain rfl := ans
    exact ⟨rfl, own_become⟩
  | unmap =>
    obtain ⟨-, rfl⟩ := ans
    exact ⟨rfl, same⟩
  | length | loadSize =>
    obtain ⟨x, -, rfl⟩ := ans
    exact ⟨rfl, same⟩
  | map =>
    obtain ⟨m, k, -, -, rfl⟩ := ans
    exact ⟨rfl, same⟩
  | _ =>
    obtain rfl := ans
    exact ⟨rfl, same⟩

/-- Whoever makes an object has it. -/
lemma own_of_makes (ans : c.Answers r a c') (gains : c.Gains l r a c')
    (makes : l.makes? r a = some k) : k = l.outlines.length ∧ ∃ o, c'.own = some (k, o) := by
  have opened := gains.opened
  cases r with
  | openNew =>
    rcases ans with ⟨e, rfl, -⟩ | ⟨f, k', rfl, rfl⟩
    · cases makes
    · cases makes
      cases opened
      exact ⟨rfl, _, rfl⟩
  | _ => cases makes

/-- Whoever opens an object has opened none before. -/
lemma opened_of_opens (may : c.Permits torn r) (opens : l.opens? r a = some k) :
    c.opened = none := by
  cases r with
  | openNew => exact may.1
  | openExisting => exact may
  | _ => cases opens

end Custody

/-- A size that is there was there before, or is being published. -/
lemma Ledger.Affects.size_inv {l l' : Ledger} {r : Request} {a : r.Answer} {k : ObjectId}
    {o' : Outline} (af : l.Affects r a l') (here : l'.outline? k = some o') (ne : o'.size ≠ 0) :
    (∃ o, l.outline? k = some o ∧ o.size ≠ 0) ∨
      ∃ m n, r = .storeSize m n ∧ n ≠ 0 ∧ ∃ x, l.mapping? m = some x ∧ x.object = k := by
  rcases af.outline_inv here with before | rfl | ⟨o, before, alters⟩
  · exact .inl ⟨o', before, ne⟩
  · exact absurd rfl ne
  · cases r with
    | resize => exact absurd alters.2.2.2.1 ne
    | storeSize m n =>
      obtain ⟨shows, rfl⟩ := alters
      exact .inr ⟨m, n, rfl, ne, shows⟩
    | mutexInit | condInit =>
      obtain ⟨-, rfl⟩ := alters
      exact .inl ⟨o, before, ne⟩
    | mutexDestroy | condDestroy =>
      obtain ⟨-, -, rfl⟩ := alters
      exact .inl ⟨o, before, ne⟩
    | _ => cases alters

section
variable {α : Type}

/-- What threads bring about that keep to the protocol of custodians on a host with objects of its
own: what each has in custody, which objects it has made or opened, and where each size comes from
that stands in a header or was read there. -/
structure Witnessed (fails : ThreadId → Prop) (post : ThreadId → α → Custody → Prop)
    (target : ThreadId → UInt32) (b : ObjectId) (past : List Deed) (s : System α)
    (σ : ThreadId → Custody) : Prop where
  custodians : Custodians False b s.host.ledger σ
  programs : ∀ t p, s.tasks t = some p → p.Ensures (.custody False (fails t)) (post t) (σ t)
  targets : ∀ t, (σ t).target = target t
  grown : b ≤ s.host.ledger.outlines.length
  made : ∀ t k, ∀ d ∈ past, d.makes? t = some k → b ≤ k ∧ ∃ o, (σ t).own = some (k, o)
  opened : ∀ t k, ∀ d ∈ past, d.opens? t = some k → (σ t).opened = some k
  published : ∀ k o, b ≤ k → s.host.ledger.outline? k = some o → o.size ≠ 0 →
    ∃ d ∈ past, d.Publishes k
  probed : ∀ t k n, b ≤ k → (σ t).seen = some (k, n) → n ≠ 0 → ProbedAfterPublication past t k

/-- Whether a thread makes or opens something by a deed. -/
def Deed.IsOpening (d : Deed) : Prop :=
  ∃ t k, d.makes? t = some k ∨ d.opens? t = some k

namespace Witnessed

variable {fails : ThreadId → Prop} {post : ThreadId → α → Custody → Prop}
  {target : ThreadId → UInt32} {b : ObjectId} {past : List Deed} {s s' : System α}
  {σ : ThreadId → Custody} {d : Deed} {t : ThreadId}

/-- A deed that leaves the ledger as it is. -/
lemma rest (wit : Witnessed fails post target b past s σ) (none : ¬d.IsOpening)
    (same : s'.host.ledger = s.host.ledger)
    (programs : ∀ t p, s'.tasks t = some p → p.Ensures (.custody False (fails t)) (post t) (σ t)) :
    Witnessed fails post target b (d :: past) s' σ := by
  refine ⟨same ▸ wit.custodians, programs, wit.targets, same ▸ wit.grown, ?_, ?_, ?_, ?_⟩
  · intro t k d' mem makes
    rcases List.mem_cons.1 mem with rfl | mem
    · exact absurd ⟨t, k, .inl makes⟩ none
    · exact wit.made t k d' mem makes
  · intro t k d' mem opens
    rcases List.mem_cons.1 mem with rfl | mem
    · exact absurd ⟨t, k, .inr opens⟩ none
    · exact wit.opened t k d' mem opens
  · intro k o le here ne
    obtain ⟨d', mem, publishes⟩ := wit.published k o le (same ▸ here) ne
    exact ⟨d', List.mem_cons_of_mem d mem, publishes⟩
  · intro t k n le seen ne
    exact (wit.probed t k n le seen ne).cons

/-- A thread goes on with its program, and the others stay where they are. -/
lemma programs_update {p : Program α} {c : Custody}
    (wit : Witnessed fails post target b past s σ)
    (en : p.Ensures (.custody False (fails t)) (post t) c) :
    ∀ t' p', update s.tasks t (some p) t' = some p' →
      p'.Ensures (.custody False (fails t')) (post t') (update σ t c t') := by
  intro t' p' ep
  by_cases et : t' = t
  · subst et
    rw [update_self] at ep ⊢
    cases ep
    exact en
  · rw [update_of_ne et] at ep ⊢
    exact wit.programs t' p' ep

lemma answer {r : Request} {a : r.Answer} {next : r.Answer → Program α} {h' : Host}
    (wit : Witnessed fails post target b past s σ) (ep : s.tasks t = some (.ask r next))
    (eh : s.host.step t r = .done a h') :
    ∃ σ', Witnessed fails post target b (.moved t s.host (.answered r a) :: past)
      ⟨h', update s.tasks t (some (next a))⟩ σ' := by
  have en := wit.programs t _ ep
  have st := Host.ledger_step eh
  have af := wit.custodians.affects en.1 st
  obtain ⟨c', ans, custodians, gains⟩ := wit.custodians.answer en.1 st
  obtain ⟨target_eq, own⟩ := Custody.keeps en.1 ans
  refine ⟨update σ t c', custodians, wit.programs_update (en.2 a c' (.inl ans)), ?_,
    Nat.le_trans wit.grown af.length_le, ?_, ?_, ?_, ?_⟩
  · intro t'
    by_cases et : t' = t
    · subst et
      rw [update_self, target_eq]
      exact wit.targets t'
    · rw [update_of_ne et]
      exact wit.targets t'
  · intro t' k d mem makes
    by_cases et : t' = t
    · subst et
      rw [update_self]
      rcases List.mem_cons.1 mem with rfl | mem
      · obtain ⟨-, makes⟩ := Deed.makes?_moved.1 makes
        obtain ⟨rfl, here⟩ := Custody.own_of_makes ans gains makes
        exact ⟨wit.grown, here⟩
      · obtain ⟨le, o, here⟩ := wit.made t' k d mem makes
        exact ⟨le, own k o here⟩
    · rw [update_of_ne et]
      rcases List.mem_cons.1 mem with rfl | mem
      · exact absurd (Deed.makes?_moved.1 makes).1.symm et
      · exact wit.made t' k d mem makes
  · intro t' k d mem opens
    by_cases et : t' = t
    · subst et
      rw [update_self, gains.opened]
      rcases List.mem_cons.1 mem with rfl | mem
      · obtain ⟨-, opens⟩ := Deed.opens?_moved.1 opens
        rw [opens]
        rfl
      · have before := wit.opened t' k d mem opens
        -- Whoever has opened an object may open no other.
        cases again : s.host.ledger.opens? r a with
        | none => exact before
        | some k' =>
          rw [Custody.opened_of_opens en.1 again] at before
          cases before
    · rw [update_of_ne et]
      rcases List.mem_cons.1 mem with rfl | mem
      · exact absurd (Deed.opens?_moved.1 opens).1.symm et
      · exact wit.opened t' k d mem opens
  · intro k o le here ne
    rcases af.size_inv here ne with ⟨o, before, ne⟩ | ⟨m, n, rfl, ne, shows⟩
    · obtain ⟨d, mem, publishes⟩ := wit.published k o le before ne
      exact ⟨d, List.mem_cons_of_mem _ mem, publishes⟩
    · exact ⟨_, List.mem_cons_self, ne, shows⟩
  · intro t' k n le seen ne
    by_cases et : t' = t
    · subst et
      rw [update_self] at seen
      rcases gains.seen k n seen with seen | ⟨probes, o, here, rfl⟩
      · exact (wit.probed t' k n le seen ne).cons
      · exact ⟨[], _, past, rfl, ⟨rfl, probes⟩, wit.published k o le here ne⟩
    · rw [update_of_ne et] at seen
      exact (wit.probed t' k n le seen ne).cons

lemma step (wit : Witnessed fails post target b past s σ) (st : s.Step d s')
    (struck : ∀ t h r e, d = .moved t h (.struck r e) → fails t) :
    ∃ σ', Witnessed fails post target b (d :: past) s' σ' := by
  cases st with
  | @move t p m p' h' ep st =>
    cases st with
    | answer eh => exact wit.answer ep eh
    | @tell o =>
      have silent : ¬(Deed.moved t s.host (.told o)).IsOpening := by
        rintro ⟨t', k, e | e⟩ <;> cases e
      have told := wit.programs t _ ep
      have en := wit.programs_update (p := p') (c := σ t) told
      rw [update_eq_self] at en
      exact ⟨σ, wit.rest silent rfl en⟩
    | @wait r next _ h' eh =>
      have silent : ¬(Deed.moved t s.host (.waited r)).IsOpening := by
        rintro ⟨t', k, e | e⟩ <;> cases e
      have en := wit.programs_update (wit.programs t _ ep)
      rw [update_eq_self] at en
      exact ⟨σ, wit.rest silent (Host.ledger_wait eh) en⟩
    | @strike r next _ call fail e ec =>
      have silent : ¬(Deed.moved t s.host (.struck r e)).IsOpening := by
        rintro ⟨t', k, e | e⟩ <;> cases e
      have struck := struck t _ r e rfl
      have en := wit.programs_update
        ((wit.programs t _ ep).2 _ _ (.inr ⟨struck, rfl, call, fail, e, ec, rfl⟩))
      rw [update_eq_self] at en
      exact ⟨σ, wit.rest silent rfl en⟩
  | @die t p ep =>
    have silent : ¬(Deed.died t).IsOpening := by
      rintro ⟨t', k, e | e⟩ <;> cases e
    refine ⟨σ, wit.rest silent Host.ledger_bury ?_⟩
    intro t' p' ep'
    by_cases et : t' = t
    · subst et
      change update s.tasks t' none t' = some p' at ep'
      rw [update_self] at ep'
      cases ep'
    · change update s.tasks t none t' = some p' at ep'
      rw [update_of_ne et] at ep'
      exact wit.programs t' p' ep'

/-- Nothing is in custody at the beginning. -/
lemma init {s₀ : System α} (begins : ∀ t p, s₀.tasks t = some p →
      p.Ensures (.custody False (fails t)) (post t) (.nothing (target t))) :
    Witnessed fails post target s₀.host.objects.length [] s₀ fun t => .nothing (target t) := by
  have length : s₀.host.ledger.outlines.length = s₀.host.objects.length := by
    simp [Host.ledger]
  have absent k o (le : s₀.host.objects.length ≤ k) : s₀.host.ledger.outline? k ≠ some o := by
    rw [Ledger.outline?, List.getElem?_eq_none (length ▸ le)]
    simp
  refine ⟨.init target ?_, begins, fun _ => rfl, Nat.le_of_eq length.symm, ?_, ?_, ?_, ?_⟩
  · intro k o le here
    exact absurd here (absent k o le)
  · intro t k d mem
    cases mem
  · intro t k d mem
    cases mem
  · intro k o le here
    exact absurd here (absent k o le)
  · intro t k n le seen
    cases seen

theorem of_run {s₀ : System α} (begins : ∀ t p, s₀.tasks t = some p →
      p.Ensures (.custody False (fails t)) (post t) (.nothing (target t)))
    (run : Run System.Step s₀ past s)
    (struck : ∀ t, IsStruck past t → fails t) :
    ∃ σ, Witnessed fails post target s₀.host.objects.length past s σ := by
  induction run with
  | nil => exact ⟨_, init begins⟩
  | @cons past s d s' run st ih =>
    obtain ⟨σ, wit⟩ := ih fun t ⟨h, r, e, mem⟩ => struck t ⟨h, r, e, List.mem_cons_of_mem d mem⟩
    refine wit.step st ?_
    rintro t h r e rfl
    exact struck t ⟨h, r, e, List.mem_cons_self⟩

end Witnessed
end

/-- A program that creates a segment, or attaches to one. -/
inductive Segment.IsOpening : Program (Except SegmentError Segment) → Prop where
  | create (n size c) : IsOpening (Segment.create n size c)
  | attach (n c) : IsOpening (Segment.attach n c)

section
variable {h₀ : Host} {tasks : ThreadId → Option (Program (Except SegmentError Segment))}
  {i j : ThreadId} {n n' : Name} {size : UInt32} {c c' : Config} {k : ObjectId}

/-- Threads that create and attach keep to the protocol from the beginning. -/
lemma openings_begin (fails : ThreadId → Prop)
    (openings : ∀ t, ∀ p ∈ tasks t, Segment.IsOpening p)
    (creates : tasks i = some (Segment.create n size c))
    (attaches : tasks j = some (Segment.attach n' c')) (t : ThreadId) :
    ∃ target, (t = i → target = size) ∧ ∀ p, tasks t = some p →
      p.Ensures (.custody False (fails t)) (fun r c => t = j → c.Finds (fails t) n' r)
        (.nothing target) := by
  by_cases ej : t = j
  · subst ej
    refine ⟨size, fun _ => rfl, ?_⟩
    intro p ep
    cases attaches.symm.trans ep
    refine (Segment.ensures_attach rfl).mono ?_
    intro r c finds _
    exact finds
  · by_cases ei : t = i
    · subst ei
      refine ⟨size, fun _ => rfl, ?_⟩
      intro p ep
      cases creates.symm.trans ep
      refine (Segment.ensures_create (c := .nothing size) rfl rfl).mono ?_
      intro r c _ e
      exact absurd e ej
    · cases ep : tasks t with
      | none => exact ⟨size, fun _ => rfl, nofun⟩
      | some p =>
        cases openings t p ep with
        | create n₁ size₁ c₁ =>
          refine ⟨size₁, fun e => absurd e ei, ?_⟩
          rintro _ ⟨⟩
          refine (Segment.ensures_create (c := .nothing size₁) rfl rfl).mono ?_
          intro r c _ e
          exact absurd e ej
        | attach n₁ c₁ =>
          refine ⟨size, fun _ => rfl, ?_⟩
          rintro _ ⟨⟩
          refine (Segment.ensures_attach rfl).mono ?_
          intro r c _ e
          exact absurd e ej

/-- Threads create segments and attach to segments, and their calls may fail and they may die. When
a thread has opened an object that one of them has made, it refuses it unless it has read the size
after that was published, and says that there is no finished segment unless a call of its own has
failed. If it goes on with the object, it has the size that the object was made for, and the object
is long enough, with both its mutex and its condition set up. -/
theorem attached_segments_are_finished {past s r}
    (openings : ∀ t, ∀ p ∈ tasks t, Segment.IsOpening p)
    (creates : tasks i = some (Segment.create n size c))
    (attaches : tasks j = some (Segment.attach n' c'))
    (run : Run System.Step ⟨h₀, tasks⟩ past s)
    (made : ∃ d ∈ past, d.makes? i = some k) (opened : ∃ d ∈ past, d.opens? j = some k)
    (ended : s.tasks j = some (.ret r)) :
    (¬ProbedAfterPublication past j k → ∃ e, r = .error e ∧
      (IsStruck past j ∨ ∃ why, e = .uninitialized n'.text why)) ∧
    ∀ g, r = .ok g → g.size = size ∧ ∃ o, s.host.object? k = some o ∧
      Header.total size ≤ o.length ∧ o.mutex.life = .live ∧ o.condition.life = .live := by
  obtain ⟨target, begins⟩ :=
    Classical.skolem.1 (openings_begin (IsStruck past) openings creates attaches)
  obtain ⟨σ, wit⟩ := Witnessed.of_run (fun t => (begins t).2) run fun _ => id
  obtain ⟨d, mem, makes⟩ := made
  obtain ⟨le, o, own⟩ := wit.made i k d mem makes
  obtain ⟨d', mem', opens⟩ := opened
  have opened := wit.opened j k d' mem' opens
  have here := wit.custodians.owns.known i k o own
  rcases wit.programs j _ ended rfl with ⟨g, rfl, attached⟩ | ⟨e, rfl, why⟩
  · obtain ⟨m, k', -, -, opened', seen⟩ := attached.shows
    cases opened.symm.trans opened'
    obtain ⟨o', here', sees⟩ := (wit.custodians.knows j).seen k g.size seen attached.published
    cases here.symm.trans here'
    have ne : o.size ≠ 0 := sees ▸ attached.published
    -- The size that was read is there still, and only its creator can have published it.
    have size_eq : o.size = size := by
      have aim := ((wit.custodians.knows i).own k o own).resolve_left ne
      rw [aim, wit.targets i, (begins i).1 rfl]
    have sane := wit.custodians.sane k o le here
    have probed := wit.probed j k g.size le seen attached.published
    refine ⟨fun none => absurd probed none, ?_⟩
    rintro _ ⟨⟩
    rw [Host.ledger_outline?] at here
    obtain ⟨x, ex, rfl⟩ := Option.map_eq_some_iff.1 here
    refine ⟨sees.symm.trans size_eq, x, ex, ?_, ?_, ?_⟩
    · rw [← size_eq]
      exact Nat.le_of_eq (sane.length ne).symm
    · exact (sane.mutex ne).resolve_right nofun
    · exact (sane.condition ne).resolve_right nofun
  · refine ⟨fun _ => ⟨e, rfl, ?_⟩, nofun⟩
    rcases why with struck | none | why
    · exact .inl struck
    · rw [none] at opened
      cases opened
    · exact .inr why

end

/-- A thread that creates a segment of eight bytes, and one that attaches to it. -/
def System.opening : System (Except SegmentError Segment) :=
  ⟨.empty, fun t =>
    if t = 0 then some (Segment.create .sample 8 .standard)
    else if t = 1 then some (Segment.attach .sample .standard) else none⟩

/-- The second thread comes before the first has published the size, and reads it afterwards. -/
def System.attaching : List Deed × System (Except SegmentError Segment) :=
  System.play [0, 0, 1, 1, 0, 0, 0, 0, 0, 0, 0, 0, 0, 0, 0, 0, 0, 1, 1, 1, 1, 1, 1] [] .opening

theorem a_segment_is_attached_under_way :
    ∃ past s g o, Run System.Step .opening past s ∧ s.tasks 1 = some (.ret (.ok g)) ∧
      g.size = 8 ∧ s.host.object? 0 = some o ∧ Header.total 8 ≤ o.length ∧
      o.mutex.life = .live ∧ o.condition.life = .live := by
  have run : Run System.Step .opening System.attaching.1 System.attaching.2 :=
    System.run_play .nil _
  have made : ∃ d ∈ System.attaching.1, d.makes? 0 = some 0 := by decide +kernel
  have opened : ∃ d ∈ System.attaching.1, d.opens? 1 = some 0 := by decide +kernel
  have openings : ∀ t, ∀ p ∈ System.opening.tasks t, Segment.IsOpening p := by
    rintro (_ | _ | t) p mem
    · cases mem
      exact .create _ _ _
    · cases mem
      exact .attach _ _
    · cases mem
  have ended : System.attaching.2.tasks 1 =
      some (.ret (.ok ⟨.sample, .sysV, .attacher, 8, some 1, some 2, false⟩)) := by rfl
  obtain ⟨size, o, finished⟩ := (attached_segments_are_finished openings rfl rfl run
    made opened ended).2 _ rfl
  exact ⟨_, _, _, o, run, ended, size, finished⟩

end SharedSegment
