import SharedSegment.Proofs.Alone.Residue

/-!
# Reclaiming a name

Creation that cannot make an object under a name at once removes what the name is bound to and tries
again, whatever the reason was. So a name that was bound is lost with every failure of the first
attempt, be it a collision or not, unless the removal fails too
(`failed_attempts_cost_the_name`).
-/

namespace SharedSegment
open Program

/-- The first step of a program that ends, if it has not ended yet. -/
lemma Program.Steps.first {α : Type} {p : Program α} {t : ThreadId} {h h' : Host} {a : α}
    {ms : List (Host × Move)} (sts : p.Steps t h ms (.ret a) h') (more : ∀ a, p ≠ .ret a) :
    ∃ ms' m p₁ h₁, ms = ms' ++ [(h, m)] ∧ p.Step t h m p₁ h₁ ∧ p₁.Steps t h₁ ms' (.ret a) h' := by
  obtain rfl | ⟨ms', ⟨h₀, m⟩, rfl⟩ := List.eq_nil_or_concat ms
  · cases sts
    exact absurd rfl (more a)
  · rw [List.concat_eq_append] at sts ⊢
    obtain ⟨rfl, p₁, h₁, st, rest⟩ := sts.head_inv
    exact ⟨ms', m, p₁, h₁, rfl, st, rest⟩

namespace Segment

/-- Goes on with creation after its first attempt has failed. -/
def reclaim (n : Name) (size : UInt32) (c : Config) (first : Errno) :
    Program (Except SegmentError Segment) :=
  .put (.log (.retrying n c.flavor first)) <|
    .ask (.unlink n) fun
      | .error e => .ret (.error (createError n first (some e)))
      | .ok () =>
        .ask (.openNew n c.mode) fun
          | .error e => .ret (.error (createError n e none))
          | .ok f => .put (.log (.reclaimed n c.flavor)) (furnish n f size c)

lemma create_eq_ask (n : Name) (size : UInt32) (c : Config) :
    create n size c = .ask (.openNew n c.mode) fun
      | .error first => reclaim n size c first
      | .ok f => furnish n f size c := by
  rw [create_eq]
  refine congrArg (Program.ask _) (funext fun r => ?_)
  cases r with
  | ok => rfl
  | error =>
    refine congrArg (Program.put _) (congrArg (Program.ask _) (funext fun r => ?_))
    cases r with
    | error => rfl
    | ok =>
      refine congrArg (Program.ask _) (funext fun r => ?_)
      cases r with
      | error => rfl
      | ok => rfl

variable {t : ThreadId} {h h' : Host} {n : Name} {size : UInt32} {c : Config}

/-- After its name was freed, creation leaves it free or binds it to an object of its own. -/
lemma alone_retry (free : h.store.get? n.file = none) :
    (Program.ask (.openNew n c.mode) fun
      | .error e => .ret (.error (createError n e none))
      | .ok f => .put (.log (.reclaimed n c.flavor)) (furnish n f size c)).Ensures
      (.alone t fun _ _ => True)
      (fun _ h' => h'.store.get? n.file = none ∨
        h'.store.get? n.file = some (.object h.objects.length)) h := by
  refine (alone_openNew h n c.mode).bind ?_
  rintro r h' (⟨⟨e, rfl⟩, same⟩ | ⟨place, rfl, rfl⟩)
  · rw [same]
    exact .inl free
  refine (alone_furnish (Store.place_insert place) size c).mono ?_
  rintro r h' (⟨-, rfl⟩ | ⟨-, st, o, ms, rfl, rfl | rfl, -⟩)
  · exact .inr Store.get?_insert_self
  · exact .inr Store.get?_insert_self
  · exact .inl (Store.get?_erase_self ..)

/-- A creation whose first attempt to make an object fails, for whatever reason, removes what the
name is bound to. If the removal fails too, the store stays as it is; otherwise the name is free in
the end, or bound to an object that the creation has made. -/
theorem failed_attempts_cost_the_name {b : Binding} {first : Errno} {m : Move}
    {ms : List (Host × Move)} {r : Except SegmentError Segment}
    (bound : h.store.place n = .file (some b))
    (fails : m = .struck (.openNew n c.mode) first ∨
      m = .answered (.openNew n c.mode) (.error first))
    (steps : (create n size c).Steps t h (ms ++ [(h, m)]) (.ret r) h') :
    (∃ e, (h, .struck (.unlink n) e) ∈ ms ∧ r = .error (createError n first (some e)) ∧
      h'.store = h.store) ∨
    (h, .answered (.unlink n) (.ok ())) ∈ ms ∧
      (h'.store.get? n.file = none ∨
        h'.store.get? n.file = some (.object h.objects.length)) := by
  rw [create_eq_ask] at steps
  obtain ⟨-, p₁, h₁, attempt, rest⟩ := steps.head_inv
  clear steps
  have retries : p₁ = reclaim n size c first ∧ h₁ = h := by
    obtain rfl | rfl := fails
    · cases attempt with
      | strike ec =>
        cases ec
        exact ⟨rfl, rfl⟩
    · cases attempt with
      | answer eh =>
        refine ⟨rfl, ?_⟩
        obtain ⟨e, refused⟩ | free := h.step_openNew_cases t n c.mode
        · cases refused.symm.trans eh
          rfl
        · cases free.symm.trans bound
  obtain ⟨rfl, rfl⟩ := retries
  obtain ⟨ms, m₁, p₁, h₁, rfl, told, rest⟩ := rest.first nofun
  cases told
  obtain ⟨ms, m₂, p₂, h₂, rfl, removal, rest⟩ := rest.first nofun
  have here (x : Host × Move) (ms' : List (Host × Move)) : x ∈ (ms ++ [x]) ++ ms' :=
    List.mem_append_left _ (List.mem_append_right _ List.mem_cons_self)
  have all (x : Host × Move) (_ : x ∈ ms) : x.2.IsLet (fun _ _ => True) x.1 :=
    .of_forall fun _ => trivial
  cases removal with
  | @strike r' next _ call fail e ec =>
    cases ec
    have ended : (Program.ret (α := Except SegmentError Segment) (.error _)).Ensures
        (.alone t fun _ _ => True)
        (fun r h' => r = .error (createError n first (some e)) ∧ h' = h₁) h₁ := ⟨rfl, rfl⟩
    obtain ⟨rfl, rfl⟩ := ended.of_steps rest all
    exact .inl ⟨e, here _ _, rfl, rfl⟩
  | @answer r' next _ a _ eh =>
    cases (Host.step_unlink (t := t) bound).symm.trans eh
    exact .inr ⟨here _ _, (alone_retry (Store.get?_erase_self ..)).of_steps rest all⟩
  | wait eh => cases (Host.step_unlink (t := t) bound).symm.trans eh

end Segment

/-- Another thread creates a segment under a name in use, and may open no more files. -/
theorem a_refused_attempt_costs_the_name :
    ∃ ms r h', (Segment.create .sample 8 .standard).Steps 1 Host.withSegment ms (.ret r) h' ∧
      (Host.withSegment, .struck (.openNew .sample 0o600) ⟨24⟩) ∈ ms ∧
      Host.withSegment.store.get? "s" = some (.object 0) ∧ h'.store.get? "s" = none := by
  let faults := Faults.plan [⟨.shmOpen, 1, ⟨24⟩⟩]
  obtain ⟨ms, rest⟩ := Program.steps_run (t := 1)
    (Segment.reclaim .sample 8 .standard ⟨24⟩) faults [] Host.withSegment
  have attempt : (Segment.create .sample 8 .standard).Step 1 Host.withSegment
      (.struck (.openNew .sample 0o600) ⟨24⟩) (Segment.reclaim .sample 8 .standard ⟨24⟩)
      Host.withSegment := by
    rw [Segment.create_eq_ask]
    exact .strike (r := .openNew .sample 0o600) (e := ⟨24⟩) rfl
  have steps := rest.head attempt
  refine ⟨_, _, _, steps, by simp, rfl, ?_⟩
  obtain ⟨e, -, -, same⟩ | ⟨-, free | bound⟩ :=
    Segment.failed_attempts_cost_the_name rfl (.inl rfl) steps
  · cases same
  · exact free
  · cases bound

end SharedSegment
