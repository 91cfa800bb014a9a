import SharedSegment.Proofs.Labels.Calls
import SharedSegment.Scenario.Perform

/-!
# Worlds that differ in labels

Two worlds are alike if they have the same host and differ in the flavors of handles, in the toggle,
in the settings of files as far as these are cosmetic, and in what calls under way show of that
(`World.Alike`). Acts that are alike keep such worlds alike and are answered alike
(`World.Alike.perform`). So whole scenarios are (`World.flavor_and_pinning_are_cosmetic`).
-/

namespace SharedSegment.Scenario
open Program

/-- Two reports are the same, but for labels and for what tells that pages could not be pinned. -/
structure Report.Alike (r r' : Report) : Prop where
  result : r.result.Alike r'.result
  outputs : Output.AreAlike r.outputs r'.outputs

/-- The same threads have reports that are alike, in the same order. -/
def Report.AreAlike (reports reports' : List (String × Report)) : Prop :=
  List.Forall₂ (fun x x' => x.1 = x'.1 ∧ x.2.Alike x'.2) reports reports'

structure Answer.Alike (a a' : Answer) : Prop where
  own : a.own.Alike a'.own
  others : Report.AreAlike a.others a'.others

structure Pending.Alike (p p' : Pending) : Prop where
  thread : p.thread = p'.thread
  id : p.id = p'.id
  uses : p.uses = p'.uses
  running : p.running.Alike Outcome.Alike p'.running

structure Started.Alike (p p' : Started) : Prop where
  name : p.name = p'.name
  id : p.id = p'.id
  running : p.running.Alike Outcome.Alike p'.running

/-- Two worlds have the same host, and around it what differs in labels only. -/
structure World.Alike (w w' : World) : Prop where
  host : w.host = w'.host
  env : w.env.Alike w'.env
  handles : List.Forall₂ (fun x x' => x.1 = x'.1 ∧ x.2.Alike x'.2) w.handles w'.handles
  guards : w.guards = w'.guards
  threads : w.threads = w'.threads
  born : w.born = w'.born
  pending : List.Forall₂ Pending.Alike w.pending w'.pending
  programs : List.Forall₂ Started.Alike w.programs w'.programs

/-- Two acts are the same, but for flavor and pinning in settings and for the toggle. -/
inductive Act.Alike : Act → Act → Prop where
  | openHandle {h raw size via via'} :
    via.Alike via' →
    Alike (.openHandle h raw size via) (.openHandle h raw size via')
  | setToggle {value value'} :
    Alike (.setToggle value) (.setToggle value')
  | putFile {path content content'} :
    Config.LoadAlike content content' →
    Alike (.putFile path content) (.putFile path content')
  | refl {a} :
    Alike a a

/-- The same calls are made to fail, but for those that pin pages. -/
def Fault.AreAlike (faults faults' : List Fault) : Prop :=
  faults.filter (·.call != .mlock) = faults'.filter (·.call != .mlock)

section
variable {α β : Type} {R : α → β → Prop} {l : List α} {l' : List β}

/-- What is found by the same criterion is related. -/
lemma find?_forall₂ {p : α → Bool} {p' : β → Bool} (alike : List.Forall₂ R l l')
    (same : ∀ a b, R a b → p a = p' b) : Option.Rel R (l.find? p) (l'.find? p') := by
  induction alike with
  | nil => exact .none
  | @cons a b l l' here _ ih =>
    rw [List.find?_cons, List.find?_cons, same a b here]
    cases p' b with
    | true => exact .some here
    | false => exact ih

lemma any_forall₂ {p : α → Bool} {p' : β → Bool} (alike : List.Forall₂ R l l')
    (same : ∀ a b, R a b → p a = p' b) : l.any p = l'.any p' := by
  induction alike with
  | nil => rfl
  | cons here _ ih => rw [List.any_cons, List.any_cons, same _ _ here, ih]

lemma filter_forall₂ {p : α → Bool} {p' : β → Bool} (alike : List.Forall₂ R l l')
    (same : ∀ a b, R a b → p a = p' b) : List.Forall₂ R (l.filter p) (l'.filter p') :=
  List.rel_filter (fun a b here => by simp only [same a b here]) alike

end

lemma Report.alike_silent {r r' : Result} (alike : r.Alike r') :
    (Report.silent r).Alike (.silent r') :=
  ⟨alike, .nil⟩

lemma Report.areAlike_toList {thread thread' : String} {r r' : Option Report}
    (same : thread = thread') (alike : Option.Rel Report.Alike r r') :
    Report.AreAlike (r.map fun r => (thread, r)).toList (r'.map fun r => (thread', r)).toList := by
  cases alike with
  | none => exact .nil
  | some alike => exact .cons ⟨same, alike⟩ .nil

/-- The reports of some threads are alike. -/
lemma Report.AreAlike.filter {reports reports' : List (String × Report)}
    (alike : AreAlike reports reports') (keep : String → Bool) :
    AreAlike (reports.filter fun x => keep x.1) (reports'.filter fun x => keep x.1) :=
  filter_forall₂ alike fun _ _ same => by rw [same.1]

/-- Whoever reports first reports alike. -/
lemma Report.AreAlike.head? {reports reports' : List (String × Report)} {r r' : Report}
    (alike : AreAlike reports reports') (otherwise : r.Alike r') :
    ((reports.head?.map Prod.snd).getD r).Alike ((reports'.head?.map Prod.snd).getD r') := by
  cases alike with
  | nil => exact otherwise
  | cons same => exact same.2

/-- How far two acts have come is the same, but for labels. -/
structure Advance.Alike (a a' : Advance) : Prop where
  world : a.world.Alike a'.world
  report : Option.Rel Report.Alike a.report a'.report
  notify : Option.Rel Facade.Alike a.notify a'.notify

/-- Facades that are alike notify alike. -/
lemma host_notifyAll {f f' : Facade} {t : ThreadId} {h : Host} (alike : f.Alike f') :
    (f.notifyAll.run t .none [] h).2 = (f'.notifyAll.run t .none [] h).2 :=
  (run_alike alike.notifyAll (Faults.alike_refl .none) Output.areAlike_nil).2

/-- Time passes, so a program that holds on for some seconds goes on. -/
def pass (t : ThreadId) (p : Running Outcome × Host) : Running Outcome × Host :=
  match p.1.hold? with
  | some (some _) => p.1.release t p.2
  | _ => p

lemma alike_pass {t : ThreadId} {p p' : Running Outcome × Host}
    (running : p.1.Alike Outcome.Alike p'.1) (host : p.2 = p'.2) :
    (pass t p).1.Alike Outcome.Alike (pass t p').1 ∧ (pass t p).2 = (pass t p').2 := by
  unfold pass
  rw [running.hold?, host]
  split
  · exact running.release t p'.2
  · exact ⟨running, host⟩

namespace World

variable {w w' : World} {p p' : Pending} {f f' : Option Facade}

namespace Alike

lemma withHost (alike : w.Alike w') (h : Host) :
    World.Alike { w with host := h } { w' with host := h } :=
  { alike with host := rfl }

lemma withEnv (alike : w.Alike w') {env env' : Command.Environment} (same : env.Alike env') :
    World.Alike { w with env } { w' with env := env' } :=
  { alike with env := same }

lemma withProgram (alike : w.Alike w') {x x' : Started} (same : x.Alike x') :
    World.Alike { w with programs := x :: w.programs } { w' with programs := x' :: w'.programs } :=
  { alike with programs := .cons same alike.programs }

lemma handle? (alike : w.Alike w') (h : String) :
    Option.Rel Handle.Alike (w.handle? h) (w'.handle? h) :=
  lookup_forall₂ alike.handles h

lemma guard? (alike : w.Alike w') (t : ThreadId) (g : String) : w.guard? t g = w'.guard? t g := by
  unfold World.guard?
  rw [alike.guards]

lemma program? (alike : w.Alike w') (p : String) :
    Option.Rel Started.Alike (w.program? p) (w'.program? p) :=
  find?_forall₂ alike.programs fun _ _ same => by rw [same.name]

lemma isBlocked (alike : w.Alike w') (thread : String) :
    w.isBlocked thread = w'.isBlocked thread :=
  any_forall₂ alike.pending fun _ _ same => by rw [same.thread]

lemma isInUse (alike : w.Alike w') (h : String) : w.isInUse h = w'.isInUse h := by
  have used : (w.pending.any fun p => p.uses == some h) =
      w'.pending.any fun p => p.uses == some h :=
    any_forall₂ alike.pending fun _ _ same => by rw [same.uses]
  unfold World.isInUse
  rw [alike.guards, used]

lemma bear (alike : w.Alike w') : w.bear.1 = w'.bear.1 ∧ w.bear.2.Alike w'.bear.2 :=
  ⟨alike.born, { alike with born := congrArg (· + 1) alike.born }⟩

lemma thread (alike : w.Alike w') (name : String) :
    (w.thread name).1 = (w'.thread name).1 ∧ (w.thread name).2.Alike (w'.thread name).2 := by
  unfold World.thread
  rw [alike.threads]
  cases w'.threads.lookup name with
  | some id => exact ⟨rfl, alike⟩
  | none =>
    obtain ⟨id, born⟩ := alike.bear
    refine ⟨id, { born with threads := ?_ }⟩
    exact congrArg₂ (fun id threads => (name, id) :: threads) id born.threads

lemma removeHandle (alike : w.Alike w') (h : String) :
    (w.removeHandle h).Alike (w'.removeHandle h) :=
  { alike with handles := filter_forall₂ alike.handles fun _ _ same => by rw [same.1] }

lemma removeGuard (alike : w.Alike w') (g : Guard) :
    (w.removeGuard g).Alike (w'.removeGuard g) :=
  { alike with guards := congrArg (List.filter _) alike.guards }

lemma removeProgram (alike : w.Alike w') (p : String) :
    (w.removeProgram p).Alike (w'.removeProgram p) :=
  { alike with programs := filter_forall₂ alike.programs fun _ _ same => by rw [same.name] }

/-- Effects that are alike leave worlds alike. -/
lemma apply (alike : w.Alike w') {e e' : Effect} (same : e.Alike e') :
    (w.apply e).Alike (w'.apply e') := by
  cases same with
  | @setHandle h x x' same =>
    have removed := alike.removeHandle h
    exact { removed with handles := .cons ⟨rfl, same⟩ removed.handles }
  | refl =>
    cases e with
    | none => exact alike
    | setHandle h x =>
      have removed := alike.removeHandle h
      exact { removed with handles := .cons ⟨rfl, x.alike_refl⟩ removed.handles }
    | setGuard g =>
      have removed := alike.removeGuard g
      exact { removed with guards := congrArg (g :: ·) removed.guards }
    | removeGuard g => exact alike.removeGuard g

lemma bury (alike : w.Alike w') (thread : String) (t : ThreadId) :
    (w.bury thread t).Alike (w'.bury thread t) :=
  { alike with
    host := congrArg (·.bury t) alike.host
    threads := congrArg (List.filter _) alike.threads }

/-- Calls that are alike have both ended, with the same effect but for labels, or both wait. -/
lemma conclude (alike : w.Alike w') (same : p.Alike p') :
    (w.conclude p).1.Alike (w'.conclude p').1 ∧
      Option.Rel Report.Alike (w.conclude p).2 (w'.conclude p').2 := by
  have value := same.running.value?
  unfold World.conclude
  generalize p.running.value? = v at value ⊢
  generalize p'.running.value? = v' at value ⊢
  cases value with
  | some ended => exact ⟨alike.apply ended.effect, .some ⟨ended.result, same.running.output⟩⟩
  | none => exact ⟨{ alike with pending := List.rel_append alike.pending (.cons same .nil) }, .none⟩

/-- A waiting call that tries again comes to the same point. -/
lemma retry {acc acc' : World × List (String × Report)} (alike : acc.1.Alike acc'.1)
    (reports : Report.AreAlike acc.2 acc'.2) (same : p.Alike p') :
    (World.retry acc p).1.Alike (World.retry acc' p').1 ∧
      Report.AreAlike (World.retry acc p).2 (World.retry acc' p').2 := by
  obtain ⟨running, host⟩ := same.running.resume p.id acc.1.host
  unfold World.retry
  rw [← same.id, ← alike.host]
  generalize p.running.resume p.id acc.1.host = x at running host ⊢
  generalize p'.running.resume p.id acc.1.host = x' at running host ⊢
  obtain ⟨running₁, h⟩ := x
  obtain ⟨running₂, _⟩ := x'
  obtain rfl : h = _ := host
  have resumed : Pending.Alike { p with running := running₁ }
      { p' with id := p.id, running := running₂ } :=
    ⟨same.thread, rfl, same.uses, running⟩
  obtain ⟨world, report⟩ := (alike.withHost h).conclude resumed
  exact ⟨world, List.rel_append reports (Report.areAlike_toList same.thread report)⟩

lemma round (alike : w.Alike w') :
    w.round.1.Alike w'.round.1 ∧ Report.AreAlike w.round.2 w'.round.2 := by
  have retried (l l' : List Pending) (same : List.Forall₂ Pending.Alike l l')
      (acc acc' : World × List (String × Report)) (world : acc.1.Alike acc'.1)
      (reports : Report.AreAlike acc.2 acc'.2) :
      (l.foldl World.retry acc).1.Alike (l'.foldl World.retry acc').1 ∧
        Report.AreAlike (l.foldl World.retry acc).2 (l'.foldl World.retry acc').2 := by
    induction same generalizing acc acc' with
    | nil => exact ⟨world, reports⟩
    | cons same _ ih =>
      obtain ⟨world', reports'⟩ := world.retry reports same
      exact ih _ _ world' reports'
  exact retried _ _ alike.pending _ _ { alike with pending := .nil } .nil

lemma nudge (alike : w.Alike w') (thread : String) (t : ThreadId)
    (same : Option.Rel Facade.Alike f f') : (w.nudge thread t f).Alike (w'.nudge thread t f') := by
  cases same with
  | none => exact alike
  | some same =>
    unfold World.nudge
    rw [alike.isBlocked thread, ← alike.host]
    cases w'.isBlocked thread with
    | false => exact alike
    | true => exact { alike with host := host_notifyAll same }

lemma settleWithin (thread : String) (t : ThreadId) (same : Option.Rel Facade.Alike f f')
    (n : Nat) (alike : w.Alike w') :
    (World.settleWithin thread t f n w).1.Alike (World.settleWithin thread t f' n w').1 ∧
      Report.AreAlike (World.settleWithin thread t f n w).2
        (World.settleWithin thread t f' n w').2 := by
  induction n generalizing w w' with
  | zero => exact ⟨alike, .nil⟩
  | succ n ih =>
    obtain ⟨world, reports⟩ := (alike.nudge thread t same).round
    obtain ⟨world', reports'⟩ := ih world
    exact ⟨world', List.rel_append reports reports'⟩

/-- Everything comes to rest alike. -/
lemma settle (alike : w.Alike w') (thread : String) (t : ThreadId)
    (same : Option.Rel Facade.Alike f f') :
    (w.settle thread t f).1.Alike (w'.settle thread t f').1 ∧
      Report.AreAlike (w.settle thread t f).2 (w'.settle thread t f').2 := by
  unfold World.settle
  rw [alike.pending.length_eq]
  exact settleWithin thread t same _ alike

lemma finish (alike : w.Alike w') {r r' : Result} (same : r.Alike r') :
    OkAlike Advance.Alike (w.finish r) (w'.finish r') :=
  .ok ⟨alike, .some (Report.alike_silent same), .none⟩

lemma change (alike : w.Alike w') (r : Except Errno Host) :
    OkAlike Advance.Alike (w.change r) (w'.change r) := by
  cases r with
  | ok h => exact (alike.withHost h).finish .refl
  | error e => exact alike.finish .refl

lemma look {α : Type} (alike : w.Alike w') (result : α → Result) (r : Except Errno α) :
    OkAlike Advance.Alike (w.look result r) (w'.look result r) := by
  cases r with
  | ok a => exact alike.finish .refl
  | error e => exact alike.finish .refl

lemma reach (alike : w.Alike w') (same : p.Alike p') (notify : Option.Rel Facade.Alike f f') :
    OkAlike Advance.Alike (w.reach p f) (w'.reach p' f') := by
  obtain ⟨world, report⟩ := alike.conclude same
  exact .ok ⟨world, report, notify⟩

/-- Programs that are alike are run alike until they end or wait. -/
lemma call (alike : w.Alike w') (thread : String) (t : ThreadId) (uses : Option String)
    {faults faults' : List Fault} (fail : Fault.AreAlike faults faults') {q q' : Program Outcome}
    (same : q.Alike Outcome.Alike q') :
    OkAlike Advance.Alike (w.call thread t uses faults q) (w'.call thread t uses faults' q') := by
  have planned : (Faults.plan faults).Alike (.plan faults') := ⟨fail, fun _ _ => rfl⟩
  obtain ⟨running, host⟩ :=
    run_alike same (t := t) (h := w.host) planned Output.areAlike_nil
  unfold World.call
  rw [← alike.host]
  generalize q.run t (.plan faults) [] w.host = x at running host ⊢
  generalize q'.run t (.plan faults') [] w.host = x' at running host ⊢
  obtain ⟨running₁, h⟩ := x
  obtain ⟨running₂, _⟩ := x'
  obtain rfl : h = _ := host
  exact (alike.withHost h).reach ⟨rfl, rfl, rfl, running⟩ .none

lemma demand (alike : w.Alike w') (h : String) :
    OkAlike Handle.Alike (w.demand h) (w'.demand h) := by
  have there := alike.handle? h
  unfold World.demand
  generalize w.handle? h = x at there ⊢
  generalize w'.handle? h = x' at there ⊢
  cases there with
  | none => exact .error
  | some same => exact .ok same

lemma demandFacade (alike : w.Alike w') (h : String) :
    OkAlike Facade.Alike (w.demandFacade h) (w'.demandFacade h) := by
  refine (alike.demand h).bind fun _ _ same => ?_
  cases same with
  | facade same => exact .ok same
  | segment same => exact .error

lemma guardIsTaken (alike : w.Alike w') (t : ThreadId) (op : Operation) :
    w.guardIsTaken t op = w'.guardIsTaken t op := by
  cases op with
  | guard g => exact congrArg Option.isSome (alike.guard? t g)
  | _ => rfl

lemma actOnHandle (alike : w.Alike w') (thread : String) (t : ThreadId)
    {faults faults' : List Fault} (fail : Fault.AreAlike faults faults') (h : String)
    (op : Operation) : OkAlike Advance.Alike (w.actOnHandle thread t faults h op)
      (w'.actOnHandle thread t faults' h op) := by
  refine (alike.demand h).bind fun x x' same => ?_
  have calls := alike_handleCall? (h := h) t op same
  rw [alike.isInUse, alike.guardIsTaken]
  cases op.isExclusive && w'.isInUse h with
  | true => exact .error
  | false =>
    generalize handleCall? t h x op = p at calls ⊢
    generalize handleCall? t h x' op = p' at calls ⊢
    cases calls with
    | none => exact .error
    | some same =>
      cases w'.guardIsTaken t op with
      | true => exact .error
      | false =>
        by_cases drops : op = .drop
        · simp only [if_pos drops]
          exact (alike.removeHandle h).call thread t none fail same
        · simp only [if_neg drops]
          exact alike.call thread t (some h) fail same

lemma actOnGuard (alike : w.Alike w') (thread : String) (t : ThreadId)
    {faults faults' : List Fault} (fail : Fault.AreAlike faults faults') (g : String)
    (op : GuardOperation) : OkAlike Advance.Alike (w.actOnGuard thread t faults g op)
      (w'.actOnGuard thread t faults' g op) := by
  unfold World.actOnGuard
  rw [alike.guard?]
  cases w'.guard? t g with
  | none => exact .error
  | some x =>
    refine (alike.demandFacade x.handle).bind fun f f' same => ?_
    exact alike.call thread t (some x.handle) fail (alike_guardOperationCall x op same)

/-- A command line that has run as far as it goes. -/
lemma runs (alike : w.Alike w') {q q' : Running Outcome × Host} (thread : String) (t : ThreadId)
    (running : q.1.Alike Outcome.Alike q'.1) (host : q.2 = q'.2)
    (notify : Option.Rel Facade.Alike f f') :
    OkAlike Advance.Alike
      ({ w with host := q.2 }.reach { thread, id := t, uses := none, running := q.1 } f)
      ({ w' with host := q'.2 }.reach { thread, id := t, uses := none, running := q'.1 } f') := by
  rw [← host]
  exact (alike.withHost q.2).reach ⟨rfl, rfl, rfl, running⟩ notify

lemma runCommand (alike : w.Alike w') (thread : String) (words : List String)
    (notify : Option.Rel Facade.Alike f f') (logs : Bool) :
    OkAlike Advance.Alike (w.runCommand thread words f logs)
      (w'.runCommand thread words f' logs) := by
  have ran (h : Host) := run_alike (alike_commandCall words logs alike.env) (t := w.born) (h := h)
    (Faults.alike_refl .none) Output.areAlike_nil
  have passed (h : Host) := alike_pass (t := w.born) (ran h).1 (ran h).2
  have born := alike.bear.2
  unfold World.runCommand
  dsimp only [World.bear] at born ⊢
  rw [← alike.born] at born ⊢
  rw [← alike.host] at born ⊢
  cases notify with
  | none => exact born.runs thread w.born (passed w.host).1 (passed w.host).2 .none
  | some same =>
    dsimp only
    rw [← host_notifyAll same]
    exact born.runs thread w.born (passed _).1 (passed _).2 (.some same)

lemma startCommand (alike : w.Alike w') (thread p : String) (words : List String) (logs : Bool) :
    OkAlike Advance.Alike (w.startCommand thread p words logs)
      (w'.startCommand thread p words logs) := by
  obtain ⟨running, host⟩ := run_alike (alike_commandCall words logs alike.env) (t := w.born)
    (h := w.host) (Faults.alike_refl .none) Output.areAlike_nil
  have born := alike.bear.2
  unfold World.startCommand
  dsimp only [World.bear] at born ⊢
  rw [← alike.born] at born ⊢
  rw [← alike.host] at born ⊢
  generalize (commandCall w.env words logs).run w.born .none [] w.host = q at running host ⊢
  generalize (commandCall w'.env words logs).run w.born .none [] w.host = q' at running host ⊢
  obtain ⟨running₁, h⟩ := q
  obtain ⟨running₂, _⟩ := q'
  obtain rfl : h = _ := host
  have ran := born.withHost h
  dsimp only at running ran ⊢
  rw [running.hold?]
  cases running₂.hold?.isSome with
  | true =>
    have started : Started.Alike ⟨p, w.born, running₁⟩ ⟨p, w.born, running₂⟩ :=
      ⟨rfl, rfl, running⟩
    exact ((ran.removeProgram p).withProgram started).finish .refl
  | false => exact ran.reach ⟨rfl, rfl, rfl, running⟩ .none

lemma stopCommand (alike : w.Alike w') (thread p : String) (kill : Bool) :
    OkAlike Advance.Alike (w.stopCommand thread p kill) (w'.stopCommand thread p kill) := by
  have there := alike.program? p
  have removed := alike.removeProgram p
  unfold World.stopCommand
  generalize w.program? p = x at there ⊢
  generalize w'.program? p = x' at there ⊢
  cases there with
  | none => exact .error
  | @some x x' same =>
    dsimp only
    rw [← same.id, ← removed.host]
    cases kill with
    | true => exact .ok ⟨removed.withHost _, .some ⟨.refl, same.running.output⟩, .none⟩
    | false =>
      obtain ⟨running, host⟩ := same.running.release x.id (w.removeProgram p).host
      exact removed.runs thread x.id running host .none

lemma actOnStore (alike : w.Alike w') (a : StoreAct) :
    OkAlike Advance.Alike (w.actOnStore a) (w'.actOnStore a) := by
  unfold World.actOnStore
  rw [alike.host]
  cases a with
  | put | resize | remove | makeDirectory | makeLink => exact alike.change _
  | read | describe => exact alike.look _ _
  | list => exact alike.finish .refl

/-- Acts that are alike come as far, in worlds that are alike. -/
theorem advance (alike : w.Alike w') (thread : String) (t : ThreadId)
    {faults faults' : List Fault} (fail : Fault.AreAlike faults faults') {a a' : Act}
    (same : a.Alike a') :
    OkAlike Advance.Alike (w.advance thread t faults a) (w'.advance thread t faults' a') := by
  have opens (h raw : String) (size : UInt32) {via via' : Via} (same : via.Alike via') :
      OkAlike Advance.Alike (w.advance thread t faults (.openHandle h raw size via))
        (w'.advance thread t faults' (.openHandle h raw size via')) := by
    have there := alike.handle? h
    unfold World.advance
    dsimp only
    generalize w.handle? h = x at there ⊢
    generalize w'.handle? h = x' at there ⊢
    cases there with
    | some => exact .error
    | none =>
      exact alike.call thread t none fail
        (alike_openCall w.env.toggle w'.env.toggle raw size same)
  have puts (path : String) {bytes bytes' : List UInt8} (same : Config.LoadAlike bytes bytes') :
      OkAlike Advance.Alike (w.advance thread t faults (.putFile path bytes))
        (w'.advance thread t faults' (.putFile path bytes')) := by
    have env : Command.Environment.Alike
        ⟨w.env.toggle, w.env.folder.put path (.file bytes)⟩
        ⟨w'.env.toggle, w'.env.folder.put path (.file bytes')⟩ :=
      Folder.Alike.put alike.env (.file same) path
    exact (alike.withEnv env).finish .refl
  have turns (value value' : Option String) :
      OkAlike Advance.Alike (w.advance thread t faults (.setToggle value))
        (w'.advance thread t faults' (.setToggle value')) := by
    have env : Command.Environment.Alike ⟨value, w.env.folder⟩ ⟨value', w'.env.folder⟩ := alike.env
    exact (alike.withEnv env).finish .refl
  cases same with
  | openHandle same => exact opens _ _ _ same
  | setToggle => exact turns _ _
  | putFile same => exact puts _ same
  | refl =>
    cases a with
    | openHandle h raw size via => exact opens h raw size via.alike_refl
    | onHandle h op => exact alike.actOnHandle thread t fail h op
    | onGuard g op => exact alike.actOnGuard thread t fail g op
    | sameData a b =>
      refine (alike.demandFacade a).bind fun f f' first => ?_
      refine (alike.demandFacade b).bind fun g g' second => ?_
      rw [first.data, second.data]
      exact alike.finish .refl
    | die => exact (alike.bury thread t).finish .refl
    | hammer raw threads times =>
      exact alike.call thread t none rfl
        (alike_hammerCall w.env.toggle w'.env.toggle raw threads times)
    | setToggle value => exact turns value value
    | putFile path content => exact puts path (Config.loadAlike_refl content)
    | command words notify logs =>
      cases notify with
      | none => exact alike.runCommand thread words .none logs
      | some h =>
        have notified : OkAlike (Option.Rel Facade.Alike) ((some h).mapM w.demandFacade)
            ((some h).mapM w'.demandFacade) :=
          (alike.demandFacade h).bind fun _ _ same => .ok (.some same)
        exact notified.bind fun f f' same => alike.runCommand thread words same logs
    | start p words logs => exact alike.startCommand thread p words logs
    | stop p kill => exact alike.stopCommand thread p kill
    | store a => exact alike.actOnStore a

/-- Worlds that are alike answer acts that are alike in the same way, and stay alike. -/
theorem perform (alike : w.Alike w') (thread : String) {faults faults' : List Fault}
    (fail : Fault.AreAlike faults faults') {a a' : Act} (same : a.Alike a') :
    (w.perform thread faults a).1.Alike (w'.perform thread faults' a').1 ∧
      (w.perform thread faults a).2.Alike (w'.perform thread faults' a').2 := by
  have named := alike.thread thread
  unfold World.perform
  rw [alike.isBlocked]
  cases w'.isBlocked thread with
  | true => exact ⟨⟨Report.alike_silent .refl, .nil⟩, alike⟩
  | false =>
    generalize w.thread thread = x at named ⊢
    generalize w'.thread thread = x' at named ⊢
    obtain ⟨t, u⟩ := x
    obtain ⟨_, u'⟩ := x'
    obtain ⟨id, world⟩ := named
    obtain rfl : t = _ := id
    have advanced := world.advance thread t fail same
    dsimp only
    generalize u.advance thread t faults a = r at advanced ⊢
    generalize u'.advance thread t faults' a' = r' at advanced ⊢
    cases advanced with
    | error => exact ⟨⟨Report.alike_silent .refl, .nil⟩, world⟩
    | @ok b b' came =>
      obtain ⟨settled, done⟩ := came.world.settle thread t came.notify
      have report := came.report
      dsimp only
      generalize b.report = own at report ⊢
      generalize b'.report = own' at report ⊢
      cases report with
      | some report => exact ⟨⟨report, done⟩, settled⟩
      | none =>
        dsimp only
        rw [List.partition_eq_filter_filter, List.partition_eq_filter_filter]
        have mine := done.filter (· == thread)
        have others := done.filter fun x => !(x == thread)
        exact ⟨⟨mine.head? (Report.alike_silent .refl), others⟩, settled⟩

end Alike
end World
end SharedSegment.Scenario
