import SharedSegment.Facade
import SharedSegment.Proofs.Alone

/-!
# What programs print

A program that is alone with its host is followed together with the lines that it prints, where no
call fails (`Protocol.printing`). If it never has to wait, it ends, and what comes behind it goes on
from there (`Ensures.run_bind`). What is ensured alone is ensured here too (`Ensures.printing`), and
as programs on segments record events but print no lines (`Program.IsMute`), the lines are the same
after them (`Program.IsMute.ensures`).
-/

namespace SharedSegment

/-- The line that an output is, if it is no log event. -/
def Output.line? : Output → Option String
  | .line s => some s
  | .log _ => none

/-- The lines that a program has printed, in order. -/
def Running.lines {α : Type} (p : Running α) : List String :=
  p.output.filterMap Output.line?

/-- How a host on which no call fails behaves towards a thread that is alone with it, and the lines
that the thread prints. -/
def Protocol.printing (t : ThreadId) : Protocol (Host × List String) where
  Permits s r := ∀ h', s.1.step t r ≠ .wait h'
  Answers s r a s' := s.1.step t r = .done a s'.1 ∧ s'.2 = s.2
  tells s o := (s.1, s.2 ++ o.line?.toList)

namespace Program

/-- A program prints no lines, whatever it is answered. -/
def IsMute {α : Type} : Program α → Prop
  | .ret _ => True
  | .put (.log _) rest => rest.IsMute
  | .put (.line _) _ => False
  | .ask _ next => ∀ a, (next a).IsMute

variable {α β : Type} {t : ThreadId} {h : Host} {p : Program α} {post : α → Host → Prop}

/-- Where no call fails a program can only come to what running it comes to. -/
theorem Ensures.determined (en : p.Ensures (.alone t fun _ _ => False) post h) {f : Faults}
    (calm : f.planned = []) (out : List Output) :
    p.Ensures (.alone t fun _ _ => False)
      (fun a h' => post a h' ∧ (p.run t f out h).1.value? = some a ∧ (p.run t f out h).2 = h')
      h := by
  induction p generalizing f out h with
  | ret a => exact ⟨en, rfl, rfl⟩
  | put o rest ih => exact ih en calm (o :: out)
  | ask r next ih =>
    refine ⟨en.1, ?_⟩
    rintro a h' (done | ⟨⟨⟩, -⟩)
    -- No call fails, so that the answer that is ensured is the one that the run gets.
    obtain ⟨f', spared, calm'⟩ := strike_calm calm r
    simp only [run, spared, done]
    exact ih a (en.2 a h' (.inl done)) calm' out

/-- What is ensured alone does not depend on what is printed. -/
lemma Ensures.printing (en : p.Ensures (.alone t fun _ _ => False) post h) (lines : List String) :
    p.Ensures (.printing t) (fun a s => post a s.1) (h, lines) := by
  induction p generalizing h lines with
  | ret a => exact en
  | put o rest ih => exact ih en _
  | ask r next ih =>
    refine ⟨en.1, ?_⟩
    rintro a ⟨h', _⟩ ⟨done, rfl⟩
    exact ih a (en.2 a h' (.inl done)) _

/-- A program that is mute leaves the lines as they are. -/
lemma IsMute.ensures (mute : p.IsMute) (en : p.Ensures (.alone t fun _ _ => False) post h)
    (lines : List String) :
    p.Ensures (.printing t) (fun a s => post a s.1 ∧ s.2 = lines) (h, lines) := by
  induction p generalizing h with
  | ret a => exact ⟨en, rfl⟩
  | put o rest ih =>
    cases o with
    | log e =>
      have told : Protocol.tells (.printing t) (h, lines) (.log e) = (h, lines) :=
        Prod.ext rfl (List.append_nil lines)
      rw [ensures_put, told]
      exact ih mute en
    | line s => exact mute.elim
  | ask r next ih =>
    refine ⟨en.1, ?_⟩
    rintro a ⟨h', _⟩ ⟨done, rfl⟩
    exact ih a (mute a) (en.2 a h' (.inl done))

/-- What a program ensures does not depend on which events it records. -/
lemma Ensures.keepLogs {σ : Type} {P : Protocol σ} {post : α → σ → Prop} {s : σ}
    (keep : Event → Bool) (quiet : ∀ s e, P.tells s (.log e) = s) (en : p.Ensures P post s) :
    (p.keepLogs keep).Ensures P post s := by
  induction p generalizing s with
  | ret a => exact en
  | put o rest ih =>
    cases o with
    | log e =>
      rw [ensures_put, quiet] at en
      rw [Program.keepLogs]
      split
      case isTrue =>
        rw [ensures_put, quiet]
        exact ih en
      case isFalse => exact ih en
    | line s => exact ih en
  | ask r next ih => exact ⟨en.1, fun a s' ans => ih a (en.2 a s' ans)⟩

/-- Keeping some events of a program keeps those of its parts. -/
lemma keepLogs_bind (keep : Event → Bool) (p : Program α) (next : α → Program β) :
    (p.bind next).keepLogs keep = (p.keepLogs keep).bind fun a => (next a).keepLogs keep := by
  induction p with
  | ret a => rfl
  | put o rest ih =>
    cases o with
    | log e =>
      rw [Program.bind, Program.keepLogs, Program.keepLogs, ih]
      split
      case isTrue => rfl
      case isFalse => rfl
    | line x => rw [Program.bind, Program.keepLogs, Program.keepLogs, ih, Program.bind]
  | ask r rest ih =>
    rw [Program.bind, Program.keepLogs, Program.keepLogs, Program.bind]
    congr
    exact funext ih

lemma printing_quiet (s : Host × List String) (e : Event) :
    Protocol.tells (.printing t) s (.log e) = s :=
  Prod.ext rfl (List.append_nil s.2)

/-- A program that never has to wait ends when no call fails, and what comes behind it goes on from
there. -/
theorem Ensures.run_bind {post : α → Host × List String → Prop} {s : Host × List String}
    (en : p.Ensures (.printing t) post s) {f : Faults} (calm : f.planned = []) {out : List Output}
    (printed : out.reverse.filterMap Output.line? = s.2) (next : α → Program β) :
    ∃ a f' out' h', f'.planned = [] ∧ post a (h', out'.reverse.filterMap Output.line?) ∧
      (p.bind next).run t f out s.1 = (next a).run t f' out' h' := by
  induction p generalizing f out s with
  | ret a => exact ⟨a, f, out, s.1, calm, printed ▸ en, rfl⟩
  | put o rest ih =>
    refine ih en calm ?_
    change (o :: out).reverse.filterMap _ = s.2 ++ o.line?.toList
    rw [List.reverse_cons, List.filterMap_append, printed]
    cases o with
    | log e => rfl
    | line x => rfl
  | ask r rest ih =>
    obtain ⟨f', spared, calm'⟩ := strike_calm calm r
    rw [Program.bind, run, spared]
    cases eh : s.1.step t r with
    | wait h' => exact absurd eh (en.1 h')
    | done a h' => exact ih a (en.2 a (h', s.2) ⟨eh, rfl⟩) calm' printed

/-- A program that never has to wait ends when no call fails. -/
theorem Ensures.run_printing {post : α → Host × List String → Prop}
    (en : p.Ensures (.printing t) post (h, [])) :
    ∃ a, (p.run t .none [] h).1.value? = some a ∧
      post a ((p.run t .none [] h).2, (p.run t .none [] h).1.lines) := by
  have printed : ([] : List Output).reverse.filterMap Output.line? = [] := rfl
  obtain ⟨a, f, out, h', -, here, ran⟩ := en.run_bind (f := .none) rfl printed .ret
  rw [bind_ret] at ran
  rw [ran]
  exact ⟨a, rfl, here⟩

lemma isMute_ret (a : α) : (Program.ret a).IsMute := trivial

lemma isMute_log {e : Event} (rest : p.IsMute) : (Program.put (.log e) p).IsMute := rest

lemma isMute_ask {r : Request} {next : r.Answer → Program α} (mute : ∀ a, (next a).IsMute) :
    (Program.ask r next).IsMute := mute

lemma IsMute.bind {next : α → Program β} (mute : p.IsMute) (behind : ∀ a, (next a).IsMute) :
    (p.bind next).IsMute := by
  induction p with
  | ret a => exact behind a
  | put o rest ih =>
    cases o with
    | log e => exact ih mute
    | line x => exact mute.elim
  | ask r rest ih => exact fun a => ih a (mute a)

lemma isMute_logFailure (r : Except Errno Unit) (e : Errno → Event) :
    (Program.logFailure r e).IsMute := by
  cases r with
  | ok => exact isMute_ret ()
  | error errno => exact isMute_log (isMute_ret ())

end Program

open Program Header

lemma isMute_checked (call : Call) {p : Program (Except Errno Unit)} (mute : p.IsMute) :
    (checked call p).run.IsMute := by
  refine mute.bind ?_
  intro r
  cases r with
  | ok => exact isMute_ret _
  | error e => exact isMute_ret _

lemma isMute_acquired (m : MappingId) (call : Call) (r : Except Errno Unit) :
    (acquired m call r).IsMute := by
  cases r with
  | ok => exact isMute_ret _
  | error e =>
    by_cases died : e = .eownerdead
    · rw [acquired, if_pos died]
      exact isMute_ask fun r => (isMute_logFailure r _).bind fun _ => isMute_ret _
    · rw [acquired, if_neg died]
      exact isMute_ret _

lemma isMute_headerDestroy (m : MappingId) : (Header.destroy m).IsMute :=
  (isMute_checked _ (isMute_ask isMute_ret)).bind fun _ =>
    (isMute_checked _ (isMute_ask isMute_ret)).bind fun _ =>
      (isMute_checked _ (isMute_ask isMute_ret)).bind fun _ => isMute_ret _

namespace Segment

variable (g : Segment) (n : Name) (c : Config)

lemma isMute_settle (died : Event) (r : Except SyncFailure LockStatus) :
    (g.settle died r).IsMute := by
  cases r with
  | ok status =>
    cases status with
    | ownerDied => exact isMute_log (isMute_ret _)
    | acquired | unavailable => exact isMute_ret _
  | error f => exact isMute_log (isMute_ret _)

lemma isMute_report (r : Except SyncFailure Unit) : (g.report r).IsMute := by
  cases r with
  | ok => exact isMute_ret _
  | error f => exact isMute_log (isMute_ret _)

lemma isMute_lock : g.lock.IsMute := by
  unfold lock
  cases g.mapping with
  | none => exact isMute_ret _
  | some m =>
    have locks : (Header.lock m).IsMute := isMute_ask (isMute_acquired m _)
    exact locks.bind (g.isMute_settle _)

lemma isMute_unlock : g.unlock.IsMute := by
  unfold unlock
  cases g.mapping with
  | none => exact isMute_ret _
  | some m => exact (isMute_checked _ (isMute_ask isMute_ret)).bind g.isMute_report

lemma isMute_readText : g.readText.IsMute := by
  unfold readText
  cases g.mapping with
  | none => exact isMute_ret _
  | some m => exact isMute_ask isMute_ret

lemma isMute_unlink : g.unlink.IsMute := by
  refine isMute_ask fun r => ?_
  cases r with
  | ok => exact isMute_ret _
  | error e =>
    change (if e = .enoent then Program.ret () else Program.log _).IsMute
    split
    case isTrue => exact isMute_ret _
    case isFalse => exact isMute_log (isMute_ret _)

lemma isMute_release : g.release.IsMute := by
  have told : (Program.log (.released g.name g.flavor g.role)).IsMute := isMute_log (isMute_ret _)
  unfold release
  cases g.file with
  | none => exact isMute_ret _
  | some f =>
    refine isMute_ask fun _ => ?_
    by_cases creator : g.role = .creator
    · simp only [if_pos creator]
      exact g.isMute_unlink.bind fun _ => told
    · simp only [if_neg creator]
      exact told

lemma isMute_logSyncs (failures : List SyncFailure) : (failures.forM g.logSync).IsMute := by
  induction failures with
  | nil => exact isMute_ret ()
  | cons f failures ih => exact isMute_log ih

lemma isMute_destroySync : g.destroySync.IsMute := by
  unfold destroySync
  cases g.mapping with
  | none => exact isMute_ret _
  | some m =>
    by_cases owns : g.role = .creator ∧ g.ownsSync
    · simp only [if_pos owns]
      exact (isMute_headerDestroy m).bind g.isMute_logSyncs
    · simp only [if_neg owns]
      exact isMute_ret _

lemma isMute_unmap : g.unmap.IsMute := by
  unfold unmap
  cases g.mapping with
  | none => exact isMute_ret _
  | some m => exact isMute_ask fun r => isMute_logFailure r _

lemma isMute_destroy : g.destroy.IsMute :=
  g.isMute_destroySync.bind fun _ => g.isMute_unmap.bind fun _ => g.isMute_release.bind fun _ =>
    isMute_ret _

lemma isMute_pin (m : MappingId) (size : UInt32) : (pin n c m size).IsMute := by
  unfold pin
  split
  case isTrue => exact isMute_ask fun r => isMute_logFailure r _
  case isFalse => exact isMute_ret _

lemma isMute_probe (f : FileId) : (probe n c f).IsMute := by
  refine isMute_ask fun r => ?_
  cases r with
  | error e => exact isMute_ret _
  | ok m =>
    refine isMute_ask fun size => isMute_ask fun r => ?_
    exact (isMute_logFailure r _).bind fun _ => isMute_ret _

lemma isMute_mapWhole (f : FileId) (stored : Nat) (size : UInt32) :
    (mapWhole n f stored size).IsMute := by
  unfold mapWhole
  split
  · exact isMute_ret _
  · split
    · exact isMute_ret _
    · refine isMute_ask fun r => ?_
      cases r with
      | error e => exact isMute_ret _
      | ok m => exact isMute_ret _

lemma isMute_mapFile (f : FileId) : (mapFile n c f).IsMute := by
  refine isMute_ask fun r => ?_
  cases r with
  | error e => exact isMute_ret _
  | ok stored =>
    change (if stored < Layout.headerSize then Program.ret _ else _).IsMute
    split
    · exact isMute_ret _
    · refine (isMute_probe n c f).bind fun r => ?_
      cases r with
      | error e => exact isMute_ret _
      | ok size =>
        refine (isMute_mapWhole n f stored size).bind fun r => ?_
        cases r with
        | error e => exact isMute_ret _
        | ok m => exact isMute_ret _

lemma isMute_attach : (attach n c).IsMute := by
  refine isMute_ask fun r => ?_
  cases r with
  | error e => exact isMute_ret _
  | ok f =>
    refine (isMute_mapFile n c f).bind fun r => ?_
    cases r with
    | error e => exact isMute_ask fun _ => isMute_ret _
    | ok x => exact (isMute_pin n c x.2 x.1).bind fun _ => isMute_log (isMute_ret _)

end Segment

namespace Facade

variable (f : Facade)

lemma isMute_onSegment {α : Type} {otherwise : α} {act : Segment → Program α}
    (mute : ∀ g, (act g).IsMute) : (f.onSegment otherwise act).IsMute := by
  unfold onSegment
  cases f.segment with
  | none => exact isMute_ret _
  | some g => exact mute g

lemma isMute_guard : f.guard.IsMute :=
  (f.isMute_onSegment Segment.isMute_lock).bind fun _ => isMute_ret _

lemma isMute_unlock : f.unlock.IsMute :=
  f.isMute_onSegment Segment.isMute_unlock

lemma isMute_readText : f.readText.IsMute := by
  unfold readText
  split
  case isTrue => exact f.isMute_onSegment Segment.isMute_readText
  case isFalse => exact isMute_ret _

lemma isMute_drop : f.drop.IsMute :=
  f.isMute_onSegment fun g => g.isMute_destroy.bind fun _ => isMute_ret _

/-- Nothing is printed while a facade attaches to a segment. -/
lemma isMute_tryOpen (raw : String) (c : Config) : (tryOpen raw 0 c).IsMute := by
  have connects : (connect raw 0 c).IsMute := by
    unfold connect
    split
    · exact isMute_ret _
    · split
      · exact isMute_ret _
      · exact Segment.isMute_attach _ c
  refine connects.bind fun r => ?_
  cases r with
  | ok g => exact isMute_ret _
  | error e => exact isMute_ret _

end Facade
end SharedSegment
