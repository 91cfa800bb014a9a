import SharedSegment.Command
import SharedSegment.Counter
import SharedSegment.Scenario.Outcome

/-!
# Calls

The programs that acts make threads run. A call ends with an outcome, whose effect is applied when
the call is over.
-/

namespace SharedSegment.Scenario

/-- A call that only gives a result. -/
def giving {α : Type} (p : Program α) (result : α → Result) : Program Outcome := do
  return ⟨result (← p), .none⟩

/-- A call that opens a handle of some name, if it succeeds. -/
def opening {α : Type} (h : String) (p : Program (Except SegmentError α)) (handle : α → Handle) :
    Program Outcome := do
  match ← p with
  | .ok a => return ⟨.info (handle a), .setHandle h (handle a)⟩
  | .error e => return ⟨.failed e, .none⟩

/-- Something done with the name that a raw text stands for. -/
def named {α : Type} (raw : String) (act : Name → Program (Except SegmentError α)) :
    Program (Except SegmentError α) :=
  match Name.ofRaw raw with
  | .ok n => act n
  | .error f => return .error (.invalidName raw f.reason)

def openCall (toggle : Option String) (h raw : String) (size : UInt32) :
    Via → Program Outcome
  | .facade c =>
    opening h (Except.ok <$> Facade.openWith raw size (c.getD (.ofToggle toggle))) .facade
  | .attempt c => opening h (Facade.tryOpen raw size c) .facade
  | .create c => opening h (named raw fun n => Segment.create n size c) .segment
  | .attach c => opening h (named raw fun n => Segment.attach n c) .segment

/-- The call for a guard, which there is only with the lock. -/
def guardCall (id : ThreadId) (h g : String) (f : Facade) : Program Outcome := do
  match ← f.guard with
  | some s => return ⟨.guarded (some s), .setGuard ⟨id, g, h, s⟩⟩
  | none => return ⟨.guarded none, .none⟩

/-- The call of an operation on a handle, if it is one for such handles. -/
def handleCall? (id : ThreadId) (h : String) : Handle → Operation → Option (Program Outcome)
  | x, .info => some (return ⟨.info x, .none⟩)
  | .facade f, .debug => some (return ⟨.text f.diagnostic, .none⟩)
  | x, .lock => some (giving x.lock .status)
  | x, .unlock => some (giving x.unlock fun _ => .ok)
  | x, .wait => some (giving x.wait fun _ => .ok)
  | x, .notifyAll => some (giving x.notifyAll fun _ => .ok)
  | .segment s, .waitLocked => some (giving s.waitLocked .status)
  | .facade f, .read off len => some (giving (f.read off (len.getD f.size.toNat)) .bytes)
  | .facade f, .write off bs => some (giving (f.write off bs) .wrote)
  | x, .drop => some (giving x.drop fun _ => .ok)
  | .segment s, .destroy => some do
    let s ← s.destroy
    return ⟨.info (.segment s), .setHandle h (.segment s)⟩
  | .facade f, .guard g => some (guardCall id h g f)
  | _, _ => none

/-- The call of an operation on a guard. -/
def guardOperationCall (g : Guard) (f : Facade) : GuardOperation → Program Outcome
  | .status => return ⟨.status g.status, .none⟩
  | .read off len => giving (f.read off (len.getD f.size.toNat)) .bytes
  | .write off bs => giving (f.write off bs) .wrote
  | .wait => do
    let s ← f.guardWait g.status
    return ⟨.waited s, .setGuard { g with status := s }⟩
  | .drop => do
    f.unlock
    return ⟨.ok, .removeGuard g⟩

def commandCall (env : Command.Environment) (words : List String) (logs : Bool) :
    Program Outcome :=
  giving ((Command.program env words).keepLogs fun _ => logs) fun e => .ended (some e)

/-- The call that makes some threads count. It has no faults and leaves no records of its own. -/
def hammerCall (toggle : Option String) (raw : String) (threads times : Nat) : Program Outcome :=
  giving ((Counter.workers raw (.ofToggle toggle) times threads).keepLogs fun _ => false)
    fun _ => .text "joined"

end SharedSegment.Scenario
