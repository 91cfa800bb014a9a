import SharedSegment.Scenario.Call
import SharedSegment.Scenario.World

/-!
# Advancing

`World.advance` lets a thread act as far as it gets without help: what the act needs has to be
there, and then its call runs until it ends or has to wait.
-/

namespace SharedSegment.Scenario

/-- How far an act has come before everything comes to rest. -/
structure Advance where
  world : World
  /-- The report, unless the call waits. -/
  report : Option Report
  /-- A facade that is notified as long as the call waits. -/
  notify : Option Facade

abbrev Acting := Except Refusal

namespace World

/-- An act that is over at once. -/
def finish (w : World) (r : Result) : Acting Advance :=
  .ok ⟨w, some (.silent r), none⟩

/-- A change of the host that may fail. -/
def change (w : World) : Except Errno Host → Acting Advance
  | .ok host => { w with host }.finish .ok
  | .error e => w.finish (.storeFailed e)

/-- A look at the host that may fail. -/
def look {α : Type} (w : World) (result : α → Result) : Except Errno α → Acting Advance
  | .ok a => w.finish (result a)
  | .error e => w.finish (.storeFailed e)

/-- A call that has run as far as it goes. -/
def reach (w : World) (p : Pending) (notify : Option Facade) : Acting Advance :=
  let (world, report) := w.conclude p
  .ok { world, report, notify }

def call (w : World) (thread : String) (id : ThreadId) (uses : Option String)
    (faults : List Fault) (p : Program Outcome) : Acting Advance :=
  let (running, host) := p.run id (.plan faults) [] w.host
  { w with host }.reach { thread, id, uses, running } none

/-- A handle that has to be there. -/
def demand (w : World) (h : String) : Acting Handle :=
  match w.handle? h with
  | some x => .ok x
  | none => .error .noHandle

/-- A facade that has to be there. -/
def demandFacade (w : World) (h : String) : Acting Facade := do
  match ← w.demand h with
  | .facade f => return f
  | .segment _ => .error .unfit

/-- Whether a guard is to be made under a name that is taken. -/
def guardIsTaken (w : World) (id : ThreadId) : Operation → Bool
  | .guard g => (w.guard? id g).isSome
  | _ => false

/-- An operation on a handle. One that is dropped is gone from the beginning. -/
def actOnHandle (w : World) (thread : String) (id : ThreadId) (faults : List Fault) (h : String)
    (op : Operation) : Acting Advance := do
  let x ← w.demand h
  if op.isExclusive && w.isInUse h then .error .inUse
  else
    match handleCall? id h x op with
    | none => .error .unfit
    | some p =>
      if w.guardIsTaken id op then .error .guardExists
      else if op = .drop then (w.removeHandle h).call thread id none faults p
      else w.call thread id (some h) faults p

def actOnGuard (w : World) (thread : String) (id : ThreadId) (faults : List Fault) (g : String)
    (op : GuardOperation) : Acting Advance :=
  match w.guard? id g with
  | none => .error .noGuard
  | some x => do
    let f ← w.demandFacade x.handle
    w.call thread id (some x.handle) faults (guardOperationCall x f op)

/-- Runs a command line in a process of its own. Time passes, so a hold of some seconds ends. -/
def runCommand (w : World) (thread : String) (words : List String) (notify : Option Facade)
    (logs : Bool) : Acting Advance :=
  let (id, w) := w.bear
  -- The first notification comes before the process has started to work.
  let host := match notify with
    | some f => (f.notifyAll.run id .none [] w.host).2
    | none => w.host
  let (running, host) := (commandCall w.env words logs).run id .none [] host
  let (running, host) := match running.hold? with
    | some (some _) => running.release id host
    | _ => (running, host)
  { w with host }.reach { thread, id, uses := none, running } notify

/-- Starts a command line in a process of its own. -/
def startCommand (w : World) (thread p : String) (words : List String) (logs : Bool) :
    Acting Advance :=
  let (id, w) := w.bear
  let (running, host) := (commandCall w.env words logs).run id .none [] w.host
  let w := { w with host }
  if running.hold?.isSome then
    { w.removeProgram p with programs := ⟨p, id, running⟩ :: (w.removeProgram p).programs }.finish
      .held
  else w.reach { thread, id, uses := none, running } none

/-- Interrupts or kills a command line that holds on. -/
def stopCommand (w : World) (thread p : String) (kill : Bool) : Acting Advance :=
  match w.program? p with
  | none => .error .noProgram
  | some x =>
    let w := w.removeProgram p
    if kill then
      .ok ⟨{ w with host := w.host.bury x.id }, some ⟨.ended none, x.running.output⟩, none⟩
    else
      let (running, host) := x.running.release x.id w.host
      { w with host }.reach { thread, id := x.id, uses := none, running } none

def actOnStore (w : World) : StoreAct → Acting Advance
  | .put file length sizeField off bs =>
    w.change (w.host.putFile file length sizeField off bs)
  | .resize file length => w.change (w.host.setLength file length)
  | .remove file => w.change (w.host.removeFile file)
  | .makeDirectory file => w.change (w.host.makeDirectory file)
  | .makeLink file target => w.change (w.host.makeLink file target)
  | .read file off len => w.look .bytes (w.host.content file off len)
  | .describe file => w.look .description (w.host.describe file)
  | .list => w.finish (.names w.host.store.names)

/-- A thread acts, up to where it has to wait. -/
def advance (w : World) (thread : String) (id : ThreadId) (faults : List Fault) :
    Act → Acting Advance
  | .openHandle h raw size via =>
    if (w.handle? h).isSome then .error .handleExists
    else w.call thread id none faults (openCall w.env.toggle h raw size via)
  | .onHandle h op => w.actOnHandle thread id faults h op
  | .onGuard g op => w.actOnGuard thread id faults g op
  | .sameData a b => do
    let a ← w.demandFacade a
    let b ← w.demandFacade b
    w.finish (.truth (a.data = b.data))
  | .die => (w.bury thread id).finish .ok
  | .hammer raw threads times =>
    w.call thread id none [] (hammerCall w.env.toggle raw threads times)
  | .setToggle value => { w with env := { w.env with toggle := value } }.finish .ok
  | .putFile path content =>
    { w with env := { w.env with folder := w.env.folder.put path (.file content) } }.finish .ok
  | .command words notify logs => do
    let f ← notify.mapM w.demandFacade
    w.runCommand thread words f logs
  | .start p words logs => w.startCommand thread p words logs
  | .stop p kill => w.stopCommand thread p kill
  | .store a => w.actOnStore a

end World
end SharedSegment.Scenario
