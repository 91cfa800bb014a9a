import SharedSegment.Command
import SharedSegment.Scenario.Outcome

/-!
# Worlds

A world is a host with what surrounds it in a scenario: handles, guards, threads by name, calls that
wait, and programs that were started. `World.settle` lets the waiting calls go on until everything
has come to rest. They try again in the order in which they began.
-/

namespace SharedSegment.Scenario

/-- A call that waits. -/
structure Pending where
  /-- The name of the thread that acts. -/
  thread : String
  /-- The thread that the call runs on. -/
  id : ThreadId
  /-- The handle that the call works with. -/
  uses : Option String
  running : Running Outcome

/-- A program that was started and holds on. -/
structure Started where
  name : String
  id : ThreadId
  running : Running Outcome

/-- A world. -/
structure World where
  host : Host
  env : Command.Environment
  handles : List (String × Handle)
  guards : List Guard
  /-- The living threads. -/
  threads : List (String × ThreadId)
  /-- How many threads there have been. -/
  born : Nat
  /-- The calls that wait, longest first. -/
  pending : List Pending
  programs : List Started

namespace World

/-- A world in which nothing has happened. -/
def empty : World := ⟨.empty, ⟨none, .empty⟩, [], [], [], 0, [], []⟩

def handle? (w : World) (h : String) : Option Handle :=
  w.handles.lookup h

def guard? (w : World) (id : ThreadId) (g : String) : Option Guard :=
  w.guards.find? fun x => x.owner == id && x.name == g

def program? (w : World) (p : String) : Option Started :=
  w.programs.find? fun x => x.name == p

/-- Whether a thread waits in a call. -/
def isBlocked (w : World) (thread : String) : Bool :=
  w.pending.any fun p => p.thread == thread

/-- Whether a guard or a waiting call works with a handle. -/
def isInUse (w : World) (h : String) : Bool :=
  (w.guards.any fun g => g.handle == h) || w.pending.any fun p => p.uses == some h

/-- A thread that has not lived before. -/
def bear (w : World) : ThreadId × World :=
  (w.born, { w with born := w.born + 1 })

/-- The thread of a name, which begins to live with its first act. -/
def thread (w : World) (name : String) : ThreadId × World :=
  match w.threads.lookup name with
  | some id => (id, w)
  | none =>
    let (id, w) := w.bear
    (id, { w with threads := (name, id) :: w.threads })

def removeHandle (w : World) (h : String) : World :=
  { w with handles := w.handles.filter fun x => x.1 != h }

def removeGuard (w : World) (g : Guard) : World :=
  { w with guards := w.guards.filter fun x => !(x.owner == g.owner && x.name == g.name) }

/-- The world without a program that holds on. -/
def removeProgram (w : World) (p : String) : World :=
  { w with programs := w.programs.filter fun x => x.name != p }

/-- What an act changes for the acts after it. -/
def apply (w : World) : Effect → World
  | .none => w
  | .setHandle h x => { w.removeHandle h with handles := (h, x) :: (w.removeHandle h).handles }
  | .setGuard g => { w.removeGuard g with guards := g :: (w.removeGuard g).guards }
  | .removeGuard g => w.removeGuard g

/-- A thread dies. Its guards stay, and keep their handles in use. -/
def bury (w : World) (thread : String) (id : ThreadId) : World :=
  { w with
    host := w.host.bury id
    threads := w.threads.filter fun x => x.1 != thread }

/-- What has come of a call: it waits, or its outcome takes effect. -/
def conclude (w : World) (p : Pending) : World × Option Report :=
  match p.running.value? with
  | some o => (w.apply o.effect, some ⟨o.result, p.running.output⟩)
  | none => ({ w with pending := w.pending ++ [p] }, none)

/-- A waiting call tries again; those that are over report. -/
def retry (acc : World × List (String × Report)) (p : Pending) : World × List (String × Report) :=
  let (running, host) := p.running.resume p.id acc.1.host
  let (w, report) := { acc.1 with host }.conclude { p with running }
  (w, acc.2 ++ (report.map fun r => (p.thread, r)).toList)

def round (w : World) : World × List (String × Report) :=
  w.pending.foldl retry ({ w with pending := [] }, [])

/-- A notification through a facade, if there is one, as long as a thread waits. -/
def nudge (w : World) (thread : String) (id : ThreadId) : Option Facade → World
  | some f =>
    if w.isBlocked thread then { w with host := (f.notifyAll.run id .none [] w.host).2 } else w
  | none => w

/-- Lets the waiting calls go on for some rounds. -/
def settleWithin (thread : String) (id : ThreadId) (notify : Option Facade) :
    Nat → World → World × List (String × Report)
  | 0, w => (w, [])
  | fuel + 1, w =>
    let (w, done) := (w.nudge thread id notify).round
    let (w, more) := settleWithin thread id notify fuel w
    (w, done ++ more)

/-- Lets the waiting calls go on until everything has come to rest. A call waits in a few places
only, and in every round some call gets further or none does. -/
def settle (w : World) (thread : String) (id : ThreadId) (notify : Option Facade) :
    World × List (String × Report) :=
  settleWithin thread id notify (4 * w.pending.length + 4) w

end World
end SharedSegment.Scenario
