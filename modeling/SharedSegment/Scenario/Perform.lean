import SharedSegment.Scenario.Advance

/-!
# Performing acts

`World.perform` lets a thread act, and then everything comes to rest: calls that waited may end with
the act of another thread. A thread that waits in a call refuses to act.
-/

namespace SharedSegment.Scenario

/-- What comes of an act: a report of its own, and reports of calls that have ended since. -/
structure Answer where
  own : Report
  others : List (String × Report)

namespace World

/-- A thread acts, and everything comes to rest. -/
def perform (w : World) (thread : String) (faults : List Fault) (act : Act) : Answer × World :=
  if w.isBlocked thread then (⟨.silent (.refused .threadBlocked), []⟩, w)
  else
    let (id, w) := w.thread thread
    match w.advance thread id faults act with
    | .error r => (⟨.silent (.refused r), []⟩, w)
    | .ok a =>
      let (w, done) := a.world.settle thread id a.notify
      match a.report with
      | some own => (⟨own, done⟩, w)
      | none =>
        -- The thread's own call may have ended while the others went on.
        let (mine, others) := done.partition fun x => x.1 == thread
        (⟨(mine.head?.map Prod.snd).getD (.silent .blocked), others⟩, w)

end World
end SharedSegment.Scenario
