import JobPool.Pool.Gauge
import JobPool.Tracker

/-!
A tracker by itself: whoever holds handles to it sends events with them, clones them and drops them,
and the tracker takes the events. Everybody moves by itself, one move at a time and in any order.
-/

namespace JobPool.Watch

/-- What happens around a tracker. -/
inductive Event where
  /-- An event entered the channel. -/
  | sent (event : Tracker.Event)
  /-- An event was lost because the tracker is gone. -/
  | lost (event : Tracker.Event)
  | done (effect : Tracker.Effect)
  deriving DecidableEq, Repr

/-- The moves. -/
inductive Action where
  /-- An event is sent with one of the handles. -/
  | send (event : Tracker.Event)
  | clone
  | drop
  /-- The tracker moves; a value that it writes is accepted by the sink or not. -/
  | tracker (accepts : Bool)
  deriving DecidableEq, Repr

/-- A tracker that was just started, with one handle to it. -/
def start : Tracker := .new 1

/-- What a move does; none when it cannot be made now. -/
def step (name : String) (t : Tracker) : Action → Option (Tracker × List Event)
  | .send event =>
    if t.handles = 0 then none
    else
      (t.send event).map fun u =>
        (u, [if t.channel.closed then .lost event else .sent event])
  | .clone => if t.handles = 0 then none else some (t.retain, [])
  | .drop => if t.handles = 0 then none else some (t.release, [])
  | .tracker accepts =>
    (t.advance name accepts).map fun (u, effects) => (u, effects.map .done)

end JobPool.Watch
