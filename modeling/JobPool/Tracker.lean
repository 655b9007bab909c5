import JobPool.Channel
import JobPool.Log

/-!
The tracker of busy workers. It takes events from a bounded channel in order: a sample above the
greatest one since the last reset becomes the new greatest and is written to a gauge, a reset
forgets the samples before it, and a question is answered with the greatest. The tracker ends when
nobody holds a handle to it, or dies when the gauge refuses a value; events still in the channel
then stay there.
-/

namespace JobPool

namespace Tracker

/-- What is sent to a tracker. -/
inductive Event where
  | sample (busy : UInt64)
  | reset
  /-- A caller asks for the greatest sample. -/
  | question (caller : Nat)
  deriving DecidableEq, Repr

/-- How a tracker is. -/
inductive Status where
  | alive
  | ended
  | died
  deriving DecidableEq, Repr

end Tracker

/-- A tracker, its channel, and the number of handles to it. -/
structure Tracker where
  channel : Channel Tracker.Event
  handles : Nat
  greatest : UInt64
  status : Tracker.Status
  deriving DecidableEq, Repr

namespace Tracker

/-- How many events the channel holds. -/
def channelCapacity : Nat := 100

/-- A tracker that took no event yet. -/
def new (handles : Nat) : Tracker := ⟨.empty channelCapacity, handles, 0, .alive⟩

/-- What a tracker does for others. -/
inductive Effect where
  /-- A new greatest sample for the gauge. -/
  | gauge (value : UInt64)
  /-- The answer to a caller. -/
  | answer (caller : Nat) (value : UInt64)
  | log (record : Record)
  deriving DecidableEq, Repr

/-- The remark on a new greatest sample. -/
def raised (name : String) (busy : UInt64) : Record :=
  .debug s!"[{name}] setting max workers to {busy.toNat}"

/-- The remark on a reset. -/
def forgotten (name : String) : Record := .debug s!"[{name}] setting max workers to zero"

/-- The remark on the end. -/
def endedRecord (name : String) : Record := .debug s!"[{name}] worker tracker stopped"

/-- The value that the next move writes to the gauge. -/
def nextGauge? (t : Tracker) : Option UInt64 :=
  match t.status, t.channel.items with
  | .alive, .sample busy :: _ => if t.greatest < busy then some busy else none
  | _, _ => none

/-- Handles one event; `accepts` says whether the gauge takes a value written to it. -/
def handle (name : String) (accepts : Bool) (t : Tracker) : Event → Tracker × List Effect
  | .reset => ({ t with greatest := 0 }, [.log (forgotten name)])
  | .question caller => (t, [.answer caller t.greatest])
  | .sample busy =>
    if t.greatest < busy then
      let effects : List Effect := [.log (raised name busy), .gauge busy]
      if accepts then ({ t with greatest := busy }, effects)
      else ({ t with greatest := busy, status := .died, channel := t.channel.close }, effects)
    else (t, [])

/-- The next move of the tracker, if there is one. -/
def advance (name : String) (accepts : Bool) (t : Tracker) : Option (Tracker × List Effect) :=
  match t.status with
  | .alive =>
    match t.channel.take? with
    | some (event, channel) => some (handle name accepts { t with channel := channel } event)
    | none =>
      if t.handles = 0 then
        some ({ t with status := .ended, channel := t.channel.close }, [.log (endedRecord name)])
      else none
  | _ => none

/-- Sends an event: it waits while the channel is full and is lost once the tracker is gone. -/
def send (t : Tracker) (event : Event) : Option Tracker :=
  match t.channel.offer event with
  | .taken channel => some { t with channel := channel }
  | .full => none
  | .closed => some t

/-- A handle more. -/
def retain (t : Tracker) : Tracker := { t with handles := t.handles + 1 }

/-- A handle less; what is in the channel of a tracker that died goes with the last one. -/
def release (t : Tracker) : Tracker :=
  let handles := t.handles - 1
  if handles = 0 ∧ t.status ≠ .alive then
    { t with handles := handles, channel := { t.channel with items := [] } }
  else { t with handles := handles }

/-- The tracker has neither ended nor died. -/
def isAlive (t : Tracker) : Bool := t.status = .alive

end Tracker

end JobPool
