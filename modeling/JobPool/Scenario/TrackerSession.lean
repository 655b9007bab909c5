import JobPool.Builder
import JobPool.Inquiry
import JobPool.Scenario.Stage

/-!
Sessions with a tracker: the script sends events through numbered handles, clones and drops handles.
The tracker writes to a registry, or to a sink that remembers what it was given and may refuse one
value. After each step the tracker takes all its events, and then a caller asks it.
-/

namespace JobPool.Scenario

open JobPool.Metric (Registry)

/-- Where a tracker writes. -/
inductive TrackerSink where
  | registry
  /-- Remembers what it is given and dies of one value. -/
  | memory (refused : Option Int64)
  deriving DecidableEq, Repr

/-- What the script does with a handle. -/
inductive TrackerStep where
  | send (handle : Nat) (events : List Tracker.Event)
  | clone (handle : Nat)
  | drop (handle : Nat)

/-- What is seen after a step. -/
structure TrackerLook where
  /-- The greatest sample as a caller is told, while there is a handle. -/
  greatest : Option UInt64
  /-- The values that the sink was given. -/
  given : List Int64
  logs : List Record
  /-- How the tracker ended, if the step dropped the last handle. -/
  ended : Option Tracker.Status

/-- A tracker, its sink, and which handles are live. -/
structure TrackerSession where
  name : String
  sink : TrackerSink
  registry : Registry
  inquiry : Inquiry
  live : List Nat
  cloned : Nat
  given : List Int64
  logs : List Record

namespace TrackerSession

/-- A tracker with one handle. -/
def new (name : String) (sink : TrackerSink) (registry : Registry) :
    Except Fault TrackerSession := do
  startThread (trackerThread name)
  return ⟨name, sink, registry, .start, [0], 1, [], []⟩

/-- Whether the sink takes a value. -/
def accepts (s : TrackerSession) (greatest : UInt64) : Bool :=
  match s.sink with
  | .registry => Gauge.accepts s.registry s.name greatest
  | .memory refused => refused ≠ some greatest.toInt64

/-- Notes what happened. -/
def watch (accepted : Bool) (s : TrackerSession) : Watch.Event → TrackerSession
  | .done (.log record) => { s with logs := s.logs ++ [record] }
  | .done (.gauge greatest) =>
    match s.sink with
    | .registry =>
      let reply := Gauge.write s.registry s.name greatest
      { s with registry := reply.state, logs := s.logs ++ reply.logs }
    | .memory _ =>
      if accepted then { s with given := s.given ++ [(Gauge.call s.name greatest).value] } else s
  | _ => s

/-- Makes a move around the tracker. -/
def make? (accepted : Bool) (s : TrackerSession) (action : Inquiry.Action) : Option TrackerSession :=
  (Inquiry.step s.name s.inquiry action).map fun (inquiry, events) =>
    events.foldl (watch accepted) { s with inquiry := inquiry }

/-- One move of the tracker. -/
def move (s : TrackerSession) : Option TrackerSession :=
  let accepted := (s.inquiry.tracker.nextGauge?.map s.accepts).getD true
  s.make? accepted (.watch (.tracker accepted))

/-- A move of whoever holds a handle, if it can be made. -/
def make (s : TrackerSession) (action : Inquiry.Action) : TrackerSession :=
  (s.make? true action).getD s

/-- Sends events one after the other, the tracker taking each at once. -/
def sendAll (s : TrackerSession) (events : List Tracker.Event) : TrackerSession :=
  events.foldl (fun s event => exhaust move settleFuel (s.make (.watch (.send event)))) s

/-- A caller asks, if there is a handle, and is told the greatest sample. -/
def ask (s : TrackerSession) : TrackerSession × Option UInt64 :=
  let number := s.inquiry.calls.length
  let asked := exhaust move settleFuel ((s.make .call).make (.go number))
  (asked, asked.inquiry.calls[number]?.bind Call.value?)

/-- Does what the script says. -/
def act (s : TrackerSession) : TrackerStep → TrackerSession
  | .send handle events => if s.live.contains handle then s.sendAll events else s
  | .clone handle =>
    if s.live.contains handle then
      { s.make (.watch .clone) with live := s.live ++ [s.cloned], cloned := s.cloned + 1 }
    else s
  | .drop handle =>
    if s.live.contains handle then
      { s.make (.watch .drop) with live := s.live.filter (· ≠ handle) }
    else s

/-- Does what the script says, lets the tracker move, and looks. -/
def perform (s : TrackerSession) (step : TrackerStep) : TrackerSession × TrackerLook :=
  let acted := exhaust move settleFuel ({ s with given := [], logs := [] }.act step)
  let (asked, greatest) := acted.ask
  (asked,
    { greatest := greatest
      given := acted.given
      logs := acted.logs
      ended := if acted.live.isEmpty && !s.live.isEmpty then some acted.inquiry.tracker.status else none })

/-- The looks after the steps of a script, and the registry at the end. -/
def run : TrackerSession → List TrackerStep → List TrackerLook × Registry
  | s, [] => ([], s.registry)
  | s, step :: rest =>
    let (s, look) := s.perform step
    let (looks, registry) := run s rest
    (look :: looks, registry)

end TrackerSession

end JobPool.Scenario
