import JobPool.Load.Step
import JobPool.Scenario.MetricSession
import JobPool.Scenario.Stage

/-!
Trials of a load run: whoever can move does so in a fixed order until the run is over, no attempt
takes any time, and no interim report is due. The run gets ahead of its pool: it submits as long as
there is room in the queue, so if all jobs fit in, it asks for the greatest number of busy workers
before there is any.
-/

namespace JobPool.Scenario

open Load (Config State Arguments RunError Summary)
open JobPool.Metric (Reading RegistrySnapshot)

/-- A run under way and what it logged. -/
structure LoadTrial where
  config : Config
  state : State
  logs : List Record

/-- What a finished run shows. -/
structure LoadReport where
  starting : Record
  summary : Summary
  logs : List Record

namespace LoadTrial

/-- Makes a move, if it can be made. -/
def move? (t : LoadTrial) (action : Load.Action) : Option LoadTrial :=
  (Load.step t.config t.state action).map fun (state, events) =>
    { t with state := state, logs := t.logs ++ events.flatMap Load.Event.records }

/-- The first move that can be made; the run itself goes first while it submits, and waits until
nobody else can move once it was held up. -/
def moveAny (t : LoadTrial) : Option LoadTrial :=
  (if t.state.phase.isBusy then t.move? (.run false) else none)
    <|> t.move? .loop
    <|> t.move? .tracker
    <|> (List.range t.state.pool.members.length).firstM fun k => t.move? (.worker k 0)
    <|> t.move? .resume
    <|> t.move? .owner
    <|> t.move? .apply
    <|> t.move? .take
    <|> t.move? (.run false)

/-- Runs a load, `load` giving the settings in a file. -/
def run (load : String → Except Settings.LoadError Settings) (a : Arguments) :
    Except RunError LoadReport := do
  let (config, state) ← Load.start load a
  let starting := Load.startingRecord config
  let t := exhaust moveAny settleFuel ⟨config, state, [starting]⟩
  return ⟨starting, ← t.state.summary config, t.logs⟩

end LoadTrial

namespace LoadReport

/-- The warnings, in the order of their texts. -/
def warnings (r : LoadReport) : List String :=
  ((r.logs.filter fun record => record.level = .warn).map (·.text)).mergeSort textLe

/-- What a series says whatever time the attempts took; with `exact` also which number of workers
was busy. -/
def certainMembers (exact : Bool) (id : String) : Reading → List (String × Json.Value)
  | .value v => [("value", if id = Gauge.id && !exact then .null else .ofSigned v)]
  | .summary s => [("count", .ofWord s.count)]

/-- The JSON form of the metrics, as far as it is certain. -/
def certainJson (exact : Bool) (s : RegistrySnapshot) : Json.Value :=
  .object (s.metrics.map fun (id, metric) => (id, metric.toJsonBy (certainMembers exact id)))

end LoadReport

end JobPool.Scenario
