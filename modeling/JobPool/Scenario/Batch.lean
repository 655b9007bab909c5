import JobPool.Scenario.MetricSession
import JobPool.Scenario.PoolSession

/-!
Batches: pools run to completion, one after another, most of them over one registry. The report on a
pool holds what does not depend on which of its workers was faster.
-/

namespace JobPool.Scenario

open JobPool.Metric (Registry)

/-- A pool of a batch, and its jobs. -/
structure BatchPool where
  builder : Builder (Channel (Task ScriptedJob))
  /-- The capacity of a supplied job queue. -/
  ownQueue : Option Nat
  /-- Whoever asks a worker to stop faults. -/
  faultyStop : Bool
  /-- The gauge is in the registry of the batch, and not in one of the pool's own. -/
  shared : Bool
  jobs : List ScriptedJob

/-- What is reported about the gauge of a pool. -/
inductive GaugeReport where
  | absent
  | value (value : Int64)
  /-- Whether the value lies between one and the number of workers. -/
  | inRange (holds : Bool)

/-- What is reported about a pool that ran to completion. -/
structure BatchReport where
  name : String
  size : Nat
  queueCapacity : Nat
  submissions : List Pool.Submission
  gauge : Except Fault GaugeReport
  /-- The attempts by job and number. -/
  seen : List Seen
  /-- It is known which worker made an attempt. -/
  threadsKnown : Bool
  letters : List (Letter ScriptedJob)
  logs : List Record
  text : String
  /-- The greatest number of busy workers as a caller is told after the end. -/
  greatestAfter : UInt64

namespace BatchReport

/-- What is reported about a value of the gauge. -/
def ofGauge (size : Nat) : Option Int64 → GaugeReport
  | none => .absent
  | some value =>
    if size ≤ 1 then .value value else .inRange (1 ≤ value.toInt && value.toInt ≤ size)

/-- Whether a record comes in every run of such a pool. -/
def isCertain (size : Nat) (faultyStop : Bool) (source : Source) (record : Record) : Bool :=
  match source with
  | .tracker => size ≤ 1
  | .worker =>
    !(faultyStop && (List.range size).any fun k => record = Worker.poolClosedRecord k)
  | _ => true

/-- The records that come in every run, by level and text. -/
def logsOf (pool : BatchPool) (s : PoolSession) : List Record :=
  let certain := s.stage.logs.filter fun (source, record) =>
    isCertain s.config.size pool.faultyStop source record
  sortRecords (certain.map (·.2))

/-- Attempts are in order of jobs and then of numbers. -/
def seenLe (a b : Seen) : Bool :=
  if a.id = b.id then a.call ≤ b.call else textLe a.id b.id

/-- Letters are in order of descriptions and then of errors. -/
def letterLe (a b : Letter ScriptedJob) : Bool :=
  textsLe [Job.describe a.job, a.error.chain] [Job.describe b.job, b.error.chain]

/-- The report on a pool that ran to completion. -/
def of (pool : BatchPool) (s : PoolSession) : BatchReport :=
  { name := s.config.name
    size := s.config.size
    queueCapacity := s.config.queueCapacity
    submissions := s.submissions
    gauge := s.gauge.map (ofGauge s.config.size)
    seen := s.stage.seen.mergeSort seenLe
    threadsKnown := s.config.size ≤ 1
    letters := s.stage.letters.mergeSort letterLe
    logs := logsOf pool s
    text := s.text
    greatestAfter := s.askGreatest.2 }

end BatchReport

namespace BatchPool

/-- Runs a pool to completion; gives its report and the registry of the batch. -/
def run (registry : Registry) (pool : BatchPool) : Except Fault (BatchReport × Registry) := do
  let builder ← match pool.ownQueue with
    | none => pure pool.builder
    | some capacity => pool.builder.queueSet <$> Channel.create capacity
  let part : Crew := if pool.faultyStop then .faultyStop else .standard
  let s ← PoolSession.build builder.plan Channel.capacity (fun _ => part)
    (if pool.shared then registry else .empty)
  let s := pool.jobs.foldl (fun s job => (s.move (.submit job true)).settle) s
  let s := (s.move .finish).settle
  return (.of pool s, if pool.shared then s.registry else registry)

/-- Runs pools one after another. -/
def runAll (registry : Registry) : List BatchPool → Except Fault (List BatchReport × Registry)
  | [] => .ok ([], registry)
  | pool :: rest => do
    let (report, registry) ← pool.run registry
    let (reports, registry) ← runAll registry rest
    return (report :: reports, registry)

end BatchPool

/-- A registry in which the gauge was left behind by an operation that faulted. -/
def faultedGauge : Registry :=
  let r := (Gauge.register .empty 0).state
  let r := (r.apply Gauge.id (.change .set Int64.maxValue) [""]).state
  (r.apply Gauge.id (.change .add 1) [""]).state

/-- The ids of the metrics of a registry, if it can be read. -/
def metricIds (r : Registry) : Except Fault (List String) :=
  r.snapshot.map fun snapshot => snapshot.metrics.map (·.1)

end JobPool.Scenario
