import JobPool.Load.Arguments
import JobPool.Load.Job
import JobPool.Pool.Gauged

/-!
The state of a load run: a pool over a registry with a latency meter, the count of processed jobs,
and how far the run itself is with submitting jobs and finishing the pool. An interim report may be
due after any job; its line, which says how much time has passed, is left out, while the question
and the reset that come with it are moves of the run.
-/

namespace JobPool.Load

open Latency (MeteredRegistry Meter)
open JobPool.Metric (Registry RegistrySnapshot)

/-- What is fixed when a run begins. -/
structure Config where
  pool : Pool.Config
  arguments : Arguments

/-- The number of jobs to submit. -/
def Config.jobs (c : Config) : Nat := c.arguments.jobs.toNat

/-- Job number `n`. -/
def Config.job (c : Config) (n : Nat) : LoadJob := .new n (c.arguments.fails n)

/-- How far a run is; jobs are numbered from one. -/
inductive Phase where
  /-- Submits this job next. -/
  | submitting (number : Nat)
  /-- Waits until this job is in the queue. -/
  | blocked (number : Nat)
  | submitted (number : Nat)
  /-- Asks for the greatest number of busy workers, after this job or at the end. -/
  | asking (after : Option Nat)
  | hearing (after : Option Nat)
  /-- Lets the tracker forget, after this job. -/
  | resetting (number : Nat)
  | closing (greatest : UInt64)
  | joining (greatest : UInt64)
  | pushing (greatest : UInt64)
  | finished (greatest : UInt64)
  /-- The pool did not take this job. -/
  | refused (number : Nat)
  | faulted (fault : Fault)
  deriving DecidableEq, Repr

/-- The run submits, or asks, without waiting for anybody. -/
def Phase.isBusy : Phase → Bool
  | submitting _ => true
  | submitted _ => true
  | asking _ => true
  | _ => false

/-- The state of a run. -/
structure State where
  pool : Pool.State LoadJob
  sink : MeteredRegistry
  processed : Nat
  phase : Phase

/-- Why a run ends without a result. -/
inductive RunError where
  | config (error : ConfigError)
  | faulted (fault : Fault)
  | refused (number : Nat)
  /-- Nothing can move, and the run is not finished. -/
  | stuck

/-- The report of an error and of its causes. -/
def RunError.chain : RunError → String
  | config error => error.chain
  | faulted fault => fault.message
  | refused number => s!"submitting job {number}: " ++ Pool.Submission.closed.message
  | stuck => "nothing can move"

/-- The sink of a run: its meter runs, and its metrics are registered. -/
def newSink : MeteredRegistry :=
  let registry := (Registry.empty.register failedJobsId failedJobs).state
  { registry := (registry.register jobLatencyId jobLatency).state
    meter := { Meter.new with task := .waiting } }

/-- Begins a run, `load` giving the settings in a file. -/
def start (load : String → Except Settings.LoadError Settings) (a : Arguments) :
    Except RunError (Config × State) := do
  let builder ← (a.builder (Q := Empty) load).mapError .config
  let plan := builder.plan
  plan.start.mapError .faulted
  let config : Config := ⟨.ofPlan Empty.elim plan, a⟩
  let sink := { newSink with registry := (Gauge.register newSink.registry 0).state }
  let pool := .new config.pool (.replicate config.pool.size .standard)
  return (config, ⟨pool, sink, 0, .submitting 1⟩)

/-- The line about the start of a run. -/
def startingRecord (config : Config) : Record :=
  .info <| s!"Starting {config.jobs} jobs on dispatcher '{config.pool.name}' "
    ++ s!"with {config.pool.size} workers"

/-- What a finished run reports. -/
structure Summary where
  greatest : UInt64
  processed : Nat
  jobs : Nat
  gauge : Option Int64
  snapshot : RegistrySnapshot

namespace Summary

/-- The line about the greatest number of busy workers. -/
def greatestLine (r : Summary) : String := s!"max workers used: {r.greatest.toNat}"

/-- The line about the processed jobs, without the gauge. -/
def processedLine (r : Summary) : String := s!"processed {r.processed} of {r.jobs} jobs"

/-- The written form of the value of the gauge. -/
def gaugeText : Option Int64 → String
  | none => "None"
  | some value => s!"Some({value.toInt})"

/-- The line about the processed jobs and the gauge. -/
def processedAndGaugeLine (r : Summary) : String :=
  r.processedLine ++ ", gauge " ++ gaugeText r.gauge

end Summary

/-- The report of a run that ended. -/
def State.summary (config : Config) (s : State) : Except RunError Summary :=
  match s.phase with
  | .finished greatest =>
    match s.sink.registry.snapshot with
    | .error fault => .error (.faulted fault)
    | .ok snapshot =>
      .ok ⟨greatest, s.processed, config.jobs,
        snapshot.value? Gauge.id [config.pool.name], snapshot⟩
  | .refused number => .error (.refused number)
  | .faulted fault => .error (.faulted fault)
  | _ => .error .stuck

end JobPool.Load
