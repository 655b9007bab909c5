import JobPool.Load.State

/-!
The moves of a load run. The run itself, the threads of its pool and the task of its meter move one
at a time and in any order; `step` says what one move does and is `none` when it cannot be made now.
-/

namespace JobPool.Load

open Latency (Meter Report)

/-- The moves. -/
inductive Action where
  | loop
  /-- A worker goes on with its attempt, which has run for so many microseconds, or moves by
  itself. -/
  | worker (number : Nat) (elapsed : Int64)
  | tracker
  /-- A submission that waits goes on. -/
  | resume
  /-- The run, waiting for its pool to finish, goes on. -/
  | owner
  /-- The task of the meter takes a measurement. -/
  | take
  /-- The task of the meter applies a measurement. -/
  | apply
  /-- The task of the meter pushes. -/
  | tick
  /-- The run goes on; `due` says whether an interim report is. -/
  | run (due : Bool)
  deriving DecidableEq, Repr

/-- What happens in a run. -/
inductive Event where
  | pool (event : Pool.Event LoadJob)
  /-- An attempt at this job sent its measurement. -/
  | measured (number : Nat)
  | pushed (report : Report)
  /-- The registry logs. -/
  | metrics (record : Record)

/-- The records of an event. -/
def Event.records : Event → List Record
  | pool (.worker _ (.judged record)) => [record]
  | pool (.worker _ (.log record)) => [record]
  | pool (.tracker (.log record)) => [record]
  | pool (.log record) => [record]
  | pool (.joined record) => [record]
  | pool (.metrics record) => [record]
  | pushed report => [Meter.line report]
  | metrics record => [record]
  | _ => []

namespace State

/-- The run learns what it waits for. -/
def hear (s : State) : Pool.Event LoadJob → State
  | .submitted _ answer =>
    match s.phase with
    | .blocked n => { s with phase := if answer = .accepted then .submitted n else .refused n }
    | _ => s
  | .tracker (.answer _ greatest) =>
    match s.phase with
    | .hearing (some n) => { s with phase := .resetting n }
    | .hearing none => { s with phase := .closing greatest }
    | _ => s
  | _ => s

/-- A move of the pool. -/
def movePool (config : Config) (s : State) (action : Pool.Action LoadJob) :
    Option (State × List Event) :=
  (Pool.stepOver config.pool s.sink.registry s.pool action).map fun (registry, pool, events) =>
    (events.foldl hear { s with pool := pool, sink := { s.sink with registry := registry } },
      events.map .pool)

/-- The attempt of a worker is this far. -/
def setProgress (s : State) (k : Nat) (progress : Progress) : State :=
  let members := s.pool.members.modify k fun m =>
    { m with worker := m.worker.mapJob fun task =>
        { task with job := { task.job with progress := progress } } }
  { s with pool := { s.pool with members := members } }

/-- A worker goes on with its attempt. -/
def moveAttempt (config : Config) (s : State) (k : Nat) (job : LoadJob) (elapsed : Int64) :
    Option (State × List Event) :=
  match job.request? config.pool.name elapsed with
  | none => some ({ s with processed := s.processed + 1 }.setProgress k job.progress.next, [])
  | some request =>
    (s.sink.serve request).map fun reply =>
      let progress := match reply.result with
        | .ok _ => job.progress.next
        | .error fault => .faulted fault
      let sent : List Event := if job.progress = .timed then [.measured job.number] else []
      ({ s with sink := reply.state }.setProgress k progress, sent ++ reply.logs.map .metrics)

/-- A worker goes on with its attempt, or moves by itself. -/
def moveWorker (config : Config) (s : State) (k : Nat) (elapsed : Int64) :
    Option (State × List Event) :=
  match s.pool.members[k]?.bind fun m => m.worker.job? with
  | none => s.movePool config (.worker k)
  | some task =>
    if task.job.progress.isOver then s.movePool config (.worker k)
    else s.moveAttempt config k task.job elapsed

/-- A move of the meter; a fault goes to whoever made it. -/
def moveMeter (s : State) (action : Meter.Action) :
    Option (State × Except Fault Unit × List Event) :=
  (s.sink.meter.step action).map fun (meter, reports, result) =>
    ({ s with sink := { s.sink with meter := meter } }, result, reports.map .pushed)

/-- A move of the task of the meter. -/
def moveTask (s : State) (action : Meter.Action) : Option (State × List Event) :=
  (s.moveMeter action).map fun (s, _, events) => (s, events)

/-- A move of the run itself. -/
def moveRun (config : Config) (s : State) (due : Bool) : Option (State × List Event) :=
  match s.phase with
  | .submitting n =>
    if config.jobs < n then some ({ s with phase := .asking none }, [])
    else { s with phase := .blocked n }.movePool config (.submit (config.job n) true)
  | .submitted n =>
    some ({ s with phase := if due then .asking (some n) else .submitting (n + 1) }, [])
  | .asking after => { s with phase := .hearing after }.movePool config (.askTracker 0)
  | .resetting n => { s with phase := .submitting (n + 1) }.movePool config .resetTracker
  | .closing greatest => { s with phase := .joining greatest }.movePool config .finish
  | .joining greatest =>
    if s.pool.owner = .finished then some ({ s with phase := .pushing greatest }, []) else none
  | .pushing greatest =>
    (s.moveMeter .push).map fun (s, result, events) =>
      match result with
      | .ok () => ({ s with phase := .finished greatest }, events)
      | .error fault => ({ s with phase := .faulted fault }, events)
  | _ => none

end State

/-- What a move does, if it can be made now. -/
def step (config : Config) (s : State) : Action → Option (State × List Event)
  | .loop => s.movePool config .loop
  | .worker k elapsed => s.moveWorker config k elapsed
  | .tracker => s.movePool config (.tracker true)
  | .resume => s.movePool config (.resume 0)
  | .owner => s.movePool config .owner
  | .take => s.moveTask .take
  | .apply => s.moveTask .apply
  | .tick => s.moveTask .tick
  | .run due => s.moveRun config due

end JobPool.Load
