import JobPool.Pool.Gauged
import JobPool.Scenario.Stage

/-!
Sessions with a pool: the script submits jobs, opens gates, closes the pool and lets go of it.
After each step everything that can move moves, until all that still runs waits at a gate; then
the pool is looked at.
-/

namespace JobPool.Scenario

open JobPool.Metric (Registry)

/-- The workers that a script asks for. -/
inductive Crew where
  | standard
  | faultyStop
  /-- Publishes a closed inbox and gives up its access to the pool. -/
  | dead
  /-- Gives up its access to the pool without publishing. -/
  | absent
  deriving DecidableEq, Repr

/-- The kind of worker that plays a part. -/
def Crew.kind : Crew → Pool.Kind
  | standard => .standard
  | faultyStop => .faultyStop
  | dead => .custom
  | absent => .custom

/-- A pool on a stage. -/
structure PoolSession where
  config : Pool.Config
  state : Pool.State ScriptedJob
  registry : Registry
  stage : Stage
  /-- How submissions ended since the last look. -/
  submissions : List Pool.Submission
  /-- What a caller was told about the greatest number of busy workers. -/
  told : Option UInt64

namespace PoolSession

/-- Notes what happened. -/
def watch (s : PoolSession) : Pool.Event ScriptedJob → PoolSession
  | .submitted _ answer => { s with submissions := s.submissions ++ [answer] }
  | .handed _ _ => s
  | .lost _ => s
  | .worker k event =>
    { s with stage := s.stage.watch (workerThread s.config.name k) (event.map (·.job)) }
  | .tracker (.log record) => { s with stage := s.stage.note .tracker record }
  | .tracker (.answer _ greatest) => { s with told := some greatest }
  | .tracker (.gauge _) => s
  | .log record => { s with stage := s.stage.note .dispatcher record }
  | .joined record => { s with stage := s.stage.note .worker record }
  | .metrics record => { s with stage := s.stage.note .metrics record }

/-- Makes a move, if it can be made. -/
def move? (s : PoolSession) (action : Pool.Action ScriptedJob) : Option PoolSession :=
  (Pool.stepOver s.config s.registry s.state action).map fun (registry, state, events) =>
    events.foldl watch { s with registry := registry, state := state }

/-- Makes a move, or stays. -/
def move (s : PoolSession) (action : Pool.Action ScriptedJob) : PoolSession :=
  (s.move? action).getD s

/-- A worker moves unless it stands at a closed gate. -/
def moveWorker (s : PoolSession) (k : Nat) : Option PoolSession :=
  match s.state.members[k]? with
  | none => none
  | some m => if s.stage.stops (·.job) m.worker then none else s.move? (.worker k)

/-- The first move that somebody can make by themselves. -/
def moveAny (s : PoolSession) : Option PoolSession :=
  s.move? .loop
    <|> s.move? (.tracker true)
    <|> (List.range s.state.members.length).firstM s.moveWorker
    <|> s.move? (.resume 0)
    <|> s.move? .owner

/-- Lets everything move that can. -/
def settle (s : PoolSession) : PoolSession := exhaust moveAny settleFuel s

/-- Lets one worker play its part until it waits. -/
def enter (s : PoolSession) (k : Nat) : Crew → PoolSession
  | .dead => ((s.move (.custom k .closeInbox)).move (.custom k .publish)).move (.custom k .release)
  | .absent => s.move (.custom k .release)
  | _ => exhaust (fun s => s.moveWorker k) settleFuel s

/-- Lets the workers play their parts, the first one first. -/
def enterAll (s : PoolSession) : Nat → List Crew → PoolSession
  | _, [] => s
  | k, part :: rest => enterAll (s.enter k part) (k + 1) rest

/-- Builds a pool over a registry; `crew` says which worker plays which part, and `room` how large a
supplied queue is. -/
def build {Q : Type} (plan : Plan Q) (room : Q → Nat) (crew : Nat → Crew) (registry : Registry) :
    Except Fault PoolSession := do
  plan.makeChannels
  let config := Pool.Config.ofPlan room plan
  let parts := (List.range config.size).map crew
  plan.startFrom (parts.findIdx? fun part => part.kind ≠ .custom)
  let reply := Gauge.register registry 0
  let stage := Stage.empty.noteAll .metrics reply.logs
  let stage := stage.note .dispatcher (Pool.createdRecord config)
  let s : PoolSession :=
    ⟨config, .new config (parts.map Crew.kind), reply.state, stage, [], none⟩
  return (s.enterAll 0 parts).settle

/-- Asks for the greatest number of busy workers. -/
def askGreatest (s : PoolSession) : PoolSession × UInt64 :=
  let s := ({ s with told := none }.move (.askTracker 0)).settle
  (s, s.told.getD 0)

/-- The value of the gauge of this pool, if it is there and can be read. -/
def gauge (s : PoolSession) : Except Fault (Option Int64) := Gauge.value s.registry s.config.name

/-- The written form of the pool. -/
def text (s : PoolSession) : String :=
  poolText s.config.name s.config.size (!s.state.ownSender)

end PoolSession

end JobPool.Scenario
