import JobPool.Solo
import JobPool.Builder
import JobPool.Scenario.Stage

/-!
Sessions with one worker: the script starts, stops and joins it, takes published inboxes out of
the pool and sends jobs into them. After each step everything that can move moves, and then the
worker is looked at.
-/

namespace JobPool.Scenario

/-- One worker with its pool and its clients, and the stage. -/
structure WorkerSession where
  config : Solo.Config
  solo : Solo.State ScriptedJob
  stage : Stage

/-- What the script does. -/
inductive WorkerStep where
  | start
  | stop
  | join
  | number
  | text
  | take
  | send (job : ScriptedJob)
  | openGate (id : String)
  | dropPool

/-- What a step answers. -/
inductive StepAnswer where
  | nothing
  | flag (value : Bool)
  | number (value : Nat)
  | text (value : String)
  deriving DecidableEq, Repr

/-- What is seen after a step. -/
structure WorkerLook where
  answer : StepAnswer
  stage : Stage
  poolLength : Option Nat
  inbox : Option (Channel ScriptedJob)
  stopped : Bool

namespace WorkerSession

/-- A worker that was not started, and a pool with room for so many idle workers. -/
def new (name : String) (number poolCapacity : Nat) (policy : Policy) :
    Except Fault WorkerSession := do
  Channel.checkCapacity poolCapacity
  let config : Solo.Config := ⟨name, number, poolCapacity, policy⟩
  return ⟨config, Solo.start config, .empty⟩

/-- The name of the thread of the worker. -/
def thread (s : WorkerSession) : String := workerThread s.config.name s.config.number

/-- Notes what happened around the worker. -/
def watch (s : WorkerSession) (stage : Stage) : Solo.Event ScriptedJob → Stage
  | .worker event => stage.watch s.thread (event.map (·.job))
  | .joined record => stage.note .worker record
  | .sent _ _ => stage

/-- The inbox of the worker as the script sees it. -/
def inbox (s : WorkerSession) : Channel ScriptedJob :=
  let inbox := s.solo.worker.inbox
  ⟨inbox.capacity, inbox.items.map (·.job), inbox.closed⟩

/-- Makes a move, if it can be made now. -/
def make (s : WorkerSession) (action : Solo.Action ScriptedJob) :
    Option (WorkerSession × List (Solo.Event ScriptedJob)) :=
  (Solo.step s.config s.solo action).map fun (solo, events) =>
    ({ s with solo := solo, stage := events.foldl s.watch s.stage }, events)

/-- One move of the worker. -/
def move (s : WorkerSession) : Option WorkerSession :=
  if s.stage.stops (·.job) s.solo.worker then none else (s.make .worker).map (·.1)

/-- Makes a move, if it can be made now, and answers nothing. -/
def mutely (s : WorkerSession) (action : Solo.Action ScriptedJob) : WorkerSession × StepAnswer :=
  (((s.make action).map (·.1)).getD s, .nothing)

/-- What a client is told. -/
def sentText : Option (List (Solo.Event ScriptedJob)) → String
  | some [.sent _ .accepted] => "ok"
  | some [.sent _ .full] => "full"
  | some [.sent _ .closed] => "closed"
  | _ => "nothing taken"

/-- Does what the script says; a thread that cannot be started ends the session. -/
def act (s : WorkerSession) : WorkerStep → Except Fault (WorkerSession × StepAnswer)
  | .start => do
    if !s.solo.worker.running then startThread s.thread
    return s.mutely .start
  | .stop => .ok (s.mutely .stop)
  | .join => .ok (s.mutely .join)
  | .number => .ok (s, .number s.config.number)
  | .text => .ok (s, .text (s.solo.worker.text s.config.name s.config.number))
  | .take =>
    let taken := s.make .take
    .ok ((taken.map (·.1)).getD s, .flag taken.isSome)
  | .send job =>
    let sent := s.make (.send job false)
    .ok ((sent.map (·.1)).getD s, .text (sentText (sent.map (·.2))))
  | .openGate id => .ok ({ s with stage := s.stage.openGate id }, .nothing)
  | .dropPool => .ok (s.mutely .dropPool)

/-- Does what the script says, lets everything move, and looks. -/
def perform (s : WorkerSession) (step : WorkerStep) :
    Except Fault (WorkerSession × WorkerLook) := do
  let (acted, answer) ← { s with stage := s.stage.look }.act step
  let s := exhaust move settleFuel acted
  return (s,
    { answer := answer
      stage := s.stage
      poolLength := if s.solo.pool.closed then none else some s.solo.pool.items.length
      inbox := if s.solo.taken then some s.inbox else none
      stopped := s.solo.worker.running && s.solo.worker.isOver })

/-- The looks after the steps of a script. -/
def run : WorkerSession → List WorkerStep → Except Fault (List WorkerLook)
  | _, [] => .ok []
  | s, step :: rest => do
    let (s, look) ← s.perform step
    return look :: (← run s rest)

end WorkerSession

end JobPool.Scenario
