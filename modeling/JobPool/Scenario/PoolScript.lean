import JobPool.Scenario.PoolSession

/-!
Scripts for a pool, and what is seen after each of their steps.
-/

namespace JobPool.Scenario

/-- What a script does. -/
inductive PoolStep where
  | submit (job : ScriptedJob)
  | trySubmit (job : ScriptedJob)
  | openGate (id : String)
  | reset
  | close
  | finish
  | letGo
  | text
  | holdQueue
  | sendQueue (job : ScriptedJob)
  | dropQueue

/-- What a step is answered. -/
inductive PoolAnswer where
  | nothing
  | flag (value : Bool)
  | text (value : String)
  deriving DecidableEq, Repr

/-- What is seen after a step. -/
structure PoolLook where
  answer : PoolAnswer
  /-- How a submission ended that had to wait. -/
  unblocked : Option Pool.Submission
  stage : Stage
  queued : Option Nat
  idle : Option Nat
  greatest : Option UInt64
  gauge : Option Int64
  loopOver : Bool

/-- A pool and whether the script holds a sender of its queue. -/
structure PoolScript where
  session : PoolSession
  holding : Bool

namespace PoolScript

/-- The owner let go of the pool. -/
def isGone (s : PoolScript) : Bool := s.session.state.owner = .gone

/-- The owner makes a move. -/
def own (s : PoolScript) (action : Pool.Action ScriptedJob) : PoolScript × PoolAnswer :=
  ({ s with session := s.session.move action }, .nothing)

/-- How a submission ended that was just made; without an end it waits. -/
def answerOf (submissions : List Pool.Submission) : PoolAnswer :=
  match submissions.head? with
  | some answer => .text answer.message
  | none => .text "pending"

/-- What a sender of the queue is told. -/
def senderText : Pool.Submission → String
  | .accepted => "ok"
  | .full => "full"
  | .closed => "closed"

/-- The owner submits a job. -/
def submit (s : PoolScript) (job : ScriptedJob) (wait : Bool) : PoolScript × PoolAnswer :=
  if s.isGone then (s, .nothing)
  else
    let session := s.session.move (.submit job wait)
    ({ s with session := { session with submissions := [] } }, answerOf session.submissions)

/-- The script takes a sender of the queue from the owner, in place of the one it held. -/
def holdQueue (s : PoolScript) : PoolScript × PoolAnswer :=
  let shared := if s.isGone then none else s.session.move? .shareSender
  let session := shared.getD s.session
  let session := if s.holding then session.move .dropSender else session
  (⟨session, shared.isSome⟩, .flag shared.isSome)

/-- The script submits a job through the sender it holds. -/
def sendQueue (s : PoolScript) (job : ScriptedJob) : PoolScript × PoolAnswer :=
  if !s.holding then (s, .nothing)
  else
    let session := s.session.move (.submitOther job false)
    ({ s with session := { session with submissions := [] } },
      (session.submissions.head?.map fun answer => .text (senderText answer)).getD .nothing)

/-- Does what a step says. -/
def act (s : PoolScript) : PoolStep → PoolScript × PoolAnswer
  | .submit job => s.submit job true
  | .trySubmit job => s.submit job false
  | .openGate id =>
    let session := { s.session with stage := s.session.stage.openGate id }
    ({ s with session := session }, .nothing)
  | .reset => if s.isGone then (s, .nothing) else s.own .resetTracker
  | .close => s.own .close
  | .finish => s.own .finish
  | .letGo => s.own .letGo
  | .text => (s, if s.isGone then .nothing else .text s.session.text)
  | .holdQueue => s.holdQueue
  | .sendQueue job => s.sendQueue job
  | .dropQueue =>
    if s.holding then ({ (s.own .dropSender).1 with holding := false }, .nothing) else (s, .nothing)

/-- Looks at a pool where nothing can move. -/
def look (s : PoolScript) (answer : PoolAnswer) : PoolScript × PoolLook :=
  let (session, greatest) := s.session.askGreatest
  let state := session.state
  let queued := state.hasSenders && !state.loop.isOver
  ({ s with session := session },
    { answer := answer
      unblocked := session.submissions.head?
      stage := if s.isGone then session.stage.forOutsiders else session.stage
      queued := if queued then some state.queue.items.length else none
      idle := if queued && state.hasPublishers then some state.idle.items.length else none
      greatest := if s.isGone then none else some greatest
      gauge := if s.isGone then none else (session.gauge.toOption).join
      loopOver := state.loop.isOver })

/-- Forgets what was seen, does what a step says, lets everything move, and looks. -/
def perform (s : PoolScript) (step : PoolStep) : PoolScript × PoolLook :=
  let session := { s.session with stage := s.session.stage.look, submissions := [] }
  let (s, answer) := { s with session := session }.act step
  { s with session := s.session.settle }.look answer

/-- The looks after the steps of a script. -/
def runFrom : PoolScript → List PoolStep → List PoolLook
  | _, [] => []
  | s, step :: rest =>
    let (s, look) := s.perform step
    look :: runFrom s rest

/-- A look at a new pool, and the looks after the steps of a script. -/
def run (session : PoolSession) (steps : List PoolStep) : List PoolLook :=
  let (s, first) := PoolScript.look ⟨session, false⟩ .nothing
  first :: runFrom s steps

/-- The records from one part of the pool; those of the workers are put in order. -/
def logsOf (look : PoolLook) (source : Source) : List Record :=
  let logs := (look.stage.logs.filter fun entry => entry.1 = source).map (·.2)
  if source = .worker then logs.mergeSort fun a b => textLe a.text b.text else logs

end PoolScript

end JobPool.Scenario
