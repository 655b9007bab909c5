import JobPool.Channel
import JobPool.Policy

/-!
Workers. A worker announces itself idle by publishing its inbox in the pool and then waits for a
stop request or a job, a stop request first. After a job it starts over. Once it is asked to stop,
or the pool is gone, it closes its inbox, runs a job that got in before, and ends. The two looks
of a waiting worker, at the requests and at the inbox, are separate moves.
-/

namespace JobPool

namespace Worker

/-- Where the thread of a worker is. -/
inductive Phase (J : Type) where
  /-- There is no thread. -/
  | resting
  | publishing
  | lookingForStop
  | lookingForJob
  | waiting
  /-- A job was taken; `draining` when the inbox was closed before. -/
  | starting (job : J) (draining : Bool)
  /-- Attempt number `attempt` of `limit` is under way. -/
  | working (job : J) (attempt limit : Nat) (draining : Bool)
  | closing
  | draining
  | ended
  /-- The run of a job faulted. -/
  | crashed
  deriving DecidableEq, Repr

end Worker

/-- A worker: its inbox for one job, the stop request, and its thread. -/
structure Worker (J : Type) where
  inbox : Channel J
  /-- A stop request waits to be noticed. -/
  stopPending : Bool
  /-- Nobody is left who could send a stop request, which counts as one. -/
  abandoned : Bool
  phase : Worker.Phase J
  /-- The thread was started and not joined since. -/
  running : Bool
  deriving DecidableEq, Repr

namespace Worker

variable {J : Type}

/-- A worker whose thread was not started. -/
def new : Worker J := ⟨.empty 1, false, false, .resting, false⟩

/-- Starts the thread unless it runs. -/
def start (w : Worker J) : Worker J :=
  if w.running then w else { w with phase := .publishing, running := true }

/-- Requests a stop; a second request before the first is noticed is lost. -/
def stop (w : Worker J) : Worker J := { w with stopPending := true }

/-- The job whose attempt is under way. -/
def job? (w : Worker J) : Option J :=
  match w.phase with
  | .working job _ _ _ => some job
  | _ => none

/-- Changes the job whose attempt is under way. -/
def mapJob (f : J → J) (w : Worker J) : Worker J :=
  match w.phase with
  | .working job attempt limit draining =>
    { w with phase := .working (f job) attempt limit draining }
  | _ => w

/-- The thread is over. -/
def isOver (w : Worker J) : Bool :=
  match w.phase with
  | .ended => true
  | .crashed => true
  | _ => false

/-- The remark of whoever joins a crashed worker. -/
def crashedRecord (name : String) (number : Nat) : Record :=
  .debug s!"[{name}] worker {number} ended with a panic"

/-- The remark on a worker that ends. -/
def stoppedRecord (number : Nat) : Record := .debug s!"worker {number} stopped"

/-- The remark on a worker that finds no pool to publish itself in. -/
def poolClosedRecord (number : Nat) : Record := .debug s!"worker {number}: pool closed"

/-- Joins the thread, if it is over or was not started. -/
def join (name : String) (number : Nat) (w : Worker J) : Option (Worker J × List Record) :=
  if !w.running then some (w, [])
  else
    match w.phase with
    | .ended => some ({ w with running := false }, [])
    | .crashed => some ({ w with running := false }, [crashedRecord name number])
    | _ => none

/-- What the pool says to a worker that wants to publish itself. -/
inductive Admission where
  | room
  | full
  | gone
  deriving DecidableEq, Repr

/-- What a worker does that others can see. -/
inductive Event (J : Type) where
  | published
  /-- The run of a job begins. -/
  | started (job : J)
  /-- An attempt at a job begins. -/
  | attempted (job : J) (attempt : Nat)
  /-- The run of a job is over. -/
  | finished (job : J) (outcome : Outcome)
  /-- The run of a job faulted. -/
  | faulted (job : J) (fault : Fault)
  | sent (letter : Letter J)
  /-- The policy logs. -/
  | judged (record : Record)
  /-- The worker logs. -/
  | log (record : Record)

/-- The worker published itself. -/
def Event.isPublished : Event J → Bool
  | published => true
  | _ => false

/-- The same event with other jobs. -/
def Event.map {K : Type} (f : J → K) : Event J → Event K
  | published => .published
  | started job => .started (f job)
  | attempted job attempt => .attempted (f job) attempt
  | finished job outcome => .finished (f job) outcome
  | faulted job fault => .faulted (f job) fault
  | sent letter => .sent ⟨f letter.job, letter.error, letter.attempts⟩
  | judged record => .judged record
  | log record => .log record

variable [Job J]

/-- Begins the run of a job. -/
def begin (policy : Policy) (w : Worker J) (job : J) (draining : Bool) :
    Worker J × List (Event J) :=
  match policy.attemptLimit with
  | .error fault => ({ w with phase := .crashed }, [.started job, .faulted job fault])
  | .ok limit =>
    ({ w with phase := .working job 1 limit draining }, [.started job, .attempted job 1])

/-- Ends an attempt and does what the policy says. -/
def finishAttempt (policy : Policy) (w : Worker J) (job : J) (attempt limit : Nat)
    (draining : Bool) : Worker J × List (Event J) :=
  let (result, job) := Job.attempt job
  match policy.judge limit attempt result job with
  | .again job warning =>
    ({ w with phase := .working job (attempt + 1) limit draining },
      [.judged warning, .attempted job (attempt + 1)])
  | .ended ending =>
    ({ w with phase := if draining then .draining else .publishing },
      ending.letter.toList.map .sent ++ ending.logs.map .judged
        ++ [.finished ending.job ending.outcome])

/-- The next move of worker `number`, if there is one. -/
def advance (policy : Policy) (number : Nat) (pool : Admission) (w : Worker J) :
    Option (Worker J × List (Event J)) :=
  match w.phase with
  | .resting => none
  | .publishing =>
    match pool with
    | .room => some ({ w with phase := .lookingForStop }, [.published])
    | .full => none
    | .gone => some ({ w with phase := .closing }, [.log (poolClosedRecord number)])
  | .lookingForStop =>
    if w.stopPending ∨ w.abandoned then
      some ({ w with stopPending := false, phase := .closing }, [])
    else some ({ w with phase := .lookingForJob }, [])
  | .lookingForJob =>
    match w.inbox.take? with
    | some (job, inbox) => some ({ w with inbox := inbox, phase := .starting job false }, [])
    | none => some ({ w with phase := if w.inbox.closed then .closing else .waiting }, [])
  | .waiting =>
    if w.stopPending ∨ w.abandoned ∨ w.inbox.items ≠ [] ∨ w.inbox.closed then
      some ({ w with phase := .lookingForStop }, [])
    else none
  | .starting job draining => some (begin policy w job draining)
  | .working job attempt limit draining => some (finishAttempt policy w job attempt limit draining)
  | .closing => some ({ w with inbox := w.inbox.close, phase := .draining }, [])
  | .draining =>
    match w.inbox.take? with
    | some (job, inbox) => some ({ w with inbox := inbox, phase := .starting job true }, [])
    | none => some ({ w with phase := .ended }, [.log (stoppedRecord number)])
  | .ended => none
  | .crashed => none

/-- The written form of a worker. -/
def text (name : String) (number : Nat) (w : Worker J) : String :=
  Text.record "DefaultWorker" [("name", Text.quoted name), ("number", toString number),
    ("running", if w.running then "true" else "false")]

end Worker

end JobPool
