import JobPool.Builder
import JobPool.Tracker
import JobPool.Worker

/-!
The state of a pool: the job queue and who can still submit, the pool of idle workers, the workers,
the dispatch loop with what it has in hand, the tracker, how far its owner is with it, and whether
its dead letters still find a taker.
-/

namespace JobPool

/-- A submitted job; tickets are handed out in the order of the submissions. -/
structure Task (J : Type) where
  ticket : Nat
  job : J
  deriving DecidableEq, Repr

instance {J : Type} [Job J] : Job (Task J) where
  describe task := Job.describe task.job
  attempt task := ((Job.attempt task.job).1, ⟨task.ticket, (Job.attempt task.job).2⟩)

namespace Pool

/-- What is fixed when a pool is built. -/
structure Config where
  name : String
  /-- The number of workers. -/
  size : Nat
  queueCapacity : Nat
  policy : Policy
  deriving DecidableEq, Repr

/-- What a plan fixes; `room` is the capacity of a supplied queue. -/
def Config.ofPlan {Q : Type} (room : Q → Nat) (plan : Plan Q) : Config :=
  ⟨plan.name, plan.maxWorkers.toNat, plan.queueCapacity room, plan.policy⟩

/-- The kind of a worker. -/
inductive Kind where
  | standard
  /-- A standard worker, but whoever asks it to stop faults. -/
  | faultyStop
  /-- A worker that does what it likes with its inbox and its access to the pool. -/
  | custom
  deriving DecidableEq, Repr

/-- A worker of a pool. -/
structure Member (J : Type) where
  kind : Kind
  worker : Worker J
  /-- A custom worker gave up its access to the pool. -/
  released : Bool
  deriving DecidableEq, Repr

/-- Where the dispatch loop is. -/
inductive Loop (J : Type) where
  /-- Waits for a job. -/
  | receiving
  /-- Has a job and waits for an idle worker. -/
  | seeking (job : J)
  /-- Took a worker out of the pool. -/
  | leased (job : J) (worker : Nat)
  /-- Counted the busy workers and tells the tracker. -/
  | sampling (job : J) (worker : Nat) (busy : UInt64)
  | handing (job : J) (worker : Nat)
  | leaving
  /-- Asks the workers from this one on to stop. -/
  | stopping (worker : Nat)
  /-- Waits for the workers from this one on. -/
  | joining (worker : Nat)
  | finishing
  | ended
  | faulted
  deriving DecidableEq, Repr

/-- The loop is over. -/
def Loop.isOver {J : Type} : Loop J → Bool
  | ended => true
  | faulted => true
  | _ => false

/-- How far the owner of a pool is with it. -/
inductive Owner where
  | present
  /-- Waits until the pool is finished: for the loop, then for the tracker. -/
  | joiningLoop
  | joiningTracker
  | finished
  /-- Let go of the pool without waiting. -/
  | gone
  deriving DecidableEq, Repr

/-- The owner has a handle to the tracker. -/
def Owner.holdsTracker : Owner → Bool
  | present => true
  | joiningLoop => true
  | _ => false

/-- The state of a pool with jobs `J`. -/
structure State (J : Type) where
  queue : Channel (Task J)
  /-- The owner can submit. -/
  ownSender : Bool
  /-- How many others can submit. -/
  otherSenders : Nat
  /-- Submissions that wait for room in the queue. -/
  waiting : List (Task J)
  nextTicket : Nat
  /-- The workers that published themselves and were not taken, the first published first. -/
  idle : Channel Nat
  members : List (Member (Task J))
  loop : Loop (Task J)
  tracker : Tracker
  owner : Owner
  /-- Whoever took the dead letters went away after the pool was built. -/
  sinkGone : Bool

namespace State

variable {J : Type}

/-- A pool that was just built from workers of these kinds. -/
def new (config : Config) (kinds : List Kind) : State J :=
  { queue := .empty config.queueCapacity
    ownSender := true
    otherSenders := 0
    waiting := []
    nextTicket := 0
    idle := .empty config.size
    members := kinds.map fun kind =>
      ⟨kind, if kind = .custom then .new else Worker.new.start, false⟩
    loop := .receiving
    tracker := .new 2
    owner := .present
    sinkGone := false }

/-- The policy by which jobs are run now. -/
def policy (config : Config) (s : State J) : Policy :=
  if s.sinkGone then config.policy.withoutSink else config.policy

/-- Somebody can still submit. -/
def hasSenders (s : State J) : Bool := s.ownSender || 0 < s.otherSenders || !s.waiting.isEmpty

/-- Some worker can still publish itself. -/
def hasPublishers (s : State J) : Bool :=
  s.members.any fun m => m.kind ≠ .custom || !m.released

/-- What the pool says to a worker that wants to publish itself. -/
def admission (s : State J) : Worker.Admission :=
  if s.idle.closed then .gone else if s.idle.hasRoom then .room else .full

/-- The state with another worker at a place. -/
def setWorker (s : State J) (k : Nat) (m : Member (Task J)) (worker : Worker (Task J)) :
    State J :=
  { s with members := s.members.set k { m with worker := worker } }

end State

end Pool

end JobPool
