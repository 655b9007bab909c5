import JobPool.Channel
import JobPool.Policy
import JobPool.Settings.Basic

/-!
Building a pool from settings given one after the other. A size of zero is ignored, so what was set
before stays; the job queue is the one supplied, or a new one as large as the queue capacity, or as
the number of workers if no capacity is set.
-/

namespace JobPool

/-- The job queue of a pool: a new one with room for so many jobs, or one that was supplied. -/
inductive QueueChoice (Q : Type) where
  | fresh (capacity : UInt64)
  | supplied (queue : Q)
  deriving DecidableEq, Repr

/-- What has been set so far. -/
structure Builder (Q : Type) where
  name : String
  maxWorkers : UInt64
  queueCapacity : Option UInt64
  queue : Option Q
  policy : Policy

/-- A pool to be built: everything is decided. -/
structure Plan (Q : Type) where
  name : String
  maxWorkers : UInt64
  queue : QueueChoice Q
  policy : Policy

/-- The policy that a setting stands for. -/
def PolicySetting.toPolicy : PolicySetting → Policy
  | discard => .discard
  | log => .log
  | retry n => .retry n

namespace Builder

variable {Q : Type}

/-- The number of workers unless it is set. -/
def defaultWorkers : UInt64 := 10

/-- Nothing is set but the name. -/
def new (name : String) : Builder Q := ⟨name, defaultWorkers, none, none, .log⟩

/-- Sets the number of workers; zero is ignored. -/
def maxWorkersSet (b : Builder Q) (n : UInt64) : Builder Q :=
  if 0 < n then { b with maxWorkers := n } else b

/-- Sets the capacity of a new job queue; zero is ignored. -/
def queueCapacitySet (b : Builder Q) (n : UInt64) : Builder Q :=
  if 0 < n then { b with queueCapacity := some n } else b

/-- Supplies a job queue. -/
def queueSet (b : Builder Q) (queue : Q) : Builder Q := { b with queue := some queue }

/-- Sets the failure policy. -/
def policySet (b : Builder Q) (policy : Policy) : Builder Q := { b with policy := policy }

/-- Sets the number of workers if one is given. -/
def maxWorkersSet? (b : Builder Q) (n? : Option UInt64) : Builder Q :=
  n?.elim b b.maxWorkersSet

/-- Sets the capacity of a new job queue if one is given. -/
def queueCapacitySet? (b : Builder Q) (n? : Option UInt64) : Builder Q :=
  n?.elim b b.queueCapacitySet

/-- Sets what settings give. -/
def ofSettings (s : Settings) : Builder Q :=
  (((new s.name).policySet s.policy.toPolicy).maxWorkersSet? s.maxWorkers).queueCapacitySet?
    s.queueCapacity

/-- Decides what is still open. -/
def plan (b : Builder Q) : Plan Q :=
  { name := b.name
    maxWorkers := b.maxWorkers
    queue := match b.queue with
      | some queue => .supplied queue
      | none => .fresh (b.queueCapacity.getD b.maxWorkers)
    policy := b.policy }

end Builder

/-- The capacity of the job queue, `room` being that of a supplied one. -/
def Plan.queueCapacity {Q : Type} (room : Q → Nat) (p : Plan Q) : Nat :=
  match p.queue with
  | .fresh capacity => capacity.toNat
  | .supplied queue => room queue

/-- The name of the thread of a worker. -/
def workerThread (name : String) (number : Nat) : String := s!"{name}-worker-{number}"

/-- The name of the thread of a tracker. -/
def trackerThread (name : String) : String := name ++ "-tracker"

/-- The name of the thread of a dispatch loop. -/
def dispatchThread (name : String) : String := name ++ "-dispatch"

/-- A thread starts unless its name holds a NUL. -/
def startThread (name : String) : Except Fault Unit :=
  let bytes := name.toUTF8.toList
  match bytes.findIdx? (· = 0) with
  | some index => .error (.nulInThreadName index bytes)
  | none => .ok ()

/-- The fault that keeps the channels of a planned pool from being made: the job queue comes first,
unless one is supplied, then the pool of idle workers. -/
def Plan.makeChannels {Q : Type} (p : Plan Q) : Except Fault Unit := do
  match p.queue with
  | .fresh capacity => Channel.checkCapacity capacity.toNat
  | .supplied _ => pure ()
  Channel.checkCapacity p.maxWorkers.toNat

/-- The fault that keeps a planned pool from starting: the threads of workers come first, beginning
with the first worker that has one, then those of the tracker and of the dispatch loop. -/
def Plan.startFrom {Q : Type} (p : Plan Q) (firstWorker : Option Nat) : Except Fault Unit := do
  match firstWorker with
  | some number => startThread (workerThread p.name number)
  | none => pure ()
  startThread (trackerThread p.name)
  startThread (dispatchThread p.name)

/-- The fault that keeps a planned pool from starting whose workers all have threads. -/
def Plan.start {Q : Type} (p : Plan Q) : Except Fault Unit := do
  p.makeChannels
  p.startFrom (if 0 < p.maxWorkers then some 0 else none)

/-- The written form of a pool: its name, its size, and whether jobs are refused. -/
def poolText (name : String) (maxWorkers : Nat) (closed : Bool) : String :=
  Text.record "Dispatcher" [("name", Text.quoted name), ("max_workers", toString maxWorkers),
    ("closed", if closed then "true" else "false")]

end JobPool
