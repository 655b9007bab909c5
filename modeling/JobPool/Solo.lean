import JobPool.Pool.Step

/-!
One worker by itself: whoever owns it starts it, stops it and joins it, the worker publishes the sender of
its inbox in a pool, and whoever took such a sender sends jobs with it or with copies of it. As in a
pool, everybody moves by itself, one move at a time and in any order.
-/

namespace JobPool.Solo

open JobPool.Pool (Submission)

/-- What is fixed when a worker is made. -/
structure Config where
  name : String
  number : Nat
  /-- The capacity of the pool. -/
  room : Nat
  policy : Policy
  deriving DecidableEq, Repr

/-- The state of a worker with its pool and its clients. -/
structure State (J : Type) where
  worker : Worker (Task J)
  /-- The senders that the worker published and nobody took. -/
  pool : Channel Unit
  /-- A sender was taken, so that there are clients. -/
  taken : Bool
  /-- Jobs whose senders wait for room in the inbox. -/
  waiting : List (Task J)
  nextTicket : Nat
  /-- Whoever took the dead letters went away. -/
  sinkGone : Bool

/-- What happens around a worker. -/
inductive Event (J : Type) where
  | sent (task : Task J) (answer : Submission)
  | worker (event : Worker.Event (Task J))
  /-- The worker logs through whoever joins it. -/
  | joined (record : Record)

/-- The moves. -/
inductive Action (J : Type) where
  | start
  | stop
  | join
  | worker
  /-- A sender is taken out of the pool. -/
  | take
  /-- Whoever takes workers out of the pool goes away, and the senders in it with it. -/
  | dropPool
  /-- A client sends a job; one that waits is let in later. -/
  | send (job : J) (wait : Bool)
  /-- A job that waits goes on. -/
  | resume (index : Nat)
  | closeSink

variable {J : Type}

/-- A worker that was just made. -/
def start (config : Config) : State J :=
  { worker := .new
    pool := .empty config.room
    taken := false
    waiting := []
    nextTicket := 0
    sinkGone := false }

namespace State

/-- The policy by which jobs are run now. -/
def policy (config : Config) (s : State J) : Policy :=
  if s.sinkGone then config.policy.withoutSink else config.policy

/-- What the pool says to the worker. -/
def admission (s : State J) : Worker.Admission :=
  if s.pool.closed then .gone else if s.pool.hasRoom then .room else .full

/-- The state with another inbox. -/
def setInbox (s : State J) (inbox : Channel (Task J)) : State J :=
  { s with worker := { s.worker with inbox := inbox } }

/-- A client sends a job. -/
def send (s : State J) (job : J) (wait : Bool) : State J × List (Event J) :=
  let task : Task J := ⟨s.nextTicket, job⟩
  let s := { s with nextTicket := s.nextTicket + 1 }
  match s.worker.inbox.offer task with
  | .taken inbox => (s.setInbox inbox, [.sent task .accepted])
  | .closed => (s, [.sent task .closed])
  | .full =>
    if wait then ({ s with waiting := s.waiting ++ [task] }, [])
    else (s, [.sent task .full])

/-- A job that waits gets into the inbox, or its sender learns that it is closed. -/
def resume (s : State J) (index : Nat) : Option (State J × List (Event J)) :=
  match s.waiting[index]? with
  | none => none
  | some task =>
    let rest := { s with waiting := s.waiting.eraseIdx index }
    match s.worker.inbox.offer task with
    | .taken inbox => some (rest.setInbox inbox, [.sent task .accepted])
    | .closed => some (rest, [.sent task .closed])
    | .full => none

/-- The state after the worker moved. -/
def moved (s : State J) (worker : Worker (Task J)) (events : List (Worker.Event (Task J))) : State J :=
  { s with
      worker := worker
      pool := if events.any Worker.Event.isPublished then s.pool.push () else s.pool }

end State

/-- What a move does; none when it cannot be made now. -/
def step [Job J] (config : Config) (s : State J) : Action J → Option (State J × List (Event J))
  | .start => some ({ s with worker := s.worker.start }, [])
  | .stop => some ({ s with worker := s.worker.stop }, [])
  | .join =>
    (s.worker.join config.name config.number).map fun (worker, logs) =>
      ({ s with worker := worker }, logs.map .joined)
  | .worker =>
    (s.worker.advance (s.policy config) config.number s.admission).map fun (worker, events) =>
      (s.moved worker events, events.map .worker)
  | .take => s.pool.take?.map fun (_, pool) => ({ s with pool := pool, taken := true }, [])
  | .dropPool => some ({ s with pool := { s.pool with items := [], closed := true } }, [])
  | .send job wait => if s.taken then some (s.send job wait) else none
  | .resume index => s.resume index
  | .closeSink => some ({ s with sinkGone := true }, [])

end JobPool.Solo
