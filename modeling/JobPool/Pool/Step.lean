import JobPool.Pool.State

/-!
The moves of a pool. Every thread and every client moves by itself, one move at a time and in any
order; `step` says what one move does and is `none` when it cannot be made now. Only a worker that
is idle is given a job: the dispatch loop takes it out of the pool of idle workers first, counts
the busy workers, and then hands the job over.
-/

namespace JobPool.Pool

/-- How a submission ends. -/
inductive Submission where
  | accepted
  | closed
  | full
  deriving DecidableEq, Repr

/-- What a submitter is told. -/
def Submission.message : Submission → String
  | accepted => "ok"
  | closed => "dispatcher is closed, job dropped"
  | full => "job queue is full, job dropped"

/-- What happens in a pool. -/
inductive Event (J : Type) where
  | submitted (task : Task J) (answer : Submission)
  /-- A job was put into the inbox of a worker. -/
  | handed (task : Task J) (worker : Nat)
  /-- A job was given up because there are no workers left. -/
  | lost (task : Task J)
  | worker (number : Nat) (event : Worker.Event (Task J))
  | tracker (effect : Tracker.Effect)
  | log (record : Record)
  /-- A worker logs through whoever joins it. -/
  | joined (record : Record)
  /-- The registry of the gauge logs. -/
  | metrics (record : Record)

/-- What a custom worker does. -/
inductive CustomAct where
  | publish
  | closeInbox
  | takeJob
  | release
  deriving DecidableEq, Repr

/-- The moves. -/
inductive Action (J : Type) where
  /-- The owner submits a job; a submission that waits is let in later. -/
  | submit (job : J) (wait : Bool)
  /-- Another sender submits a job. -/
  | submitOther (job : J) (wait : Bool)
  /-- A waiting submission goes on. -/
  | resume (index : Nat)
  /-- The owner hands out a sender. -/
  | shareSender
  | dropSender
  /-- The owner gives up its sender. -/
  | close
  /-- The owner closes and waits. -/
  | finish
  /-- The owner lets go of the pool. -/
  | letGo
  /-- The owner, waiting, goes on. -/
  | owner
  | resetTracker
  /-- A caller asks for the greatest number of busy workers. -/
  | askTracker (caller : Nat)
  | loop
  | worker (number : Nat)
  | custom (number : Nat) (act : CustomAct)
  /-- The tracker moves; a value that it writes is accepted by the gauge or not. -/
  | tracker (accepts : Bool)
  /-- Whoever takes the dead letters goes away. -/
  | closeSink

variable {J : Type}

/-- The remark on a new pool. -/
def createdRecord (config : Config) : Record :=
  .debug s!"[{config.name}] new dispatcher created with {config.size} workers"

/-- The remark on a reset. -/
def resettingRecord (config : Config) : Record :=
  .debug s!"[{config.name}] resetting max worker count"

/-- The report of a job that nobody is left to run. -/
def lostRecord [Job J] (config : Config) (task : Task J) : Record :=
  .error s!"[{config.name}] no workers left, dropping {jobText task}"

/-- The remark on an inbox that was closed before the job could be handed over. -/
def retryRecord (config : Config) : Record :=
  .debug s!"[{config.name}] worker stopped before taking the job, retrying"

/-- The line about the end of the queue. -/
def stoppingRecord (config : Config) : Record :=
  .info s!"[{config.name}] job queue closed, stopping workers"

/-- The remark on the end of the loop. -/
def loopEndedRecord (config : Config) : Record := .debug s!"[{config.name}] dispatch loop ended"

/-- The report of a loop that faulted. -/
def loopFaultedRecord (config : Config) : Record :=
  .error s!"[{config.name}] dispatch loop panicked"

/-- The report of a tracker that died. -/
def trackerDiedRecord (config : Config) : Record :=
  .error s!"[{config.name}] worker tracker panicked"

namespace State

/-- A new submission. -/
def submit (s : State J) (job : J) (wait : Bool) : State J × List (Event J) :=
  let task : Task J := ⟨s.nextTicket, job⟩
  let s := { s with nextTicket := s.nextTicket + 1 }
  match s.queue.offer task with
  | .taken queue => ({ s with queue := queue }, [.submitted task .accepted])
  | .closed => (s, [.submitted task .closed])
  | .full =>
    if wait then ({ s with waiting := s.waiting ++ [task] }, [])
    else (s, [.submitted task .full])

/-- A submission without a sender. -/
def refuse (s : State J) (job : J) : State J × List (Event J) :=
  ({ s with nextTicket := s.nextTicket + 1 }, [.submitted ⟨s.nextTicket, job⟩ .closed])

/-- A waiting submission enters the queue, or learns that it is closed. -/
def resume (s : State J) (index : Nat) : Option (State J × List (Event J)) :=
  match s.waiting[index]? with
  | none => none
  | some task =>
    let rest := { s with waiting := s.waiting.eraseIdx index }
    match s.queue.offer task with
    | .taken queue => some ({ rest with queue := queue }, [.submitted task .accepted])
    | .closed => some (rest, [.submitted task .closed])
    | .full => none

/-- The loop lets go of everything it holds. -/
def closeLoop (s : State J) (loop : Loop (Task J)) : State J :=
  { s with
      loop := loop
      queue := s.queue.close
      idle := s.idle.close
      tracker := s.tracker.release
      members := s.members.map fun m => { m with worker := { m.worker with abandoned := true } } }

/-- The dispatch loop hands its job over, or takes it back from a closed inbox. -/
def hand (config : Config) (s : State J) (task : Task J) (k : Nat) :
    Option (State J × List (Event J)) :=
  match s.members[k]? with
  | none => none
  | some m =>
    match m.worker.inbox.offer task with
    | .taken inbox =>
      some ({ s.setWorker k m { m.worker with inbox := inbox } with loop := .receiving },
        [.handed task k])
    | .closed => some ({ s with loop := .seeking task }, [.log (retryRecord config)])
    | .full => none

/-- The dispatch loop asks one worker to stop. -/
def stopOne (s : State J) (k : Nat) : State J :=
  match s.members[k]? with
  | none => { s with loop := .joining 0 }
  | some m =>
    match m.kind with
    | .standard => { s.setWorker k m m.worker.stop with loop := .stopping (k + 1) }
    | .custom => { s with loop := .stopping (k + 1) }
    | .faultyStop => s.closeLoop .faulted

/-- The dispatch loop joins one worker. -/
def joinOne (config : Config) (s : State J) (k : Nat) : Option (State J × List (Event J)) :=
  match s.members[k]? with
  | none => some ({ s with loop := .finishing }, [])
  | some m =>
    match m.kind with
    | .custom => some ({ s with loop := .joining (k + 1) }, [])
    | _ =>
      (m.worker.join config.name k).map fun (worker, logs) =>
        ({ s.setWorker k m worker with loop := .joining (k + 1) }, logs.map .joined)

variable [Job J]

/-- A move of the dispatch loop. -/
def moveLoop (config : Config) (s : State J) : Option (State J × List (Event J)) :=
  match s.loop with
  | .receiving =>
    match s.queue.take? with
    | some (task, queue) => some ({ s with queue := queue, loop := .seeking task }, [])
    | none => if s.hasSenders then none else some ({ s with loop := .leaving }, [])
  | .seeking task =>
    match s.idle.take? with
    | some (k, idle) => some ({ s with idle := idle, loop := .leased task k }, [])
    | none =>
      if s.hasPublishers then none
      else some ({ s with loop := .leaving }, [.log (lostRecord config task), .lost task])
  | .leased task k =>
    let busy := UInt64.ofNat (config.size - s.idle.items.length)
    some ({ s with loop := .sampling task k busy }, [])
  | .sampling task k busy =>
    (s.tracker.send (.sample busy)).map fun tracker =>
      ({ s with tracker := tracker, loop := .handing task k }, [])
  | .handing task k => s.hand config task k
  | .leaving => some ({ s with loop := .stopping 0 }, [.log (stoppingRecord config)])
  | .stopping k => some (s.stopOne k, [])
  | .joining k => s.joinOne config k
  | .finishing => some (s.closeLoop .ended, [.log (loopEndedRecord config)])
  | .ended => none
  | .faulted => none

/-- A move of a worker. -/
def moveWorker (config : Config) (s : State J) (k : Nat) : Option (State J × List (Event J)) :=
  match s.members[k]? with
  | none => none
  | some m =>
    (m.worker.advance (s.policy config) k s.admission).map fun (worker, events) =>
      let s := s.setWorker k m worker
      (if events.any Worker.Event.isPublished then { s with idle := s.idle.push k } else s,
        events.map (.worker k))

/-- A move of a custom worker. -/
def moveCustom (s : State J) (k : Nat) (act : CustomAct) : Option (State J × List (Event J)) :=
  match s.members[k]? with
  | none => none
  | some m =>
    if m.kind ≠ .custom then none
    else
      match act with
      | .publish =>
        if !m.released && s.admission = .room then some ({ s with idle := s.idle.push k }, [])
        else none
      | .closeInbox =>
        some (s.setWorker k m { m.worker with inbox := m.worker.inbox.close }, [])
      | .takeJob =>
        m.worker.inbox.take?.map fun (_, inbox) =>
          (s.setWorker k m { m.worker with inbox := inbox }, [])
      | .release => some ({ s with members := s.members.set k { m with released := true } }, [])

/-- A move of the tracker. -/
def moveTracker (config : Config) (s : State J) (accepts : Bool) :
    Option (State J × List (Event J)) :=
  (s.tracker.advance config.name accepts).map fun (tracker, effects) =>
    ({ s with tracker := tracker }, effects.map .tracker)

/-- A move of an owner that waits for the pool to finish. -/
def moveOwner (config : Config) (s : State J) : Option (State J × List (Event J)) :=
  match s.owner with
  | .joiningLoop =>
    match s.loop with
    | .ended => some ({ s with owner := .joiningTracker, tracker := s.tracker.release }, [])
    | .faulted =>
      some ({ s with owner := .joiningTracker, tracker := s.tracker.release },
        [.log (loopFaultedRecord config)])
    | _ => none
  | .joiningTracker =>
    match s.tracker.status with
    | .alive => none
    | .ended => some ({ s with owner := .finished }, [])
    | .died => some ({ s with owner := .finished }, [.log (trackerDiedRecord config)])
  | _ => none

/-- The owner sends an event to the tracker, if it has a handle. -/
def tell (s : State J) (event : Tracker.Event) : Option (State J) :=
  if s.owner.holdsTracker then (s.tracker.send event).map fun t => { s with tracker := t }
  else some s

/-- A caller asks for the greatest number of busy workers; without a tracker the answer is zero. -/
def ask (s : State J) (caller : Nat) : Option (State J × List (Event J)) :=
  if s.owner.holdsTracker && s.tracker.isAlive then
    (s.tell (.question caller)).map fun s => (s, [])
  else some (s, [.tracker (.answer caller 0)])

end State

variable [Job J]

/-- What a move does, if it can be made now. -/
def step (config : Config) (s : State J) : Action J → Option (State J × List (Event J))
  | .submit job wait => some (if s.ownSender then s.submit job wait else s.refuse job)
  | .submitOther job wait => if 0 < s.otherSenders then some (s.submit job wait) else none
  | .resume index => s.resume index
  | .shareSender =>
    if s.ownSender then some ({ s with otherSenders := s.otherSenders + 1 }, []) else none
  | .dropSender =>
    if 0 < s.otherSenders then some ({ s with otherSenders := s.otherSenders - 1 }, []) else none
  | .close => some ({ s with ownSender := false }, [])
  | .finish =>
    match s.owner with
    | .present => some ({ s with ownSender := false, owner := .joiningLoop }, [])
    | .finished => some (s, [])
    | _ => none
  | .letGo =>
    match s.owner with
    | .present =>
      some ({ s with ownSender := false, owner := .gone, tracker := s.tracker.release }, [])
    | .finished => some ({ s with owner := .gone }, [])
    | _ => none
  | .owner => s.moveOwner config
  | .resetTracker => (s.tell .reset).map fun s => (s, [.log (resettingRecord config)])
  | .askTracker caller => s.ask caller
  | .loop => s.moveLoop config
  | .worker k => s.moveWorker config k
  | .custom k act => s.moveCustom k act
  | .tracker accepts => s.moveTracker config accepts
  | .closeSink => if s.sinkGone then none else some ({ s with sinkGone := true }, [])

end JobPool.Pool
