import JobPool.Latency.Aggregate
import JobPool.Table
import JobPool.Log

/-!
The latency meter: callers send measurements to a background task, which adds them to the aggregates
of their modules and, now and then, pushes. A push logs one line for every module with requests and
resets all of them. Measurements sent but not yet applied are in the channel or in the hand of the
background task; a push does not wait for them. Time is not kept here: a latency comes with the end
of its measurement, and the background task may push at any moment. A meter holds both ends of its
channel, so nothing is said of a meter whose task is gone.
-/

namespace JobPool.Latency

/-- A measurement on its way. -/
structure Packet where
  module : String
  latency : Int64
  deriving DecidableEq, Repr

/-- The background task: it does not exist yet, waits, or has a measurement in hand. An overflow
ends it. -/
inductive Task where
  | absent
  | waiting
  | holding (packet : Packet)
  | ended
  deriving DecidableEq, Repr

/-- A meter: the aggregates behind their lock, the channel, and the task. -/
structure Meter where
  aggregates : Table String Aggregate
  poisoned : Bool
  channel : List Packet
  task : Task

namespace Meter

/-- How many measurements the channel holds. -/
def channelCapacity : Nat := 100

/-- A meter whose task was not started. -/
def new : Meter := ⟨.empty, false, [], .absent⟩

/-- Whether the task was started. -/
def running (m : Meter) : Bool := m.task ≠ .absent

/-- What is done to a meter, by its callers or by the task. -/
inductive Action where
  /-- Begins a measurement of a module. -/
  | tic (module : String)
  /-- Ends a measurement: it is sent once the task was started and there is room. -/
  | toc (module : String) (latency : Int64)
  | run
  | push
  /-- The task takes the measurement that is first in the channel. -/
  | take
  /-- The task adds the measurement in its hand. -/
  | apply
  /-- The task pushes because its interval is over. -/
  | tick
  deriving DecidableEq, Repr

/-- The aggregates, unless their lock is poisoned. -/
def lock (m : Meter) : Except Fault (Table String Aggregate) :=
  if m.poisoned then .error .poisoned else .ok m.aggregates

/-- The reports that a push would log now, in the order of the modules. A report that faults leaves
the lock poisoned. -/
def reports (m : Meter) : Meter × Except Fault (List Report) :=
  match m.lock with
  | .error fault => (m, .error fault)
  | .ok aggregates =>
    match (aggregates.sorted textLe).mapM fun entry => entry.2.report with
    | .error fault => ({ m with poisoned := true }, .error fault)
    | .ok told => (m, .ok (told.filterMap id))

/-- A push comes to one aggregate after the other, tells its report, if there is one, and resets it.
A report that faults ends the push there. -/
def flush : List (String × Aggregate) → List (String × Aggregate) × List Report × Except Fault Unit
  | [] => ([], [], .ok ())
  | (module, a) :: rest =>
    match a.report with
    | .error fault => ((module, a) :: rest, [], .error fault)
    | .ok told =>
      let (left, reports, result) := flush rest
      ((module, a.reset) :: left, told.toList ++ reports, result)

theorem keys_flush (entries : List (String × Aggregate)) :
    (flush entries).1.map (·.1) = entries.map (·.1) := by
  induction entries with
  | nil => rfl
  | cons entry rest ih =>
    rw [flush]
    split
    · rfl
    · simp only [List.map_cons, ih]

/-- What the push of a meter does. Nothing sorts its lines: they come in the order of the table, which
has no meaning. -/
def pushed (m : Meter) : Meter × List Report × Except Fault Unit :=
  match m.lock with
  | .error fault => (m, [], .error fault)
  | .ok aggregates =>
    let done := flush aggregates.entries
    ({ m with
        aggregates := ⟨done.1, keys_flush aggregates.entries ▸ aggregates.distinct⟩
        poisoned := !done.2.2.isOk }, done.2)

/-- The task adds a measurement to the aggregate of its module. -/
def record (m : Meter) (packet : Packet) : Meter × Except Fault Unit :=
  match m.lock with
  | .error fault => ({ m with task := .ended }, .error fault)
  | .ok aggregates =>
    let found := (aggregates.get? packet.module).getD (.new packet.module)
    match found.update packet.latency with
    | (a, none) =>
      ({ m with aggregates := aggregates.put packet.module a, task := .waiting }, .ok ())
    | (a, some fault) =>
      ({ m with
          aggregates := aggregates.put packet.module a
          poisoned := true
          task := .ended }, .error fault)

/-- One action, if it can be done now: the meter after it, the reports that were pushed, and whether
the action came to its end. -/
def step (m : Meter) : Action → Option (Meter × List Report × Except Fault Unit)
  | .tic module =>
    match m.lock with
    | .error fault => some (m, [], .error fault)
    | .ok aggregates =>
      if (aggregates.get? module).isSome then some (m, [], .ok ())
      else some ({ m with aggregates := aggregates.put module (.new module) }, [], .ok ())
  | .toc module latency =>
    if !m.running then some (m, [], .ok ())
    else if m.channel.length < channelCapacity then
      some ({ m with channel := m.channel ++ [⟨module, latency⟩] }, [], .ok ())
    else none
  | .run => some (if m.running then m else { m with task := .waiting }, [], .ok ())
  | .push => some m.pushed
  | .take =>
    match m.task, m.channel with
    | .waiting, packet :: rest => some ({ m with channel := rest, task := .holding packet }, [], .ok ())
    | _, _ => none
  | .apply =>
    match m.task with
    | .holding packet =>
      let (m, result) := m.record packet
      some (m, [], result)
    | _ => none
  | .tick =>
    match m.task with
    | .waiting =>
      match m.pushed with
      | (m, reports, .ok ()) => some (m, reports, .ok ())
      | (m, reports, .error fault) => some ({ m with task := .ended }, reports, .error fault)
    | _ => none

/-- The line that a push logs. -/
def line (r : Report) : Record := .info r.toJson.write

/-- Lets the task apply everything in the channel. -/
def drain : Nat → Meter → Meter
  | 0, m => m
  | fuel + 1, m =>
    match m.step .take with
    | none => m
    | some (taken, _) =>
      match taken.step .apply with
      | none => taken
      | some (applied, _) => drain fuel applied

/-- Lets the task finish what it has begun and everything in the channel. -/
def settle (m : Meter) : Meter :=
  match m.step .apply with
  | none => drain m.channel.length m
  | some (applied, _) => drain m.channel.length applied

/-- The written form of a meter. -/
def text (m : Meter) : String :=
  "RateLatencyLogger \x7b running: " ++ (if m.running then "true" else "false") ++ " \x7d"

end Meter

end JobPool.Latency
