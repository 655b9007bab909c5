import JobPool.Proofs.Latency.Conservation
import JobPool.Proofs.Load.Result

/-!
What a load run reports of its measurements. Every attempt sends one measurement to the meter, and nobody waits for the
task of the meter before the last push: a run that is over has reported all measurements but those that are still in
the channel or in the hand of the task (`reported_of_run`), and there can be some (`two_unreported`).
-/

namespace JobPool.Latency.Meter

/-- How many measurements are in the channel or in the hand of the task. -/
def onTheWay (m : Meter) : Nat := (m.task.held ++ m.channel).length

variable {m t : Meter} {action : Action} {reports : List Report} {result : Except Fault Unit}

/-- The channel never holds more than it has room for. -/
theorem Move.room (moved : Move m action reports result t) (room : m.channel.length ≤ channelCapacity) :
    t.channel.length ≤ channelCapacity := by
  cases moved with
  | send present some =>
    show (m.channel ++ [_]).length ≤ channelCapacity
    rw [List.length_append, List.length_singleton]
    exact some
  | take waits first =>
    rw [first, List.length_cons] at room
    exact Nat.le_of_succ_le room
  | known | enlist | ignore | begin | rerun | push | tick | apply | overflow => exact room
  | breakPush pushed | breakTick waits pushed =>
    have same : m.pushed.1.channel = m.channel := by
      unfold Meter.pushed
      split <;> rfl
    rw [pushed] at same
    exact (congrArg List.length same).trans_le room

/-- Whatever begins or ends a measurement pushes nothing. -/
theorem silent_of_measuring (measuring : action.isMeasuring = true)
    (moved : m.step action = some (t, reports, result)) : reports = [] := by
  unfold step at moved
  cases action with
  | tic module =>
    cases locked : m.lock with
    | error fault => simp only [locked] at moved; cases moved; rfl
    | ok aggregates =>
      simp only [locked] at moved
      split at moved <;> cases moved <;> rfl
  | toc module latency =>
    simp only at moved
    split at moved
    · cases moved; rfl
    · split at moved
      · cases moved; rfl
      · cases moved
  | run | push | take | apply | tick => cases measuring

end JobPool.Latency.Meter

namespace JobPool.Load

open Latency (Meter Report rateIn)

/-- The report that an event pushes. -/
def Event.report? : Event → Option Report
  | pushed report => some report
  | _ => none

/-- An attempt sent its measurement. -/
def Event.isMeasured : Event → Bool
  | measured _ => true
  | _ => false

/-- The reports that were pushed. -/
def pushedIn (shown : List Event) : List Report := shown.filterMap Event.report?

/-- How many attempts sent their measurement. -/
def measurements (shown : List Event) : Nat := shown.countP Event.isMeasured

/-- How many requests were reported. -/
def reported (shown : List Event) : Nat := ((pushedIn shown).map fun r => r.requestRate.toNat).sum

private theorem pushedIn_append (shown more : List Event) :
    pushedIn (shown ++ more) = pushedIn shown ++ pushedIn more :=
  List.filterMap_append

private theorem measurements_append (shown more : List Event) :
    measurements (shown ++ more) = measurements shown + measurements more := List.countP_append

private theorem pushedIn_map_pushed (reports : List Report) : pushedIn (reports.map .pushed) = reports := by
  unfold pushedIn
  rw [List.filterMap_map]
  exact List.filterMap_some

private theorem measurements_map_pushed (reports : List Report) : measurements (reports.map .pushed) = 0 := by
  simp [measurements, List.countP_map, Function.comp_def, Event.isMeasured]

/-- Nothing was measured and nothing was pushed. -/
structure Silent (shown : List Event) : Prop where
  pushed : pushedIn shown = []
  measured : measurements shown = 0

private theorem silent_nil : Silent [] := ⟨rfl, rfl⟩

private theorem silent_of_forall {shown : List Event} (silent : ∀ event ∈ shown, event.report? = none ∧
    event.isMeasured = false) :
    Silent shown where
  pushed := List.filterMap_eq_nil_iff.mpr fun event listed => (silent event listed).1
  measured := List.countP_eq_zero.mpr fun event listed => by simp [(silent event listed).2]

private theorem silent_metrics (logs : List Record) : Silent (logs.map .metrics) := by
  refine silent_of_forall fun event listed => ?_
  obtain ⟨record, -, rfl⟩ := List.mem_map.mp listed
  exact ⟨rfl, rfl⟩

private theorem silent_pool (events : List (Pool.Event LoadJob)) : Silent (events.map .pool) := by
  refine silent_of_forall fun event listed => ?_
  obtain ⟨record, -, rfl⟩ := List.mem_map.mp listed
  exact ⟨rfl, rfl⟩

/-- What a move of the run does to its meter: nothing, or an action that shows what it pushes and whether it is the end
    of a measurement. -/
inductive Metered (name : String) (m t : Meter) (shown : List Event) : Prop
  | idle (same : t = m) (silent : Silent shown)
  | moved {action : Meter.Action} {reports : List Report} {result : Except Fault Unit}
      (stepped : m.step action = some (t, reports, result)) (pushed : pushedIn shown = reports)
      (measured : ∀ module, (if action.isTocOf module = true then 1 else 0) =
        if module = name then measurements shown else 0)

section moves

variable {config : Config} {s t : State} {shown : List Event}

private theorem metered_of_movePool (phase : Phase) {action : Pool.Action LoadJob}
    (moved : State.movePool config { s with phase := phase } action = some (t, shown)) :
    Metered config.pool.name s.sink.meter t.sink.meter shown := by
  obtain ⟨⟨registry, pool, events⟩, -, same⟩ := Option.map_eq_some_iff.mp moved
  cases same
  rw [foldl_hear]
  exact .idle rfl (silent_pool events)

private theorem metered_of_moveMeter (name : String) {action : Meter.Action} {u : State} {result : Except Fault Unit}
    (other : ∀ module, action.isTocOf module = false) (moved : s.moveMeter action = some (u, result, shown)) :
    Metered name s.sink.meter u.sink.meter shown := by
  obtain ⟨⟨meter, reports, result⟩, stepped, same⟩ := Option.map_eq_some_iff.mp moved
  cases same
  refine .moved stepped (pushedIn_map_pushed reports) fun module => ?_
  rw [other, measurements_map_pushed]
  simp

private theorem metered_of_moveTask {action : Meter.Action} (other : ∀ module, action.isTocOf module = false)
    (moved : s.moveTask action = some (t, shown)) : Metered config.pool.name s.sink.meter t.sink.meter shown := by
  obtain ⟨⟨u, result, events⟩, stepped, same⟩ := Option.map_eq_some_iff.mp moved
  cases same
  exact metered_of_moveMeter _ other stepped

private theorem step_of_measure {sink : Latency.MeteredRegistry} {action : Meter.Action}
    {reply : Reply Latency.MeteredRegistry Latency.Answer} (served : sink.serve (.measure action) = some reply) :
    ∃ reports result, sink.meter.step action = some (reply.state.meter, reports, result) := by
  obtain ⟨⟨meter, reports, result⟩, stepped, made⟩ := Option.map_eq_some_iff.mp served
  cases made
  exact ⟨reports, result, stepped⟩

/-- Of the stages of an attempt only the end of the measurement is a measurement, and none pushes. -/
theorem metered_of_moveAttempt {k : Nat} {job : LoadJob} {elapsed : Int64}
    (moved : s.moveAttempt config k job elapsed = some (t, shown)) :
    Metered config.pool.name s.sink.meter t.sink.meter shown := by
  unfold State.moveAttempt at moved
  have quiet := fun logs => silent_metrics logs
  cases stage : job.progress with
  | complete | faulted =>
    simp only [LoadJob.request?, stage] at moved
    cases moved
    exact .idle rfl silent_nil
  | begun =>
    simp only [LoadJob.request?, stage] at moved
    obtain ⟨reply, served, same⟩ := Option.map_eq_some_iff.mp moved
    obtain ⟨reports, result, stepped⟩ := step_of_measure served
    cases same
    refine .moved stepped ?_ fun module => ?_
    · rw [Meter.silent_of_measuring rfl stepped]
      exact (quiet reply.logs).pushed
    · have none : measurements (reply.logs.map .metrics) = 0 := (quiet reply.logs).measured
      simp [Meter.Action.isTocOf, none]
  | timed =>
    simp only [LoadJob.request?, stage] at moved
    obtain ⟨reply, served, same⟩ := Option.map_eq_some_iff.mp moved
    obtain ⟨reports, result, stepped⟩ := step_of_measure served
    cases same
    refine .moved stepped ?_ fun module => ?_
    · rw [Meter.silent_of_measuring rfl stepped]
      exact (quiet reply.logs).pushed
    · have one : measurements (.measured job.number :: reply.logs.map .metrics) = 1 := by
        have split := measurements_append [.measured job.number] (reply.logs.map .metrics)
        rw [(quiet reply.logs).measured] at split
        exact split
      simp [Meter.Action.isTocOf, one, eq_comm]
  | measured =>
    simp only [LoadJob.request?, stage] at moved
    obtain ⟨reply, served, same⟩ := Option.map_eq_some_iff.mp moved
    cases served
    cases same
    exact .idle rfl (quiet _)
  | observed =>
    cases fails : job.fails with
    | true =>
      simp only [LoadJob.request?, stage, fails, ↓reduceIte] at moved
      obtain ⟨reply, served, same⟩ := Option.map_eq_some_iff.mp moved
      cases served
      cases same
      exact .idle rfl (quiet _)
    | false =>
      simp only [LoadJob.request?, stage, fails, Bool.false_eq_true, ↓reduceIte] at moved
      cases moved
      exact .idle rfl silent_nil

private theorem metered_of_moveWorker {k : Nat} {elapsed : Int64}
    (moved : s.moveWorker config k elapsed = some (t, shown)) :
    Metered config.pool.name s.sink.meter t.sink.meter shown := by
  unfold State.moveWorker at moved
  split at moved
  · exact metered_of_movePool s.phase moved
  · split at moved
    · exact metered_of_movePool s.phase moved
    · exact metered_of_moveAttempt moved

private theorem metered_of_moveRun {due : Bool} (moved : s.moveRun config due = some (t, shown)) :
    Metered config.pool.name s.sink.meter t.sink.meter shown := by
  unfold State.moveRun at moved
  cases phase : s.phase with
  | submitting n =>
    simp only [phase] at moved
    split at moved
    · cases moved
      exact .idle rfl silent_nil
    · exact metered_of_movePool _ moved
  | submitted n =>
    simp only [phase] at moved
    cases moved
    exact .idle rfl silent_nil
  | asking | resetting | closing =>
    simp only [phase] at moved
    exact metered_of_movePool _ moved
  | joining greatest =>
    simp only [phase] at moved
    split at moved
    · cases moved
      exact .idle rfl silent_nil
    · cases moved
  | pushing greatest =>
    simp only [phase] at moved
    obtain ⟨⟨u, ended, events⟩, stepped, same⟩ := Option.map_eq_some_iff.mp moved
    have metered := metered_of_moveMeter config.pool.name (fun _ => rfl) stepped
    cases ended <;> cases same <;> exact metered
  | blocked | hearing | finished | refused | faulted => simp [phase] at moved

private theorem metered_of_step {action : Action} (moved : step config s action = some (t, shown)) :
    Metered config.pool.name s.sink.meter t.sink.meter shown := by
  cases action with
  | loop | tracker | resume | owner => exact metered_of_movePool s.phase moved
  | worker k elapsed => exact metered_of_moveWorker moved
  | take | apply | tick => exact metered_of_moveTask (fun _ => rfl) moved
  | run due => exact metered_of_moveRun moved

end moves

/-- The account of a run: of the pool's own module, what was reported, what waits for the next push and what is on its
    way was measured; nothing is known of other modules. -/
structure Accounted (name : String) (shown : List Event) (m : Meter) : Prop where
  present : m.task ≠ .absent
  named : m.Named
  room : m.channel.length ≤ Meter.channelCapacity
  balance : ∀ module, rateIn module (pushedIn shown) + m.requests module + m.pending module =
    if module = name then measurements shown else 0

section accounts

variable {name : String} {m t : Meter} {shown new : List Event}

private theorem accounted_start (name : String) : Accounted name [] { Meter.new with task := .waiting } := by
  refine ⟨nofun, ?_, Nat.zero_le _, fun module => ?_⟩
  · intro module a found
    cases found
  · simp only [measurements, List.countP_nil, ite_self]
    rfl

private theorem Metered.calm (metered : Metered name m t new) (calm : t.poisoned = false) : m.poisoned = false := by
  cases metered with
  | idle same =>
    rw [← same]
    exact calm
  | moved stepped =>
    cases poisoned : m.poisoned with
    | false => rfl
    | true =>
      rw [Meter.poisoned_of_step poisoned stepped] at calm
      cases calm

private theorem Accounted.move (accounted : Accounted name shown m) (metered : Metered name m t new)
    (calm : t.poisoned = false) : Accounted name (shown ++ new) t := by
  have before := metered.calm calm
  cases metered with
  | idle same silent =>
    subst same
    refine ⟨accounted.present, accounted.named, accounted.room, fun module => ?_⟩
    rw [pushedIn_append, silent.pushed, List.append_nil, measurements_append, silent.measured, Nat.add_zero]
    exact accounted.balance module
  | @moved action reports result stepped pushed measured =>
    have moved := Meter.move_of_step before stepped
    refine ⟨(moved.started calm).mpr (.inl accounted.present), moved.named accounted.named calm,
      moved.room accounted.room, fun module => ?_⟩
    have past := accounted.balance module
    have balance := moved.balance accounted.named calm module
    have sent : (if action.isTocOf module = true ∧ m.task ≠ .absent then 1 else 0) =
        if module = name then measurements new else 0 := by
      rw [← measured module]
      simp [accounted.present]
    -- what is pushed goes from the requests to the reports, and what is sent is pending
    rw [sent] at balance
    rw [pushedIn_append, Latency.rateIn_append, pushed, measurements_append]
    by_cases own : module = name
    · simp only [own, ↓reduceIte] at past balance ⊢
      omega
    · simp only [own, ↓reduceIte] at past balance ⊢
      omega

private theorem accounted_of_run {config : Config} {s t : State} (begun : Accounted config.pool.name [] s.sink.meter)
    {actions : List Action} (ran : Runs.run (step config) s actions = some (t, shown))
    (calm : t.sink.meter.poisoned = false) : Accounted config.pool.name shown t.sink.meter := by
  refine Runs.run_induction (motive := fun _ shown t => t.sink.meter.poisoned = false →
    Accounted config.pool.name shown t.sink.meter) (fun _ => begun) ?_ ran calm
  intro actions past t action new u _ accounted moved calm
  have metered := metered_of_step moved
  exact (accounted (metered.calm calm)).move metered calm

private theorem rateIn_eq_sum {reports : List Report} (own : ∀ r ∈ reports, r.module = name ∨ r.requestRate.toNat = 0) :
    rateIn name reports = (reports.map fun r => r.requestRate.toNat).sum := by
  induction reports with
  | nil => rfl
  | cons r rest ih =>
    have later := ih fun other listed => own other (List.mem_cons_of_mem _ listed)
    have split : rateIn name (r :: rest) = rateIn name [r] + rateIn name rest := Latency.rateIn_append name [r] rest
    have here : rateIn name [r] = r.requestRate.toNat := by
      rcases own r List.mem_cons_self with same | none
      · simp [rateIn, same]
      · by_cases same : r.module = name <;> simp [rateIn, same, none]
    rw [split, here, later, List.map_cons, List.sum_cons]

/-- Only the pool's own module is ever reported. -/
theorem Accounted.reported_eq (accounted : Accounted name shown m) :
    reported shown = rateIn name (pushedIn shown) := by
  refine (rateIn_eq_sum fun r listed => ?_).symm
  by_cases own : r.module = name
  · exact .inl own
  · right
    have balance := accounted.balance r.module
    rw [if_neg own] at balance
    have none : rateIn r.module (pushedIn shown) = 0 := by omega
    have among : r ∈ (pushedIn shown).filter fun other => other.module = r.module :=
      List.mem_filter.mpr ⟨listed, decide_eq_true rfl⟩
    exact List.sum_eq_zero_iff.mp none _ (List.mem_map_of_mem among)

/-- Only the pool's own module is ever measured. -/
theorem Accounted.onTheWay_eq (accounted : Accounted name shown m) : m.onTheWay = m.pending name := by
  refine (List.countP_eq_length.mpr fun packet listed => ?_).symm
  by_contra other
  have balance := accounted.balance packet.module
  rw [if_neg fun own => other (decide_eq_true own)] at balance
  have none : m.pending packet.module = 0 := by omega
  exact List.countP_eq_zero.mp none packet listed (decide_eq_true rfl)

private theorem Accounted.onTheWay_le (accounted : Accounted name shown m) :
    m.onTheWay ≤ Meter.channelCapacity + 1 := by
  have room := accounted.room
  have hand : m.task.held.length ≤ 1 := by
    unfold Latency.Task.held
    split <;> simp
  rw [Meter.onTheWay, List.length_append]
  omega

end accounts

section finished

variable {load : String → Except Settings.LoadError Settings} {a : Arguments} {config : Config} {s t : State}
  {shown : List Event}

private theorem finished_of_summary {summary : Summary} (ended : t.summary config = .ok summary) :
    ∃ greatest, t.phase = .finished greatest := by
  unfold State.summary at ended
  cases phase : t.phase with
  | finished greatest => exact ⟨greatest, rfl⟩
  | _ => simp only [phase] at ended; cases ended

/-- A run is finished by a push that is made. -/
theorem push_of_finished {action : Action} (moved : step config s action = some (t, shown))
    (goes : ∀ greatest, s.phase ≠ .finished greatest) {greatest : UInt64} (finished : t.phase = .finished greatest) :
    ∃ reports, s.sink.meter.step .push = some (t.sink.meter, reports, .ok ()) := by
  obtain ⟨events, move⟩ := move_of_step moved
  cases move with
  | pool stage moved =>
    have before := finished_of_hear finished
    cases stage with
    | thread | resume => exact absurd before (goes greatest)
    | submit | ask | reset | finish => cases before
  | attempt | meter => exact absurd finished (goes greatest)
  | @push _ meter reports result phase pushes stepped ends =>
    rcases ends with ⟨-, made⟩ | ⟨fault, rfl⟩
    · cases result with
      | ok done => exact ⟨reports, stepped⟩
      | error fault => cases made
    · cases finished
  | turn turned => cases turned <;> cases finished

/-- Whatever arguments a run gets and in whatever order everybody moves: when the run itself ends with its last push, the
    requests in all reports that were pushed and the measurements that are still on their way to an aggregate are
    together those that the attempts sent. So all were reported just if none is on its way, and there are never more
    than one hundred and one of these. -/
theorem reported_of_run (started : start load a = .ok (config, s)) {actions : List Action} {due : Bool}
    (ran : Runs.run (step config) s (actions ++ [.run due]) = some (t, shown)) {summary : Summary}
    (ended : t.summary config = .ok summary) :
    reported shown + t.sink.meter.onTheWay = measurements shown ∧
      (reported shown = measurements shown ↔ t.sink.meter.task.held = [] ∧ t.sink.meter.channel = []) ∧
      measurements shown ≤ reported shown + (Meter.channelCapacity + 1) := by
  obtain ⟨greatest, finished⟩ := finished_of_summary ended
  obtain ⟨u, past, new, first, last, rfl⟩ := Runs.run_concat.mp ran
  -- a run that is finished makes no move, so it is this one that finishes it
  have goes : ∀ greatest, u.phase ≠ .finished greatest := by
    intro greatest already
    simp [step, State.moveRun, already] at last
  obtain ⟨reports, pushed⟩ := push_of_finished last goes finished
  obtain ⟨before, cleared, -⟩ := Meter.cleared_of_push pushed rfl
  have calm : t.sink.meter.poisoned = false := by
    rw [cleared]
    exact before
  have begun : Accounted config.pool.name [] s.sink.meter := by
    obtain ⟨builder, -, -, rfl, rfl⟩ := begun_of_start started
    exact accounted_start _
  have accounted := accounted_of_run begun ran calm
  have balance := accounted.balance config.pool.name
  have bound := accounted.onTheWay_le
  rw [if_pos rfl, ← accounted.reported_eq, ← accounted.onTheWay_eq, cleared, Meter.requests_cleared,
    ← cleared] at balance
  refine ⟨by omega, ?_, by omega⟩
  rw [← List.append_eq_nil_iff, ← List.length_eq_zero_iff]
  show _ ↔ t.sink.meter.onTheWay = 0
  omega

private theorem summary_of_unpoisoned {greatest : UInt64} (finished : t.phase = .finished greatest)
    (unpoisoned : (t.sink.registry.metrics.entries.all fun entry => !entry.2.poisoned) = true) :
    ∃ summary, t.summary config = .ok summary := by
  have calm : t.sink.registry.Calm := by
    intro id metric found
    have listed := (lookup_eq_some_iff_mem t.sink.registry.metrics.distinct).mp found
    simpa using List.all_eq_true.mp unpoisoned _ listed
  obtain ⟨snapshot, taken, -⟩ := Metric.Registry.snapshot_of_calm calm
  rw [State.summary, finished]
  simp only [taken]
  exact ⟨_, rfl⟩

end finished

/-- The drill, in which the task of the meter applies the first measurement and takes the second one shortly before the
    last push; nobody looks after the third. -/
def hasty : List Action := drillMoves.dropLast ++ [.take, .apply, .take]

/-- The drill after the last push, and what happened. -/
def hurried : State × List Event := Runs.after (step drillConfig) drillStart (hasty ++ [.run false])

private theorem hurried_runs : Runs.run (step drillConfig) drillStart (hasty ++ [.run false]) = some hurried := by
  have made : (Runs.run (step drillConfig) drillStart (hasty ++ [.run false])).isSome = true := by decide +kernel
  exact Runs.run_after made

private theorem hurried_ends : ∃ summary, hurried.1.summary drillConfig = .ok summary := by
  have finished : hurried.1.phase = .finished 2 := by decide +kernel
  exact summary_of_unpoisoned finished (by decide +kernel)

theorem hurried_reported : ∃ summary, hurried.1.summary drillConfig = .ok summary ∧
    hurried.1.sink.meter.onTheWay = 2 ∧
    reported hurried.2 + hurried.1.sink.meter.onTheWay = measurements hurried.2 := by
  obtain ⟨summary, ended⟩ := hurried_ends
  have waiting : hurried.1.sink.meter.onTheWay = 2 := by decide +kernel
  exact ⟨summary, ended, waiting, (reported_of_run drill_starts hurried_runs ended).1⟩

/-- The hurried drill ends well, and its reports leave out two of three measurements. -/
theorem two_unreported : drill.objection? = none ∧
    start (fun _ => .ok (.ofName "demo")) drill = .ok (drillConfig, drillStart) ∧
    Runs.run (step drillConfig) drillStart (hasty ++ [.run false]) = some hurried ∧
    (∃ summary, hurried.1.summary drillConfig = .ok summary) ∧
    reported hurried.2 = 1 ∧ measurements hurried.2 = 3 :=
  ⟨rfl, drill_starts, hurried_runs, hurried_ends, by decide +kernel, by decide +kernel⟩

end JobPool.Load
