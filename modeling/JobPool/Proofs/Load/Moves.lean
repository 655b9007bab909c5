import Mathlib.Data.List.Basic
import JobPool.Load.Step
import JobPool.Proofs.Latency.Moves
import JobPool.Proofs.Pool.Over

/-!
What can happen in a load run, move by move. Its pool makes a move, and with some of them the run goes on; an attempt
gets one stage further; the meter moves; or the run goes on by itself. `move_of_step` takes `step` apart once and
for all.
-/

namespace JobPool.Load

open Latency (Meter MeteredRegistry Report)

/-- The phase of a run after what it hears from its pool. -/
def Phase.hear (phase : Phase) : Pool.Event LoadJob → Phase
  | .submitted _ answer =>
    match phase with
    | .blocked n => if answer = .accepted then .submitted n else .refused n
    | _ => phase
  | .tracker (.answer _ greatest) =>
    match phase with
    | .hearing (some n) => .resetting n
    | .hearing none => .closing greatest
    | _ => phase
  | _ => phase

private theorem hear_eq (s : State) (event : Pool.Event LoadJob) :
    s.hear event = { s with phase := s.phase.hear event } := by
  obtain ⟨pool, sink, processed, phase⟩ := s
  cases event with
  | submitted task answer => cases phase <;> rfl
  | tracker effect =>
    cases effect with
    | answer caller greatest =>
      cases phase with
      | hearing after => cases after <;> rfl
      | _ => rfl
    | _ => rfl
  | _ => rfl

theorem foldl_hear (s : State) (events : List (Pool.Event LoadJob)) :
    events.foldl State.hear s = { s with phase := events.foldl Phase.hear s.phase } := by
  induction events generalizing s with
  | nil => rfl
  | cons event rest ih => rw [List.foldl_cons, ih, hear_eq, List.foldl_cons]

/-- No attempt of this worker has a stage before it. -/
def State.Idles (s : State) (k : Nat) : Prop :=
  ∀ m task, s.pool.members[k]? = some m → m.worker.job? = some task → task.job.progress.isOver = true

/-- Where the run is once it had its pool make a move. -/
inductive Stage (config : Config) (s : State) : Pool.Action LoadJob → Phase → Prop
  | thread {action : Pool.Action LoadJob} (own : action.isThread = true) (idles : ∀ k, action = .worker k → s.Idles k) :
      Stage config s action s.phase
  | resume : Stage config s (.resume 0) s.phase
  | submit {n : Nat} (phase : s.phase = .submitting n) (left : n ≤ config.jobs) :
      Stage config s (.submit (config.job n) true) (.blocked n)
  | ask {after : Option Nat} (phase : s.phase = .asking after) : Stage config s (.askTracker 0) (.hearing after)
  | reset {n : Nat} (phase : s.phase = .resetting n) : Stage config s .resetTracker (.submitting (n + 1))
  | finish {greatest : UInt64} (phase : s.phase = .closing greatest) : Stage config s .finish (.joining greatest)

/-- How far an attempt is after a stage that ended like this. -/
def Progress.after {α : Type} (progress : Progress) : Except Fault α → Progress
  | .ok _ => progress.next
  | .error fault => .faulted fault

theorem Progress.after_ok {α : Type} (progress : Progress) (a : α) :
    progress.after (.ok a : Except Fault α) = progress.next := rfl

/-- What a stage of an attempt does to the sink and to the count of processed jobs. -/
inductive Effort (config : Config) (sink : MeteredRegistry) (processed : Nat) (job : LoadJob) :
    Progress → MeteredRegistry → Nat → Prop
  | measure {action : Meter.Action} {meter : Meter} {reports : List Report} {result : Except Fault Unit}
      (early : job.progress = .begun ∨ job.progress = .timed) (measuring : action.isMeasuring = true)
      (moved : sink.meter.step action = some (meter, reports, result)) :
      Effort config sink processed job (job.progress.after result) { sink with meter := meter } processed
  | observe {elapsed : Int64} (measured : job.progress = .measured) :
      Effort config sink processed job
        (job.progress.after (sink.registry.apply jobLatencyId (.change .observe elapsed) [config.pool.name]).result)
        { sink with
          registry := (sink.registry.apply jobLatencyId (.change .observe elapsed) [config.pool.name]).state } processed
  | fail (observed : job.progress = .observed) (fails : job.fails = true) :
      Effort config sink processed job
        (job.progress.after (sink.registry.apply failedJobsId (.change .add 1) [config.pool.name]).result)
        { sink with registry := (sink.registry.apply failedJobsId (.change .add 1) [config.pool.name]).state } processed
  | succeed (observed : job.progress = .observed) (succeeds : job.fails = false) :
      Effort config sink processed job job.progress.next sink (processed + 1)

/-- Where the run goes on by itself. -/
inductive Turn (config : Config) (s : State) : Phase → Prop
  | submitted {n : Nat} (phase : s.phase = .submitting n) (all : config.jobs < n) : Turn config s (.asking none)
  | report {n : Nat} (phase : s.phase = .submitted n) : Turn config s (.asking (some n))
  | next {n : Nat} (phase : s.phase = .submitted n) : Turn config s (.submitting (n + 1))
  | joined {greatest : UInt64} (phase : s.phase = .joining greatest) (finished : s.pool.owner = .finished) :
      Turn config s (.pushing greatest)

/-- The submitted job, its attempt being this far. -/
def reaching (task : Task LoadJob) (progress : Progress) : Task LoadJob :=
  { task with job := { task.job with progress := progress } }

/-- A move of a load run, with what happens in its pool. -/
inductive Move (config : Config) (s : State) : List (Pool.Event LoadJob) → State → Prop
  | pool {action : Pool.Action LoadJob} {phase : Phase} {events : List (Pool.Event LoadJob)}
    {registry : Metric.Registry}
      {pool : Pool.State LoadJob} (stage : Stage config s action phase)
      (moved : Pool.OverMove config.pool s.sink.registry s.pool action events registry pool) :
      Move config s events
        { s with
          pool := pool
          sink := { s.sink with registry := registry }
          phase := events.foldl Phase.hear phase }
  | attempt {k : Nat} {m : Pool.Member (Task LoadJob)} {task : Task LoadJob} {attempt limit : Nat}
      {draining : Bool} {progress : Progress} {sink : MeteredRegistry} {processed : Nat}
      (found : s.pool.members[k]? = some m) (working : m.worker.phase = .working task attempt limit draining)
      (effort : Effort config s.sink s.processed task.job progress sink processed) :
      Move config s []
        { s with
          pool := s.pool.setWorker k m
            { m.worker with phase := .working (reaching task progress) attempt limit draining }
          sink := sink
          processed := processed }
  | meter {action : Meter.Action} {meter : Meter} {reports : List Report} {result : Except Fault Unit}
      (moved : s.sink.meter.step action = some (meter, reports, result)) :
      Move config s [] { s with sink := { s.sink with meter := meter } }
  | push {greatest : UInt64} {meter : Meter} {reports : List Report} {result : Except Fault Unit} {phase : Phase}
      (pushes : s.phase = .pushing greatest) (moved : s.sink.meter.step .push = some (meter, reports, result))
      (ends : phase = .finished greatest ∧ result.isOk = true ∨ ∃ fault, phase = .faulted fault) :
      Move config s [] { s with sink := { s.sink with meter := meter }, phase := phase }
  | turn {phase : Phase} (turned : Turn config s phase) : Move config s [] { s with phase := phase }

variable {config : Config} {s t : State} {shown : List Event}

private theorem move_of_movePool {phase : Phase} {action : Pool.Action LoadJob} (stage : Stage config s action phase)
    (moved : State.movePool config { s with phase := phase } action = some (t, shown)) :
    ∃ events, Move config s events t := by
  obtain ⟨⟨registry, pool, told⟩, stepped, same⟩ := Option.map_eq_some_iff.mp moved
  cases same
  obtain ⟨events, shared, rfl⟩ := Pool.overMove_of_stepOver stepped
  refine ⟨events, ?_⟩
  rw [foldl_hear, Pool.foldl_writeGauge fun _ _ => rfl]
  exact .pool stage shared

private theorem setProgress_of_working {k : Nat} {m : Pool.Member (Task LoadJob)} {task : Task LoadJob}
    {attempt limit : Nat} {draining : Bool} (found : s.pool.members[k]? = some m)
    (working : m.worker.phase = .working task attempt limit draining) (progress : Progress) :
    s.setProgress k progress =
      { s with
        pool := s.pool.setWorker k m
          { m.worker with phase := .working (reaching task progress) attempt limit draining } } := by
  obtain ⟨inside, here⟩ := List.getElem?_eq_some_iff.mp found
  simp only [State.setProgress, Pool.State.setWorker, List.modify_eq_set_getElem?, found, Option.map_eq_map,
    Option.map_some, Option.getD_some, Worker.mapJob, working, reaching]

private theorem move_of_moveAttempt {k : Nat} {m : Pool.Member (Task LoadJob)} {task : Task LoadJob}
    {attempt limit : Nat}
    {draining : Bool} {elapsed : Int64} (found : s.pool.members[k]? = some m)
    (working : m.worker.phase = .working task attempt limit draining) (goes : task.job.progress.isOver = false)
    (moved : s.moveAttempt config k task.job elapsed = some (t, shown)) : Move config s [] t := by
  have made : ∀ {progress sink processed}, Effort config s.sink s.processed task.job progress sink processed →
      Move config s [] (State.setProgress { s with sink := sink, processed := processed } k progress) := by
    intro progress sink processed effort
    rw [setProgress_of_working (s := { s with sink := sink, processed := processed }) found working]
    exact .attempt found working effort
  have measured : ∀ {action : Meter.Action}, task.job.progress = .begun ∨ task.job.progress = .timed →
      action.isMeasuring = true → task.job.request? config.pool.name elapsed = some (.measure action) →
        Move config s [] t := by
    intro action early measuring asks
    simp only [State.moveAttempt, asks] at moved
    obtain ⟨reply, served, same⟩ := Option.map_eq_some_iff.mp moved
    obtain ⟨⟨meter, reports, result⟩, stepped, same'⟩ := Option.map_eq_some_iff.mp served
    cases same
    cases same'
    have effort := made (.measure early measuring stepped)
    cases result with
    | ok done => exact effort
    | error fault => exact effort
  have applied : ∀ {id change value}, task.job.request? config.pool.name elapsed =
        some (.apply id (.change change value) [config.pool.name]) →
      (let reply := s.sink.registry.apply id (.change change value) [config.pool.name]
       Effort config s.sink s.processed task.job (task.job.progress.after reply.result)
        { s.sink with registry := reply.state } s.processed) → Move config s [] t := by
    intro id change value asks effort
    simp only [State.moveAttempt, asks] at moved
    obtain ⟨reply, served, same⟩ := Option.map_eq_some_iff.mp moved
    cases served
    cases same
    have going := made effort
    cases result : (s.sink.registry.apply id (.change change value) [config.pool.name]).result with
    | ok done => rw [result] at going; exact going
    | error fault => rw [result] at going; exact going
  cases stage : task.job.progress with
  | complete | faulted => rw [stage] at goes; cases goes
  | begun =>
    have asks : task.job.request? config.pool.name elapsed = some (.measure (.tic config.pool.name)) := by
      simp only [LoadJob.request?, stage]
    exact measured (.inl stage) rfl asks
  | timed =>
    have asks : task.job.request? config.pool.name elapsed = some (.measure (.toc config.pool.name elapsed)) := by
      simp only [LoadJob.request?, stage]
    exact measured (.inr stage) rfl asks
  | measured =>
    have asks : task.job.request? config.pool.name elapsed =
        some (.apply jobLatencyId (.change .observe elapsed) [config.pool.name]) := by
      simp only [LoadJob.request?, stage]
    exact applied asks (.observe stage)
  | observed =>
    cases fails : task.job.fails with
    | true => exact applied (by simp only [LoadJob.request?, stage, fails, ↓reduceIte]) (.fail stage fails)
    | false =>
      have asks : task.job.request? config.pool.name elapsed = none := by
        simp [LoadJob.request?, stage, fails]
      simp only [State.moveAttempt, asks] at moved
      cases moved
      exact made (.succeed stage fails)

private theorem move_of_moveWorker {k : Nat} {elapsed : Int64}
    (moved : s.moveWorker config k elapsed = some (t, shown)) :
    ∃ events, Move config s events t := by
  have thread : s.Idles k → Stage config s (.worker k) s.phase := by
    intro idles
    refine .thread rfl ?_
    rintro other ⟨⟩
    exact idles
  unfold State.moveWorker at moved
  cases found : s.pool.members[k]? with
  | none =>
    simp only [found, Option.bind_none] at moved
    refine move_of_movePool (thread fun m task here _ => ?_) moved
    rw [found] at here
    cases here
  | some m =>
    cases job : m.worker.job? with
    | none =>
      simp only [found, Option.bind_some, job] at moved
      refine move_of_movePool (thread fun other task here works => ?_) moved
      rw [found] at here
      cases here
      rw [job] at works
      cases works
    | some task =>
      simp only [found, Option.bind_some, job] at moved
      cases ended : task.job.progress.isOver with
      | true =>
        rw [ended] at moved
        refine move_of_movePool (thread fun other next here works => ?_) moved
        rw [found] at here
        cases here
        rw [job] at works
        cases works
        exact ended
      | false =>
        rw [ended] at moved
        have working : ∃ attempt limit draining, m.worker.phase = .working task attempt limit draining := by
          unfold Worker.job? at job
          split at job
          · rename_i phase; cases job; exact ⟨_, _, _, phase⟩
          · cases job
        obtain ⟨attempt, limit, draining, working⟩ := working
        exact ⟨[], move_of_moveAttempt found working ended moved⟩

private theorem move_of_moveTask {action : Meter.Action} (moved : s.moveTask action = some (t, shown)) :
    Move config s [] t := by
  obtain ⟨⟨u, ended, events⟩, stepped, same⟩ := Option.map_eq_some_iff.mp moved
  obtain ⟨⟨meter, reports, result⟩, done, made⟩ := Option.map_eq_some_iff.mp stepped
  cases same
  cases made
  exact .meter done

private theorem move_of_moveRun {due : Bool} (moved : s.moveRun config due = some (t, shown)) :
    ∃ events, Move config s events t := by
  unfold State.moveRun at moved
  cases phase : s.phase with
  | submitting n =>
    simp only [phase] at moved
    split at moved
    · rename_i all
      cases moved
      exact ⟨[], .turn (.submitted phase all)⟩
    · rename_i left
      exact move_of_movePool (.submit phase (Nat.le_of_not_lt left)) moved
  | submitted n =>
    simp only [phase] at moved
    cases moved
    cases due with
    | true => exact ⟨[], .turn (.report phase)⟩
    | false => exact ⟨[], .turn (.next phase)⟩
  | asking after => simp only [phase] at moved; exact move_of_movePool (.ask phase) moved
  | resetting n => simp only [phase] at moved; exact move_of_movePool (.reset phase) moved
  | closing greatest => simp only [phase] at moved; exact move_of_movePool (.finish phase) moved
  | joining greatest =>
    simp only [phase] at moved
    split at moved
    · cases moved; exact ⟨[], .turn (.joined phase (by assumption))⟩
    · cases moved
  | pushing greatest =>
    simp only [phase] at moved
    obtain ⟨⟨u, ended, events⟩, stepped, same⟩ := Option.map_eq_some_iff.mp moved
    obtain ⟨⟨meter, reports, result⟩, done, made⟩ := Option.map_eq_some_iff.mp stepped
    cases result with
    | ok pushed => cases made; cases same; exact ⟨[], .push phase done (.inl ⟨rfl, rfl⟩)⟩
    | error fault => cases made; cases same; exact ⟨[], .push phase done (.inr ⟨fault, rfl⟩)⟩
  | blocked | hearing | finished | refused | faulted => simp [phase] at moved

/-- What happens in a step is a move of the run. -/
theorem move_of_step {action : Action} (moved : step config s action = some (t, shown)) :
    ∃ events, Move config s events t := by
  have own : ∀ {action}, action.isThread = true → (∀ k, action ≠ .worker k) → Stage config s action s.phase :=
    fun thread other => .thread thread fun k same => absurd same (other k)
  cases action with
  | loop => exact move_of_movePool (own rfl (by simp)) moved
  | worker k elapsed => exact move_of_moveWorker moved
  | tracker => exact move_of_movePool (own rfl (by simp)) moved
  | resume => exact move_of_movePool .resume moved
  | owner => exact move_of_movePool (own rfl (by simp)) moved
  | take | apply | tick => exact ⟨[], move_of_moveTask moved⟩
  | run due => exact move_of_moveRun moved

end JobPool.Load
