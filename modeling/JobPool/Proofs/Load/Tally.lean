import JobPool.Proofs.Load.Course
import JobPool.Proofs.Load.Sink

/-!
How often the attempts of a load run are counted. Every attempt at a job that is meant to fail counts a failure, and every
such job is attempted as often as the policy says; every other job is attempted once and counts as processed. So the
counts are those of the jobs whose runs are over, and what the workers counted for the jobs that they run
(`tallied_of_move`).
-/

namespace JobPool.Load

/-- How often a worker counted the job that it runs, among those that are meant to fail or among the others. -/
def counted (fails : Bool) : Worker.Phase (Task LoadJob) → Nat
  | .working task attempt _ _ =>
    if task.job.fails = fails then attempt - 1 + if task.job.progress = .complete then 1 else 0 else 0
  | _ => 0

/-- How often a job is counted until its run is over. -/
def worth (retries : Nat) (fails : Bool) : Nat := if fails then retries + 1 else 1

/-- How an attempt stands that did not fault. -/
structure Sane (retries : Nat) (task : Task LoadJob) (attempt limit : Nat) : Prop where
  limited : limit = retries + 1
  begun : 0 < attempt
  within : attempt ≤ limit
  once : task.job.fails = false → attempt = 1
  unfaulted : ∀ fault, task.job.progress ≠ .faulted fault

/-- The attempt of a worker, if it makes one, did not fault. -/
def Unfaulted (retries : Nat) (phase : Worker.Phase (Task LoadJob)) : Prop :=
  ∀ task attempt limit draining, phase = .working task attempt limit draining → Sane retries task attempt limit

section attempts

variable {retries : Nat} {task : Task LoadJob} {attempt limit : Nat}

private theorem Sane.complete (sane : Sane retries task attempt limit) (ended : task.job.progress.isOver = true) :
    task.job.progress = .complete := by
  cases progress : task.job.progress with
  | complete => rfl
  | faulted fault => exact absurd progress (sane.unfaulted fault)
  | _ => rw [progress] at ended; cases ended

/-- An attempt fails just if the job is meant to. -/
theorem failed_of_complete (complete : task.job.progress = .complete) :
    (Job.attempt task).1.error?.isSome = task.job.fails := by
  cases fails : task.job.fails <;> simp [Job.attempt, LoadJob.ending, complete, fails, Attempt.error?]

variable {policy : Policy} {k : Nat} {pool : Worker.Admission} {w w' : Worker (Task LoadJob)}
  {events : List (Worker.Event (Task LoadJob))}

/-- A job was attempted as often as it is worth when its run ends. -/
theorem Sane.worth_eq (sane : Sane retries task attempt limit) (complete : task.job.progress = .complete)
    {ending : Ending (Task LoadJob)}
    (judged : policy.judge limit attempt (Job.attempt task).1 (Job.attempt task).2 = .ended ending) :
    worth retries task.job.fails = attempt := by
  cases fails : task.job.fails with
  | false => exact (sane.once fails).symm
  | true =>
    have failed : (Job.attempt task).1.error?.isSome = true := by rw [failed_of_complete complete, fails]
    have last := Policy.last_of_judge_ended judged failed
    have within := sane.within
    have limited := sane.limited
    simp only [worth, ↓reduceIte]
    omega

/-- What a worker counted for a job is what the job is worth when its run is over. -/
theorem counted_of_workerMove (limited : policy.attemptLimit = .ok (retries + 1)) (sane : Unfaulted retries w.phase)
    (idles : ∀ task, w.job? = some task → task.job.progress.isOver = true)
    (fresh : ∀ task draining, w.phase = .starting task draining → task.job.progress = .begun)
    (moved : Worker.Move policy k pool w events w') :
    Unfaulted retries w'.phase ∧ ∀ fails, counted fails w'.phase +
      worth retries fails * (Worker.returned events).countP (fun task => task.job.fails == fails) =
        counted fails w.phase := by
  cases moved with
  | crash phase faults =>
    rw [faults] at limited
    cases limited
  | @start task draining limit phase limits =>
    rw [limited] at limits
    cases limits
    have begun := fresh task draining phase
    refine ⟨?_, fun fails => ?_⟩
    · rintro _ _ _ _ ⟨⟩
      exact ⟨rfl, Nat.one_pos, by omega, fun _ => rfl, by simp [begun]⟩
    · simp [counted, phase, begun, Worker.returned, Worker.Event.returned?, List.filterMap_cons]
  | @again task next attempt limit draining warning phase judged =>
    obtain ⟨rfl, more⟩ := Policy.of_judge_again judged
    have stands := sane _ _ _ _ phase
    have complete := stands.complete (idles task (by rw [Worker.job?, phase]))
    have fails : task.job.fails = true := by
      rw [← failed_of_complete complete]
      exact Policy.failed_of_judge_again judged
    -- the next attempt stands where the first one did, one attempt more being counted
    have same : (Job.attempt task).2.job.fails = true := fails
    have begun : (Job.attempt task).2.job.progress = .begun := rfl
    refine ⟨?_, fun kind => ?_⟩
    · rintro _ _ _ _ ⟨⟩
      exact ⟨stands.limited, Nat.succ_pos _, more, by simp [same], by simp [begun]⟩
    · have positive := stands.begun
      cases kind with
      | true =>
        simp [counted, phase, same, begun, fails, complete, Worker.returned, Worker.Event.returned?,
          List.filterMap_cons]
        omega
      | false => simp [counted, phase, same, fails, Worker.returned, Worker.Event.returned?, List.filterMap_cons]
  | @finish task attempt limit draining ending phase judged =>
    have stands := sane _ _ _ _ phase
    have complete := stands.complete (idles task (by rw [Worker.job?, phase]))
    have left : ending.job.job.fails = task.job.fails := by rw [Policy.job_of_judge_ended judged]; rfl
    have rests : ∀ kind, counted kind (if draining = true then .draining else .publishing) = 0 := by
      intro kind
      cases draining <;> rfl
    refine ⟨?_, fun kind => ?_⟩
    · rintro _ _ _ _ working
      cases draining <;> cases working
    · -- what was counted for the job while it was run is counted from now on because its run is over
      rw [Worker.returned_ending]
      simp only [rests, Nat.zero_add, List.countP_singleton, left]
      by_cases same : task.job.fails = kind
      · subst same
        have times := stands.worth_eq complete judged
        have positive := stands.begun
        simp [counted, phase, complete, times]
        omega
      · simp [counted, phase, same]
  | publish phase | poolGone phase | heed phase | look phase | take phase | giveUp phase | park phase | wake phase
  | close phase | drain phase | retire phase =>
    refine ⟨?_, fun fails => ?_⟩
    · rintro _ _ _ _ ⟨⟩
    · simp [counted, phase, Worker.returned, Worker.Event.returned?, List.filterMap_cons]

end attempts

/-- How often jobs of a kind were counted: those whose runs are over, and those that are run. -/
def tally (retries : Nat) (fails : Bool) (past : List (Pool.Event LoadJob)) (p : Pool.State LoadJob) : Nat :=
  worth retries fails * (Pool.returned past).countP (fun task => task.job.fails == fails) +
    p.total fun w => counted fails w.phase

/-- What a counter shows that has counted this far. -/
def series (n : Nat) : Option Int := if n = 0 then none else some n

private theorem series_succ (n : Nat) : series (n + 1) = some ((series n).getD 0 + 1) := by
  unfold series
  by_cases zero : n = 0
  · simp [zero]
  · simp [zero]

/-- The counts of a run are those of its attempts. -/
structure Tallied (config : Config) (retries : Nat) (past : List (Pool.Event LoadJob)) (s : State) : Prop where
  unfaulted : ∀ (k : Nat) (m : Pool.Member (Task LoadJob)), s.pool.members[k]? = some m →
    Unfaulted retries m.worker.phase
  processed : s.processed = tally retries false past s.pool
  failures : reading s.sink.registry failedJobsId config.pool.name = series (tally retries true past s.pool)

variable {config : Config} {retries : Nat} {s t : State} {past events : List (Pool.Event LoadJob)}

private theorem Tallied.still (tallied : Tallied config retries past s) (phases : t.pool.phases = s.pool.phases)
    (others : ∀ event ∈ events, event.isOfWorker = false) (processed : t.processed = s.processed)
    (failures : reading t.sink.registry failedJobsId config.pool.name =
      reading s.sink.registry failedJobsId config.pool.name) : Tallied config retries (past ++ events) t := by
  have same : ∀ fails, tally retries fails (past ++ events) t.pool = tally retries fails past s.pool := by
    intro fails
    have sums := Pool.State.total_phase_congr phases (counted fails)
    rw [tally, tally, Pool.returned_append, (Pool.jobs_of_others others).2, List.append_nil, sums]
  refine ⟨?_, ?_, ?_⟩
  · intro k m found
    have here : s.pool.phases[k]? = some m.worker.phase := by
      rw [← phases, Pool.State.phases, List.getElem?_map, found]; rfl
    rw [Pool.State.phases, List.getElem?_map, Option.map_eq_some_iff] at here
    obtain ⟨before, there, alike⟩ := here
    rw [← alike]
    exact tallied.unfaulted k before there
  · rw [processed, same]
    exact tallied.processed
  · rw [failures, same]
    exact tallied.failures

private theorem Tallied.advance (tallied : Tallied config retries past s) {k : Nat} {m : Pool.Member (Task LoadJob)}
    {w : Worker (Task LoadJob)} (found : s.pool.members[k]? = some m)
    (members : t.pool.members = s.pool.members.set k { m with worker := w }) (unfaulted : Unfaulted retries w.phase)
    (processed : t.processed + counted false m.worker.phase =
      s.processed + counted false w.phase +
        worth retries false * (Pool.returned events).countP (fun task => task.job.fails == false))
    (failures : ∀ n, n + counted true m.worker.phase = tally retries true past s.pool + counted true w.phase +
        worth retries true * (Pool.returned events).countP (fun task => task.job.fails == true) →
      reading t.sink.registry failedJobsId config.pool.name = series n) : Tallied config retries
      (past ++ events) t := by
  have sums : ∀ fails, tally retries fails (past ++ events) t.pool + counted fails m.worker.phase =
      tally retries fails past s.pool + counted fails w.phase +
        worth retries fails * (Pool.returned events).countP (fun task => task.job.fails == fails) := by
    intro fails
    have sum := Pool.State.total_set found members fun w => counted fails w.phase
    simp only [tally, Pool.returned_append, List.countP_append, Nat.mul_add] at sum ⊢
    omega
  refine ⟨?_, ?_, failures _ (sums true)⟩
  · intro j n at_j
    obtain ⟨inside, -⟩ := List.getElem?_eq_some_iff.mp found
    rw [members] at at_j
    by_cases same : k = j
    · subst same
      rw [List.getElem?_set_self inside] at at_j
      cases at_j
      exact unfaulted
    · rw [List.getElem?_set_ne same] at at_j
      exact tallied.unfaulted j n at_j
  · have sum := sums false
    have before := tallied.processed
    omega

private theorem tallied_of_stage (tallied : Tallied config retries past s) (course : Course config past s)
    (fitted : Fitted s.sink.registry)
    (carried : Pool.Carried config.pool past s.pool) (limited : config.pool.policy.attemptLimit = .ok (retries + 1))
    {action : Pool.Action LoadJob} {phase : Phase} {registry : Metric.Registry} {pool : Pool.State LoadJob}
    (stage : Stage config s action phase)
    (moved : Pool.OverMove config.pool s.sink.registry s.pool action events registry pool) :
    Tallied config retries (past ++ events)
      { s with
        pool := pool
        sink := { s.sink with registry := registry }
        phase := events.foldl Phase.hear phase } := by
  have failures : reading registry failedJobsId config.pool.name =
      reading s.sink.registry failedJobsId config.pool.name := by
    cases moved with
    | quiet => rfl
    | raise =>
      have apart : Gauge.id ≠ failedJobsId := by decide
      exact reading_apply_of_ne fitted apart ..
  cases moved.move with
  | client moved =>
    exact tallied.still (Pool.phases_of_clientMove moved).1
      (Pool.phases_of_clientMove moved).2 rfl failures
  | owner moved =>
    exact tallied.still (Pool.phases_of_ownerMove moved).1
      (Pool.phases_of_ownerMove moved).2 rfl failures
  | loop moved => exact tallied.still (Pool.phases_of_loopMove moved).1 (Pool.phases_of_loopMove moved).2 rfl failures
  | tracker | closeSink => exact tallied.still rfl (by simp [Pool.Event.isOfWorker]) rfl failures
  | custom found custom => exact absurd custom (carried.sound.not_custom found)
  | @worker k m done w found advanced =>
    have idles : ∀ task, m.worker.job? = some task → task.job.progress.isOver = true := by
      cases stage with
      | thread own idles => exact fun task works => idles k rfl m task found works
    have same : (s.pool.policy config.pool).attemptLimit = .ok (retries + 1) := by
      rw [Pool.State.attemptLimit_policy]
      exact limited
    obtain ⟨unfaulted, counts⟩ := counted_of_workerMove same (tallied.unfaulted k m found) idles
      (fun task draining starting => begun_of_starting course carried found starting) advanced
    have returned := (Pool.jobs_of_worker k done).2.2.2.2
    refine tallied.advance found rfl unfaulted ?_ fun n sum => ?_
    · have count := counts false
      rw [returned]
      dsimp only
      omega
    · have count := counts true
      rw [returned] at sum
      have total : n = tally retries true past s.pool := by omega
      rw [total, ← tallied.failures]
      exact failures

/-- A worker is at work only as long as the run is not finished. -/
theorem unfinished_of_working (course : Course config past s) (carried : Pool.Carried config.pool past s.pool) {k : Nat}
    {m : Pool.Member (Task LoadJob)} {task : Task LoadJob} {attempt limit : Nat} {draining : Bool}
    (found : s.pool.members[k]? = some m) (working : m.worker.phase = .working task attempt limit draining)
    (greatest : UInt64) : s.phase ≠ .finished greatest := by
  intro finished
  have ended := course.ended (by rw [finished]; rfl)
  obtain ⟨through, -⟩ := carried.rests.finished ended
  obtain ⟨rests, -⟩ := carried.sound.at_rest through found
  rw [rests] at working
  cases working

private theorem counted_reaching (fails : Bool) (task : Task LoadJob) (progress : Progress) (attempt limit : Nat)
    (draining : Bool) : counted fails (.working (reaching task progress) attempt limit draining) =
      if task.job.fails = fails then attempt - 1 + if progress = .complete then 1 else 0 else 0 := rfl

section attempt

variable {k : Nat} {m : Pool.Member (Task LoadJob)} {task : Task LoadJob} {attempt limit : Nat} {draining : Bool}
  {progress : Progress} {sink : Latency.MeteredRegistry}

private theorem Sane.reaching (sane : Sane retries task attempt limit) (fine : ∀ fault, progress ≠ .faulted fault) :
    Unfaulted retries (.working (reaching task progress) attempt limit draining) := by
  rintro _ _ _ _ ⟨⟩
  exact ⟨sane.limited, sane.begun, sane.within, sane.once, fine⟩

variable (tallied : Tallied config retries past s) (found : s.pool.members[k]? = some m)
  (working : m.worker.phase = .working task attempt limit draining)
include tallied found working

/-- The stages of an attempt before its last one count nothing. -/
theorem Tallied.proceed (before : task.job.progress ≠ .complete) (fine : ∀ fault, progress ≠ .faulted fault)
    (incomplete : progress ≠ .complete)
    (failures : reading sink.registry failedJobsId config.pool.name =
      reading s.sink.registry failedJobsId config.pool.name) : Tallied config retries (past ++ [])
      { s with
        pool := s.pool.setWorker k m { m.worker with phase := .working (reaching task progress) attempt limit draining }
        sink := sink } := by
  have stands := tallied.unfaulted k m found task attempt limit draining working
  have alike : ∀ fails, counted fails (.working (reaching task progress) attempt limit draining) =
      counted fails m.worker.phase := by
    intro fails
    rw [counted_reaching, if_neg incomplete, working, counted, if_neg before]
  refine tallied.advance found rfl (stands.reaching fine) ?_ fun n sum => ?_
  · rw [alike]
    rfl
  · rw [alike] at sum
    have total : n = tally retries true past s.pool := Nat.add_right_cancel sum
    rw [total, ← tallied.failures]
    exact failures

private theorem tallied_of_effort (fitted : Fitted s.sink.registry) {processed : Nat}
    (effort : Effort config s.sink s.processed task.job progress sink processed) (calm : sink.registry.Calm)
    (metered : s.sink.meter.poisoned = false) :
    Tallied config retries (past ++ [])
      { s with
        pool := s.pool.setWorker k m { m.worker with phase := .working (reaching task progress) attempt limit draining }
        sink := sink
        processed := processed } := by
  have stands := tallied.unfaulted k m found task attempt limit draining working
  have here : ∀ fails, counted fails m.worker.phase =
      if task.job.fails = fails then attempt - 1 + if task.job.progress = .complete then 1 else 0 else 0 := by
    intro fails
    rw [working, counted]
  cases effort with
  | measure stage measuring moved =>
    rw [(Latency.Meter.move_of_step metered moved).made measuring, Progress.after_ok]
    rcases stage with stage | stage
    · rw [stage]
      exact tallied.proceed found working (by simp [stage]) (by simp [Progress.next]) (by simp [Progress.next]) rfl
    · rw [stage]
      exact tallied.proceed found working (by simp [stage]) (by simp [Progress.next]) (by simp [Progress.next]) rfl
  | observe stage =>
    have apart : jobLatencyId ≠ failedJobsId := by decide
    rw [(Metric.Registry.of_calm_apply calm).2, Progress.after_ok, stage]
    exact tallied.proceed found working (by simp [stage]) (by simp [Progress.next]) (by simp [Progress.next])
      (reading_apply_of_ne fitted apart ..)
  | fail stage fails =>
    have done := (Metric.Registry.of_calm_apply calm).2
    rw [done, Progress.after_ok, stage]
    refine tallied.advance found rfl (stands.reaching (by simp [Progress.next])) ?_ fun n sum => ?_
    · rw [counted_reaching, here]
      simp [fails, Pool.returned]
    · rw [counted_reaching, here] at sum
      simp only [fails, stage, Progress.next, ↓reduceIte, reduceCtorEq, Pool.returned, List.filterMap_nil,
        List.countP_nil] at sum
      have total : n = tally retries true past s.pool + 1 := by omega
      rw [total, series_succ, ← tallied.failures]
      exact failures_of_add fitted done
  | succeed stage succeeds =>
    rw [stage]
    refine tallied.advance found rfl (stands.reaching (by simp [Progress.next])) ?_ fun n sum => ?_
    · rw [counted_reaching, here]
      simp [succeeds, stage, Progress.next, Pool.returned]
      omega
    · rw [counted_reaching, here] at sum
      simp only [succeeds, Bool.false_eq_true, ↓reduceIte, Pool.returned, List.filterMap_nil, List.countP_nil] at sum
      have total : n = tally retries true past s.pool := by omega
      rw [total]
      exact tallied.failures

end attempt

theorem tallied_of_move (tallied : Tallied config retries past s) (course : Course config past s)
    (carried : Pool.Carried config.pool past s.pool) (limited : config.pool.policy.attemptLimit = .ok (retries + 1))
    (fitted : Fitted s.sink.registry) (calm : Calm t) (moved : Move config s events t) :
    Tallied config retries (past ++ events) t := by
  have before := calm_of_move moved calm
  cases moved with
  | pool stage moved => exact tallied_of_stage tallied course fitted carried limited stage moved
  | attempt found working effort =>
    have metered : s.sink.meter.poisoned = false := by
      cases poisoned : s.sink.meter.poisoned with
      | false => rfl
      | true =>
        obtain ⟨greatest, finished⟩ := before.meter poisoned
        exact absurd finished (unfinished_of_working course carried found working greatest)
    exact tallied_of_effort tallied found working fitted effort calm.registry metered
  | meter | push | turn => exact tallied.still rfl (by simp) rfl rfl

end JobPool.Load
