import JobPool.Proofs.Load.Busy
import JobPool.Proofs.Load.Tally
import JobPool.Proofs.Policy.Attempts
import JobPool.Proofs.Settings.Building

/-!
What a load run comes to. Whatever its threads, its meter and the run itself do and in which order, a run that ends with a
summary has processed every job that is not meant to fail, has counted a failure for every attempt at every other job,
and has seen some workers busy, but not more than there are (`result_of_run`).
-/

namespace JobPool.Load

/-- How many retries a failing job gets: those of the settings if there are any, otherwise those of the arguments. -/
def Arguments.effectiveRetries (load : String → Except Settings.LoadError Settings) (a : Arguments) : UInt64 :=
  match a.config with
  | none => a.retries
  | some path =>
    match load path with
    | .ok ⟨_, _, _, .retry retries⟩ => retries
    | _ => 0

/-- How many jobs are meant to fail. -/
def Arguments.failing (a : Arguments) : Nat := a.jobs.toNat / a.failEvery.toNat

variable {load : String → Except Settings.LoadError Settings} {a : Arguments}

private theorem retries_of_builder {Q : Type} {builder : Builder Q} (built : a.builder load = .ok builder) :
    builder.policy.retries = a.effectiveRetries load := by
  unfold Arguments.builder at built
  unfold Arguments.effectiveRetries
  cases given : a.config with
  | none =>
    simp only [given] at built ⊢
    cases built
    unfold Arguments.describedPool Arguments.retryPolicySet
    by_cases some : 0 < a.retries
    · rw [if_pos some]
      rfl
    · have none : a.retries = 0 := by
        rw [UInt64.lt_iff_toNat_lt] at some
        exact UInt64.toNat_inj.mp (Nat.eq_zero_of_not_pos some)
      rw [if_neg some, none]
      simp [Builder.new, Policy.retries]
  | some path =>
    simp only [given] at built ⊢
    cases loaded : load path with
    | error cause => rw [loaded] at built; cases built
    | ok settings =>
      rw [loaded] at built
      cases built
      obtain ⟨name, maxWorkers, queueCapacity, policy⟩ := settings
      have same : (Builder.ofSettings ⟨name, maxWorkers, queueCapacity, policy⟩ : Builder Q).policy.retries =
          policy.toPolicy.retries := by simp [Builder.ofSettings, Builder.policySet]
      rw [same]
      cases policy <;> rfl

theorem begun_of_start {config : Config} {s : State} (started : start load a = .ok (config, s)) :
    ∃ builder : Builder Empty, a.builder load = .ok builder ∧ builder.plan.makeChannels = .ok () ∧
      config = ⟨.ofPlan Empty.elim builder.plan, a⟩ ∧
      s = ⟨Pool.start config.pool, { newSink with registry := (Gauge.register newSink.registry 0).state }, 0,
      .submitting 1⟩ := by
  unfold start at started
  cases built : (a.builder load : Except ConfigError (Builder Empty)) with
  | error cause => rw [built] at started; cases started
  | ok builder =>
    rw [built] at started
    cases planned : builder.plan.start with
    | error fault => simp [planned, bind, Except.bind, Except.mapError] at started
    | ok done =>
      simp only [planned, bind, Except.bind, Except.mapError, pure, Except.pure, Except.ok.injEq,
        Prod.mk.injEq] at started
      obtain ⟨rfl, rfl⟩ := started
      refine ⟨builder, rfl, ?_, rfl, rfl⟩
      unfold Plan.start at planned
      cases made : builder.plan.makeChannels with
      | ok done => rfl
      | error fault => rw [made] at planned; cases planned

/-- Every job whose number the argument divides is meant to fail. -/
theorem countP_fails (a : Arguments) (n : Nat) : (List.range' 1 n).countP a.fails = n / a.failEvery.toNat := by
  induction n with
  | zero => simp
  | succ n ih =>
    have divides : a.fails (n + 1) = true ↔ a.failEvery.toNat ∣ n + 1 := by
      simp only [Arguments.fails, Bool.and_eq_true, decide_eq_true_eq, UInt64.lt_iff_toNat_lt, Nat.dvd_iff_mod_eq_zero]
      constructor
      · exact fun fails => fails.2
      · intro even
        refine ⟨Nat.pos_of_ne_zero fun none => ?_, even⟩
        change a.failEvery.toNat = 0 at none
        rw [none, Nat.mod_zero] at even
        cases even
    rw [List.range'_1_concat, List.countP_append, ih, Nat.succ_div, List.countP_singleton, Nat.add_comm 1 n]
    simp only [divides]

section known

variable {config : Config} {retries : Nat} {s t : State} {past events : List (Pool.Event LoadJob)}

/-- What is known of a run, given what happened in its pool. -/
structure Known (config : Config) (retries : Nat) (past : List (Pool.Event LoadJob)) (s : State) : Prop where
  carried : Pool.Carried config.pool past s.pool
  course : Course config past s
  fitted : Fitted s.sink.registry
  tallied : Calm s → Tallied config retries past s
  noted : Calm s → Pool.Noted config.pool past (s.busy config) s.pool

private theorem known_start (config : Config) (retries : Nat) : Known config retries []
    ⟨Pool.start config.pool, { newSink with registry := (Gauge.register newSink.registry 0).state }, 0,
      .submitting 1⟩ where
  carried := Pool.carried_start config.pool
  course := ⟨rfl, rfl, Nat.zero_le _, by simp, by simp [Phase.awaits], by simp [Phase.isPast]⟩
  fitted := fitted_start
  tallied := by
    intro calm
    have none : ∀ fails, tally retries fails [] (Pool.start config.pool) = 0 := by
      intro fails
      have idle : (Pool.start config.pool : Pool.State LoadJob).total (fun w => counted fails w.phase) = 0 :=
        Pool.total_start config.pool rfl
      rw [tally, idle]
      simp [Pool.returned]
    refine ⟨?_, (none false).symm, ?_⟩
    · rintro k m found task attempt limit draining working
      rw [Pool.member_of_start found] at working
      cases working
    · rw [none]
      rfl
  noted := fun _ => Pool.noted_start config.pool

private theorem known_of_move (built : config.pool.Buildable) (small : config.pool.size < 2 ^ 63)
    (limited : config.pool.policy.attemptLimit = .ok (retries + 1)) (known : Known config retries past s)
    (moved : Move config s events t) : Known config retries (past ++ events) t where
  carried := carried_of_move built (Pool.alwaysReturns_of_attemptLimit limited) known.carried moved
  course := course_of_move known.course moved
  fitted := fitted_of_move known.fitted moved
  tallied := by
    intro calm
    have before := known.tallied (calm_of_move moved calm)
    exact tallied_of_move before known.course known.carried limited known.fitted calm moved
  noted := by
    intro calm
    have before := known.noted (calm_of_move moved calm)
    exact noted_of_move small known.carried known.fitted before calm moved

private theorem known_of_run (built : config.pool.Buildable) (small : config.pool.size < 2 ^ 63)
    (limited : config.pool.policy.attemptLimit = .ok (retries + 1)) (known : Known config retries [] s)
    {actions : List Action} {shown : List Event} (ran : Runs.run (step config) s actions = some (t, shown)) :
    ∃ past, Known config retries past t := by
  -- a run does not show all that happens in its pool, so the history of the pool is part of the invariant
  refine Runs.run_induction (motive := fun _ _ t => ∃ past, Known config retries past t) ⟨[], known⟩ ?_ ran
  rintro actions shown t action new u - ⟨past, known⟩ moved
  obtain ⟨events, move⟩ := move_of_step moved
  exact ⟨_, known_of_move built small limited known move⟩

section finished

variable (known : Known config retries past s) {greatest : UInt64} (finished : s.phase = .finished greatest)
include known finished

private theorem over_of_finished : s.pool.loop.isOver = true ∧ s.pool.tracker.isAlive = false :=
  known.carried.rests.finished (known.course.ended (by rw [finished]; rfl))

private theorem accepted_of_finished :
    (Pool.accepted past).map Task.job = (List.range' 1 config.jobs).map config.job := by
  have through : s.phase.through config = config.jobs := by rw [finished]; rfl
  rw [← through]
  exact known.course.accepted

private theorem returned_of_finished (fails : Bool) :
    (Pool.returned past).countP (fun task => task.job.fails == fails) =
      (List.range' 1 config.jobs).countP fun n => config.arguments.fails n == fails := by
  obtain ⟨through, -⟩ := over_of_finished known finished
  have same : (Pool.returned past).countP (fun task => task.job.fails == fails) =
      (Pool.accepted past).countP fun task => task.job.fails == fails := known.carried.returned through fun _ => rfl
  have mapped : (Pool.accepted past).countP (fun task => task.job.fails == fails) =
      ((Pool.accepted past).map Task.job).countP fun job => job.fails == fails := by
    rw [List.countP_map]
    rfl
  rw [same, mapped, accepted_of_finished known finished, List.countP_map]
  rfl

private theorem tally_of_finished (fails : Bool) : tally retries fails past s.pool =
    worth retries fails * (List.range' 1 config.jobs).countP fun n => config.arguments.fails n == fails := by
  obtain ⟨through, -⟩ := over_of_finished known finished
  have idle : s.pool.total (fun w => counted fails w.phase) = 0 := by
    refine Pool.State.total_eq_zero fun k m found => ?_
    rw [(known.carried.sound.at_rest through found).1]
    rfl
  rw [tally, returned_of_finished known finished, idle, Nat.add_zero]

/-- Once a run is finished, its counters and its gauge tell what became of the jobs. -/
theorem result_of_finished (calm : s.sink.registry.Calm) (some : 0 < config.jobs) :
    s.processed = config.jobs - config.arguments.failing ∧
    reading s.sink.registry failedJobsId config.pool.name = series (config.arguments.failing * (retries + 1)) ∧
    ∃ busy, s.busy config = .some busy ∧ 1 ≤ busy ∧ busy ≤ config.pool.size := by
  have steady : Calm s := ⟨calm, fun _ => ⟨greatest, finished⟩⟩
  have tallied := known.tallied steady
  have noted := known.noted steady
  have failing : (List.range' 1 config.jobs).countP (fun n => config.arguments.fails n == true) =
      config.arguments.failing := by
    simp only [beq_true]
    exact countP_fails config.arguments config.jobs
  obtain ⟨through, gone⟩ := over_of_finished known finished
  refine ⟨?_, ?_, ?_⟩
  · have all : (List.range' 1 config.jobs).length = _ + _ :=
      List.length_eq_countP_add_countP fun n => config.arguments.fails n == true
    have rest : (List.range' 1 config.jobs).countP (fun n => ¬(config.arguments.fails n == true) = true) =
        (List.range' 1 config.jobs).countP fun n => config.arguments.fails n == false := by
      congr 1
      funext n
      cases config.arguments.fails n <;> rfl
    rw [List.length_range', rest, failing] at all
    rw [tallied.processed, tally_of_finished known finished, worth]
    simp only [Bool.false_eq_true, ↓reduceIte, Nat.one_mul]
    omega
  · rw [tallied.failures, tally_of_finished known finished, failing, worth, if_pos rfl, Nat.mul_comm]
  · -- every job was handed over, so its sample was sent, and the tracker ended with no sample left
    have backlog := (known.carried.sound.over_idle through fun _ => true).1
    have order : Pool.accepted past = Pool.handed past ++ s.pool.backlog := known.carried.booked.order
    have accepted := congrArg List.length (accepted_of_finished known finished)
    rw [order, backlog, List.append_nil, List.length_map, List.length_map, List.length_range'] at accepted
    have handed : Pool.handed past ≠ [] := by
      intro none
      rw [none, List.length_nil] at accepted
      omega
    have empty := (noted.tells.drained gone).1
    rcases noted.due (.inr handed) with shown | ⟨busy, listed⟩
    · obtain ⟨busy, shows⟩ := Option.isSome_iff_exists.mp shown
      exact ⟨busy, shows, noted.tells.range busy shows⟩
    · rw [empty] at listed
      cases listed

end finished

end known

/-- Whatever arguments a run gets, if nothing is wrong with them, and in whatever order everybody moves: a run that ends
    with a summary processed every job that is not meant to fail, made all attempts at every other job, and saw at
    least one worker and at most all of them busy. -/
theorem result_of_run (sensible : a.objection? = none) {config : Config} {s : State}
    (started : start load a = .ok (config, s)) (few : (a.effectiveRetries load).toNat + 1 < UInt64.size)
    {actions : List Action} {t : State} {shown : List Event} (ran : Runs.run (step config) s actions = some (t, shown))
    {summary : Summary} (ended : t.summary config = .ok summary) :
    summary.processed = a.jobs.toNat - a.failing ∧
    (summary.snapshot.value? "FAILED-JOBS" [config.pool.name]).map Int64.toInt =
      (if a.failing = 0 then none else some ((a.failing * ((a.effectiveRetries load).toNat + 1) : Nat) : Int)) ∧
    ∃ busy, summary.gauge = some busy ∧ summary.snapshot.value? "MAX-WORKERS" [config.pool.name] = some busy ∧
      1 ≤ busy.toInt ∧ busy.toInt ≤ config.pool.size := by
  obtain ⟨builder, built, made, rfl, rfl⟩ := begun_of_start started
  have retries := retries_of_builder built
  have small := Nat.lt_of_le_of_lt (Pool.size_ofPlan Empty.elim made) (by decide : Channel.greatestCapacity < 2 ^ 63)
  have limited : builder.policy.attemptLimit = .ok ((a.effectiveRetries load).toNat + 1) := by
    rw [← retries] at few ⊢
    exact Policy.attemptLimit_of_few few
  obtain ⟨past, known⟩ := known_of_run (Pool.buildable_ofPlan Empty.elim made) small limited (known_start _ _) ran
  have jobs : 0 < a.jobs.toNat := by
    by_contra none
    have zero : a.jobs = 0 := UInt64.toNat_inj.mp (Nat.eq_zero_of_not_pos none)
    simp [Arguments.objection?, zero] at sensible
  unfold State.summary at ended
  cases phase : t.phase with
  | finished greatest =>
    simp only [phase] at ended
    cases taken : t.sink.registry.snapshot with
    | error fault => rw [taken] at ended; cases ended
    | ok snapshot =>
      rw [taken] at ended
      cases ended
      obtain ⟨calm, tells⟩ := Metric.Registry.value_of_snapshot taken
      obtain ⟨processed, failures, busy, shows, range⟩ := result_of_finished known phase calm jobs
      refine ⟨processed, ?_, ?_⟩
      · rw [tells]
        refine failures.trans ?_
        simp [series]
      · obtain ⟨value, holds, same⟩ := Option.map_eq_some_iff.mp shows
        subst same
        have told := (tells Gauge.id _).trans holds
        exact ⟨value, told, told, range⟩
  | _ => simp only [phase] at ended; cases ended

/-- Two jobs for two workers; the second one fails and is tried once more. -/
def drill : Arguments :=
  { Arguments.default with workers := some 2, queueCapacity := some 2, jobs := 2, failEvery := 2, retries := 1 }

def drillConfig : Config := ⟨⟨"demo", 2, 2, .retry 1⟩, drill⟩

def drillStart : State :=
  ⟨Pool.start drillConfig.pool, { newSink with registry := (Gauge.register newSink.registry 0).state }, 0,
    .submitting 1⟩

/-- Both jobs are submitted before the first of them is handed over, and then everybody moves in turn. -/
def drillMoves : List Action :=
  let turn := [.loop, .tracker, .worker 0 0, .worker 1 0]
  Runs.able (step drillConfig) drillStart
    (.replicate 4 (.run false) ++ (List.replicate 20 turn).flatten ++
      (List.replicate 20 (.run false :: .owner :: turn)).flatten)

/-- The drill once it is over, and what happened. -/
def drilled : State × List Event := Runs.after (step drillConfig) drillStart drillMoves

theorem drill_starts : start (fun _ => .ok (.ofName "demo")) drill = .ok (drillConfig, drillStart) := by
  have planned : (drill.describedPool : Builder Empty).plan.start = .ok () := by decide +kernel
  have built : (drill.builder (fun _ => .ok (.ofName "demo")) : Except ConfigError (Builder Empty)) =
      .ok drill.describedPool := rfl
  rw [start, built]
  simp only [Except.mapError, bind, Except.bind, planned]
  rfl

theorem drill_result : ∃ summary, drilled.1.summary drillConfig = .ok summary ∧ summary.processed = 1 ∧
    (summary.snapshot.value? "FAILED-JOBS" ["demo"]).map Int64.toInt = some 2 ∧
    ∃ busy, summary.gauge = some busy ∧ summary.snapshot.value? "MAX-WORKERS" ["demo"] = some busy ∧
      1 ≤ busy.toInt ∧ busy.toInt ≤ 2 := by
  have ran : Runs.run (step drillConfig) drillStart drillMoves = some drilled :=
    Runs.run_after (Runs.isSome_run_able _ _)
  have phase : drilled.1.phase = .finished 2 := by decide +kernel
  have unpoisoned : (drilled.1.sink.registry.metrics.entries.all fun entry => !entry.2.poisoned) = true := by
    decide +kernel
  have calm : drilled.1.sink.registry.Calm := by
    intro id metric found
    have listed := (lookup_eq_some_iff_mem drilled.1.sink.registry.metrics.distinct).mp found
    simpa using List.all_eq_true.mp unpoisoned _ listed
  obtain ⟨snapshot, taken, -⟩ := Metric.Registry.snapshot_of_calm calm
  have ended : drilled.1.summary drillConfig = .ok
      ⟨2, drilled.1.processed, 2, snapshot.value? Gauge.id ["demo"], snapshot⟩ := by
    rw [State.summary, phase]
    simp only [taken]
    rfl
  exact ⟨_, ended, result_of_run rfl drill_starts (by decide) ran ended⟩

end JobPool.Load
