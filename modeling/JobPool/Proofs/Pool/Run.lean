import JobPool.Load.Job
import JobPool.Pool.Step
import JobPool.Proofs.Runs

/-!
Runs of a pool of standard workers: every list of moves that can be made one after the other, from
the pool that was just built. What holds of every run is proved move by move (`run_induction`).
-/

namespace JobPool.Pool

variable {J : Type}

/-- The sizes that a pool can be built with. -/
structure Config.Buildable (config : Config) : Prop where
  staffed : 0 < config.size
  word : config.size < UInt64.size

private theorem checkCapacity_of_makeChannels {Q : Type} {plan : Plan Q} (made : plan.makeChannels = .ok ()) :
    Channel.checkCapacity plan.maxWorkers.toNat = .ok () := by
  unfold Plan.makeChannels at made
  cases queue : plan.queue with
  | supplied q => simpa [queue, pure, Except.pure, bind, Except.bind] using made
  | fresh capacity =>
    cases first : Channel.checkCapacity capacity.toNat with
    | error fault => simp [queue, first, bind, Except.bind] at made
    | ok _ => simpa [queue, first, bind, Except.bind] using made

/-- A planned pool whose channels can be made has such sizes. -/
theorem buildable_ofPlan {Q : Type} (room : Q → Nat) {plan : Plan Q} (made : plan.makeChannels = .ok ()) :
    (Config.ofPlan room plan).Buildable := by
  have checked := checkCapacity_of_makeChannels made
  refine ⟨?_, plan.maxWorkers.toNat_lt⟩
  rcases Nat.eq_zero_or_pos plan.maxWorkers.toNat with none | some
  · simp [Channel.checkCapacity, none] at checked
  · exact some

/-- A planned pool whose channels can be made does not have more workers than a channel has slots. -/
theorem size_ofPlan {Q : Type} (room : Q → Nat) {plan : Plan Q} (made : plan.makeChannels = .ok ()) :
    (Config.ofPlan room plan).size ≤ Channel.greatestCapacity := by
  have checked := checkCapacity_of_makeChannels made
  unfold Channel.checkCapacity at checked
  split at checked
  · cases checked
  · split at checked
    · cases checked
    · exact Nat.le_of_not_lt (by assumption)

/-- Its queue has room for a job, if a supplied one has. -/
theorem roomy_ofPlan {Q : Type} (room : Q → Nat) {plan : Plan Q} (made : plan.makeChannels = .ok ())
    (supplied : ∀ q, plan.queue = .supplied q → 0 < room q) : 0 < (Config.ofPlan room plan).queueCapacity := by
  unfold Config.ofPlan Plan.queueCapacity
  cases queue : plan.queue with
  | supplied q => exact supplied q queue
  | fresh capacity =>
    rcases Nat.eq_zero_or_pos capacity.toNat with none | some
    · simp [Plan.makeChannels, queue, Channel.checkCapacity, none, bind, Except.bind] at made
    · exact some

/-- A pool of standard workers that was just built. -/
def start (config : Config) : State J := .new config (List.replicate config.size .standard)

theorem member_of_start {config : Config} {k : Nat} {m : Member (Task J)}
    (found : (start config : State J).members[k]? = some m) : m = ⟨.standard, Worker.new.start, false⟩ := by
  simp only [start, State.new, List.map_replicate] at found
  exact List.eq_of_mem_replicate (List.mem_of_getElem? found)

variable [Job J]

/-- Every run of a job by this policy returns. -/
def AlwaysReturns (J : Type) [Job J] (policy : Policy) : Prop := ∀ job : J, ∃ ending, policy.run job = .ok ending

/-- A run of a job returns unless the number of attempts is out of range. -/
theorem alwaysReturns_of_attemptLimit {policy : Policy} {limit : Nat} (limited : policy.attemptLimit = .ok limit) :
    AlwaysReturns J policy := by
  intro job
  exact ⟨_, by simp [Policy.run, limited, bind, Except.bind, pure, Except.pure]; rfl⟩

omit [Job J] in
/-- Whether the sink is open makes no difference to how often a job is attempted. -/
theorem attemptLimit_withoutSink (policy : Policy) : policy.withoutSink.attemptLimit = policy.attemptLimit := by
  cases policy <;> rfl

omit [Job J] in
theorem State.attemptLimit_policy (config : Config) (s : State J) :
    (s.policy config).attemptLimit = config.policy.attemptLimit := by
  unfold State.policy
  split
  · exact attemptLimit_withoutSink config.policy
  · rfl

/-- If every run of a job returns, so does every run of a submitted job by a policy with as many attempts. -/
theorem AlwaysReturns.tasks {policy other : Policy} (returns : AlwaysReturns J policy)
    (same : other.attemptLimit = policy.attemptLimit) : AlwaysReturns (Task J) other := by
  intro task
  obtain ⟨ending, ran⟩ := returns task.job
  unfold Policy.run at ran ⊢
  rw [same]
  cases limited : policy.attemptLimit with
  | error fault => simp [limited, bind, Except.bind] at ran
  | ok limit => exact ⟨_, rfl⟩

theorem AlwaysReturns.run_policy {config : Config} {s : State J} (returns : AlwaysReturns J config.policy)
    (task : Task J) : ∃ ending, (s.policy config).run task = .ok ending :=
  returns.tasks (s.attemptLimit_policy config) task

/-- Makes moves one after the other; what happens is listed in order. -/
def run (config : Config) : State J → List (Action J) → Option (State J × List (Event J))
  | s, [] => some (s, [])
  | s, action :: rest =>
    match step config s action with
    | none => none
    | some (t, events) => (run config t rest).map fun (u, later) => (u, events ++ later)

/-- The pool gets into this state. -/
def Reachable (config : Config) (s : State J) : Prop :=
  ∃ actions events, run config (start config) actions = some (s, events)

/-- The runs of a pool are those that its moves make up. -/
theorem run_eq (config : Config) (s : State J) (actions : List (Action J)) :
    run config s actions = Runs.run (step config) s actions := by
  induction actions generalizing s with
  | nil => rfl
  | cons action rest ih =>
    simp only [run, Runs.run, ih]
    cases step config s action <;> rfl

/-- A run is a first move with a run after it. -/
theorem run_cons {config : Config} {s u : State J} {action : Action J} {rest : List (Action J)}
    {events : List (Event J)} :
    run config s (action :: rest) = some (u, events) ↔
      ∃ t new later, step config s action = some (t, new) ∧ run config t rest = some (u, later) ∧
        events = new ++ later := by
  simp only [run_eq]
  exact Runs.run_cons

/-- A run is a run to some state and a run from there. -/
theorem run_split {config : Config} {s u : State J} {first later : List (Action J)} {events : List (Event J)}
    (ran : run config s (first ++ later) = some (u, events)) :
    ∃ t past new, run config s first = some (t, past) ∧ run config t later = some (u, new) ∧ events = past ++ new := by
  simp only [run_eq] at ran ⊢
  exact Runs.run_split.mp ran

private theorem run_join {config : Config} {s t u : State J} {first later : List (Action J)} {past new : List (Event J)}
    (begun : run config s first = some (t, past)) (ended : run config t later = some (u, new)) :
    run config s (first ++ later) = some (u, past ++ new) := by
  simp only [run_eq] at begun ended ⊢
  exact Runs.run_split.mpr ⟨t, past, new, begun, ended, rfl⟩

/-- A run with a move after it. -/
theorem run_extend {config : Config} {s t u : State J} {actions : List (Action J)} {action : Action J}
    {past new : List (Event J)} (begun : run config s actions = some (t, past))
    (moved : step config t action = some (u, new)) : run config s (actions ++ [action]) = some (u, past ++ new) := by
  simp only [run_eq] at begun ⊢
  exact Runs.run_concat.mpr ⟨t, past, new, begun, moved, rfl⟩

/-- What holds at the start and is kept by every move holds after every run. -/
theorem run_induction {config : Config} {s : State J} {motive : List (Action J) → List (Event J) → State J → Prop}
    (begun : motive [] [] s)
    (kept : ∀ {actions past t action new u}, run config s actions = some (t, past) → motive actions past t →
      step config t action = some (u, new) → motive (actions ++ [action]) (past ++ new) u)
    {actions : List (Action J)} {events : List (Event J)} {t : State J}
    (ran : run config s actions = some (t, events)) : motive actions events t := by
  simp only [run_eq] at kept ran
  exact Runs.run_induction begun kept ran

/-- What holds of the pool that was just built and is kept by every move holds of every state that the pool gets
    into. -/
theorem reachable_induction {config : Config} {motive : State J → Prop} (begun : motive (start config))
    (kept : ∀ {s action new t}, Reachable config s → motive s → step config s action = some (t, new) → motive t)
    {s : State J} (reached : Reachable config s) : motive s := by
  obtain ⟨actions, events, ran⟩ := reached
  exact run_induction (motive := fun _ _ t => motive t) begun (fun first held last => kept ⟨_, _, first⟩ held last) ran

theorem reachable_start (config : Config) : Reachable config (start config : State J) := ⟨[], [], rfl⟩

theorem Reachable.run {config : Config} {s t : State J} {actions : List (Action J)} {events : List (Event J)}
    (reached : Reachable config s) (ran : Pool.run config s actions = some (t, events)) : Reachable config t := by
  obtain ⟨before, past, begun⟩ := reached
  exact ⟨_, _, run_join begun ran⟩

theorem Reachable.step {config : Config} {s t : State J} {action : Action J} {events : List (Event J)}
    (reached : Reachable config s) (moved : Pool.step config s action = some (t, events)) : Reachable config t :=
  reached.run (show Pool.run config s [action] = some (t, events ++ []) by simp [Pool.run, moved])

/-- What holds of a state that the pool gets into and is kept by every move holds after every run from there. -/
theorem Reachable.run_induction {config : Config} {s : State J} (reached : Reachable config s)
    {motive : List (Action J) → List (Event J) → State J → Prop} (begun : motive [] [] s)
    (kept : ∀ {actions past t action new u}, Reachable config t → motive actions past t →
      Pool.step config t action = some (u, new) → motive (actions ++ [action]) (past ++ new) u)
    {actions : List (Action J)} {events : List (Event J)} {t : State J}
    (ran : Pool.run config s actions = some (t, events)) : motive actions events t :=
  Pool.run_induction begun (fun first held last => kept (reached.run first) held last) ran

/-- What a pool that was just built comes to and what happens, if these moves can all be made. -/
def after (config : Config) (actions : List (Action J)) : State J × List (Event J) :=
  (run config (start config) actions).getD (start config, [])

theorem run_after {config : Config} {actions : List (Action J)}
    (made : (run config (start config) actions).isSome = true) :
    run config (start config) actions = some (after config actions) := by
  unfold after
  cases ran : run config (start config) actions with
  | none => simp [ran] at made
  | some moved => rfl

theorem reachable_after (config : Config) (actions : List (Action J)) : Reachable config (after config actions).1 := by
  unfold after
  cases ran : run config (start config) actions with
  | none => exact reachable_start config
  | some moved => exact ⟨actions, moved.2, ran⟩

/-- Of these moves, those that can be made in a pool that was just built, each in its turn. -/
def tried (config : Config) (actions : List (Action J)) : List (Action J) :=
  Runs.able (step config) (start config) actions

theorem run_tried (config : Config) (actions : List (Action J)) :
    run config (start config) (tried config actions) = some (after config (tried config actions)) := by
  refine run_after ?_
  rw [run_eq]
  exact Runs.isSome_run_able _ _

/-- A pool of one worker, with room for one job in its queue. -/
def smallest : Config := ⟨"smallest", 1, 1, .discard⟩

theorem smallest_buildable : smallest.Buildable := ⟨by decide, by decide⟩

theorem smallest_returns : AlwaysReturns Load.LoadJob smallest.policy := by
  have limited : smallest.policy.attemptLimit = .ok 1 := rfl
  exact alwaysReturns_of_attemptLimit limited

/-- A pool of two workers, with room for one job in its queue. -/
def pair : Config := ⟨"pair", 2, 1, .discard⟩

theorem pair_buildable : pair.Buildable := ⟨by decide, by decide⟩

theorem pair_returns : AlwaysReturns Load.LoadJob pair.policy := smallest_returns

omit [Job J] in
/-- The threads of a pool of two workers try to move in turn, so many times. -/
def turns (n : Nat) : List (Action J) := (List.replicate n [.loop, .worker 0, .worker 1, .tracker true]).flatten

end JobPool.Pool
