import JobPool.Proofs.Solo.Delivery

/-!
What a worker is still given to do after it was asked to stop. The request is noticed at the next look for
requests, and a job that gets into the inbox before the worker closes it is run. So one more job can get in,
except that a request that comes between the two looks of a waiting worker lets two get in: the worker runs
what it finds at the second look, publishes itself once more, and only then heeds the request.
-/

namespace JobPool.Solo

open JobPool.Pool (hasTicket)

variable {J : Type}

/-- The jobs that were sent with success and whose runs were begun. -/
def served (events : List (Event J)) : List (Task J) :=
  (accepted events).filter fun task => (started events).any (hasTicket task.ticket)

variable [Job J] {config : Config} {s t : State J} {action : Action J} {before later : List (Action J)}
  {events past new : List (Event J)}

/-- A worker that was asked to stop goes on being asked, or its inbox is closed, and what gets into the inbox uses up what
    can get in. -/
theorem allowance_of_move (moved : Move config s action events t) (orderly : s.worker.Orderly)
    (leaves : s.worker.leaves) :
    t.worker.leaves ∧ (accepted events).length + t.worker.allowance ≤ s.worker.allowance := by
  cases moved with
  | start =>
    unfold Worker.start
    rcases running : s.worker.running with _ | _
    · refine ⟨?_, ?_⟩
      · unfold Worker.leaves Worker.asked at *
        rcases orderly.absent running with phase | phase | phase
        · simpa [phase, Worker.Phase.isStopping] using leaves
        · exact .inr (orderly.shut (by simp [phase, Worker.Phase.isShut, Worker.Phase.isStopping]))
        · simpa [phase, Worker.Phase.isStopping] using leaves
      · rcases orderly.absent running with phase | phase | phase <;>
          simp [Worker.allowance, Worker.Phase.isBetweenLooks, phase, accepted]
    · exact ⟨leaves, by simp [accepted]⟩
  | stop =>
    have same : s.worker.stop.allowance = s.worker.allowance := rfl
    exact ⟨s.worker.leaves_stop, by simp [accepted, same]⟩
  | @join w logs joined =>
    obtain ⟨phase, inbox⟩ := Worker.join_same joined
    have pending := Worker.stopPending_of_join joined
    simp only [Worker.leaves, Worker.asked, Worker.allowance, phase, inbox, pending, (jobs_of_join logs).1] at leaves ⊢
    exact ⟨leaves, by simp⟩
  | @worker w done own =>
    have less := own.allowance orderly leaves
    rw [(jobs_of_worker done).1]
    exact ⟨own.leaves orderly leaves, by simpa [State.moved] using less⟩
  | @enter job wait unclosed room | @letIn index job found unclosed room =>
    refine ⟨leaves, ?_⟩
    simp only [accepted, Event.accepted?, List.filterMap_cons, List.filterMap_nil, List.length_singleton]
    exact Nat.le_of_eq ((Nat.add_comm _ _).trans (orderly.allowance_push unclosed room _))
  | @turnAway job wait answer refusal =>
    cases answer with
    | accepted => exact absurd rfl refusal
    | closed | full => exact ⟨leaves, by simp [accepted, Event.accepted?]⟩
  | take | dropPool | queueUp | sendBack | closeSink => exact ⟨leaves, by simp [accepted, Event.accepted?]⟩

private theorem allowance_of_run (orderly : s.worker.Orderly) (leaves : s.worker.leaves)
    (ran : Runs.run (step config) s later = some (t, new)) :
    (accepted new).length + t.worker.allowance ≤ s.worker.allowance := by
  refine (Runs.run_induction (motive := fun _ new t => t.worker.Orderly ∧ t.worker.leaves ∧
    (accepted new).length + t.worker.allowance ≤ s.worker.allowance) ⟨orderly, leaves, by simp [accepted]⟩ ?_ ran).2.2
  rintro actions past v action new u - ⟨orderly, leaves, few⟩ last
  obtain ⟨still, less⟩ := allowance_of_move (move_of_step last) orderly leaves
  refine ⟨orderly_of_move (move_of_step last) orderly, still, ?_⟩
  rw [accepted_append, List.length_append]
  omega

/-- After a request to stop, at most one job that is sent later is run, and at most two if the request came
    while the worker was between its look for requests and its look for a job. -/
theorem served_after_stop (ran : run config before = some (s, past))
    (continued : Runs.run (step config) s (.stop :: later) = some (t, new)) :
    (served new).length ≤ 1 + s.worker.phase.isBetweenLooks.toNat := by
  obtain ⟨v, quiet, rest, stopped, onward, rfl⟩ := Runs.run_cons.mp continued
  cases move_of_step stopped
  have orderly := orderly_of_run ran
  have few := allowance_of_run orderly.stop s.worker.leaves_stop onward
  have most := s.worker.stop.allowance_le
  have less : (served rest).length ≤ (accepted rest).length := List.length_filter_le _ _
  simp only [Worker.stop, List.nil_append] at few most ⊢
  omega

/-- A worker that was taken out of the pool and looked for requests. -/
def poised : List (Action Load.LoadJob) := [.start, .worker, .take, .worker]

/-- After the request one job is sent at once and another one while the first is run. -/
def latecomers : List (Action Load.LoadJob) :=
  [.send (.new 0 false) false, .worker, .send (.new 1 false) false] ++ List.replicate 9 .worker

/-- What the late jobs come to. -/
def lateness : State Load.LoadJob × List (Event Load.LoadJob) :=
  Runs.after (step lone) (after lone poised).1 (.stop :: latecomers)

theorem served_latecomers : (served lateness.2).length ≤ 2 := by
  have ran : run lone poised = some (after lone poised) := Runs.run_after rfl
  have onward : Runs.run (step lone) (after lone poised).1 (.stop :: latecomers) = some lateness := Runs.run_after rfl
  exact served_after_stop ran onward

/-- It is not so that at most one job that is sent after a request to stop is run. -/
theorem two_served_after_stop :
    ¬ ∀ (config : Config) (before later : List (Action Load.LoadJob)) (s t : State Load.LoadJob)
        (past new : List (Event Load.LoadJob)), run config before = some (s, past) →
      Runs.run (step config) s (.stop :: later) = some (t, new) → (served new).length ≤ 1 := by
  intro atMostOne
  have ran : run lone poised = some (after lone poised) := Runs.run_after rfl
  have onward : Runs.run (step lone) (after lone poised).1 (.stop :: latecomers) = some lateness := Runs.run_after rfl
  have few : (served lateness.2).length ≤ 1 :=
    atMostOne lone poised latecomers (after lone poised).1 lateness.1 (after lone poised).2 lateness.2 ran onward
  have two : (served lateness.2).length = 2 := rfl
  omega

end JobPool.Solo
