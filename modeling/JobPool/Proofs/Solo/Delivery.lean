import JobPool.Proofs.Pool.Delivery
import JobPool.Proofs.Solo.Run

/-!
The jobs that are sent to a worker by itself. A job that got into the inbox is there, or in the hands of the
worker, or its run was begun, and a run that was begun goes on or returned; every move accounts for that
(`accounted_of_move`). A closed inbox stays closed, so that a worker that ended has run all that it was sent.
-/

namespace JobPool.Solo

open JobPool.Pool (Submission AlwaysReturns hasTicket)

variable {J : Type}

namespace Event

/-- The job that got into the inbox. -/
def accepted? : Event J → Option (Task J)
  | .sent task .accepted => some task
  | _ => none

/-- The job that its sender kept. -/
def refused? : Event J → Option (Task J)
  | .sent task .closed => some task
  | .sent task .full => some task
  | _ => none

def started? : Event J → Option (Task J)
  | .worker event => event.started?
  | _ => none

def returned? : Event J → Option (Task J)
  | .worker event => event.returned?
  | _ => none

end Event

/-- The jobs that were sent with success, in this order. -/
def accepted (events : List (Event J)) : List (Task J) := events.filterMap Event.accepted?

/-- The jobs that were sent without success. -/
def refused (events : List (Event J)) : List (Task J) := events.filterMap Event.refused?

/-- The jobs whose runs were begun. -/
def started (events : List (Event J)) : List (Task J) := events.filterMap Event.started?

/-- The jobs whose runs are over, as their last attempts left them. -/
def returned (events : List (Event J)) : List (Task J) := events.filterMap Event.returned?

section

variable (events more : List (Event J))

theorem accepted_append : accepted (events ++ more) = accepted events ++ accepted more := List.filterMap_append

private theorem refused_append : refused (events ++ more) = refused events ++ refused more := List.filterMap_append

private theorem started_append : started (events ++ more) = started events ++ started more := List.filterMap_append

private theorem returned_append : returned (events ++ more) = returned events ++ returned more := List.filterMap_append

end

private theorem mem_accepted {events : List (Event J)} {task : Task J} :
    task ∈ accepted events ↔ .sent task .accepted ∈ events := by
  simp only [accepted, List.mem_filterMap]
  constructor
  · rintro ⟨event, member, found⟩
    unfold Event.accepted? at found
    split at found
    · cases found; exact member
    · cases found
  · intro member
    exact ⟨_, member, rfl⟩

private theorem mem_refused {events : List (Event J)} {task : Task J} {answer : Submission}
    (member : .sent task answer ∈ events) (refusal : answer ≠ .accepted) : task ∈ refused events := by
  refine List.mem_filterMap.mpr ⟨_, member, ?_⟩
  cases answer with
  | accepted => exact absurd rfl refusal
  | closed | full => rfl

/-- Nothing but the worker's own moves shows in these events, and what shows is this. -/
theorem jobs_of_worker (done : List (Worker.Event (Task J))) :
    accepted (done.map .worker) = [] ∧ refused (done.map .worker) = [] ∧
      started (done.map .worker) = Worker.started done ∧ returned (done.map .worker) = Worker.returned done := by
  refine ⟨?_, ?_, List.filterMap_map, List.filterMap_map⟩
  · simp [accepted, Event.accepted?, Function.comp_def]
  · simp [refused, Event.refused?, Function.comp_def]

theorem jobs_of_join (logs : List Record) :
    accepted (logs.map (Event.joined (J := J))) = [] ∧ refused (logs.map (Event.joined (J := J))) = [] ∧
      started (logs.map (Event.joined (J := J))) = [] ∧ returned (logs.map (Event.joined (J := J))) = [] := by
  refine ⟨?_, ?_, ?_, ?_⟩
  · simp [accepted, Event.accepted?, Function.comp_def]
  · simp [refused, Event.refused?, Function.comp_def]
  · simp [started, Event.started?, Function.comp_def]
  · simp [returned, Event.returned?, Function.comp_def]

/-- How many tickets with this number were given out. -/
def State.issued (s : State J) (n : Nat) : Nat := if n < s.nextTicket then 1 else 0

private theorem issued_new (s : State J) (job : J) (n : Nat) :
    s.issued n + [(⟨s.nextTicket, job⟩ : Task J)].countP (hasTicket n) = if n < s.nextTicket + 1 then 1 else 0 := by
  simp only [State.issued, List.countP_singleton, hasTicket, beq_iff_eq]
  split_ifs <;> omega

variable [Job J] {config : Config} {s t u : State J} {action : Action J} {actions : List (Action J)}
  {events more : List (Event J)}

/-- What happens on the way from one state to another accounts for where the jobs are in the two. -/
structure Accounted (s : State J) (events : List (Event J)) (t : State J) : Prop where
  begun : ∀ p, s.worker.held.countP p + (accepted events).countP p =
    t.worker.held.countP p + (started events).countP p
  ended : ∀ p, (∀ task, p (Job.attempt task).2 = p task) →
    s.worker.job?.toList.countP p + (started events).countP p =
      t.worker.job?.toList.countP p + (returned events).countP p
  answered : ∀ n, s.issued n + t.waiting.countP (hasTicket n) + (accepted events).countP (hasTicket n) +
    (refused events).countP (hasTicket n) = t.issued n + s.waiting.countP (hasTicket n)

namespace Accounted

private theorem refl (s : State J) : Accounted s [] s := by
  constructor <;> simp [accepted, refused, started, returned]

private theorem trans (first : Accounted s events t) (second : Accounted t more u) :
    Accounted s (events ++ more) u where
  begun := by
    intro p
    have one := first.begun p
    have two := second.begun p
    simp only [accepted_append, started_append, List.countP_append]
    omega
  ended := by
    intro p lasting
    have one := first.ended p lasting
    have two := second.ended p lasting
    simp only [returned_append, started_append, List.countP_append]
    omega
  answered := by
    intro n
    have one := first.answered n
    have two := second.answered n
    simp only [accepted_append, refused_append, List.countP_append]
    omega

/-- What happens while no job moves. -/
theorem frame (quiet : accepted events = [] ∧ refused events = [] ∧ started events = [] ∧ returned events = [])
    (held : t.worker.held = s.worker.held) (job : t.worker.job? = s.worker.job?) (waiting : t.waiting = s.waiting)
    (tickets : t.nextTicket = s.nextTicket) : Accounted s events t := by
  obtain ⟨accepts, refuses, starts, returns⟩ := quiet
  constructor
  · simp [accepts, starts, held]
  · simp [starts, returns, job]
  · simp [accepts, refuses, waiting, State.issued, tickets]

/-- A job gets into the inbox. -/
theorem ofEntry {task : Task J} (unmoved : t.worker = { s.worker with inbox := s.worker.inbox.push task })
    (answered : ∀ n, s.issued n + t.waiting.countP (hasTicket n) + [task].countP (hasTicket n) =
      t.issued n + s.waiting.countP (hasTicket n)) : Accounted s [.sent task .accepted] t := by
  have held : t.worker.held = s.worker.held ++ [task] := by
    simp [unmoved, Worker.held, Worker.taken?, Channel.push]
  have job : t.worker.job? = s.worker.job? := by simp [unmoved, Worker.job?]
  constructor
  · simp [accepted, started, Event.accepted?, Event.started?, held, List.filterMap_cons]
  · simp [started, returned, Event.started?, Event.returned?, job, List.filterMap_cons]
  · simpa [accepted, refused, Event.accepted?, Event.refused?, List.filterMap_cons] using answered

/-- A job stays with its sender. -/
theorem ofRefusal {task : Task J} {answer : Submission} (refusal : answer ≠ .accepted) (unmoved : t.worker = s.worker)
    (answered : ∀ n, s.issued n + t.waiting.countP (hasTicket n) + [task].countP (hasTicket n) =
      t.issued n + s.waiting.countP (hasTicket n)) : Accounted s [.sent task answer] t := by
  have refuses : refused [Event.sent task answer] = [task] := by
    cases answer with
    | accepted => exact absurd rfl refusal
    | closed | full => rfl
  have accepts : accepted [Event.sent task answer] = [] := by
    cases answer with
    | accepted => exact absurd rfl refusal
    | closed | full => rfl
  constructor
  · simp [accepts, started, Event.started?, unmoved, List.filterMap_cons]
  · simp [started, returned, Event.started?, Event.returned?, unmoved, List.filterMap_cons]
  · simpa [accepts, refuses] using answered

end Accounted

omit [Job J] in
private theorem State.attemptLimit_policy (config : Config) (s : State J) :
    (s.policy config).attemptLimit = config.policy.attemptLimit := by
  unfold State.policy
  split
  · exact Pool.attemptLimit_withoutSink config.policy
  · rfl

/-- Every move accounts for the jobs; a start drops none, since there is a thread wherever there is a job. -/
theorem accounted_of_move (returns : AlwaysReturns J config.policy) (orderly : s.worker.Orderly)
    (moved : Move config s action events t) : Accounted s events t := by
  cases moved with
  | start =>
    unfold Worker.start
    rcases running : s.worker.running with _ | _
    · refine .frame ⟨rfl, rfl, rfl, rfl⟩ ?_ ?_ rfl rfl
      · rcases orderly.absent running with phase | phase | phase <;> simp [Worker.held, Worker.taken?, phase]
      · rcases orderly.absent running with phase | phase | phase <;> simp [Worker.job?, phase]
    · exact .refl _
  | join joined =>
    obtain ⟨phase, inbox⟩ := Worker.join_same joined
    refine .frame (jobs_of_join _) ?_ ?_ rfl rfl
    · simp [Worker.held, Worker.taken?, phase, inbox]
    · simp [Worker.job?, phase]
  | @worker w done own =>
    obtain ⟨accepts, refuses, starts, ends⟩ := jobs_of_worker done
    have intact := own.intact (returns.tasks (s.attemptLimit_policy config))
    constructor
    · intro p
      have here := own.begins p
      rw [accepts, starts]
      simpa [State.moved] using here
    · intro p lasting
      have here := own.returns intact lasting
      rw [starts, ends]
      simpa [State.moved] using here
    · simp [accepts, refuses, State.moved, State.issued]
  | @enter job wait unclosed room =>
    refine .ofEntry rfl ?_
    intro n
    have new := issued_new s job n
    simp only [State.issued] at new ⊢
    omega
  | @turnAway job wait answer refusal =>
    refine .ofRefusal refusal rfl ?_
    intro n
    have new := issued_new s job n
    simp only [State.issued] at new ⊢
    omega
  | @queueUp job =>
    refine ⟨by simp [accepted, started], by simp [started, returned], ?_⟩
    intro n
    have new := issued_new s job n
    simp only [accepted, refused, List.filterMap_nil, List.countP_nil, List.countP_append, State.issued] at new ⊢
    omega
  | letIn found unclosed room =>
    refine .ofEntry rfl ?_
    intro n
    have rest := Pool.countP_eraseIdx found (hasTicket n)
    simp only [State.issued] at rest ⊢
    omega
  | sendBack found =>
    refine .ofRefusal (by simp) rfl ?_
    intro n
    have rest := Pool.countP_eraseIdx found (hasTicket n)
    simp only [State.issued] at rest ⊢
    omega
  | stop | take | dropPool | closeSink => exact .frame ⟨rfl, rfl, rfl, rfl⟩ rfl rfl rfl rfl

private theorem accounted_of_run (returns : AlwaysReturns J config.policy)
    (ran : run config actions = some (s, events)) :
    Accounted (start config) events s := by
  refine Runs.run_induction (motive := fun _ events s => Accounted (start config) events s) (.refl _) ?_ ran
  intro actions past t action new u first accounted last
  exact accounted.trans (accounted_of_move returns (orderly_of_run first) (move_of_step last))

/-- Every job that got into the inbox is there, with the worker that is yet to run it, or was begun to be run. -/
theorem accepted_of_run (returns : AlwaysReturns J config.policy) (ran : run config actions = some (s, events))
    (p : Task J → Bool) : (accepted events).countP p = s.worker.held.countP p + (started events).countP p := by
  have begun := (accounted_of_run returns ran).begun p
  simpa [start, Worker.new, Worker.held, Worker.taken?, Channel.empty] using begun

/-- No two jobs that are sent have the same ticket. -/
theorem answered_of_run (returns : AlwaysReturns J config.policy) (ran : run config actions = some (s, events))
    (n : Nat) :
    (accepted events).countP (hasTicket n) + (refused events).countP (hasTicket n) ≤ 1 := by
  have all := (accounted_of_run returns ran).answered n
  have few : s.issued n ≤ 1 := by unfold State.issued; split <;> omega
  simp only [start, State.issued, List.countP_nil] at all few
  omega

/-- A closed inbox stays closed, and no job gets into it. -/
theorem closed_of_move (moved : Move config s action events t) (closed : s.worker.inbox.closed = true) :
    t.worker.inbox.closed = true ∧ accepted events = [] := by
  cases moved with
  | start =>
    unfold Worker.start
    split <;> exact ⟨closed, rfl⟩
  | join joined => exact ⟨by rw [(Worker.join_same joined).2, closed], (jobs_of_join _).1⟩
  | @worker w done own => exact ⟨own.closed closed, (jobs_of_worker done).1⟩
  | enter unclosed | letIn found unclosed => simp [closed] at unclosed
  | @turnAway job wait answer refusal =>
    refine ⟨closed, ?_⟩
    cases answer with
    | accepted => exact absurd rfl refusal
    | closed | full => rfl
  | stop | take | dropPool | queueUp | sendBack | closeSink => exact ⟨closed, rfl⟩

private theorem closed_of_run {later : List (Action J)} {new : List (Event J)} (closed : s.worker.inbox.closed = true)
    (ran : Runs.run (step config) s later = some (t, new)) : t.worker.inbox.closed = true ∧ accepted new = [] := by
  refine Runs.run_induction (motive := fun _ new t => t.worker.inbox.closed = true ∧ accepted new = []) ⟨closed, rfl⟩ ?_
    ran
  rintro actions past v action new u - ⟨shut, silent⟩ last
  obtain ⟨still, none⟩ := closed_of_move (move_of_step last) shut
  exact ⟨still, by rw [accepted_append, silent, none, List.append_nil]⟩

/-- Whatever is done to a worker whose policy returns, the jobs that got into its inbox are run once when it ended,
    those that did not get in are never run, and after the worker closed its inbox none gets in. -/
theorem sent_jobs_of_run (returns : AlwaysReturns J config.policy) (ran : run config actions = some (s, events)) :
    (∀ n, (accepted events).countP (hasTicket n) + (refused events).countP (hasTicket n) ≤ 1) ∧
    (∀ n, (started events).countP (hasTicket n) ≤ 1) ∧
    (∀ task ∈ started events, .sent task .accepted ∈ events) ∧
    (∀ task answer, .sent task answer ∈ events → answer ≠ .accepted →
      (started events).countP (hasTicket task.ticket) = 0) ∧
    (s.worker.phase = .ended → ∀ task, .sent task .accepted ∈ events →
      (started events).countP (hasTicket task.ticket) = 1 ∧ (returned events).countP (hasTicket task.ticket) = 1) ∧
    (s.worker.inbox.closed = true → ∀ later t new, Runs.run (step config) s later = some (t, new) →
    accepted new = []) := by
  have orderly := orderly_of_run ran
  have accounted := accounted_of_run returns ran
  have begun := accepted_of_run returns ran
  have once := answered_of_run returns ran
  refine ⟨once, ?_, ?_, ?_, ?_, ?_⟩
  · intro n
    have few := once n
    have all := begun (hasTicket n)
    omega
  · -- what is accounted for is every predicate, so also being this very task
    classical
    intro task member
    have some : 0 < (started events).countP (fun other => decide (other = task)) :=
      List.countP_pos_iff.mpr ⟨task, member, by simp⟩
    have all := begun fun other => decide (other = task)
    have pos : 0 < (accepted events).countP (fun other => decide (other = task)) := by omega
    obtain ⟨other, listed, same⟩ := List.countP_pos_iff.mp pos
    rw [← of_decide_eq_true same]
    exact mem_accepted.mp listed
  · intro task answer member refusal
    have listed : 0 < (refused events).countP (hasTicket task.ticket) :=
      List.countP_pos_iff.mpr ⟨task, mem_refused member refusal, by simp [hasTicket]⟩
    have few := once task.ticket
    have all := begun (hasTicket task.ticket)
    omega
  · intro ended task member
    have listed : 0 < (accepted events).countP (hasTicket task.ticket) :=
      List.countP_pos_iff.mpr ⟨task, mem_accepted.mpr member, by simp [hasTicket]⟩
    have few := once task.ticket
    have all := begun (hasTicket task.ticket)
    have through := accounted.ended (hasTicket task.ticket) fun _ => rfl
    simp only [Worker.held, Worker.taken?, Worker.job?, ended, orderly.drained ended, start, Worker.new,
      Option.toList_none,
      List.append_nil, List.countP_nil] at all through
    omega
  · intro closed later t new continued
    exact (closed_of_run closed continued).2

/-- A worker with room for itself in the pool. -/
def lone : Config := ⟨"lone", 0, 1, .discard⟩

/-- A job is sent before the worker heeds the stop, another one after it closed its inbox. -/
def parting : List (Action Load.LoadJob) :=
  [.start, .worker, .take, .send (.new 0 false) true, .stop, .worker, .worker, .send (.new 1 false) true, .worker,
  .worker, .worker,
    .worker]

theorem parting_jobs :
    (after lone parting).1.worker.phase = .ended ∧
      (started (after lone parting).2).countP (hasTicket 0) = 1 ∧
      (returned (after lone parting).2).countP (hasTicket 0) = 1 ∧
      (started (after lone parting).2).countP (hasTicket 1) = 0 := by
  have returns : AlwaysReturns Load.LoadJob lone.policy := Pool.alwaysReturns_of_attemptLimit rfl
  have ran : run lone parting = some (after lone parting) := Runs.run_after rfl
  obtain ⟨-, -, -, unrun, once, -⟩ := sent_jobs_of_run returns ran
  have taken : (after lone parting).2[1]? = some (.sent ⟨0, .new 0 false⟩ .accepted) := rfl
  have late : (after lone parting).2[2]? = some (.sent ⟨1, .new 1 false⟩ .closed) := rfl
  obtain ⟨begun, through⟩ := once rfl _ (List.mem_of_getElem? taken)
  exact ⟨rfl, begun, through, unrun _ _ (List.mem_of_getElem? late) (by simp)⟩

end JobPool.Solo
