import JobPool.Proofs.Pool.Phases
import JobPool.Proofs.Pool.Soundness

/-!
Every accepted job is run once. What a pool lets in, hands to its workers, begins to run and is through
with is read off the events of a run; `Booked` says how a run moves jobs from one of these to the next,
and holds of every move (`booked_of_move`), so of every run. Nothing that was refused is run, nothing
is run twice, and once the loop is over every accepted job was run to its end.
-/

namespace JobPool.Pool

variable {J : Type}

namespace Event

/-- The job that was let into the queue. -/
def accepted? : Event J → Option (Task J)
  | .submitted task .accepted => some task
  | _ => none

/-- The job that was not let into the queue. -/
def refused? : Event J → Option (Task J)
  | .submitted task .closed => some task
  | .submitted task .full => some task
  | _ => none

/-- The job that was put into the inbox of a worker. -/
def handed? : Event J → Option (Task J)
  | .handed task _ => some task
  | _ => none

/-- The job whose run begins. -/
def started? : Event J → Option (Task J)
  | .worker _ event => event.started?
  | _ => none

/-- The job whose run is over. -/
def returned? : Event J → Option (Task J)
  | .worker _ event => event.returned?
  | _ => none

/-- The event has nothing to do with the way of a job. -/
def isSilent : Event J → Bool
  | .submitted _ _ => false
  | .handed _ _ => false
  | .worker _ _ => false
  | _ => true

end Event

/-- The jobs that were let into the queue, in this order. -/
def accepted (events : List (Event J)) : List (Task J) := events.filterMap Event.accepted?

/-- The jobs that were not let into the queue. -/
def refused (events : List (Event J)) : List (Task J) := events.filterMap Event.refused?

/-- The jobs that were handed to workers, in this order. -/
def handed (events : List (Event J)) : List (Task J) := events.filterMap Event.handed?

/-- The jobs whose runs were begun. -/
def started (events : List (Event J)) : List (Task J) := events.filterMap Event.started?

/-- The jobs whose runs are over, as their last attempts left them. -/
def returned (events : List (Event J)) : List (Task J) := events.filterMap Event.returned?

section

variable (events more : List (Event J))

theorem accepted_append : accepted (events ++ more) = accepted events ++ accepted more := List.filterMap_append

theorem refused_append : refused (events ++ more) = refused events ++ refused more := List.filterMap_append

theorem handed_append : handed (events ++ more) = handed events ++ handed more := List.filterMap_append

theorem started_append : started (events ++ more) = started events ++ started more := List.filterMap_append

theorem returned_append : returned (events ++ more) = returned events ++ returned more := List.filterMap_append

end

/-- The job that the loop holds. -/
def Loop.job? {T : Type} : Loop T → Option T
  | .seeking job => some job
  | .leased job _ => some job
  | .sampling job _ _ => some job
  | .handing job _ => some job
  | _ => none

namespace State

/-- The accepted jobs that were not handed to a worker, the oldest first. -/
def backlog (s : State J) : List (Task J) := s.loop.job?.toList ++ s.queue.items

/-- How many jobs of a kind the workers are yet to run. -/
def unbegun (s : State J) (p : Task J → Bool) : Nat := s.total fun w => w.held.countP p

/-- How many jobs of a kind the workers run. -/
def underway (s : State J) (p : Task J → Bool) : Nat := s.total fun w => w.job?.toList.countP p

/-- How many tickets with this number were given out. -/
def issued (s : State J) (n : Nat) : Nat := if n < s.nextTicket then 1 else 0

end State

/-- The job has this ticket. -/
def hasTicket (n : Nat) (task : Task J) : Bool := task.ticket == n

/-- What happens on the way from one state to another accounts for where the jobs are in the two. -/
structure Booked [Job J] (s : State J) (events : List (Event J)) (t : State J) : Prop where
  order : s.backlog ++ accepted events = handed events ++ t.backlog
  begun : ∀ p, s.unbegun p + (handed events).countP p = t.unbegun p + (started events).countP p
  ended : ∀ p, (∀ task, p (Job.attempt task).2 = p task) →
    s.underway p + (started events).countP p = t.underway p + (returned events).countP p
  answered : ∀ n, s.issued n + t.waiting.countP (hasTicket n) + (accepted events).countP (hasTicket n) +
    (refused events).countP (hasTicket n) = t.issued n + s.waiting.countP (hasTicket n)

theorem silent_nil {events : List (Event J)} (silent : ∀ event ∈ events, event.isSilent = true) :
    accepted events = [] ∧ refused events = [] ∧ handed events = [] ∧ started events = [] ∧ returned events = [] := by
  refine ⟨?_, ?_, ?_, ?_, ?_⟩ <;> refine List.filterMap_eq_nil_iff.mpr fun event member => ?_
  all_goals
    have quiet := silent event member
    cases event <;> simp_all [Event.isSilent, Event.accepted?, Event.refused?, Event.handed?, Event.started?,
      Event.returned?]

/-- What a worker does says nothing of submissions and hand-overs, and of runs what the worker says. -/
theorem jobs_of_worker (k : Nat) (done : List (Worker.Event (Task J))) :
    accepted (done.map (.worker k)) = [] ∧ refused (done.map (.worker k)) = [] ∧ handed (done.map (.worker k)) = [] ∧
      started (done.map (.worker k)) = Worker.started done ∧ returned (done.map (.worker k)) =
      Worker.returned done := by
  refine ⟨?_, ?_, ?_, List.filterMap_map, List.filterMap_map⟩
  · simp [accepted, Event.accepted?, Function.comp_def]
  · simp [refused, Event.refused?, Function.comp_def]
  · simp [handed, Event.handed?, Function.comp_def]

/-- What no worker did begins no run and ends none. -/
theorem jobs_of_others {events : List (Event J)} (others : ∀ event ∈ events, event.isOfWorker = false) :
    started events = [] ∧ returned events = [] := by
  constructor <;> refine List.filterMap_eq_nil_iff.mpr fun event member => ?_
  all_goals
    have other := others event member
    cases event <;> simp_all [Event.isOfWorker, Event.started?, Event.returned?]

/-- A submission uses up the next ticket. -/
private theorem issued_new (s : State J) (job : J) (n : Nat) :
    s.issued n + [(⟨s.nextTicket, job⟩ : Task J)].countP (hasTicket n) = if n < s.nextTicket + 1 then 1 else 0 := by
  simp only [State.issued, List.countP_singleton, hasTicket, beq_iff_eq]
  split_ifs <;> omega

/-- A submission that waited waits no more. -/
theorem countP_eraseIdx {index : Nat} {task : Task J} {l : List (Task J)} (found : l[index]? = some task)
    (p : Task J → Bool) : (l.eraseIdx index).countP p + [task].countP p = l.countP p := by
  obtain ⟨inside, rfl⟩ := List.getElem?_eq_some_iff.mp found
  rw [← (List.getElem_cons_eraseIdx_perm inside).countP_eq p, ← List.countP_append]
  exact (List.perm_append_singleton _ _).countP_eq p

namespace Booked

variable [Job J] {s t u : State J} {events more : List (Event J)}

theorem refl (s : State J) : Booked s [] s := by
  constructor <;> simp [accepted, refused, handed, started, returned]

theorem trans (first : Booked s events t) (second : Booked t more u) : Booked s (events ++ more) u where
  order := by
    rw [accepted_append, handed_append, ← List.append_assoc, first.order, List.append_assoc, second.order,
      List.append_assoc]
  begun := by
    intro p
    have one := first.begun p
    have two := second.begun p
    simp only [handed_append, started_append, List.countP_append]
    omega
  ended := by
    intro p lasting
    have one := first.ended p lasting
    have two := second.ended p lasting
    simp only [returned_append, started_append, List.countP_append]
    omega
  answered := by
    intro n
    have one := first.answered n
    have two := second.answered n
    simp only [accepted_append, refused_append, List.countP_append]
    omega

/-- What happens while no worker and no job in the hand of the loop moves. -/
theorem ofClient (members : t.members = s.members)
    (quiet : handed events = [] ∧ started events = [] ∧ returned events = [])
    (order : s.backlog ++ accepted events = t.backlog)
    (answered : ∀ n, s.issued n + t.waiting.countP (hasTicket n) + (accepted events).countP (hasTicket n) +
      (refused events).countP (hasTicket n) = t.issued n + s.waiting.countP (hasTicket n)) : Booked s events t := by
  obtain ⟨hands, starts, returns⟩ := quiet
  refine ⟨?_, ?_, ?_, answered⟩
  · rw [order, hands, List.nil_append]
  · simp [hands, starts, State.unbegun, State.total_congr members]
  · simp [starts, returns, State.underway, State.total_congr members]

/-- What happens while no job moves. -/
theorem frame (silent : ∀ event ∈ events, event.isSilent = true) (backlog : t.backlog = s.backlog)
    (members : t.members = s.members) (waiting : t.waiting = s.waiting) (tickets : t.nextTicket = s.nextTicket) :
    Booked s events t := by
  obtain ⟨accepts, refuses, quiet⟩ := silent_nil silent
  refine ofClient members quiet ?_ ?_
  · rw [accepts, backlog, List.append_nil]
  · simp [accepts, refuses, waiting, State.issued, tickets]

theorem client {config : Config} {action : Action J} (moved : ClientMove config s action events t) :
    Booked s events t := by
  cases moved with
  | @enter action job sender unclosed room =>
    refine ofClient rfl ⟨rfl, rfl, rfl⟩ ?_ ?_
    · simp [State.backlog, accepted, Event.accepted?, Channel.push]
    · intro n
      have new := issued_new s job n
      simp only [accepted, refused, List.filterMap_cons, Event.accepted?, Event.refused?, List.filterMap_nil,
        List.countP_nil, State.issued] at new ⊢
      omega
  | @turnAway action job answer refusal =>
    refine ofClient rfl ⟨rfl, rfl, rfl⟩ ?_ ?_
    · cases answer <;> simp_all [State.backlog, accepted, Event.accepted?]
    · intro n
      have new := issued_new s job n
      cases answer with
      | accepted => exact absurd rfl refusal
      | closed | full =>
        simp only [accepted, refused, List.filterMap_cons, Event.accepted?, Event.refused?, List.filterMap_nil,
          List.countP_nil, State.issued] at new ⊢
        omega
  | @queueUp action job sender unclosed full =>
    refine ofClient rfl ⟨rfl, rfl, rfl⟩ ?_ ?_
    · simp [State.backlog, accepted]
    · intro n
      have new := issued_new s job n
      simp only [accepted, refused, List.filterMap_nil, List.countP_nil, List.countP_append, State.issued] at new ⊢
      omega
  | @letIn action index task found unclosed room =>
    refine ofClient rfl ⟨rfl, rfl, rfl⟩ ?_ ?_
    · simp [State.backlog, accepted, Event.accepted?, Channel.push]
    · intro n
      have rest := countP_eraseIdx found (hasTicket n)
      simp only [accepted, refused, List.filterMap_cons, Event.accepted?, Event.refused?, List.filterMap_nil,
        List.countP_nil, State.issued] at rest ⊢
      omega
  | @sendBack action index task found closed =>
    refine ofClient rfl ⟨rfl, rfl, rfl⟩ ?_ ?_
    · simp [State.backlog, accepted, Event.accepted?]
    · intro n
      have rest := countP_eraseIdx found (hasTicket n)
      simp only [accepted, refused, List.filterMap_cons, Event.accepted?, Event.refused?, List.filterMap_nil,
        List.countP_nil, State.issued] at rest ⊢
      omega
  | share | drop | close | finish | finishAgain | letGo | letGoLate | reset | resetNobody | ask | askNobody =>
    exact frame (by simp [Event.isSilent]) rfl rfl rfl rfl

theorem owner {config : Config} (moved : OwnerMove config s events t) : Booked s events t := by
  cases moved with
  | joinLoop waiting through logged | joinTracker waiting through logged =>
    refine frame ?_ rfl rfl rfl rfl
    intro event member
    obtain ⟨record, rfl⟩ := logged event member
    rfl

private theorem worker {policy : Policy} {pool : Worker.Admission} {k : Nat} {m : Member (Task J)}
    {events : List (Worker.Event (Task J))} {w : Worker (Task J)} (found : s.members[k]? = some m)
    (moved : Worker.Move policy k pool m.worker events w) (intact : w.phase ≠ .crashed)
    (members : t.members = s.members.set k { m with worker := w }) (backlog : t.backlog = s.backlog)
    (waiting : t.waiting = s.waiting) (tickets : t.nextTicket = s.nextTicket) :
    Booked s (events.map (.worker k)) t := by
  obtain ⟨accepts, refuses, hands, starts, returns⟩ := jobs_of_worker k events
  constructor
  · rw [accepts, hands, backlog, List.append_nil, List.nil_append]
  · intro p
    have here := moved.begins p
    have sums := State.total_set found members fun w => w.held.countP p
    rw [hands, starts]
    simp only [State.unbegun, List.countP_nil] at sums ⊢
    omega
  · intro p lasting
    have here := moved.returns intact lasting
    have sums := State.total_set found members fun w => w.job?.toList.countP p
    rw [starts, returns]
    simp only [State.underway] at sums ⊢
    omega
  · intro n
    simp [accepts, refuses, waiting, State.issued, tickets]

/-- What happens while a worker changes but not what it is yet to run or runs. -/
theorem ofWorker {k : Nat} {m : Member (Task J)} {w : Worker (Task J)} (found : s.members[k]? = some m)
    (members : t.members = s.members.set k { m with worker := w }) (phase : w.phase = m.worker.phase)
    (items : w.inbox.items = m.worker.inbox.items) (silent : ∀ event ∈ events, event.isSilent = true)
    (backlog : t.backlog = s.backlog) (waiting : t.waiting = s.waiting) (tickets : t.nextTicket = s.nextTicket) :
    Booked s events t := by
  obtain ⟨accepts, refuses, hands, starts, returns⟩ := silent_nil silent
  have holds : w.held = m.worker.held := by simp [Worker.held, Worker.taken?, phase, items]
  have runs : w.job? = m.worker.job? := by simp [Worker.job?, phase]
  constructor
  · rw [accepts, hands, backlog, List.append_nil, List.nil_append]
  · intro p
    have same : t.unbegun p = s.unbegun p := State.total_set_same found members (by rw [holds])
    rw [hands, starts, same]
  · intro p lasting
    have same : t.underway p = s.underway p := State.total_set_same found members (by rw [runs])
    rw [starts, returns, same]
  · simp [accepts, refuses, waiting, State.issued, tickets]

private theorem hand {task : Task J} {k : Nat} {m : Member (Task J)} (loop : s.loop = .handing task k)
    (found : s.members[k]? = some m) :
    Booked s [.handed task k]
      { s.setWorker k m { m.worker with inbox := m.worker.inbox.push task } with loop := .receiving } where
  order := by simp [State.backlog, loop, Loop.job?, State.setWorker, accepted, Event.accepted?, handed, Event.handed?]
  begun := by
    intro p
    have sums := State.total_set (t := { s.setWorker k m { m.worker with inbox := m.worker.inbox.push task } with
      loop := .receiving }) found rfl fun w => w.held.countP p
    have holds : Worker.held { m.worker with inbox := m.worker.inbox.push task } = m.worker.held ++ [task] := by
      simp [Worker.held, Worker.taken?, Channel.push]
    simp only [holds, List.countP_append] at sums
    simp only [handed, Event.handed?, started, Event.started?, List.filterMap_cons, List.filterMap_nil, List.countP_nil,
      State.unbegun]
    omega
  ended := by
    intro p lasting
    have same : State.underway { s.setWorker k m { m.worker with inbox := m.worker.inbox.push task } with
      loop := .receiving } p = s.underway p := State.total_set_same found rfl (by rfl)
    rw [same]
    rfl
  answered := fun _ => rfl

private theorem retire {loop : Loop (Task J)} (before : s.loop.job? = none) (after : loop.job? = none)
    (silent : ∀ event ∈ events, event.isSilent = true) : Booked s events (s.closeLoop loop) := by
  obtain ⟨accepts, refuses, hands, starts, returns⟩ := silent_nil silent
  constructor
  · simp [accepts, hands, State.backlog, State.closeLoop, Channel.close, before, after]
  · intro p
    rw [hands, starts, State.unbegun, State.unbegun, State.total_closeLoop s loop fun w => by rfl]
  · intro p lasting
    rw [returns, starts, State.underway, State.underway, State.total_closeLoop s loop fun w => by rfl]
  · intro n
    rw [accepts, refuses]
    rfl

theorem loop {config : Config} (publishers : s.hasPublishers = true) (moved : LoopMove config s events t) :
    Booked s events t := by
  cases moved with
  | receive loop first => exact frame (by simp) (by simp [State.backlog, loop, first, Loop.job?]) rfl rfl rfl
  | leave loop | lease loop | count loop | sample loop | announce loop | stoppedAll loop | joinedAll loop
  | stopCustom loop | joinCustom loop | takeBack loop =>
    exact frame (by simp [Event.isSilent]) (by simp [State.backlog, loop, Loop.job?]) rfl rfl rfl
  | lose loop empty alone => simp [publishers] at alone
  | hand loop found => exact hand loop found
  | stop loop found =>
    refine ofWorker found rfl rfl rfl (by simp) ?_ rfl rfl
    simp [State.backlog, loop, Loop.job?, State.setWorker]
  | stopFaulty loop => exact retire (by simp [loop, Loop.job?]) rfl (by simp)
  | join loop found standard joined =>
    obtain ⟨phase, inbox⟩ := Worker.join_same joined
    refine ofWorker found rfl phase (by rw [inbox]) (by simp [Event.isSilent]) ?_ rfl rfl
    simp [State.backlog, loop, Loop.job?, State.setWorker]
  | retire loop => exact retire (by simp [loop, Loop.job?]) rfl (by simp [Event.isSilent])

end Booked

variable [Job J] {config : Config} {s t : State J} {actions : List (Action J)} {events : List (Event J)}

/-- Every move accounts for where the jobs are. -/
theorem booked_of_move (sound : Sound config s) (built : config.Buildable) (returns : AlwaysReturns J config.policy)
    {action : Action J} (moved : Move config s action events t) : Booked s events t := by
  cases moved with
  | client moved => exact .client moved
  | owner moved => exact .owner moved
  | loop moved => exact .loop (sound.publishers built) moved
  | worker found moved =>
    refine .worker found moved (moved.intact returns.run_policy) ?_ rfl rfl rfl
    rfl
  | custom found custom => exact absurd custom (sound.not_custom found)
  | tracker => exact .frame (by simp [Event.isSilent]) rfl rfl rfl rfl
  | closeSink => exact .frame (by simp) rfl rfl rfl rfl

/-- So does every run. -/
theorem booked_of_run (built : config.Buildable) (returns : AlwaysReturns J config.policy)
    (ran : run config (start config) actions = some (s, events)) : Booked (start config) events s := by
  refine run_induction (motive := fun _ events s => Booked (start config) events s) (.refl _) ?_ ran
  intro actions past t action new u first booked last
  exact booked.trans (booked_of_move (sound_of_reachable built returns ⟨_, _, first⟩) built returns (move_of_step last))

omit [Job J] in
/-- A pool that was just built sums up to nothing if a worker that was just started counts for nothing. -/
theorem total_start (config : Config) {f : Worker (Task J) → Nat} (idle : f Worker.new.start = 0) :
    (start config : State J).total f = 0 :=
  State.total_eq_zero fun k m found => by rw [member_of_start found]; exact idle

omit [Job J] in
theorem unbegun_start (config : Config) (p : Task J → Bool) : (start config : State J).unbegun p = 0 :=
  total_start config rfl

omit [Job J] in
theorem underway_start (config : Config) (p : Task J → Bool) : (start config : State J).underway p = 0 :=
  total_start config rfl

omit [Job J] in
/-- Once the loop is over, nothing is left of the jobs it let in. -/
theorem Sound.over_idle (sound : Sound config s) (through : s.loop.isOver = true) (p : Task J → Bool) :
    s.backlog = [] ∧ s.unbegun p = 0 ∧ s.underway p = 0 := by
  have ended := sound.ended_of_isOver through
  have left : s.loop.hasLeft = true := by rw [ended]; rfl
  refine ⟨?_, ?_, ?_⟩
  · simp [State.backlog, ended, Loop.job?, (sound.drained left).1]
  · refine State.total_eq_zero fun k m found => ?_
    obtain ⟨phase, empty⟩ := sound.at_rest through found
    simp [Worker.held, Worker.taken?, phase, empty]
  · refine State.total_eq_zero fun k m found => ?_
    simp [Worker.job?, (sound.at_rest through found).1]

/-- Every job that was let in is in the hand of the loop or in the queue, is with a worker that is yet to run it, or
    was begun to be run. -/
theorem Booked.accepted_eq (booked : Booked (start config) events s) (p : Task J → Bool) :
    (accepted events).countP p = s.backlog.countP p + s.unbegun p + (started events).countP p := by
  have order : accepted events = handed events ++ s.backlog := booked.order
  have begun := booked.begun p
  rw [unbegun_start] at begun
  rw [order, List.countP_append]
  omega

/-- A job that was begun to be run is run, or its run is over. -/
theorem Booked.started_eq (booked : Booked (start config) events s) {p : Task J → Bool}
    (lasting : ∀ task, p (Job.attempt task).2 = p task) :
    (started events).countP p = s.underway p + (returned events).countP p := by
  have ended := booked.ended p lasting
  rw [underway_start] at ended
  omega

theorem accepted_of_run (built : config.Buildable) (returns : AlwaysReturns J config.policy)
    (ran : run config (start config) actions = some (s, events)) (p : Task J → Bool) :
    (accepted events).countP p = s.backlog.countP p + s.unbegun p + (started events).countP p :=
  (booked_of_run built returns ran).accepted_eq p

theorem started_of_run (built : config.Buildable) (returns : AlwaysReturns J config.policy)
    (ran : run config (start config) actions = some (s, events)) (n : Nat) :
    (started events).countP (hasTicket n) = s.underway (hasTicket n) + (returned events).countP (hasTicket n) :=
  (booked_of_run built returns ran).started_eq fun _ => rfl

/-- No two submissions have the same ticket. -/
theorem answered_of_run (built : config.Buildable) (returns : AlwaysReturns J config.policy)
    (ran : run config (start config) actions = some (s, events)) (n : Nat) :
    (accepted events).countP (hasTicket n) + (refused events).countP (hasTicket n) ≤ 1 := by
  have answered := (booked_of_run built returns ran).answered n
  have none : (start config : State J).waiting.countP (hasTicket n) = 0 := rfl
  have few : s.issued n ≤ 1 := by unfold State.issued; split <;> omega
  omega

omit [Job J] in
theorem mem_accepted {task : Task J} : task ∈ accepted events ↔ .submitted task .accepted ∈ events := by
  constructor
  · intro member
    obtain ⟨event, happened, same⟩ := List.mem_filterMap.mp member
    unfold Event.accepted? at same
    split at same
    · cases same; exact happened
    · cases same
  · intro happened
    exact List.mem_filterMap.mpr ⟨_, happened, rfl⟩

omit [Job J] in
private theorem mem_refused {task : Task J} {answer : Submission} (happened : .submitted task answer ∈ events)
    (refusal : answer ≠ .accepted) : task ∈ refused events := by
  refine List.mem_filterMap.mpr ⟨_, happened, ?_⟩
  cases answer with
  | accepted => exact absurd rfl refusal
  | closed | full => rfl

omit [Job J] in
/-- A submission has its own ticket. -/
theorem countP_own {task : Task J} {tasks : List (Task J)} (member : task ∈ tasks) :
    0 < tasks.countP (hasTicket task.ticket) :=
  List.countP_pos_iff.mpr ⟨task, member, by simp [hasTicket]⟩

/-- In every run of a pool, no job is begun to be run twice, none that was refused is run, only what was accepted is
    run, and once the loop is over, every accepted job was run once and its run returned. -/
theorem delivery_of_run (built : config.Buildable) (returns : AlwaysReturns J config.policy)
    (ran : run config (start config) actions = some (s, events)) :
    (∀ n, (accepted events).countP (hasTicket n) + (refused events).countP (hasTicket n) ≤ 1) ∧
    (∀ n, (started events).countP (hasTicket n) ≤ 1) ∧
    (∀ task ∈ started events, .submitted task .accepted ∈ events) ∧
    (∀ task answer, .submitted task answer ∈ events → answer ≠ .accepted →
      (started events).countP (hasTicket task.ticket) = 0) ∧
    (s.loop.isOver = true → ∀ task, .submitted task .accepted ∈ events →
      (started events).countP (hasTicket task.ticket) = 1 ∧ (returned events).countP (hasTicket task.ticket) = 1) := by
  have answered := answered_of_run built returns ran
  have accounted := fun p => accepted_of_run built returns ran p
  refine ⟨answered, ?_, ?_, ?_, ?_⟩
  · intro n
    have few := answered n
    have all := accounted (hasTicket n)
    omega
  · -- what is accounted for is every predicate, so also being this very task
    classical
    intro task member
    have begun : 0 < (started events).countP (fun other => decide (other = task)) :=
      List.countP_pos_iff.mpr ⟨task, member, by simp⟩
    have all := accounted fun other => decide (other = task)
    have pos : 0 < (accepted events).countP (fun other => decide (other = task)) := by omega
    obtain ⟨other, listed, same⟩ := List.countP_pos_iff.mp pos
    rw [← of_decide_eq_true same]
    exact mem_accepted.mp listed
  · intro task answer happened refusal
    have own := countP_own (mem_refused happened refusal)
    have few := answered task.ticket
    have all := accounted (hasTicket task.ticket)
    omega
  · intro through task happened
    obtain ⟨backlog, unbegun, underway⟩ :=
      (sound_of_reachable built returns ⟨_, _, ran⟩).over_idle through (hasTicket task.ticket)
    have own := countP_own (mem_accepted.mpr happened)
    have few := answered task.ticket
    have all := accounted (hasTicket task.ticket)
    have ended := started_of_run built returns ran task.ticket
    rw [backlog, unbegun, List.countP_nil] at all
    rw [underway] at ended
    omega

/-- Two jobs are let in and run by one worker each before the pool is closed; between them, the queue has no room for
    another one. -/
def errand : List (Action Load.LoadJob) :=
  tried pair ([.submit (.new 0 false) false, .submit (.new 1 false) false] ++ turns 4 ++
    [.submit (.new 2 false) false, .close] ++ turns 30)

theorem errand_delivered :
    (after pair errand).2[0]? = some (.submitted ⟨0, .new 0 false⟩ .accepted) ∧
      (after pair errand).2[1]? = some (.submitted ⟨1, .new 1 false⟩ .full) ∧
      (started (after pair errand).2).countP (hasTicket 1) = 0 ∧
      (after pair errand).1.loop.isOver = true ∧
      .handed ⟨0, .new 0 false⟩ 0 ∈ (after pair errand).2 ∧ .handed ⟨2, .new 2 false⟩ 1 ∈ (after pair errand).2 ∧
      ∀ ticket, ticket = 0 ∨ ticket = 2 → (started (after pair errand).2).countP (hasTicket ticket) = 1 ∧
        (returned (after pair errand).2).countP (hasTicket ticket) = 1 := by
  have ran : run pair (start pair) errand = some (after pair errand) := run_tried pair _
  obtain ⟨-, -, -, unrun, once⟩ := delivery_of_run pair_buildable pair_returns ran
  have first : (after pair errand).2[0]? = some (.submitted ⟨0, .new 0 false⟩ .accepted) := rfl
  have full : (after pair errand).2[1]? = some (.submitted ⟨1, .new 1 false⟩ .full) := rfl
  have second : (after pair errand).2[6]? = some (.submitted ⟨2, .new 2 false⟩ .accepted) := rfl
  have handed : (after pair errand).2[7]? = some (.handed ⟨0, .new 0 false⟩ 0) := rfl
  have other : (after pair errand).2[13]? = some (.handed ⟨2, .new 2 false⟩ 1) := rfl
  have through : (after pair errand).1.loop.isOver = true := rfl
  refine ⟨first, full, unrun _ _ (List.mem_of_getElem? full) (by simp), through, List.mem_of_getElem? handed,
    List.mem_of_getElem? other, ?_⟩
  rintro ticket (rfl | rfl)
  · exact once through _ (List.mem_of_getElem? first)
  · exact once through _ (List.mem_of_getElem? second)

end JobPool.Pool
