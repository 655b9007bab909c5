import JobPool.Proofs.Pool.Delivery
import JobPool.Proofs.Pool.Seeming

/-!
How much a pool takes in, and that it wastes no worker. The accepted jobs whose runs did not return are in the
hand of the loop, in the queue, or with the workers (`pending_of_run`), and of each of these places there is only
so much (`pending_le`). When no thread can move but those of workers that run jobs, every worker has its sender
out or is engaged in a run, and the loop either has nothing to do or holds a job for which there is no
worker; so the number of unfinished jobs says where they are (`backpressure_of_run`).
-/

namespace JobPool.Pool

variable {J : Type}

/-- The accepted jobs whose runs did not return. -/
def unfinished (events : List (Event J)) : List (Task J) :=
  (accepted events).filter fun task => !(returned events).any (hasTicket task.ticket)

/-- The jobs whose runs were begun and did not return. -/
def ongoing (events : List (Event J)) : List (Task J) :=
  (started events).filter fun task => !(returned events).any (hasTicket task.ticket)

namespace State

/-- How many jobs the pool took in and did not finish. -/
def pending (s : State J) : Nat := s.backlog.length + s.total Worker.load

/-- How many workers are engaged in runs. -/
def engaged (s : State J) : Nat := s.total fun w => w.phase.isEngaged.toNat

/-- How many workers run jobs. -/
def working (s : State J) : Nat := s.total fun w => w.phase.isWorking.toNat

private theorem length_inside (s : State J) : s.inside.length = s.working := by
  unfold inside working total
  induction s.members with
  | nil => rfl
  | cons m rest ih =>
    rw [List.filterMap_cons, List.map_cons, List.sum_cons, ← ih]
    simp only [← Worker.isSome_job?]
    cases m.worker.job? <;> simp [Nat.add_comm]

private theorem total_load (s : State J) : s.total Worker.load = s.unbegun (fun _ => true) + s.engaged := by
  simp only [unbegun, engaged, List.countP_true, ← total_add]
  rfl

end State

/-- What is left of a list without those that have the ticket of another one, if all others are in it as well. -/
theorem length_filter_untold {listed gone : List (Task J)} (once : ∀ n, listed.countP (hasTicket n) ≤ 1)
    (told : ∀ n, gone.countP (hasTicket n) ≤ listed.countP (hasTicket n)) :
    (listed.filter fun task => !gone.any (hasTicket task.ticket)).length + gone.length = listed.length := by
  have counts : ∀ (tasks : List (Task J)) n, (tasks.map (·.ticket)).count n = tasks.countP (hasTicket n) := by
    intro tasks n
    rw [List.count_eq_countP, List.countP_map]
    rfl
  have distinct : (listed.map (·.ticket)).Nodup :=
    List.nodup_iff_count.mpr fun n => by rw [counts]; exact once n
  have others : (gone.map (·.ticket)).Nodup :=
    List.nodup_iff_count.mpr fun n => by rw [counts]; exact (told n).trans (once n)
  -- those of the first list that are told of are as many as the others
  have same : ((listed.map (·.ticket)).filter (· ∈ gone.map (·.ticket))).Perm (gone.map (·.ticket)) := by
    refine (List.perm_ext_iff_of_nodup (distinct.filter _) others).mpr fun n => ?_
    simp only [List.mem_filter, decide_eq_true_eq, and_iff_right_iff_imp]
    intro member
    have some := List.count_pos_iff.mpr member
    rw [counts] at some
    exact List.count_pos_iff.mp (by rw [counts]; exact Nat.lt_of_lt_of_le some (told n))
  have length := same.length_eq
  rw [List.filter_map, List.length_map, List.length_map] at length
  have parts := List.length_eq_length_filter_add (l := listed) fun task => !gone.any (hasTicket task.ticket)
  have agree : (listed.filter fun task => !!gone.any (hasTicket task.ticket)).length = gone.length := by
    rw [← length]
    congr 1
    refine List.filter_congr fun task _ => Bool.eq_iff_iff.mpr ?_
    simp [hasTicket]
  omega

variable [Job J] {config : Config} {s t : State J} {action : Action J} {actions : List (Action J)}
  {events : List (Event J)}

/-- Every run that is begun engages a worker until it returns. -/
theorem engaged_of_move (moved : Move config s action events t) :
    s.engaged + (started events).length = t.engaged + (returned events).length := by
  rcases workerMove_or_phases moved with ⟨k, m, done, w, found, own, members, rfl⟩ | ⟨phases, others⟩
  · obtain ⟨-, -, -, starts, returns⟩ := jobs_of_worker k done
    have here := own.engaged
    have sums := State.total_set found members fun w => w.phase.isEngaged.toNat
    rw [starts, returns]
    simp only [State.engaged] at sums ⊢
    omega
  · obtain ⟨starts, returns⟩ := jobs_of_others others
    have same : t.engaged = s.engaged := State.total_phase_congr phases fun phase => phase.isEngaged.toNat
    simp [starts, returns, same]

private theorem pending_of_booked (booked : Booked s events t) (phases : t.phases = s.phases)
    (others : ∀ event ∈ events, event.isOfWorker = false) :
    s.pending + (accepted events).length = t.pending + (returned events).length := by
  obtain ⟨starts, returns⟩ := jobs_of_others others
  have same : t.engaged = s.engaged := State.total_phase_congr phases fun phase => phase.isEngaged.toNat
  have order := congrArg List.length booked.order
  have begun := booked.begun fun _ => true
  simp only [List.length_append, List.countP_true] at order begun
  simp only [State.pending, State.total_load, starts, returns, same, List.length_nil] at begun ⊢
  omega

/-- What is let in is pending until its run returns. -/
theorem pending_of_move (publishers : s.hasPublishers = true) (ordinary : s.Ordinary)
    (moved : Move config s action events t) :
    s.pending + (accepted events).length = t.pending + (returned events).length := by
  cases moved with
  | client moved =>
    obtain ⟨phases, others⟩ := phases_of_clientMove moved
    exact pending_of_booked (.client moved) phases others
  | owner moved =>
    obtain ⟨phases, others⟩ := phases_of_ownerMove moved
    exact pending_of_booked (.owner moved) phases others
  | loop moved =>
    obtain ⟨phases, others⟩ := phases_of_loopMove moved
    exact pending_of_booked (.loop publishers moved) phases others
  | @worker k m done w found own =>
    obtain ⟨accepts, -, -, -, returns⟩ := jobs_of_worker k done
    have here := own.load
    have sums := State.total_set (t := { s.setWorker k m w with
      idle := if done.any Worker.Event.isPublished then s.idle.push k else s.idle }) found rfl Worker.load
    rw [accepts, returns]
    simp only [State.pending, State.backlog, State.setWorker, List.length_nil] at sums ⊢
    omega
  | custom found custom => exact absurd custom (ordinary.not_custom found)
  | tracker =>
    exact pending_of_booked (.frame (by simp [Event.isSilent]) rfl rfl rfl rfl) rfl
      (by simp [Event.isOfWorker])
  | closeSink => exact pending_of_booked (.frame (by simp) rfl rfl rfl rfl) rfl (by simp)

/-- Nothing is let in when nobody can submit. -/
theorem accepted_of_alone (ordinary : s.Ordinary) (moved : Move config s action events t)
    (alone : s.hasSenders = false) :
    accepted events = [] := by
  cases moved with
  | client moved =>
    cases moved with
    | enter sender => simp [alone] at sender
    | letIn found => simp [(hasSenders_eq_false.mp alone).2.2] at found
    | @turnAway action job answer refusal => cases answer <;> simp_all [accepted, Event.accepted?]
    | _ => rfl
  | owner moved =>
    cases moved with
    | joinLoop waiting through logged | joinTracker waiting through logged =>
      refine List.filterMap_eq_nil_iff.mpr fun event member => ?_
      obtain ⟨record, rfl⟩ := logged event member
      rfl
  | loop moved => cases moved <;> simp [accepted, Event.accepted?]
  | @worker k m done => exact (jobs_of_worker k done).1
  | custom found custom => exact absurd custom (ordinary.not_custom found)
  | tracker => simp [accepted, Event.accepted?]
  | closeSink => rfl

private theorem queue_of_move (ordinary : s.Ordinary) (moved : Move config s action events t)
    (bounded : s.queue.items.length ≤ s.queue.capacity) :
    t.queue.items.length ≤ t.queue.capacity ∧ t.queue.capacity = s.queue.capacity := by
  cases moved with
  | client moved =>
    cases moved with
    | enter sender unclosed room | letIn found unclosed room => exact ⟨by simp [Channel.push]; omega, rfl⟩
    | _ => exact ⟨bounded, rfl⟩
  | owner moved => cases moved <;> exact ⟨bounded, rfl⟩
  | loop moved =>
    cases moved with
    | receive loop first =>
      rw [first, List.length_cons] at bounded
      exact ⟨by simp only; omega, rfl⟩
    | _ => exact ⟨bounded, rfl⟩
  | worker | tracker | closeSink => exact ⟨bounded, rfl⟩
  | custom found custom => exact absurd custom (ordinary.not_custom found)

/-- The queue holds no more than its capacity. -/
theorem queue_of_reachable (reached : Reachable config s) :
    s.queue.items.length ≤ s.queue.capacity ∧ s.queue.capacity = config.queueCapacity := by
  refine reachable_induction (motive := fun s => s.queue.items.length ≤ s.queue.capacity ∧
    s.queue.capacity = config.queueCapacity) ⟨by simp [start, State.new, Channel.empty], rfl⟩ ?_ reached
  rintro s action new t reached ⟨bounded, capacity⟩ moved
  obtain ⟨bounded, same⟩ := queue_of_move (ordinary_of_reachable reached) (move_of_step moved) bounded
  exact ⟨bounded, same.trans capacity⟩

omit [Job J] in
private theorem length_backlog_le (s : State J) : s.backlog.length ≤ 1 + s.queue.items.length := by
  cases job : s.loop.job? <;> simp [State.backlog, job, Nat.add_comm]

omit [Job J] in
/-- As long as the loop takes jobs, there is a place for each pending job. -/
theorem Sound.pending_le (sound : Sound config s.seeming) :
    s.pending + s.out.length ≤ s.queue.items.length + config.size + 1 := by
  have size : s.members.length = config.size := by simpa [State.seeming] using sound.size
  have few := length_backlog_le s
  have load : s.total Worker.load + s.out.length ≤ s.members.length := by
    refine State.total_add_length_le (fun k m found => ?_) fun k listed => ?_
    · exact Worker.load_of_leased (sound.seats k _ (seeming_found found)).leased
    · rw [size]; exact sound.listed k listed
  unfold State.pending
  omega

/-- There are never more pending jobs than places for them: once nobody can submit, they do not become more. -/
theorem pending_le (built : config.Buildable) (reached : Reachable config s) :
    s.pending ≤ config.queueCapacity + config.size + 1 := by
  have open_le : ∀ {s : State J}, Reachable config s → s.loop.hasLeft = false →
      s.pending ≤ config.queueCapacity + config.size + 1 := by
    intro s reached stays
    have room := (sound_of_seeming built reached stays).pending_le
    have queue := queue_of_reachable reached
    omega
  refine reachable_induction (motive := fun s => s.pending ≤ config.queueCapacity + config.size + 1) ?_ ?_ reached
  · exact open_le (reachable_start config) rfl
  · intro s action new t reached before moved
    have made := move_of_step moved
    have ordinary := ordinary_of_reachable reached
    have publishers := publishers_of_reachable built reached
    cases left : t.loop.hasLeft with
    | false => exact open_le (reached.step moved) left
    | true =>
      have alone : s.hasSenders = false := by
        rcases left_of_move publishers ordinary made left with before | alone
        · exact alone_of_reachable built reached before
        · exact alone
      have accounted := pending_of_move publishers ordinary made
      rw [accepted_of_alone ordinary made alone, List.length_nil] at accounted
      omega

/-- What was let in is pending, or its run returned; what was begun is engaged, or its run returned. -/
theorem pending_of_run (built : config.Buildable) (ran : run config (start config) actions = some (s, events)) :
    (accepted events).length = s.pending + (returned events).length ∧
      (started events).length = s.engaged + (returned events).length := by
  refine run_induction (motive := fun _ events s => (accepted events).length = s.pending + (returned events).length ∧
    (started events).length = s.engaged + (returned events).length) ?_ ?_ ran
  · have resting : (start config : State J).engaged = 0 := total_start config rfl
    have unloaded : (start config : State J).total Worker.load = 0 := total_start config rfl
    rw [State.pending, unloaded, resting]
    exact ⟨rfl, rfl⟩
  · rintro actions past t action new u first ⟨accepts, starts⟩ last
    have reached : Reachable config t := ⟨_, _, first⟩
    have pending := pending_of_move (publishers_of_reachable built reached) (ordinary_of_reachable reached)
      (move_of_step last)
    have engaged := engaged_of_move (move_of_step last)
    simp only [accepted_append, started_append, returned_append, List.length_append]
    omega

/-- Without attempts no run ever returns. -/
theorem returned_of_unlimited {fault : Fault} (limited : config.policy.attemptLimit = .error fault)
    (ran : run config (start config) actions = some (s, events)) : returned events = [] := by
  have resting : (start config : State J).working = 0 := total_start config rfl
  refine (run_induction (motive := fun _ events s => s.working = 0 ∧ returned events = []) ⟨resting, rfl⟩ ?_ ran).2
  rintro actions past t action new u - ⟨idle, silent⟩ last
  rw [returned_append, silent, List.nil_append]
  rcases workerMove_or_phases (move_of_step last) with ⟨k, m, done, w, found, own, members, rfl⟩ | ⟨phases, others⟩
  · have before := State.le_total found fun w => w.phase.isWorking.toNat
    have sums := State.total_set found members fun w => w.phase.isWorking.toNat
    simp only [State.working] at idle ⊢
    rw [idle, Nat.le_zero, Bool.toNat_eq_zero] at before
    obtain ⟨still, none⟩ := own.unreturned ((t.attemptLimit_policy config).trans limited) before
    rw [(jobs_of_worker k done).2.2.2.2]
    simp only [still, before, Bool.toNat_false] at sums
    exact ⟨by omega, none⟩
  · exact ⟨(State.total_phase_congr phases fun phase => phase.isWorking.toNat).trans idle, (jobs_of_others others).2⟩

section

variable (built : config.Buildable) (ran : run config (start config) actions = some (s, events))
include built ran

/-- Of each ticket there is at most one job that was let in, and no run of it returns that was not begun. -/
theorem tickets_of_run (returns : AlwaysReturns J config.policy) (n : Nat) :
    (accepted events).countP (hasTicket n) ≤ 1 ∧
      (started events).countP (hasTicket n) ≤ (accepted events).countP (hasTicket n) ∧
      (returned events).countP (hasTicket n) ≤ (started events).countP (hasTicket n) := by
  have few := answered_of_run built returns ran n
  have begun := accepted_of_run built returns ran (hasTicket n)
  have through := started_of_run built returns ran n
  omega

private theorem length_unfinished : (unfinished events).length = s.pending := by
  have pending := (pending_of_run built ran).1
  cases limited : config.policy.attemptLimit with
  | error fault =>
    have none := returned_of_unlimited limited ran
    simpa [unfinished, none] using pending
  | ok limit =>
    have tickets := tickets_of_run built ran (alwaysReturns_of_attemptLimit limited)
    have parts : (unfinished events).length + (returned events).length = (accepted events).length :=
      length_filter_untold (fun n => (tickets n).1) fun n => (tickets n).2.2.trans (tickets n).2.1
    omega

theorem length_ongoing : (ongoing events).length = s.engaged := by
  have engaged := (pending_of_run built ran).2
  cases limited : config.policy.attemptLimit with
  | error fault =>
    have none := returned_of_unlimited limited ran
    simpa [ongoing, none] using engaged
  | ok limit =>
    have tickets := tickets_of_run built ran (alwaysReturns_of_attemptLimit limited)
    have parts : (ongoing events).length + (returned events).length = (started events).length :=
      length_filter_untold (fun n => (tickets n).2.1.trans (tickets n).1) fun n => (tickets n).2.2
    omega

end

/-- No thread can move but those of workers that run jobs. -/
def State.Settled (config : Config) (s : State J) : Prop :=
  ∀ action : Action J, action.isThread = true → (step config s action).isSome = true →
    ∃ k m, action = .worker k ∧ s.members[k]? = some m ∧ m.worker.job?.isSome = true

namespace State.Settled

variable (settled : s.Settled config) (sound : Sound config s.seeming) (stays : s.loop.hasLeft = false)
include settled sound stays

/-- Each worker waits with its sender out or is engaged in a run, and has nothing else to do. -/
theorem worker_rests {k : Nat} {m : Member (Task J)} (found : s.members[k]? = some m) :
    m.worker.held = [] ∧ m.worker.phase.isEngaged.toNat + s.out.count k = 1 := by
  have seat := sound.seats k _ (seeming_found found)
  have unasked : s.loop.asks k = false := Loop.asks_of_stays stays k
  have unstopped : m.worker.phase.isStopping = false := by
    have asked : m.worker.seeming.asked = false := seat.asked.trans unasked
    cases phase : m.worker.phase <;>
      simp_all [Worker.asked, Worker.seeming, Worker.Phase.seeming, Worker.Phase.isStopping]
  have admitted : m.worker.phase = .publishing → s.admission ≠ .full := fun phase =>
    sound.admitted (seeming_found found) (by simp [Worker.seeming, phase, Worker.Phase.seeming])
  have rests : m.worker.advance (s.policy config) k s.admission = none ∨ m.worker.job?.isSome = true := by
    cases moved : m.worker.advance (s.policy config) k s.admission with
    | none => exact .inl rfl
    | some next =>
      right
      have free : (step config s (.worker k)).isSome = true := by simp [step, State.moveWorker, found, moved]
      obtain ⟨j, n, same, at_j, runs⟩ := settled _ rfl free
      cases same
      rw [found] at at_j
      cases at_j
      exact runs
  exact Worker.load_of_rest seat.leased unstopped admitted rests

/-- The loop has nothing to do, or holds a job for which there is no worker. -/
theorem loop_rests (wired : Tracker.Wired s.handles s.tracker) :
    (s.loop = .receiving ∧ s.queue.items = []) ∨ ∃ task, s.loop = .seeking task ∧ s.idle.items = [] := by
  have waits : step config s .loop = none := by
    cases moved : step config s .loop with
    | none => rfl
    | some next =>
      obtain ⟨k, m, same, -⟩ := settled .loop rfl (by simp [moved])
      cases same
  simp only [step, State.moveLoop] at waits
  cases loop : s.loop with
  | receiving =>
    cases items : s.queue.items with
    | nil => exact .inl ⟨rfl, rfl⟩
    | cons task rest => simp [loop, Channel.take?, items] at waits
  | seeking task =>
    cases items : s.idle.items with
    | nil => exact .inr ⟨task, rfl, rfl⟩
    | cons k rest => simp [loop, Channel.take?, items] at waits
  | leased => simp [loop] at waits
  | sampling task k busy =>
    have full : s.tracker.send (.sample busy) = none := by simpa [loop] using waits
    have moves := wired.moves_on full config.name true
    obtain ⟨j, m, same, -⟩ := settled (.tracker true) rfl (by simpa [step, State.moveTracker] using moves)
    cases same
  | handing task k =>
    have handed : (s.seeming.hand config task k).isSome = true := sound.handed loop
    have none : s.hand config task k = none := by simpa [loop] using waits
    rw [hand_seeming, none] at handed
    cases handed
  | _ => simp [loop, Loop.hasLeft] at stays

private theorem engaged_add_out : s.engaged + s.out.length = config.size := by
  have size : s.members.length = config.size := by simpa [State.seeming] using sound.size
  rw [← size]
  refine State.total_add_length_eq (fun k m found => (settled.worker_rests sound stays found).2) fun k listed => ?_
  rw [size]
  exact sound.listed k listed

private theorem pending_eq : s.pending = s.backlog.length + s.engaged := by
  have unbegun : s.unbegun (fun _ => true) = 0 :=
    State.total_eq_zero fun k m found => by rw [(settled.worker_rests sound stays found).1]; rfl
  rw [State.pending, State.total_load, unbegun, Nat.zero_add]

/-- The pending jobs engage the workers first, then the loop; the rest is queued. -/
theorem filled (wired : Tracker.Wired s.handles s.tracker) :
    s.engaged = min s.pending config.size ∧ (s.loop.job?.isSome = true ↔ config.size < s.pending) ∧
      s.queue.items.length = s.pending - config.size - 1 := by
  have shared := settled.engaged_add_out sound stays
  have pending := settled.pending_eq sound stays
  rcases settled.loop_rests sound stays wired with ⟨loop, empty⟩ | ⟨task, loop, alone⟩
  · have backlog : s.backlog.length = 0 := by simp [State.backlog, loop, Loop.job?, empty]
    have holds : s.loop.job?.isSome = false := by rw [loop]; rfl
    have queued : s.queue.items.length = 0 := by rw [empty]; rfl
    refine ⟨by omega, ?_, by omega⟩
    simp only [holds, Bool.false_eq_true, false_iff]
    omega
  · have backlog : s.backlog.length = 1 + s.queue.items.length := by simp [State.backlog, loop, Loop.job?, Nat.add_comm]
    have holds : s.loop.job?.isSome = true := by rw [loop]; rfl
    have out : s.out.length = 0 := by simp [State.out, loop, Loop.lessee, alone]
    refine ⟨by omega, ?_, by omega⟩
    simp only [holds, true_iff]
    omega

end State.Settled

omit [Job J] in
/-- Where no run of a job faults, a worker is engaged in a run just as long as it runs a job. -/
theorem Sound.length_inside (sound : Sound config s) : s.inside.length = s.engaged := by
  rw [State.length_inside]
  refine congrArg List.sum (List.map_congr_left fun m member => ?_)
  obtain ⟨k, found⟩ := List.mem_iff_getElem?.mp member
  have leased := (sound.seats k m found).leased
  cases phase : m.worker.phase <;> simp_all [Worker.Phase.isWorking, Worker.Phase.isEngaged, Worker.Leased]

/-- A submission that does not wait is turned away because the queue is full exactly when it holds as much as it can. -/
theorem full_iff (own : s.ownSender = true) (unclosed : s.queue.closed = false) (job : J) :
    (∃ t, step config s (.submit job false) = some (t, [.submitted ⟨s.nextTicket, job⟩ .full])) ↔
      s.queue.capacity ≤ s.queue.items.length := by
  simp only [step, own, ↓reduceIte, State.submit]
  by_cases room : s.queue.items.length < s.queue.capacity
  · simp only [Channel.offer_of_room unclosed room]
    constructor
    · rintro ⟨t, same⟩
      simp at same
    · omega
  · simp only [Channel.offer_of_full unclosed room]
    constructor
    · omega
    · intro full
      exact ⟨_, rfl⟩

/-- There are never more unfinished jobs than places for them in the queue, with the workers and in the hand of the
    loop. And when no thread can move but those of workers that run jobs and somebody can still submit, the workers are
    engaged in as many of the unfinished jobs as there are workers, the loop holds one more, the queue holds the rest,
    and the queue is full for the owner exactly when every place is taken. -/
theorem backpressure_of_run (built : config.Buildable) (roomy : 0 < config.queueCapacity)
    (ran : run config (start config) actions = some (s, events)) :
    (unfinished events).length ≤ config.queueCapacity + config.size + 1 ∧
    (s.Settled config → s.hasSenders = true →
      (ongoing events).length = min (unfinished events).length config.size ∧
      (AlwaysReturns J config.policy → s.inside.length = min (unfinished events).length config.size) ∧
      (s.loop.job?.isSome = true ↔ config.size < (unfinished events).length) ∧
      s.queue.items.length = (unfinished events).length - config.size - 1 ∧
      (s.ownSender = true → ∀ job,
        (∃ t, step config s (.submit job false) = some (t, [.submitted ⟨s.nextTicket, job⟩ .full])) ↔
          (unfinished events).length = config.queueCapacity + config.size + 1)) := by
  have reached : Reachable config s := ⟨_, _, ran⟩
  rw [length_unfinished built ran, length_ongoing built ran]
  refine ⟨pending_le built reached, fun settled senders => ?_⟩
  have stays : s.loop.hasLeft = false :=
    Bool.eq_false_iff.mpr fun left => by simp [alone_of_reachable built reached left] at senders
  have sound := sound_of_seeming built reached stays
  obtain ⟨bounded, capacity⟩ := queue_of_reachable reached
  have unclosed : s.queue.closed = false := sound.queueClosed.trans (Loop.isOver_of_stays stays)
  obtain ⟨engaged, holds, queued⟩ := settled.filled sound stays (wired_of_ordinary reached)
  refine ⟨engaged, fun returns => ?_, holds, queued, fun own job => ?_⟩
  · rw [(sound_of_reachable built returns reached).length_inside, engaged]
  · rw [full_iff own unclosed job]
    omega

/-- Both workers run a job, the loop holds one and the queue another. -/
def congestion : List (Action Load.LoadJob) :=
  tried pair ([.worker 0, .worker 1, .submit (.new 0 false) false] ++ List.replicate 5 .loop ++
    [.submit (.new 1 false) false, .tracker true] ++ List.replicate 5 .loop ++ List.replicate 3 (.worker 0) ++
    List.replicate 3 (.worker 1) ++ [.submit (.new 2 false) false, .loop, .submit (.new 3 false) false, .tracker true])

private theorem congestion_settled : (after pair congestion).1.Settled pair := by
  intro action thread free
  cases action with
  | worker k =>
    match k with
    | 0 => exact ⟨0, _, rfl, rfl, rfl⟩
    | 1 => exact ⟨1, _, rfl, rfl, rfl⟩
    | k + 2 =>
      have none : step pair (after pair congestion).1 (.worker (k + 2)) = none := rfl
      simp [none] at free
  | owner | loop => cases free
  | tracker accepts => cases accepts <;> cases free
  | _ => cases thread

theorem congestion_backpressure :
    (after pair congestion).1.inside.map (·.ticket) = [0, 1] ∧
      (unfinished (after pair congestion).2).length ≤ 4 ∧
      (ongoing (after pair congestion).2).length = min (unfinished (after pair congestion).2).length 2 ∧
      ∀ job, (∃ t, step pair (after pair congestion).1 (.submit job false) =
          some (t, [.submitted ⟨4, job⟩ .full])) ↔
        (unfinished (after pair congestion).2).length = 4 := by
  have ran : run pair (start pair) congestion = some (after pair congestion) := run_tried pair _
  obtain ⟨few, settled⟩ := backpressure_of_run pair_buildable (by decide) ran
  obtain ⟨engaged, -, -, -, full⟩ := settled congestion_settled rfl
  exact ⟨rfl, few, engaged, full rfl⟩

end JobPool.Pool
