import JobPool.Proofs.Load.Moves
import JobPool.Proofs.Pool.Carried

/-!
The course of a load run. Its phase tells which jobs the pool took so far, which submission waits for room in the queue,
and whether the pool is finished (`Course`); every move keeps to that (`course_of_move`).
-/

namespace JobPool.Pool

variable {J : Type}

/-- Somebody submits a job, or goes on with submitting it. -/
def Action.isSubmission : Action J → Bool
  | .submit _ _ => true
  | .submitOther _ _ => true
  | .resume _ => true
  | _ => false

variable [Job J] {config : Config} {s t : State J} {action : Action J} {events : List (Event J)}

omit [Job J] in
private theorem waiting_of_tell {event : Tracker.Event} (told : s.tell event = some t) : t.waiting = s.waiting := by
  unfold State.tell at told
  split at told
  · obtain ⟨tracker, -, rfl⟩ := Option.map_eq_some_iff.mp told
    rfl
  · cases told
    rfl

private theorem unanswered_of_thread (thread : action.isThread = true) (moved : Move config s action events t) :
    t.waiting = s.waiting ∧ ∀ task answer, .submitted task answer ∉ events := by
  cases moved with
  | client moved outside => cases action <;> simp_all [Action.isThread, Action.isClient]
  | owner moved =>
    cases moved with
    | joinLoop waiting through logged | joinTracker waiting through logged =>
      refine ⟨rfl, fun task answer listed => ?_⟩
      obtain ⟨record, same⟩ := logged _ listed
      cases same
  | loop moved => cases moved <;> exact ⟨rfl, by simp⟩
  | worker | tracker => exact ⟨rfl, by simp⟩
  | custom | closeSink => cases thread

/-- Only submissions are answered, and only they change who waits for room in the queue. -/
theorem unanswered_of_step (moved : step config s action = some (t, events)) (other : action.isSubmission = false) :
    t.waiting = s.waiting ∧ ∀ task answer, .submitted task answer ∉ events := by
  cases action with
  | submit | submitOther | resume => cases other
  | owner | loop | worker | tracker => exact unanswered_of_thread rfl (move_of_step moved)
  | close => cases moved; exact ⟨rfl, by simp⟩
  | shareSender | dropSender =>
    simp only [step] at moved
    split at moved
    · cases moved; exact ⟨rfl, by simp⟩
    · cases moved
  | closeSink =>
    simp only [step] at moved
    split at moved
    · cases moved
    · cases moved; exact ⟨rfl, by simp⟩
  | finish | letGo =>
    simp only [step] at moved
    split at moved
    · cases moved; exact ⟨rfl, by simp⟩
    · cases moved; exact ⟨rfl, by simp⟩
    · cases moved
  | resetTracker =>
    obtain ⟨u, told, same⟩ := Option.map_eq_some_iff.mp moved
    cases same
    exact ⟨waiting_of_tell told, by simp⟩
  | askTracker caller =>
    simp only [step, State.ask] at moved
    split at moved
    · obtain ⟨u, told, same⟩ := Option.map_eq_some_iff.mp moved
      cases same
      exact ⟨waiting_of_tell told, by simp⟩
    · cases moved
      exact ⟨rfl, by simp⟩
  | custom k act =>
    cases move_of_step moved with
    | client moved outside => cases outside
    | custom found custom moved =>
      obtain ⟨rfl, idle, m, rfl, -⟩ := of_moveCustom found moved
      exact ⟨rfl, by simp⟩

omit [Job J] in
/-- A submission is answered at once, or waits. -/
theorem answer_of_submit (s : State J) (job : J) (wait : Bool) :
    (∃ answer, (s.submit job wait).2 = [.submitted ⟨s.nextTicket, job⟩ answer] ∧
      (s.submit job wait).1.waiting = s.waiting) ∨
      (s.submit job wait).2 = [] ∧ (s.submit job wait).1.waiting = s.waiting ++ [⟨s.nextTicket, job⟩] := by
  unfold State.submit
  cases offer : s.queue.offer ⟨s.nextTicket, job⟩ with
  | taken queue => exact .inl ⟨.accepted, by simp only [offer], by simp only [offer]⟩
  | closed => exact .inl ⟨.closed, by simp only [offer], by simp only [offer]⟩
  | full =>
    cases wait with
    | true => exact .inr (by simp [offer])
    | false => exact .inl ⟨.full, by simp [offer]⟩

omit [Job J] in
private theorem answer_of_resume (moved : s.resume 0 = some (t, events)) :
    ∃ task rest answer, s.waiting = task :: rest ∧ events = [.submitted task answer] ∧ t.waiting = rest := by
  unfold State.resume at moved
  cases waiting : s.waiting with
  | nil => simp [waiting] at moved
  | cons task rest =>
    simp only [waiting, List.getElem?_cons_zero, List.eraseIdx_cons_zero] at moved
    cases offer : s.queue.offer task with
    | taken queue => simp only [offer] at moved; cases moved; exact ⟨task, rest, .accepted, rfl, rfl, rfl⟩
    | closed => simp only [offer] at moved; cases moved; exact ⟨task, rest, .closed, rfl, rfl, rfl⟩
    | full => simp only [offer] at moved; cases moved

private theorem OverMove.unanswered {r r' : Metric.Registry} (moved : OverMove config r s action events r' t)
    (other : action.isSubmission = false) : t.waiting = s.waiting ∧ ∀ task answer, .submitted task answer ∉ events := by
  cases moved with
  | quiet moved => exact unanswered_of_step moved other
  | raise => exact ⟨rfl, by simp⟩

private theorem finished_of_thread (thread : action.isThread = true)
    (moved : Move config s action events t) (finished : s.owner = .finished) : t.owner = .finished := by
  cases moved with
  | client moved outside => cases action <;> simp_all [Action.isThread, Action.isClient]
  | owner moved =>
    cases moved with
    | joinLoop waiting => rw [waiting] at finished; cases finished
    | joinTracker => rfl
  | loop moved => cases moved <;> exact finished
  | worker | tracker => exact finished
  | custom | closeSink => cases thread

end JobPool.Pool

namespace JobPool.Load

/-- How many jobs the pool took before a run got into a phase. -/
def Phase.through (config : Config) : Phase → Nat
  | .submitting n => n - 1
  | .blocked n => n - 1
  | .refused n => n - 1
  | .submitted n => n
  | .asking (some n) => n
  | .hearing (some n) => n
  | .resetting n => n
  | _ => config.jobs

/-- The job whose submission waits for room in the queue. -/
def Phase.awaits : Phase → Option Nat
  | .blocked n => some n
  | _ => none

/-- The run has seen the end of its pool. -/
def Phase.isPast : Phase → Bool
  | .pushing _ => true
  | .finished _ => true
  | _ => false

/-- Where a run is, given what happened in its pool. -/
structure Course (config : Config) (past : List (Pool.Event LoadJob)) (s : State) : Prop where
  accepted : (Pool.accepted past).map Task.job = (List.range' 1 (s.phase.through config)).map config.job
  waiting : s.pool.waiting.map Task.job = (s.phase.awaits.map config.job).toList
  within : s.phase.through config ≤ config.jobs
  numbered : ∀ n, s.phase = .submitting n ∨ s.phase = .blocked n → 0 < n
  left : ∀ n, s.phase.awaits = some n → n ≤ config.jobs
  ended : s.phase.isPast = true → s.pool.owner = .finished

/-- The pool took no more jobs when the run went from one phase to another. -/
structure Phase.Follows (config : Config) (phase next : Phase) : Prop where
  through : next.through config = phase.through config
  awaits : next.awaits = phase.awaits
  numbered : ∀ n, next = .submitting n ∨ next = .blocked n → 0 < n ∨ next = phase

private theorem Phase.Follows.refl (config : Config) (phase : Phase) : phase.Follows config phase :=
  ⟨rfl, rfl, fun _ _ => .inr rfl⟩

private theorem Phase.Follows.trans {config : Config} {phase next last : Phase} (first : phase.Follows config next)
    (second : next.Follows config last) : phase.Follows config last := by
  refine ⟨second.through.trans first.through, second.awaits.trans first.awaits, fun n at_n => ?_⟩
  rcases second.numbered n at_n with some | same
  · exact .inl some
  · subst same
    exact first.numbered n at_n

variable {config : Config} {s t : State} {past events : List (Pool.Event LoadJob)}

/-- What the run hears, other than the answer to a submission, tells it nothing about its jobs. -/
theorem follows_hear (config : Config) (phase : Phase) {event : Pool.Event LoadJob}
    (other : ∀ task answer, event ≠ .submitted task answer) :
    phase.Follows config (phase.hear event) ∧ (phase.hear event).isPast = phase.isPast := by
  cases event with
  | submitted task answer => exact absurd rfl (other task answer)
  | tracker effect =>
    cases effect with
    | answer caller greatest =>
      cases phase with
      | hearing after => cases after <;> exact ⟨⟨rfl, rfl, by simp [Phase.hear]⟩, rfl⟩
      | _ => exact ⟨.refl .., rfl⟩
    | _ => exact ⟨.refl .., rfl⟩
  | _ => exact ⟨.refl .., rfl⟩

private theorem follows_of_unanswered (config : Config) (phase : Phase)
    (quiet : ∀ task answer, .submitted task answer ∉ events) :
    phase.Follows config (events.foldl Phase.hear phase) ∧ (events.foldl Phase.hear phase).isPast = phase.isPast := by
  induction events generalizing phase with
  | nil => exact ⟨.refl .., rfl⟩
  | cons event rest ih =>
    have other : ∀ task answer, event ≠ .submitted task answer := by
      rintro task answer rfl
      exact quiet task answer List.mem_cons_self
    obtain ⟨first, past⟩ := follows_hear config phase other
    obtain ⟨later, pasts⟩ := ih (phase.hear event) fun task answer listed =>
      quiet task answer (List.mem_cons_of_mem _ listed)
    exact ⟨first.trans later, pasts.trans past⟩

private theorem accepted_of_unanswered (quiet : ∀ task answer, .submitted task answer ∉ events) :
    Pool.accepted events = [] := by
  rw [List.eq_nil_iff_forall_not_mem]
  intro task listed
  exact quiet task .accepted (Pool.mem_accepted.mp listed)

/-- The run goes on while its pool takes no job. -/
theorem Course.follow (course : Course config past s) (quiet : Pool.accepted events = [])
    (waiting : t.pool.waiting = s.pool.waiting) (follows : s.phase.Follows config t.phase)
    (ended : t.phase.isPast = true → t.pool.owner = .finished) : Course config (past ++ events) t where
  accepted := by
    rw [Pool.accepted_append, quiet, List.append_nil, follows.through]
    exact course.accepted
  waiting := by
    rw [waiting, follows.awaits]
    exact course.waiting
  within := by
    rw [follows.through]
    exact course.within
  numbered := by
    intro n at_n
    rcases follows.numbered n at_n with some | same
    · exact some
    · rw [same] at at_n
      exact course.numbered n at_n
  left := by
    rw [follows.awaits]
    exact course.left
  ended := ended

/-- The run learns what became of a job. -/
theorem Course.answer (course : Course config past s) {n : Nat} (through : s.phase.through config = n - 1)
    (some : 0 < n)
    (left : n ≤ config.jobs) {task : Task LoadJob} (job : task.job = config.job n) {answer : Pool.Submission}
    (phase : t.phase = if answer = .accepted then .submitted n else .refused n) (none : t.pool.waiting = []) :
    Course config (past ++ [.submitted task answer]) t := by
  have before := course.accepted
  rw [through] at before
  by_cases taken : answer = .accepted
  · subst taken
    have now : t.phase = .submitted n := phase
    refine ⟨?_, ?_, ?_, ?_, ?_, ?_⟩
    · have numbers : List.range' 1 n = List.range' 1 (n - 1) ++ [n] := by
        have last : List.range' 1 (n - 1 + 1) = List.range' 1 (n - 1) ++ [1 + (n - 1)] := List.range'_1_concat
        have same : 1 + (n - 1) = n := by omega
        rwa [Nat.sub_add_cancel some, same] at last
      rw [Pool.accepted_append, List.map_append, before, now, Phase.through, numbers, List.map_append,
        List.map_singleton, ← job]
      rfl
    · rw [none, now]
      rfl
    · rw [now]
      exact left
    · simp [now]
    · simp [now, Phase.awaits]
    · simp [now, Phase.isPast]
  · have now : t.phase = .refused n := by rw [phase, if_neg taken]
    have refused : Pool.accepted [(.submitted task answer : Pool.Event LoadJob)] = [] := by
      cases answer with
      | accepted => exact absurd rfl taken
      | closed | full => rfl
    refine ⟨?_, ?_, ?_, ?_, ?_, ?_⟩
    · rw [Pool.accepted_append, refused, List.append_nil, before, now, Phase.through]
    · rw [none, now]
      rfl
    · rw [now, Phase.through]
      omega
    · simp [now]
    · simp [now, Phase.awaits]
    · simp [now, Phase.isPast]

/-- A submission waits for room in the queue. -/
theorem Course.block (course : Course config past s) {n : Nat} (submits : s.phase = .submitting n)
    (left : n ≤ config.jobs)
    (waiting : t.pool.waiting.map Task.job = [config.job n]) (phase : t.phase = .blocked n) :
    Course config (past ++ []) t := by
  have through : t.phase.through config = s.phase.through config := by rw [phase, submits]; rfl
  refine ⟨?_, ?_, ?_, ?_, ?_, by simp [phase, Phase.isPast]⟩
  · rw [List.append_nil, through]
    exact course.accepted
  · rw [waiting, phase]
    rfl
  · rw [through]
    exact course.within
  · rw [phase]
    rintro other (same | same)
    · cases same
    · cases same
      exact course.numbered n (.inl submits)
  · rw [phase]
    rintro other ⟨⟩
    exact left

private theorem course_of_stage {action : Pool.Action LoadJob} {phase : Phase} {registry : Metric.Registry}
    {pool : Pool.State LoadJob} (course : Course config past s) (stage : Stage config s action phase)
    (moved : Pool.OverMove config.pool s.sink.registry s.pool action events registry pool) :
    Course config (past ++ events)
      { s with
        pool := pool
        sink := { s.sink with registry := registry }
        phase := events.foldl Phase.hear phase } := by
  -- only a submission is answered with what becomes of a job
  have still : action.isSubmission = false → s.phase.Follows config phase →
      (phase.isPast = true → pool.owner = .finished) → Course config (past ++ events)
        { s with
          pool := pool
          sink := { s.sink with registry := registry }
          phase := events.foldl Phase.hear phase } := by
    intro other follows ended
    obtain ⟨waiting, quiet⟩ := moved.unanswered other
    obtain ⟨heard, alike⟩ := follows_of_unanswered config phase quiet
    exact course.follow (accepted_of_unanswered quiet) waiting (follows.trans heard) fun gone => ended (alike ▸ gone)
  cases stage with
  | thread own =>
    have other : action.isSubmission = false := by cases action <;> first | rfl | cases own
    exact still other (.refl ..) fun gone => Pool.finished_of_thread own moved.move (course.ended gone)
  | @ask after asks =>
    refine still rfl ⟨?_, ?_, by simp⟩ (by simp [Phase.isPast])
    · rw [asks]
      cases after <;> rfl
    · rw [asks]
      rfl
  | reset forgets => exact still rfl ⟨by rw [forgets]; rfl, by rw [forgets]; rfl, by simp⟩ (by simp [Phase.isPast])
  | finish closes => exact still rfl ⟨by rw [closes]; rfl, by rw [closes]; rfl, by simp⟩ (by simp [Phase.isPast])
  | @submit n submits left =>
    have some := course.numbered n (.inl submits)
    have through : s.phase.through config = n - 1 := by rw [submits]; rfl
    have free : s.pool.waiting = [] := by simpa [submits, Phase.awaits] using course.waiting
    cases moved with
    | quiet moved =>
      have made := Option.some.inj moved
      split at made
      · rcases Pool.answer_of_submit s.pool (config.job n) true with ⟨answer, told, waiting⟩ | ⟨told, waiting⟩
        · rw [made] at told waiting
          rw [free] at waiting
          subst told
          exact course.answer through some left rfl rfl waiting
        · rw [made, free] at waiting
          rw [made] at told
          subst told
          exact course.block submits left (by rw [waiting]; rfl) rfl
      · cases made
        exact course.answer through some left rfl rfl free
  | resume =>
    cases moved with
    | quiet moved =>
      obtain ⟨task, rest, answer, waits, rfl, waiting⟩ := Pool.answer_of_resume moved
      have waited := course.waiting
      rw [waits] at waited
      cases blocked : s.phase with
      | blocked n =>
        simp only [blocked, Phase.awaits, List.map_cons, Option.map_some, Option.toList_some, List.cons.injEq,
          List.map_eq_nil_iff] at waited
        obtain ⟨job, rfl⟩ := waited
        have some := course.numbered n (.inr blocked)
        have through : s.phase.through config = n - 1 := by rw [blocked]; rfl
        have left := course.left n (by rw [blocked]; rfl)
        exact course.answer through some left job rfl waiting
      | _ => simp [blocked, Phase.awaits] at waited

theorem course_of_move (course : Course config past s) (moved : Move config s events t) :
    Course config (past ++ events) t := by
  have goes : ∀ {phase}, s.phase.Follows config phase → (phase.isPast = true → s.pool.owner = .finished) →
      Course config (past ++ []) { s with phase := phase } :=
    fun follows ended => course.follow rfl rfl follows ended
  cases moved with
  | pool stage moved => exact course_of_stage course stage moved
  | attempt => exact course.follow rfl rfl (.refl ..) course.ended
  | meter => exact course.follow rfl rfl (.refl ..) course.ended
  | @push greatest meter reports result phase pushes moved ends =>
    have through : s.phase.through config = config.jobs := by rw [pushes]; rfl
    have finished := course.ended (by rw [pushes]; rfl)
    refine course.follow rfl rfl ⟨?_, ?_, ?_⟩ fun _ => finished
    · rcases ends with ⟨rfl, -⟩ | ⟨fault, rfl⟩ <;> exact through.symm
    · rw [pushes]
      rcases ends with ⟨rfl, -⟩ | ⟨fault, rfl⟩ <;> rfl
    · rcases ends with ⟨rfl, -⟩ | ⟨fault, rfl⟩ <;> simp
  | turn turned =>
    cases turned with
    | @submitted n submits all =>
      have within := course.within
      rw [submits, Phase.through] at within
      have all : (Phase.asking none).through config = n - 1 := by
        change config.jobs = n - 1
        omega
      exact goes ⟨by rw [submits]; exact all, by rw [submits]; rfl, by simp⟩ (by simp [Phase.isPast])
    | report submitted => exact goes ⟨by rw [submitted]; rfl, by rw [submitted]; rfl, by simp⟩ (by simp [Phase.isPast])
    | next submitted => exact goes ⟨by rw [submitted]; rfl, by rw [submitted]; rfl, by simp⟩ (by simp [Phase.isPast])
    | joined joining finished => exact goes ⟨by rw [joining]; rfl, by rw [joining]; rfl, by simp⟩ fun _ => finished

/-- Every move of the run leaves its pool as sound as a move of the pool would. -/
theorem carried_of_move (built : config.pool.Buildable) (returns : Pool.AlwaysReturns LoadJob config.pool.policy)
    (carried : Pool.Carried config.pool past s.pool) (moved : Move config s events t) :
    Pool.Carried config.pool (past ++ events) t.pool := by
  cases moved with
  | pool stage moved => exact carried.move built returns moved.move
  | attempt found working =>
    rw [List.append_nil]
    exact carried.rework found working rfl
  | meter | push | turn =>
    rw [List.append_nil]
    exact carried

/-- Nobody has begun an attempt at a job that is yet to be run. -/
theorem begun_of_starting (course : Course config past s) (carried : Pool.Carried config.pool past s.pool) {k : Nat}
    {m : Pool.Member (Task LoadJob)} {task : Task LoadJob} {draining : Bool} (found : s.pool.members[k]? = some m)
    (starting : m.worker.phase = .starting task draining) : task.job.progress = .begun := by
  have fresh : (Pool.accepted past).countP (fun task => decide (task.job.progress ≠ .begun)) = 0 := by
    rw [List.countP_eq_zero]
    intro other listed
    have mapped : other.job ∈ (Pool.accepted past).map Task.job := List.mem_map_of_mem listed
    rw [course.accepted] at mapped
    obtain ⟨n, -, same⟩ := List.mem_map.mp mapped
    simp [← same, Config.job, LoadJob.new]
  have all := carried.booked.accepted_eq fun task => decide (task.job.progress ≠ .begun)
  have here := Pool.State.le_total found fun w => w.held.countP fun task => decide (task.job.progress ≠ .begun)
  by_contra other
  have counted : 0 < m.worker.held.countP fun task => decide (task.job.progress ≠ .begun) := by
    refine List.countP_pos_iff.mpr ⟨task, ?_, by simpa using other⟩
    simp [Worker.held, Worker.taken?, starting]
  simp only [Pool.State.unbegun] at all
  omega

end JobPool.Load
