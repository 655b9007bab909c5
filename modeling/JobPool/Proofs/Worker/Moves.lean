import JobPool.Worker

/-!
What a worker can do, move by move. `move_of_advance` is the only place where `Worker.advance` is
taken apart; everything else that is proved about workers follows from the fifteen kinds of moves.
-/

namespace JobPool

/-- What `judge` asks for again is the job that the attempt left, and there were attempts left. -/
theorem Policy.of_judge_again {J : Type} [Job J] {p : Policy} {limit n : Nat} {attempt : Attempt} {job next : J}
    {warning : Record} (judged : p.judge limit n attempt job = .again next warning) : next = job ∧ n < limit := by
  unfold Policy.judge at judged
  split at judged
  · cases judged
  · split at judged
    · cases judged; exact ⟨rfl, by assumption⟩
    · cases judged

/-- Only after a failure is there another attempt. -/
theorem Policy.failed_of_judge_again {J : Type} [Job J] {p : Policy} {limit n : Nat} {attempt : Attempt} {job next : J}
    {warning : Record} (judged : p.judge limit n attempt job = .again next warning) : attempt.error?.isSome = true := by
  unfold Policy.judge at judged
  split at judged
  · cases judged
  · rename_i failed
    rw [failed]
    rfl

/-- A run ends with a failure only after the last attempt. -/
theorem Policy.last_of_judge_ended {J : Type} [Job J] {p : Policy} {limit n : Nat} {attempt : Attempt} {job : J}
    {ending : Ending J} (judged : p.judge limit n attempt job = .ended ending) (failed : attempt.error?.isSome = true) :
    limit ≤ n := by
  unfold Policy.judge at judged
  split at judged
  · rename_i fine
    rw [fine] at failed
    cases failed
  · split at judged
    · cases judged
    · rename_i last
      exact Nat.le_of_not_lt last

/-- A run ends with the job that its last attempt left. -/
theorem Policy.job_of_judge_ended {J : Type} [Job J] {p : Policy} {limit n : Nat} {attempt : Attempt} {job : J}
    {ending : Ending J} (judged : p.judge limit n attempt job = .ended ending) : ending.job = job := by
  unfold Policy.judge at judged
  split at judged
  · cases judged; rfl
  · split at judged
    · cases judged
    · cases judged
      cases p with
      | deadLetter n sinkOpen => cases sinkOpen <;> rfl
      | _ => rfl

namespace Worker

variable {J : Type} [Job J]

/-- A move of worker `number`, with what others can see of it. -/
inductive Move (policy : Policy) (number : Nat) (pool : Admission) (w : Worker J) :
    List (Event J) → Worker J → Prop
  | publish (phase : w.phase = .publishing) (room : pool = .room) :
      Move policy number pool w [.published] { w with phase := .lookingForStop }
  | poolGone (phase : w.phase = .publishing) (gone : pool = .gone) :
      Move policy number pool w [.log (poolClosedRecord number)] { w with phase := .closing }
  | heed (phase : w.phase = .lookingForStop) (summoned : w.stopPending = true ∨ w.abandoned = true) :
      Move policy number pool w [] { w with stopPending := false, phase := .closing }
  | look (phase : w.phase = .lookingForStop) (free : w.stopPending = false ∧ w.abandoned = false) :
      Move policy number pool w [] { w with phase := .lookingForJob }
  | take {job : J} {rest : List J} (phase : w.phase = .lookingForJob) (first : w.inbox.items = job :: rest) :
      Move policy number pool w []
        { w with inbox := { w.inbox with items := rest }, phase := .starting job false }
  | giveUp (phase : w.phase = .lookingForJob) (empty : w.inbox.items = []) (shut : w.inbox.closed = true) :
      Move policy number pool w [] { w with phase := .closing }
  | park (phase : w.phase = .lookingForJob) (empty : w.inbox.items = []) (unshut : w.inbox.closed = false) :
      Move policy number pool w [] { w with phase := .waiting }
  | wake (phase : w.phase = .waiting)
      (cause : w.stopPending = true ∨ w.abandoned = true ∨ w.inbox.items ≠ [] ∨ w.inbox.closed = true) :
      Move policy number pool w [] { w with phase := .lookingForStop }
  | crash {job : J} {draining : Bool} {fault : Fault} (phase : w.phase = .starting job draining)
      (limited : policy.attemptLimit = .error fault) :
      Move policy number pool w [.started job, .faulted job fault] { w with phase := .crashed }
  | start {job : J} {draining : Bool} {limit : Nat} (phase : w.phase = .starting job draining)
      (limited : policy.attemptLimit = .ok limit) :
      Move policy number pool w [.started job, .attempted job 1] { w with phase := .working job 1 limit draining }
  | again {job next : J} {attempt limit : Nat} {draining : Bool} {warning : Record}
      (phase : w.phase = .working job attempt limit draining)
      (judged : policy.judge limit attempt (Job.attempt job).1 (Job.attempt job).2 = .again next warning) :
      Move policy number pool w [.judged warning, .attempted next (attempt + 1)]
        { w with phase := .working next (attempt + 1) limit draining }
  | finish {job : J} {attempt limit : Nat} {draining : Bool} {ending : Ending J}
      (phase : w.phase = .working job attempt limit draining)
      (judged : policy.judge limit attempt (Job.attempt job).1 (Job.attempt job).2 = .ended ending) :
      Move policy number pool w
        (ending.letter.toList.map .sent ++ ending.logs.map .judged ++ [.finished ending.job ending.outcome])
        { w with phase := if draining then .draining else .publishing }
  | close (phase : w.phase = .closing) :
      Move policy number pool w [] { w with inbox := w.inbox.close, phase := .draining }
  | drain {job : J} {rest : List J} (phase : w.phase = .draining) (first : w.inbox.items = job :: rest) :
      Move policy number pool w []
        { w with inbox := { w.inbox with items := rest }, phase := .starting job true }
  | retire (phase : w.phase = .draining) (empty : w.inbox.items = []) :
      Move policy number pool w [.log (stoppedRecord number)] { w with phase := .ended }

private theorem move_of_begin {policy : Policy} {number : Nat} {pool : Admission} {w : Worker J} {job : J}
    {draining : Bool}
    (phase : w.phase = .starting job draining) :
    Move policy number pool w (begin policy w job draining).2 (begin policy w job draining).1 := by
  unfold begin
  split
  · exact .crash phase (by assumption)
  · exact .start phase (by assumption)

private theorem move_of_finishAttempt {policy : Policy} {number : Nat} {pool : Admission} {w : Worker J} {job : J}
    {attempt limit : Nat} {draining : Bool} (phase : w.phase = .working job attempt limit draining) :
    Move policy number pool w (finishAttempt policy w job attempt limit draining).2
      (finishAttempt policy w job attempt limit draining).1 := by
  unfold finishAttempt
  simp only
  split
  · exact .again phase (by assumption)
  · exact .finish phase (by assumption)

/-- What a worker does is one of its moves. -/
theorem move_of_advance {policy : Policy} {number : Nat} {pool : Admission} {w w' : Worker J} {events : List (Event J)}
    (moved : w.advance policy number pool = some (w', events)) : Move policy number pool w events w' := by
  unfold advance at moved
  cases phase : w.phase with
  | resting | ended | crashed => simp [phase] at moved
  | publishing =>
    cases pool with
    | room => simp [phase] at moved; obtain ⟨rfl, rfl⟩ := moved; exact .publish phase rfl
    | full => simp [phase] at moved
    | gone => simp [phase] at moved; obtain ⟨rfl, rfl⟩ := moved; exact .poolGone phase rfl
  | lookingForStop =>
    simp only [phase] at moved
    split at moved
    · cases moved; exact .heed phase (by assumption)
    · cases moved
      rename_i free
      exact .look phase (by simpa using free)
  | lookingForJob =>
    cases items : w.inbox.items with
    | nil =>
      cases shut : w.inbox.closed with
      | true =>
        simp [phase, Channel.take?, items, shut] at moved
        obtain ⟨rfl, rfl⟩ := moved
        exact .giveUp phase items shut
      | false =>
        simp [phase, Channel.take?, items, shut] at moved
        obtain ⟨rfl, rfl⟩ := moved
        exact .park phase items shut
    | cons job rest =>
      simp [phase, Channel.take?, items] at moved
      obtain ⟨rfl, rfl⟩ := moved
      exact .take phase items
  | waiting =>
    simp only [phase] at moved
    split at moved
    · cases moved; exact .wake phase (by assumption)
    · cases moved
  | starting job draining =>
    simp only [phase, Option.some.injEq] at moved
    have made : Move policy number pool w _ _ := move_of_begin phase
    rwa [moved] at made
  | working job attempt limit draining =>
    simp only [phase, Option.some.injEq] at moved
    have made : Move policy number pool w _ _ := move_of_finishAttempt phase
    rwa [moved] at made
  | closing => simp [phase] at moved; obtain ⟨rfl, rfl⟩ := moved; exact .close phase
  | draining =>
    cases items : w.inbox.items with
    | nil => simp [phase, Channel.take?, items] at moved; obtain ⟨rfl, rfl⟩ := moved; exact .retire phase items
    | cons job rest => simp [phase, Channel.take?, items] at moved; obtain ⟨rfl, rfl⟩ := moved; exact .drain phase items

end Worker

end JobPool
