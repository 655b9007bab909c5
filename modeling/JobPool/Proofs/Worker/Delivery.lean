import JobPool.Proofs.Worker.Moves

/-!
What becomes of the jobs of a worker. A job in the inbox leaves it to be run, every run of it is begun
once (`Move.begins`), and a run that was begun goes on with what the attempts leave of the job until
it returns (`Move.returns`).
-/

namespace JobPool.Worker

variable {J : Type}

/-- The job whose run begins. -/
def Event.started? : Event J → Option J
  | .started job => some job
  | _ => none

/-- The job whose run is over, as its last attempt left it. -/
def Event.returned? : Event J → Option J
  | .finished job _ => some job
  | _ => none

/-- The jobs whose runs begin. -/
def started (events : List (Event J)) : List J := events.filterMap Event.started?

/-- The jobs whose runs are over. -/
def returned (events : List (Event J)) : List J := events.filterMap Event.returned?

/-- The job that was taken out of the inbox and is to be run at once. -/
def taken? (w : Worker J) : Option J :=
  match w.phase with
  | .starting job _ => some job
  | _ => none

/-- The jobs that the worker is yet to run. -/
def held (w : Worker J) : List J := w.taken?.toList ++ w.inbox.items

/-- No run begins while another one ends. -/
theorem started_ending (ending : Ending J) :
    started (ending.letter.toList.map .sent ++ ending.logs.map .judged ++ [.finished ending.job ending.outcome]) =
      [] := by
  simp [started, Event.started?, Function.comp_def]

theorem returned_ending (ending : Ending J) :
    returned (ending.letter.toList.map .sent ++ ending.logs.map .judged ++ [.finished ending.job ending.outcome]) =
      [ending.job] := by
  have letters : ending.letter.toList.filterMap (fun _ => (none : Option J)) = [] := by simp
  have logs : ending.logs.filterMap (fun _ => (none : Option J)) = [] := by simp
  simp [returned, Event.returned?, Function.comp_def, letters, logs]

/-- Joining a worker changes neither where it is nor its inbox. -/
theorem join_same {w w' : Worker J} {name : String} {number : Nat} {logs : List Record}
    (joined : w.join name number = some (w', logs)) : w'.phase = w.phase ∧ w'.inbox = w.inbox := by
  unfold join at joined
  split at joined
  · cases joined; exact ⟨rfl, rfl⟩
  · split at joined
    · cases joined; exact ⟨rfl, rfl⟩
    · cases joined; exact ⟨rfl, rfl⟩
    · cases joined

variable [Job J] {policy : Policy} {number : Nat} {pool : Admission} {w w' : Worker J} {events : List (Event J)}

/-- A job leaves a worker's hands only when its run begins. -/
theorem Move.begins (moved : Move policy number pool w events w') (p : J → Bool) :
    w.held.countP p = w'.held.countP p + (started events).countP p := by
  cases moved with
  | @finish job attempt limit draining ending phase judged =>
    rw [started_ending]
    cases draining <;> simp [held, taken?, phase]
  | take phase first =>
    simp only [held, taken?, phase, first, Worker.started, List.filterMap_nil, List.countP_nil, Option.toList_none,
      Option.toList_some, List.nil_append, List.singleton_append, Nat.add_zero]
  | drain phase first =>
    simp only [held, taken?, phase, first, Worker.started, List.filterMap_nil, List.countP_nil, Option.toList_none,
      Option.toList_some, List.nil_append, List.singleton_append, Nat.add_zero]
  | crash phase => simp [held, taken?, phase, Worker.started, Event.started?, List.countP_cons, Nat.add_comm]
  | start phase => simp [held, taken?, phase, Worker.started, Event.started?, List.countP_cons, Nat.add_comm]
  | _ phase => simp [held, taken?, phase, Worker.started, Event.started?, List.filterMap_cons, Channel.close]

/-- A run that began is under way until it returns; `p` is something that the attempts do not change. -/
theorem Move.returns (moved : Move policy number pool w events w') (intact : w'.phase ≠ .crashed) {p : J → Bool}
    (lasting : ∀ job, p (Job.attempt job).2 = p job) :
    w.job?.toList.countP p + (started events).countP p = w'.job?.toList.countP p + (returned events).countP p := by
  cases moved with
  | crash => exact absurd rfl intact
  | @finish job attempt limit draining ending phase judged =>
    have left := Policy.job_of_judge_ended judged
    rw [started_ending, returned_ending]
    cases draining <;> simp [job?, phase, left, lasting]
  | @again job next attempt limit draining warning phase judged =>
    obtain ⟨rfl, more⟩ := Policy.of_judge_again judged
    simp [job?, phase, Worker.started, Worker.returned, Event.started?, Event.returned?, List.filterMap_cons, lasting]
  | _ phase =>
    simp [job?, phase, Worker.started, Worker.returned, Event.started?, Event.returned?, List.filterMap_cons]

end JobPool.Worker
