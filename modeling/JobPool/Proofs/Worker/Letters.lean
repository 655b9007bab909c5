import JobPool.Proofs.Policy.Attempts
import JobPool.Proofs.Worker.Delivery

/-!
The dead letters of a worker. Beginning the run of a job promises the letter that its attempts decide, and
the worker sends it when the run is over; until then the promise is in the phase of the worker
(`Move.letters`).
-/

namespace JobPool.Worker

variable {J : Type}

/-- The letter that is sent to the sink. -/
def Event.letter? : Event J → Option (Letter J)
  | .sent letter => some letter
  | _ => none

/-- The letters that are sent to the sink, in this order. -/
def letters (events : List (Event J)) : List (Letter J) := events.filterMap Event.letter?

theorem letters_ending (ending : Ending J) :
    letters (ending.letter.toList.map .sent ++ ending.logs.map .judged ++ [.finished ending.job ending.outcome]) =
      ending.letter.toList := by
  cases ending.letter <;> simp [letters, Event.letter?, Function.comp_def]

variable [Job J]

/-- The letter that the job under way is still to get. -/
def Phase.coming? : Phase J → Option (Letter J)
  | .working job attempt limit _ => Job.coming? attempt (limit - attempt) job
  | _ => none

variable {retries : UInt64} {number : Nat} {pool : Admission} {w w' : Worker J} {events : List (Event J)}

/-- A worker sends the letters about the jobs that it began to run, each at the end of the run. -/
theorem Move.letters (moved : Move (.deadLetter retries true) number pool w events w')
    (limited : (Policy.deadLetter retries true).attemptLimit = .ok (retries.toNat + 1)) :
    w.phase.coming?.toList ++ (started events).filterMap (Job.letter? retries.toNat) =
      Worker.letters events ++ w'.phase.coming?.toList := by
  cases moved with
  | crash phase faulted => simp [limited] at faulted
  | @start job draining limit phase allowed =>
    obtain rfl : retries.toNat + 1 = limit := by simpa [limited] using allowed
    simp only [phase, Phase.coming?, Worker.started, Worker.letters, Event.started?, Event.letter?, List.filterMap_cons,
      List.filterMap_nil, Option.toList_none, List.nil_append, Nat.add_sub_cancel, Job.coming?_first]
    cases Job.letter? retries.toNat job <;> rfl
  | @again job next attempt limit draining warning phase judged =>
    have same := Policy.coming_of_judge_again judged
    simp [phase, Phase.coming?, same, Worker.started, Worker.letters, Event.started?, Event.letter?,
      List.filterMap_cons]
  | @finish job attempt limit draining ending phase judged =>
    have letter := Policy.letter_of_judge_ended judged
    rw [started_ending, letters_ending, letter]
    cases draining <;> simp [phase, Phase.coming?]
  | _ phase =>
    simp [phase, Phase.coming?, Worker.started, Worker.letters, Event.started?, Event.letter?, List.filterMap_cons]

end JobPool.Worker
