import JobPool.Proofs.Worker.Delivery
import JobPool.Proofs.Worker.Lease

/-!
The load of a worker: the jobs that it was handed and whose runs did not return, those of them included whose
runs faulted and never will. A worker that crashed has its job for good, and to everybody who does not join it it
seems like one that never gets round to publishing itself again (`seeming`). So the leases speak of crashed
workers too, and a worker that waits for others either has its sender out or is loaded with one job
(`load_of_rest`).
-/

namespace JobPool.Worker

variable {J : Type}

/-- A run is under way. -/
def Phase.isWorking : Phase J → Bool
  | .working _ _ _ _ => true
  | _ => false

/-- A run was begun and did not return. -/
def Phase.isEngaged : Phase J → Bool
  | .working _ _ _ _ => true
  | .crashed => true
  | _ => false

/-- How many jobs the worker was handed whose runs did not return. -/
def load (w : Worker J) : Nat := w.held.length + w.phase.isEngaged.toNat

/-- Where the thread of a worker seems to be as long as nobody joins it. -/
def Phase.seeming : Phase J → Phase J
  | .crashed => .publishing
  | phase => phase

/-- The worker as it seems to those who do not join it. -/
def seeming (w : Worker J) : Worker J := { w with phase := w.phase.seeming }

theorem seeming_of_intact {w : Worker J} (intact : w.phase ≠ .crashed) : w.seeming = w := by
  have same : w.phase.seeming = w.phase := by
    unfold Phase.seeming
    split
    · rename_i crashed
      exact absurd crashed intact
    · rfl
  rw [seeming, same]

variable {w w' : Worker J} {senders : Nat}

theorem isSome_job? : w.job?.isSome = w.phase.isWorking := by
  cases phase : w.phase <;> simp [job?, phase, Phase.isWorking]

/-- A worker is occupied by the jobs that it is yet to run and the one that it runs. -/
theorem occupied_eq (w : Worker J) : w.occupied = w.held.length + w.job?.toList.length := by
  cases phase : w.phase <;> simp [occupied, held, taken?, job?, phase, Phase.isBusy]

/-- A worker with its sender out is not loaded, and no worker is loaded with two jobs. -/
theorem load_of_leased (leased : w.seeming.Leased senders) : w.load + senders ≤ 1 := by
  cases phase : w.phase <;>
    simp_all [Leased, seeming, Phase.seeming, load, held, taken?, Phase.isEngaged] <;> omega

variable [Job J] {policy : Policy} {number : Nat} {pool : Admission} {events : List (Event J)}

theorem Move.intact_before (moved : Move policy number pool w events w') : w.phase ≠ .crashed := by
  cases moved <;> simp_all

/-- A worker is engaged in the run that it began last until that returns. -/
theorem Move.engaged (moved : Move policy number pool w events w') :
    w.phase.isEngaged.toNat + (started events).length = w'.phase.isEngaged.toNat + (returned events).length := by
  cases moved with
  | @finish job attempt limit draining ending phase judged =>
    rw [started_ending, returned_ending]
    cases draining <;> simp [phase, Phase.isEngaged]
  | _ phase =>
    simp [phase, Phase.isEngaged, Worker.started, Worker.returned, Event.started?, Event.returned?, List.filterMap_cons]

/-- The load of a worker gets less only when a run returns. -/
theorem Move.load (moved : Move policy number pool w events w') : w.load = w'.load + (returned events).length := by
  have begins := moved.begins fun _ => true
  have engaged := moved.engaged
  simp only [List.countP_true] at begins
  simp only [Worker.load]
  omega

/-- Without attempts no run is under way, so that none returns. -/
theorem Move.unreturned (moved : Move policy number pool w events w') {fault : Fault}
    (limited : policy.attemptLimit = .error fault) (idle : w.phase.isWorking = false) :
    w'.phase.isWorking = false ∧ returned events = [] := by
  cases moved with
  | start phase allowed => simp [limited] at allowed
  | again phase | finish phase => simp [phase, Phase.isWorking] at idle
  | _ => exact ⟨rfl, rfl⟩

/-- A worker that was not asked to stop and waits, for others or for its job, has its sender out or is engaged in
    a run, and is to run nothing else. -/
theorem load_of_rest (leased : w.seeming.Leased senders) (unstopped : w.phase.isStopping = false)
    (admitted : w.phase = .publishing → pool ≠ .full)
    (rests : w.advance policy number pool = none ∨ w.job?.isSome = true) :
    w.held = [] ∧ w.phase.isEngaged.toNat + senders = 1 := by
  unfold advance at rests
  cases phase : w.phase with
  | waiting =>
    simp only [phase, job?, Option.isSome_none, Bool.false_eq_true, or_false] at rests
    simp_all [Leased, seeming, Phase.seeming, held, taken?, Phase.isEngaged]
  | publishing => cases pool <;> simp_all [job?]
  | lookingForStop | lookingForJob =>
    simp only [phase, job?, Option.isSome_none, Bool.false_eq_true, or_false] at rests
    split at rests <;> cases rests
  | starting | closing | draining | ended | resting =>
    simp_all [job?, Phase.isStopping, Leased, seeming, Phase.seeming]
  | working | crashed => simp_all [Leased, seeming, Phase.seeming, held, taken?, Phase.isEngaged]

end JobPool.Worker
