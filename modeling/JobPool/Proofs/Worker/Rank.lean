import Mathlib.Tactic.SplitIfs
import JobPool.Proofs.Worker.Moves

/-!
How far a worker is from rest. Its rank counts what it can still do on its own with the jobs in its
inbox, each of which may be attempted `limit` times; every move of the worker lowers it, also one
that puts a sender into the pool of idle workers (`Move.rank`), and others raise it only by a job or,
by one, when they ask the worker to stop.
-/

namespace JobPool.Worker

variable {J : Type}

/-- A stop request is there to be noticed. -/
def summoned (w : Worker J) : Bool := w.stopPending || w.abandoned

/-- What a sender in the pool of idle workers counts. -/
def senderRank : Nat := 5

/-- What a job in the inbox counts. -/
def jobRank (limit : Nat) : Nat := limit + 13

/-- What follows after a run; a worker that drains its inbox does not publish itself again. -/
def lateRank : Bool → Nat
  | true => 1
  | false => 11

/-- What the worker can still do, apart from the jobs in its inbox. A worker that is about to look at its requests and
    at its inbox is nearer to rest if there is a request, and farther if there is a reason to wake up. -/
def phaseRank (limit : Nat) (w : Worker J) : Nat :=
  match w.phase with
  | .resting => 0
  | .publishing => lateRank false
  | .lookingForStop => if w.summoned then 3 else 5
  | .lookingForJob => if w.summoned then 5 else 4
  | .waiting => if w.summoned then 4 else if w.inbox.items.isEmpty && !w.inbox.closed then 3 else 6
  | .starting _ late => lateRank late + limit + 2
  | .working _ attempt most late => lateRank late + (most - attempt) + 1
  | .closing => 2
  | .draining => 1
  | .ended => 0
  | .crashed => 0

/-- What the worker can still do. -/
def rank (limit : Nat) (w : Worker J) : Nat := w.phaseRank limit + w.inbox.items.length * jobRank limit

theorem rank_ended {limit : Nat} {w : Worker J} (phase : w.phase = .ended) (empty : w.inbox.items = []) :
    w.rank limit = 0 := by
  simp [rank, phaseRank, phase, empty]

/-- A job in the inbox may wake the worker. -/
theorem rank_push (limit : Nat) (w : Worker J) (job : J) :
    { w with inbox := w.inbox.push job }.rank limit ≤ w.rank limit + jobRank limit + 3 := by
  have phases : { w with inbox := w.inbox.push job }.phaseRank limit ≤ w.phaseRank limit + 3 := by
    cases phase : w.phase <;> simp [phaseRank, phase, summoned, Channel.push]
    split_ifs <;> omega
  simp only [rank, Channel.push, List.length_append, List.length_singleton, Nat.add_mul, Nat.one_mul]
  simp only [Channel.push] at phases
  omega

theorem rank_stop (limit : Nat) (w : Worker J) : w.stop.rank limit ≤ w.rank limit + 1 := by
  have phases : w.stop.phaseRank limit ≤ w.phaseRank limit + 1 := by
    cases phase : w.phase <;> simp [phaseRank, phase, summoned, stop]
    all_goals split_ifs <;> omega
  simp only [rank, stop] at phases ⊢
  omega

theorem rank_congr {limit : Nat} {w w' : Worker J} (phase : w'.phase = w.phase) (inbox : w'.inbox = w.inbox)
    (summoned : w'.summoned = w.summoned) : w'.rank limit = w.rank limit := by
  simp only [rank, phaseRank, phase, inbox, summoned]

variable [Job J]

omit [Job J] in
/-- There is a bound on the number of attempts at a job. -/
theorem exists_limit (policy : Policy) : ∃ limit, ∀ most, policy.attemptLimit = .ok most → most ≤ limit := by
  cases limited : policy.attemptLimit with
  | error fault => exact ⟨0, by simp⟩
  | ok limit => exact ⟨limit, by simp⟩

/-- Every move of a worker lowers its rank, by what a sender counts if it publishes itself. -/
theorem Move.rank {policy : Policy} {number : Nat} {pool : Admission} {w w' : Worker J} {events : List (Event J)}
    (moved : Move policy number pool w events w') {limit : Nat}
    (limited : ∀ most, policy.attemptLimit = .ok most → most ≤ limit) :
    w'.rank limit + (if events.any Event.isPublished then senderRank else 0) < w.rank limit := by
  cases moved with
  | publish phase =>
    simp only [Worker.rank, phaseRank, phase, summoned, senderRank, lateRank, List.any_cons, List.any_nil,
      Event.isPublished]
    simp
    split_ifs <;> omega
  | heed phase summoned =>
    have called : w.summoned = true := by simpa [Worker.summoned] using summoned
    simp [Worker.rank, phaseRank, phase, called]
  | look phase free =>
    have uncalled : w.summoned = false := by simpa [Worker.summoned] using free
    simp [Worker.rank, phaseRank, phase, Worker.summoned, free]
  | take phase first =>
    simp only [Worker.rank, phaseRank, phase, first, lateRank, jobRank, List.length_cons, Nat.add_mul, Nat.one_mul,
      List.any_nil]
    simp
    split_ifs <;> omega
  | giveUp phase empty shut =>
    simp [Worker.rank, phaseRank, phase, empty]
    split_ifs <;> omega
  | park phase empty unshut =>
    simp [Worker.rank, phaseRank, phase, empty, unshut, summoned]
    split_ifs <;> omega
  | wake phase cause =>
    -- a reason to wake up is still there at the next look, which then does not end in waiting
    simp [Worker.rank, phaseRank, phase, summoned]
    split_ifs <;> simp_all
  | crash phase => simp [Worker.rank, phaseRank, phase, Event.isPublished]
  | @start job draining most phase allowed =>
    have few := limited most allowed
    simp [Worker.rank, phaseRank, phase, Event.isPublished]
    omega
  | @again job next attempt most draining warning phase judged =>
    have more := (Policy.of_judge_again judged).2
    simp [Worker.rank, phaseRank, phase, Event.isPublished]
    omega
  | @finish job attempt most draining ending phase judged =>
    have silent : (ending.letter.toList.map .sent ++ ending.logs.map .judged ++
        [.finished ending.job ending.outcome] : List (Event J)).any Event.isPublished = false := by
      simp [Event.isPublished]
    rw [silent]
    cases draining <;> simp only [Worker.rank, phaseRank, phase, lateRank, Bool.false_eq_true, ↓reduceIte] <;> omega
  | drain phase first =>
    simp only [Worker.rank, phaseRank, phase, first, lateRank, jobRank, List.length_cons, Nat.add_mul, Nat.one_mul,
      List.any_nil]
    simp
    omega
  | poolGone phase => simp [Worker.rank, phaseRank, phase, lateRank, Event.isPublished]
  | close phase => simp [Worker.rank, phaseRank, phase, Channel.close]
  | retire phase empty => simp [Worker.rank, phaseRank, phase, empty, Event.isPublished]

end JobPool.Worker
