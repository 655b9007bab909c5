import JobPool.Fault
import JobPool.Log
import JobPool.Job

/-!
Failure policies: what becomes of a job whose attempts fail. A job is attempted until it succeeds or
the policy gives it up; then it is dropped, reported, or sent to a dead-letter sink.
-/

namespace JobPool

/-- A failure policy. A dead-letter sink takes every letter while it is open and none after that. -/
inductive Policy where
  | discard
  | log
  | retry (retries : UInt64)
  | deadLetter (retries : UInt64) (sinkOpen : Bool)
  deriving DecidableEq, Repr

/-- How a job ended. -/
inductive Outcome where
  | succeeded (attempts : Nat)
  | failed (attempts : Nat)
  | deadLettered (attempts : Nat)
  deriving DecidableEq, Repr

namespace Outcome

/-- The number of attempts made. -/
def attempts : Outcome → Nat
  | succeeded n => n
  | failed n => n
  | deadLettered n => n

/-- Whether an attempt succeeded. -/
def isSuccess : Outcome → Bool
  | succeeded _ => true
  | _ => false

end Outcome

/-- A job given up, with the error of its last attempt. -/
structure Letter (J : Type) where
  job : J
  error : JobError
  attempts : Nat

/-- What a run of a job leaves: its outcome, the job, what was logged and what was sent to the
sink. -/
structure Ending (J : Type) where
  outcome : Outcome
  job : J
  logs : List Record
  letter : Option (Letter J)

namespace Policy

/-- How many more attempts a failed job gets. -/
def retries : Policy → UInt64
  | discard => 0
  | log => 0
  | retry n => n
  | deadLetter n _ => n

/-- The policy once nobody takes its dead letters any more. -/
def withoutSink : Policy → Policy
  | deadLetter n _ => deadLetter n false
  | p => p

/-- How many attempts a job gets; the number has to be a word. -/
def attemptLimit (p : Policy) : Except Fault Nat := (succChecked p.retries).map UInt64.toNat

/-- The warning after a failed attempt that is not the last. -/
def retryWarning (desc : String) (attempt limit : Nat) (e : JobError) : Record :=
  .warn s!"job '{desc}' failed (attempt {attempt}/{limit}), retrying: {e.chain}"

/-- The warning after the last failed attempt. -/
def finalWarning (desc : String) (attempts : Nat) (e : JobError) : Record :=
  .warn s!"job '{desc}' failed after {attempts} attempt(s): {e.chain}"

/-- The report of a job that no sink takes. -/
def sinkClosed (desc : String) (e : JobError) : Record :=
  .error s!"dead-letter channel closed, dropping job '{desc}': {e.chain}"

variable {J : Type} [Job J]

/-- What becomes of a job after its last attempt failed. -/
def giveUp (p : Policy) (job : J) (attempts : Nat) (e : JobError) : Ending J :=
  match p with
  | discard => ⟨.failed attempts, job, [], none⟩
  | log => ⟨.failed attempts, job, [finalWarning (Job.describe job) attempts e], none⟩
  | retry _ => ⟨.failed attempts, job, [finalWarning (Job.describe job) attempts e], none⟩
  | deadLetter _ true => ⟨.deadLettered attempts, job, [], some ⟨job, e, attempts⟩⟩
  | deadLetter _ false => ⟨.failed attempts, job, [sinkClosed (Job.describe job) e], none⟩

/-- What follows an attempt: the run ends, or a warning and another attempt. -/
inductive Verdict (J : Type) where
  | ended (ending : Ending J)
  | again (job : J) (warning : Record)

/-- The verdict on attempt number `n` of `limit`, which ended like this and left this job. -/
def judge (p : Policy) (limit n : Nat) (attempt : Attempt) (job : J) : Verdict J :=
  match attempt.error? with
  | none => .ended ⟨.succeeded n, job, [], none⟩
  | some e =>
    if n < limit then .again job (retryWarning (Job.describe job) n limit e)
    else .ended (p.giveUp job n e)

/-- Attempts number `n` and later, at most `more` after the first of them. -/
def runFrom (p : Policy) (limit n : Nat) : (more : Nat) → J → Ending J
  | 0, job =>
    let (attempt, job) := Job.attempt job
    match judge p limit n attempt job with
    | .ended ending => ending
    | .again job warning => ⟨.failed n, job, [warning], none⟩
  | more + 1, job =>
    let (attempt, job) := Job.attempt job
    match judge p limit n attempt job with
    | .ended ending => ending
    | .again job warning =>
      let ending := runFrom p limit (n + 1) more job
      { ending with logs := warning :: ending.logs }

/-- Runs a job until it succeeds or is given up. -/
def run (p : Policy) (job : J) : Except Fault (Ending J) := do
  let limit ← p.attemptLimit
  return runFrom p limit 1 (limit - 1) job

/-- The written form of a policy; that of a sink is left open. -/
def text : Policy → String
  | discard => "Discard"
  | log => "Log"
  | retry n => Text.record "Retry" [("retries", toString n.toNat)]
  | deadLetter n _ => Text.record "DeadLetter" [("retries", toString n.toNat), ("sink", "_")]

end Policy

end JobPool
