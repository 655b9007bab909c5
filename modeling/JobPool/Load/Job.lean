import JobPool.Job
import JobPool.Fault
import JobPool.Latency.MeteredRegistry

/-!
The jobs of a load run. An attempt takes its time, which is measured and observed, and then counts
either a failure or a processed job. A job remembers how far its attempt is, so that the attempts of
several workers can go on in any order.
-/

namespace JobPool.Load

open Latency (Request)

/-- How far an attempt is. -/
inductive Progress where
  | begun
  /-- The measurement was begun. -/
  | timed
  /-- The measurement was sent. -/
  | measured
  /-- The elapsed time is in the histogram. -/
  | observed
  | complete
  | faulted (fault : Fault)
  deriving DecidableEq, Repr

/-- What follows when a stage of an attempt has succeeded. -/
def Progress.next : Progress → Progress
  | begun => timed
  | timed => measured
  | measured => observed
  | observed => complete
  | complete => complete
  | faulted fault => faulted fault

/-- Nothing is left to be done. -/
def Progress.isOver : Progress → Bool
  | complete => true
  | faulted _ => true
  | _ => false

/-- A job: its number, whether it is meant to fail, and how far its attempt is. -/
structure LoadJob where
  number : Nat
  fails : Bool
  progress : Progress
  deriving DecidableEq, Repr

namespace LoadJob

/-- A job that nobody attempted. -/
def new (number : Nat) (fails : Bool) : LoadJob := ⟨number, fails, .begun⟩

/-- How the attempt ends. -/
def ending (job : LoadJob) : Attempt :=
  match job.progress with
  | .faulted fault => .panicked (.text fault.message)
  | _ =>
    if job.fails then .failed (.plain s!"job {job.number} failed on purpose") else .succeeded

instance : Job LoadJob where
  describe job := s!"job-{job.number}"
  attempt job := (job.ending, { job with progress := .begun })

end LoadJob

/-- The id of the counter of failed attempts. -/
def failedJobsId : String := "FAILED-JOBS"

/-- The id of the histogram of the times of attempts. -/
def jobLatencyId : String := "JOB-LATENCY"

/-- The counter of failed attempts. -/
def failedJobs : Metric :=
  .newCounter ⟨"failed_jobs", "Job attempts that returned an error", ["DispatcherName"]⟩

/-- The histogram of the times of attempts. -/
def jobLatency : Metric :=
  .newHistogram ⟨"job_latency", "Time spent in a job", ["DispatcherName"]⟩ Metric.defaultBounds

/-- What an attempt asks of the sink next; it has run for `elapsed` microseconds. -/
def LoadJob.request? (name : String) (elapsed : Int64) (job : LoadJob) : Option Request :=
  match job.progress with
  | .begun => some (.measure (.tic name))
  | .timed => some (.measure (.toc name elapsed))
  | .measured => some (.apply jobLatencyId (.change .observe elapsed) [name])
  | .observed =>
    if job.fails then some (.apply failedJobsId (.change .add 1) [name]) else none
  | _ => none

end JobPool.Load
