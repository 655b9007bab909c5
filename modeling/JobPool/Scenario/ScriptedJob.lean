import JobPool.Job

/-!
Scripted jobs: each attempt ends as a script says, and may first wait for a gate to open.
-/

namespace JobPool.Scenario

/-- A job that follows a script. -/
structure ScriptedJob where
  id : String
  description : Option String
  /-- How the first attempts end; the last one repeats, and no script means success. -/
  script : List Attempt
  /-- Every attempt waits until the gate of this name is open. -/
  gated : Bool
  /-- How many attempts were begun. -/
  calls : Nat

namespace ScriptedJob

/-- The description of a job that gives none of its own. -/
def defaultDescription : String := "job"

/-- How attempt number `n`, counted from zero, ends. -/
def ending (job : ScriptedJob) (n : Nat) : Attempt :=
  (job.script[n]?.or job.script.getLast?).getD .succeeded

instance : Job ScriptedJob where
  describe job := job.description.getD defaultDescription
  attempt job := (job.ending job.calls, { job with calls := job.calls + 1 })

end ScriptedJob

end JobPool.Scenario
