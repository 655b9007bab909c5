import JobPool.Policy
import JobPool.Scenario.ScriptedJob

/-!
Trials of a policy: jobs are run one after the other. A job that was sent to the sink may be taken
back and attempted once more; that attempt is counted with those of the job after it.
-/

namespace JobPool.Scenario

/-- A job to run, and whether it is attempted once more after the sink took it. -/
structure Trial where
  job : ScriptedJob
  rerun : Bool

/-- A letter taken back, and how one more attempt ended. -/
structure Rerun where
  letter : Letter ScriptedJob
  again : Attempt

/-- What a trial shows. -/
structure TrialReport where
  jobText : String
  outcome : Except Fault Outcome
  /-- Attempts since the last report. -/
  calls : Nat
  logs : List Record
  letters : List (Letter ScriptedJob)
  rerun : Option Rerun

/-- Runs one job after `carried` attempts that nobody reported; gives the attempts left to report.
-/
def Trial.run (policy : Policy) (carried : Nat) (trial : Trial) : TrialReport × Nat :=
  let text := jobText trial.job
  match policy.run trial.job with
  | .error fault => (⟨text, .error fault, carried, [], [], none⟩, 0)
  | .ok ending =>
    let report : TrialReport :=
      { jobText := text
        outcome := .ok ending.outcome
        calls := carried + ending.job.calls
        logs := ending.logs
        letters := ending.letter.toList
        rerun := none }
    match trial.rerun, ending.letter with
    | true, some letter =>
      ({ report with letters := [], rerun := some ⟨letter, (Job.attempt letter.job).1⟩ }, 1)
    | _, _ => (report, 0)

/-- Runs jobs in order. -/
def runTrials (policy : Policy) : Nat → List Trial → List TrialReport
  | _, [] => []
  | carried, trial :: rest =>
    let (report, carried) := trial.run policy carried
    report :: runTrials policy carried rest

end JobPool.Scenario
