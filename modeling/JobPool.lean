import JobPool.Fault
import JobPool.Log
import JobPool.Text.Quoted
import JobPool.Binary64.Text
import JobPool.Json.Writer
import JobPool.Json.Outline
import JobPool.Json.Grammar
import JobPool.Settings.File
import JobPool.Settings.Form
import JobPool.Builder
import JobPool.Scenario.PolicyTrial
import JobPool.Metric.Basic
import JobPool.Metric.Step
import JobPool.Metric.Registry
import JobPool.Latency.Meter
import JobPool.Scenario.MetricSession
import JobPool.Tracker
import JobPool.Worker
import JobPool.Scenario.WorkerSession
import JobPool.Scenario.TrackerSession
import JobPool.Pool.Gauged
import JobPool.Scenario.PoolScript
import JobPool.Scenario.Batch
import JobPool.Load.CommandLine
import JobPool.Load.Step
import JobPool.Scenario.LoadTrial
import JobPool.Main
import JobPool.Proofs.Pool.Delivery
import JobPool.Proofs.Pool.Lease
import JobPool.Proofs.Pool.Shutdown
import JobPool.Proofs.Pool.Utilization
import JobPool.Proofs.Policy.Attempts
import JobPool.Proofs.Worker.Letters
import JobPool.Proofs.Pool.Letters
import JobPool.Proofs.Solo.Run
import JobPool.Proofs.Solo.Delivery
import JobPool.Proofs.Solo.Stopping
import JobPool.Proofs.Pool.Seeming
import JobPool.Proofs.Pool.Backpressure
import JobPool.Proofs.Pool.Service
import JobPool.Proofs.Worker.Survival
import JobPool.Proofs.Watch.Run
import JobPool.Proofs.Latency.Conservation
import JobPool.Proofs.Metric.Poison
import JobPool.Proofs.Latency.Ledger
import JobPool.Proofs.Pool.Fleet
import JobPool.Proofs.Load.Result
import JobPool.Proofs.Latency.Isolation
import JobPool.Proofs.Metric.Canonical
import JobPool.Proofs.Metric.Gathering
import JobPool.Proofs.Latency.Reporting
import JobPool.Proofs.Settings.Acceptance
import JobPool.Proofs.Settings.RoundTrip
import JobPool.Proofs.Policy.Ending
import JobPool.Proofs.Settings.Building
import JobPool.Proofs.Pool.Fate
import JobPool.Proofs.Inquiry.Run
import JobPool.Proofs.Metric.Agreement
import JobPool.Proofs.Metric.Ignoring
import JobPool.Proofs.Metric.Observations
import JobPool.Proofs.Load.Reported
import JobPool.Proofs.Latency.Faults
import JobPool.Proofs.Settings.Setters
import JobPool.Proofs.Metric.Bounds

/-!
A pool of workers for blocking jobs, the metrics it keeps, its settings, and a load run over it.

What runs stands in the modules outside `JobPool.Proofs` and is what the theorems there are about. Threads, tasks and
callers move one at a time and in any order; a theorem about a run is about all of these orders. Sessions and trials, in
`JobPool.Scenario`, fix one order each and are there to be compared with recorded answers.

Left out are time (a latency comes with the end of its measurement, and whatever is due after an interval may be due at
any moment), the line of an interim report, which says how much time has passed, records about a latency meter whose
channel is closed, since a meter holds both ends of it, threads that the system cannot start and memory that runs out,
but for names with a NUL and channels beyond any memory, the orderings of atomics, of which there are two that nothing
else depends on, and the notices and prefixes of records that are the work of libraries.
-/
