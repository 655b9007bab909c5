import JobPool.Json.Writer
import JobPool.Log

/-!
Latency aggregates: how many requests a module had since the last reset, and the total, the least
and the greatest of their latencies in microseconds.
-/

namespace JobPool.Latency

/-- The requests of a module since the last reset. -/
structure Aggregate where
  module : String
  requests : UInt64
  total : Int64
  greatest : Int64
  least : Int64
  deriving DecidableEq, Repr

/-- What is said about the requests of a module. -/
structure Report where
  module : String
  requestRate : UInt64
  meanLatency : Int64
  maxLatency : Int64
  minLatency : Int64
  deriving DecidableEq, Repr

/-- The JSON form of a report. -/
def Report.toJson (r : Report) : Json.Value :=
  .object [("module", .text r.module), ("requestRate", .ofWord r.requestRate),
    ("meanLatency", .ofSigned r.meanLatency), ("maxLatency", .ofSigned r.maxLatency),
    ("minLatency", .ofSigned r.minLatency)]

namespace Aggregate

/-- No requests. -/
def new (module : String) : Aggregate := ⟨module, 0, 0, 0, Int64.maxValue⟩

/-- Adds a request. It is counted first; if the total has no room, the rest stays as it was. -/
def update (a : Aggregate) (latency : Int64) : Aggregate × Option Fault :=
  match succChecked a.requests with
  | .error fault => (a, some fault)
  | .ok requests =>
    match addChecked a.total latency with
    | .error fault => ({ a with requests := requests }, some fault)
    | .ok total =>
      ({ a with
          requests := requests
          total := total
          least := if latency.toInt < a.least.toInt then latency else a.least
          greatest := if a.greatest.toInt < latency.toInt then latency else a.greatest }, none)

/-- The report, if there were requests. The mean is rounded toward zero; a least latency that was
never lowered is reported as zero. The divisor of the mean is the count read as a signed word, and
the least total has no quotient by minus one. -/
def report (a : Aggregate) : Except Fault (Option Report) :=
  if a.requests = 0 then .ok none
  else (divChecked a.total a.requests.toInt64).map fun mean => some
    { module := a.module
      requestRate := a.requests
      meanLatency := mean
      maxLatency := a.greatest
      minLatency := if a.least = Int64.maxValue then 0 else a.least }

/-- Below the greatest count every mean has room. -/
theorem report_of_few {a : Aggregate} (few : a.requests.toNat < 18446744073709551615) :
    a.report = .ok (if a.requests = 0 then none else some
      { module := a.module
        requestRate := a.requests
        meanLatency := a.total / a.requests.toInt64
        maxLatency := a.greatest
        minLatency := if a.least = Int64.maxValue then 0 else a.least }) := by
  have other : a.requests.toInt64 ≠ -1 := by
    intro negative
    have greatest : a.requests = 18446744073709551615 := congrArg Int64.toUInt64 negative
    rw [greatest] at few
    exact absurd few (by decide)
  rw [report, divChecked_of_ne a.total other]
  split <;> rfl

/-- Forgets all requests. -/
def reset (a : Aggregate) : Aggregate := new a.module

/-- What is asked of an aggregate. -/
inductive Step where
  | update (latency : Int64)
  | report
  | reset

/-- Asks an aggregate one thing; the answer is a report where one was asked for. -/
def Step.perform (a : Aggregate) : Step → Reply Aggregate (Option Report)
  | .update latency =>
    match a.update latency with
    | (a, none) => ⟨a, [], .ok none⟩
    | (a, some fault) => ⟨a, [], .error fault⟩
  | .report => ⟨a, [], a.report⟩
  | .reset => ⟨a.reset, [], .ok none⟩

end Aggregate

end JobPool.Latency
