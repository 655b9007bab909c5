import JobPool.Fault
import JobPool.Binary64.Basic

/-!
Histograms of elapsed times: upper bounds in milliseconds and the distribution of the observations
of one series. An observation is counted at the first bound that it does not exceed.
-/

namespace JobPool.Metric

/-- Of neighbours that are the same number keeps the first, `kept` being the last one kept. -/
def mergeAfter (kept : Binary64) : List Binary64 → List Binary64
  | [] => []
  | x :: rest => if kept.sameNumber x then mergeAfter kept rest else x :: mergeAfter x rest

/-- Of neighbours that are the same number keeps the first. -/
def mergeNeighbours : List Binary64 → List Binary64
  | [] => []
  | x :: rest => x :: mergeAfter x rest

/-- Puts a bound before the first that is not below it in the total order. -/
def insertBound (x : Binary64) : List Binary64 → List Binary64
  | [] => [x]
  | y :: rest => if x.totalKey ≤ y.totalKey then x :: y :: rest else y :: insertBound x rest

/-- Bounds in the total order. -/
def arrange : List Binary64 → List Binary64
  | [] => []
  | x :: rest => insertBound x (arrange rest)

/-- The bounds of a histogram: in the total order, the same number never twice in a row. -/
def sortBounds (bounds : List Binary64) : List Binary64 := mergeNeighbours (arrange bounds)

/-- The bounds of a histogram that is given none, as ratios of a number of milliseconds and two. -/
def defaultBounds : List Binary64 :=
  [1, 2, 5, 10, 20, 50, 100, 200, 500, 1000, 2000, 5000, 10000, 20000].map fun halves =>
    Binary64.roundRatio false halves 2

/-- The observations of one series. -/
structure Distribution where
  count : UInt64
  sum : Int64
  min : Int64
  max : Int64
  /-- For each bound the observations that were counted at it. -/
  counts : List UInt64
  deriving DecidableEq, Repr

namespace Distribution

/-- No observations yet. -/
def empty (bounds : List Binary64) : Distribution :=
  ⟨0, 0, Int64.maxValue, 0, bounds.map fun _ => 0⟩

/-- A time in microseconds as milliseconds. -/
def millis (elapsed : Int64) : Binary64 :=
  (Binary64.ofInt elapsed.toInt).div (Binary64.ofInt 1000)

/-- An observation does not exceed a bound. -/
def within (elapsed : Int64) (bound : Binary64) : Bool := (millis elapsed).atMost bound

/-- Counts at the first bound that the observation does not exceed. -/
def countAtFirst (elapsed : Int64) : List Binary64 → List UInt64 → List UInt64
  | bound :: bounds, n :: counts =>
    if within elapsed bound then (n + 1) :: counts
    else n :: countAtFirst elapsed bounds counts
  | _, counts => counts

/-- Adds an observation. The count is taken first; if the sum has no room, the rest stays. -/
def observe (bounds : List Binary64) (elapsed : Int64) (d : Distribution) :
    Distribution × Option Fault :=
  match succChecked d.count with
  | .error fault => (d, some fault)
  | .ok count =>
    match addChecked d.sum elapsed with
    | .error fault => ({ d with count := count }, some fault)
    | .ok sum =>
      ({ count := count
         sum := sum
         min := if elapsed.toInt < d.min.toInt then elapsed else d.min
         max := if d.max.toInt < elapsed.toInt then elapsed else d.max
         counts := countAtFirst elapsed bounds d.counts }, none)

/-- The bounds with the number of observations counted at them or before, after `total` earlier
ones. -/
def cumulative (total : UInt64) : List Binary64 → List UInt64 → List (Binary64 × UInt64)
  | bound :: bounds, n :: counts => (bound, total + n) :: cumulative (total + n) bounds counts
  | _, _ => []

end Distribution

end JobPool.Metric
