import JobPool.Table
import JobPool.Metric.Histogram
import JobPool.Metric.Snapshot

/-!
Metrics: families of series that share a description. The series of a metric sit behind one lock;
an operation that faults while it holds the lock leaves its partial result behind and the lock
poisoned, and whatever takes the lock afterwards faults. An operation that does not fit the metric
is logged and ignored before the lock is taken.
-/

namespace JobPool

namespace Metric

/-- A table behind a lock. -/
structure Guarded (α : Type) where
  table : Table (List String) α
  poisoned : Bool
  deriving DecidableEq

namespace Guarded

variable {α : Type}

/-- An empty table. -/
def empty : Guarded α := ⟨.empty, false⟩

/-- What the lock guards, unless it is poisoned. -/
def lock (g : Guarded α) : Except Fault (Table (List String) α) :=
  if g.poisoned then .error .poisoned else .ok g.table

/-- Changes the value of a series, which is created if need be. -/
def modify (g : Guarded α) (labels : List String) (initial : α) (change : α → α × Option Fault) :
    Guarded α × Except Fault Unit :=
  match g.lock with
  | .error fault => (g, .error fault)
  | .ok table =>
    match change ((table.get? labels).getD initial) with
    | (cell, none) => (⟨table.put labels cell, false⟩, .ok ())
    | (cell, some fault) => (⟨table.put labels cell, true⟩, .error fault)

/-- Removes a series and says whether it was there. -/
def remove (g : Guarded α) (labels : List String) : Guarded α × Except Fault Bool :=
  match g.lock with
  | .error fault => (g, .error fault)
  | .ok table =>
    match table.get? labels with
    | none => (g, .ok false)
    | some _ => (⟨table.erase labels, false⟩, .ok true)

/-- The series of a snapshot, read one by one. -/
def series (g : Guarded α) (read : α → Reading) : Except Fault (List Series) := do
  let table ← g.lock
  return (table.sorted textsLe).map fun entry => ⟨entry.1, read entry.2⟩

end Guarded

/-- The series of a metric, by its kind. -/
inductive Cells where
  | gauge (values : Guarded Int64)
  | counter (values : Guarded Int64)
  | histogram (bounds : List Binary64) (distributions : Guarded Distribution)
  deriving DecidableEq

/-- The kind of a metric with these series. -/
def Cells.kind : Cells → Kind
  | gauge _ => .gauge
  | counter _ => .counter
  | histogram .. => .histogram

end Metric

/-- A metric. -/
structure Metric where
  description : Metric.Description
  cells : Metric.Cells
  deriving DecidableEq

namespace Metric

/-- A gauge without series. -/
def newGauge (description : Description) : Metric := ⟨description, .gauge .empty⟩

/-- A counter without series. -/
def newCounter (description : Description) : Metric := ⟨description, .counter .empty⟩

/-- A histogram without series, its bounds given in any order. -/
def newHistogram (description : Description) (bounds : List Binary64) : Metric :=
  ⟨description, .histogram (sortBounds bounds) .empty⟩

/-- An operation on one series. -/
inductive Operation where
  | change (change : Change) (value : Int64)
  | remove
  deriving DecidableEq, Repr

/-- A sum in a cell; without room the cell stays. -/
def addTo (value cell : Int64) : Int64 × Option Fault :=
  match addChecked cell value with
  | .ok sum => (sum, none)
  | .error fault => (cell, some fault)

/-- A difference in a cell; without room the cell stays. -/
def subtractFrom (value cell : Int64) : Int64 × Option Fault :=
  match subChecked cell value with
  | .ok difference => (difference, none)
  | .error fault => (cell, some fault)

/-- Whether a lock is poisoned. -/
def poisoned (m : Metric) : Bool :=
  match m.cells with
  | .gauge g => g.poisoned
  | .counter g => g.poisoned
  | .histogram _ g => g.poisoned

/-- Applies a change behind the lock to a metric with these series, once it is known to fit. -/
def Cells.change (cells : Cells) (labels : List String) (change : Change) (value : Int64) :
    Cells × Except Fault Unit :=
  match cells with
  | .gauge g =>
    let (g, result) := g.modify labels 0 fun cell =>
      match change with
      | .add => addTo value cell
      | .subtract => subtractFrom value cell
      | .set => (value, none)
      | .observe => (cell, none)
    (.gauge g, result)
  | .counter g =>
    let (g, result) := g.modify labels 0 (addTo value)
    (.counter g, result)
  | .histogram bounds g =>
    let (g, result) := g.modify labels (.empty bounds) (Distribution.observe bounds value)
    (.histogram bounds g, result)

/-- Removes a series behind the lock. -/
def Cells.remove (cells : Cells) (labels : List String) : Cells × Except Fault Bool :=
  match cells with
  | .gauge g => let (g, result) := g.remove labels; (.gauge g, result)
  | .counter g => let (g, result) := g.remove labels; (.counter g, result)
  | .histogram bounds g => let (g, result) := g.remove labels; (.histogram bounds g, result)

/-- A gauge can be added to, subtracted from and set, a counter added to, a histogram observes. -/
def Kind.supports : Kind → Change → Bool
  | .gauge, .observe => false
  | .gauge, _ => true
  | .counter, .add => true
  | .counter, _ => false
  | .histogram, .observe => true
  | .histogram, _ => false

/-- The warning about a change of a series, unless it fits the metric. A counter refuses to go down
before the labels are looked at. -/
def refusal (m : Metric) (labels : List String) (change : Change) (value : Int64) :
    Option Record :=
  if !m.cells.kind.supports change then some (m.description.unsupported m.cells.kind change)
  else if m.cells.kind = .counter ∧ value.toInt < 0 then some (m.description.cannotDecrease value)
  else if !m.description.fits labels then some (m.description.arityWarning labels)
  else none

/-- Applies an operation to the series with these labels. -/
def apply (m : Metric) (operation : Operation) (labels : List String) : Reply Metric Unit :=
  match operation with
  | .change change value =>
    match m.refusal labels change value with
    | some warning => ⟨m, [warning], .ok ()⟩
    | none =>
      let (cells, result) := m.cells.change labels change value
      ⟨{ m with cells := cells }, [], result⟩
  | .remove =>
    if m.description.fits labels then
      match m.cells.remove labels with
      | (cells, .ok true) => ⟨{ m with cells := cells }, [], .ok ()⟩
      | (_, .ok false) => ⟨m, [m.description.notRemoved labels], .ok ()⟩
      | (_, .error fault) => ⟨m, [], .error fault⟩
    else ⟨m, [m.description.arityWarning labels, m.description.notRemoved labels], .ok ()⟩

/-- What a histogram says about a distribution. -/
def summarize (bounds : List Binary64) (d : Distribution) : Reading :=
  .summary
    { count := d.count
      sum := d.sum
      min := if d.count = 0 then 0 else d.min
      max := d.max
      buckets := Distribution.cumulative 0 bounds d.counts }

/-- The metric at this moment. -/
def snapshot (m : Metric) : Except Fault Snapshot := do
  let series ← match m.cells with
    | .gauge g => g.series .value
    | .counter g => g.series .value
    | .histogram bounds g => g.series (summarize bounds)
  return ⟨m.description, m.cells.kind, series⟩

/-- A cell of a metric, with a warning if the labels do not fit. -/
def readCell {α : Type} (m : Metric) (g : Guarded α) (labels : List String) :
    Reply Metric (Option α) :=
  if m.description.fits labels then ⟨m, [], g.lock.map (·.get? labels)⟩
  else ⟨m, [m.description.arityWarning labels], .ok none⟩

/-- The value of a series of a gauge or counter. -/
def value (m : Metric) (labels : List String) : Reply Metric (Option Int64) :=
  match m.cells with
  | .gauge g => m.readCell g labels
  | .counter g => m.readCell g labels
  | .histogram .. => ⟨m, [], .ok none⟩

/-- The number of observations of a series of a histogram. -/
def count (m : Metric) (labels : List String) : Reply Metric UInt64 :=
  match m.cells with
  | .histogram _ g =>
    let reply := m.readCell g labels
    ⟨m, reply.logs, reply.result.map fun d => (d.map (·.count)).getD 0⟩
  | _ => ⟨m, [], .ok 0⟩

end Metric

end JobPool
