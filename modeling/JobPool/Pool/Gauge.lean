import JobPool.Metric.Registry

/-!
The gauge of busy workers: one metric for all pools that share a registry, with one series for each
pool, labelled with its name.
-/

namespace JobPool.Gauge

open JobPool.Metric (Registry Handle)

/-- The id of the gauge. -/
def id : String := "MAX-WORKERS"

/-- How the gauge is described where nobody registered it before. -/
def description : Metric.Description :=
  ⟨"max_workers", "What are the max number of workers used", ["DispatcherName"]⟩

/-- A gauge that nobody used, to be told from others by its number. -/
def handle (number : Nat) : Handle := ⟨number, .newGauge description⟩

/-- Registers a new gauge unless its id is taken. -/
def register (r : Registry) (number : Nat) : Reply Registry Bool := r.register id (handle number)

/-- A call that sets a gauge to a value. -/
structure Call where
  value : Int64
  id : String
  labels : List String
  deriving DecidableEq, Repr

/-- The call that writes the greatest number of busy workers of a pool. -/
def call (name : String) (greatest : UInt64) : Call := ⟨greatest.toInt64, id, [name]⟩

/-- Writes the greatest number of busy workers of a pool. -/
def write (r : Registry) (name : String) (greatest : UInt64) : Reply Registry Unit :=
  let c := call name greatest
  r.apply c.id (.change .set c.value) c.labels

/-- Whether the gauge takes a value now. -/
def accepts (r : Registry) (name : String) (greatest : UInt64) : Bool :=
  (write r name greatest).result.isOk

/-- The value of the gauge of a pool, if it is there and the registry can be read. -/
def value (r : Registry) (name : String) : Except Fault (Option Int64) :=
  r.snapshot.map fun snapshot => snapshot.value? id [name]

end JobPool.Gauge
