import JobPool.Metric.Basic

/-!
Registries: metrics under ids. The first registration of an id stays; operations and snapshots go
to the metrics, and an operation on an id that is not there is logged and ignored. A metric belongs
to all who have a handle of it, and may stand under several ids: what is done to it through one of
them shows under all. A fault in one metric leaves the registry and the other metrics usable, but
not snapshots of the whole.
-/

namespace JobPool.Metric

/-- A metric as all who share it know it: which one it is, and how it was when it was made. -/
structure Handle where
  number : Nat
  made : Metric
  deriving DecidableEq

/-- Where there is one metric that was made like this, it needs no number. -/
instance : Coe Metric Handle := ⟨Handle.mk 0⟩

/-- Metrics under ids, and how every metric is now. -/
structure Registry where
  ids : Table String Handle
  heap : Handle → Metric

/-- The metrics of a registry at one moment, in the order of their ids. -/
structure RegistrySnapshot where
  metrics : List (String × Snapshot)
  deriving DecidableEq, Repr

namespace RegistrySnapshot

/-- The plain value of a series of a gauge or counter. -/
def value? (s : RegistrySnapshot) (id : String) (labels : List String) : Option Int64 :=
  ((s.metrics.lookup id).bind (·.find? labels)).bind (·.reading.value?)

/-- The JSON form of a snapshot. -/
def toJson (s : RegistrySnapshot) : Json.Value :=
  .object [("metrics", .object (s.metrics.map fun m => (m.1, m.2.toJson)))]

end RegistrySnapshot

namespace Registry

/-- No id is taken, and every metric is as it was made. -/
def empty : Registry := ⟨.empty, Handle.made⟩

/-- The metrics as they are now, under their ids. -/
def metrics (r : Registry) : Table String Metric := r.ids.mapValues fun _ handle => r.heap handle

/-- An id is taken. -/
def has (r : Registry) (id : String) : Bool := (r.ids.get? id).isSome

/-- A metric has become another. -/
def set (r : Registry) (handle : Handle) (metric : Metric) : Registry :=
  { r with heap := fun other => if other = handle then metric else r.heap other }

/-- The remark about an id that is taken. -/
def alreadyRegistered (id : String) : Record := .debug s!"metric {id} already registered"

/-- The warning about an id that is not taken. -/
def notRegistered (id : String) : Record := .warn s!"metric {id} is not registered"

/-- Registers a metric under an id that is not taken, and says whether it did. -/
def register (r : Registry) (id : String) (handle : Handle) : Reply Registry Bool :=
  if r.has id then ⟨r, [alreadyRegistered id], .ok false⟩
  else ⟨{ r with ids := r.ids.put id handle }, [], .ok true⟩

/-- Applies an operation to a series of the metric under an id. -/
def apply (r : Registry) (id : String) (operation : Operation) (labels : List String) :
    Reply Registry Unit :=
  match r.ids.get? id with
  | none => ⟨r, [notRegistered id], .ok ()⟩
  | some handle =>
    let reply := (r.heap handle).apply operation labels
    ⟨r.set handle reply.state, reply.logs, reply.result⟩

/-- Snapshots one by one; the first that faults ends it. -/
def snapshots : List (String × Metric) → Except Fault (List (String × Snapshot))
  | [] => .ok []
  | (id, metric) :: rest => do
    let snapshot ← metric.snapshot
    return (id, snapshot) :: (← snapshots rest)

/-- All metrics at this moment. -/
def snapshot (r : Registry) : Except Fault RegistrySnapshot :=
  (snapshots (r.metrics.sorted textLe)).map .mk

theorem get?_metrics (r : Registry) (id : String) : r.metrics.get? id = (r.ids.get? id).map r.heap :=
  Table.get?_mapValues ..

/-- A metric that has become what it was has not changed. -/
theorem set_heap (r : Registry) (handle : Handle) : r.set handle (r.heap handle) = r := by
  have same : (fun other => if other = handle then r.heap handle else r.heap other) = r.heap := by
    funext other
    split
    · rename_i equal
      rw [equal]
    · rfl
  rw [set, same]

/-- A registration leaves every metric as it is. -/
theorem heap_register (r : Registry) (id : String) (handle : Handle) :
    (r.register id handle).state.heap = r.heap := by
  unfold register
  cases r.has id <;> rfl

/-- An operation leaves the ids alone. -/
theorem ids_apply (r : Registry) (id : String) (operation : Operation) (labels : List String) :
    (r.apply id operation labels).state.ids = r.ids := by
  unfold apply
  cases r.ids.get? id <;> rfl

/-- An operation is made on the metric that its id has, and on no other. -/
theorem heap_apply (r : Registry) (id : String) (operation : Operation) (labels : List String)
    (handle : Handle) :
    (r.apply id operation labels).state.heap handle =
      if r.ids.get? id = some handle then ((r.heap handle).apply operation labels).state
      else r.heap handle := by
  unfold apply
  cases r.ids.get? id with
  | none => rfl
  | some there =>
    by_cases same : handle = there
    · simp [set, same]
    · simp [set, same, Ne.symm same]

/-- The ids have the same metric, or neither of them has one. -/
def Shares (r : Registry) (id other : String) : Prop := r.ids.get? id = r.ids.get? other

instance (r : Registry) (id other : String) : Decidable (r.Shares id other) :=
  inferInstanceAs (Decidable (_ = _))

/-- What is found under an id after an operation: every id that has the metric that was asked for
shows what became of it. -/
theorem get?_apply (r : Registry) (id : String) (operation : Operation) (labels : List String)
    (other : String) :
    (r.apply id operation labels).state.metrics.get? other =
      if r.Shares id other then
        (r.metrics.get? other).map fun metric => (metric.apply operation labels).state
      else r.metrics.get? other := by
  rw [get?_metrics, get?_metrics, ids_apply]
  cases there : r.ids.get? other with
  | none => split <;> rfl
  | some handle =>
    have touched : r.Shares id other ↔ r.ids.get? id = some handle := by rw [Shares, there]
    rw [Option.map_some, Option.map_some, heap_apply]
    by_cases same : r.Shares id other
    · rw [if_pos same, if_pos (touched.mp same), Option.map_some]
    · rw [if_neg same, if_neg fun found => same (touched.mpr found)]

/-- The written form of a registry: the ids in their order. -/
def text (r : Registry) : String :=
  Text.record "MetricRegistry"
    [("metrics", Text.quotedList ((r.ids.sorted textLe).map (·.1)))]

end Registry

end JobPool.Metric
