import JobPool.Metric.Basic

/-!
One thing after the other, asked of a metric: its operations, the value of a series, and snapshots.
-/

namespace JobPool.Metric

/-- What is asked of a metric. -/
inductive Step where
  | apply (operation : Operation) (labels : List String)
  | get (labels : List String)
  | snapshot
  | series (labels : List String)

/-- What a metric answers. -/
inductive Answer where
  | nothing
  | value (value : Option Int64)
  | count (count : UInt64)
  | snapshot (snapshot : Snapshot)
  | series (series : Option Series)

/-- Asks a metric one thing. -/
def Step.perform (m : Metric) : Step → Reply Metric Answer
  | .apply operation labels =>
    let reply := m.apply operation labels
    ⟨reply.state, reply.logs, reply.result.map fun _ => .nothing⟩
  | .get labels =>
    if m.cells.kind = .histogram then
      let reply := m.count labels
      ⟨m, reply.logs, reply.result.map .count⟩
    else
      let reply := m.value labels
      ⟨m, reply.logs, reply.result.map .value⟩
  | .snapshot => ⟨m, [], m.snapshot.map .snapshot⟩
  | .series labels => ⟨m, [], m.snapshot.map fun snapshot => .series (snapshot.find? labels)⟩

end JobPool.Metric
