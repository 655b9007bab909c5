import JobPool.Latency.Meter
import JobPool.Metric.Registry

/-!
A registry with a latency meter beside it. Requests about metrics go to the registry, requests about
measurements to the meter; neither has an effect on the other.
-/

namespace JobPool.Latency

open JobPool.Metric (Registry RegistrySnapshot Handle Operation)

/-- A registry and a meter. -/
structure MeteredRegistry where
  registry : Registry
  meter : Meter

/-- What callers ask for. -/
inductive Request where
  | register (id : String) (handle : Handle)
  | has (id : String)
  | apply (id : String) (operation : Operation) (labels : List String)
  | snapshot
  | measure (action : Meter.Action)
  | reports

/-- What callers are told. -/
inductive Answer where
  | nothing
  | flag (value : Bool)
  | snapshot (value : RegistrySnapshot)
  | reports (value : List Report)

namespace MeteredRegistry

/-- Nothing registered, nothing measured. -/
def empty : MeteredRegistry := ⟨.empty, .new⟩

/-- Serves a request, if it can be served now. -/
def serve (m : MeteredRegistry) : Request → Option (Reply MeteredRegistry Answer)
  | .register id handle =>
    let reply := m.registry.register id handle
    some ⟨{ m with registry := reply.state }, reply.logs, reply.result.map .flag⟩
  | .has id => some ⟨m, [], .ok (.flag (m.registry.has id))⟩
  | .apply id operation labels =>
    let reply := m.registry.apply id operation labels
    some ⟨{ m with registry := reply.state }, reply.logs, reply.result.map fun _ => .nothing⟩
  | .snapshot => some ⟨m, [], m.registry.snapshot.map .snapshot⟩
  | .measure action =>
    (m.meter.step action).map fun (meter, reports, result) =>
      ⟨{ m with meter := meter }, reports.map Meter.line, result.map fun _ => .nothing⟩
  | .reports =>
    let (meter, result) := m.meter.reports
    some ⟨{ m with meter := meter }, [], result.map .reports⟩

/-- Lets the meter apply all measurements that were sent. -/
def settle (m : MeteredRegistry) : MeteredRegistry := { m with meter := m.meter.settle }

end MeteredRegistry

end JobPool.Latency
