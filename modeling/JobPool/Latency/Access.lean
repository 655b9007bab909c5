import JobPool.Latency.MeteredRegistry
import JobPool.Metric.Shared

/-!
Two ways to one registry: requests about metrics reach it at once, or through the meter that was put beside it.
Requests about measurements reach the meter only. A registry that is shared is reached through its lock.
-/

namespace JobPool.Latency

open JobPool.Metric (Registry SharedRegistry Handle)

/-- How a request gets to a registry. -/
inductive Route where
  | direct
  | metered
  deriving DecidableEq, Repr

/-- The metric that an operation gets to. -/
def Request.reached (r : Registry) : Request → Option Handle
  | .apply id _ _ => r.ids.get? id
  | _ => none

/-- A registry on its own serves a request, if it can be served now. It knows nothing of measurements. -/
def Request.atOnce (r : Registry) : Request → Option (Reply Registry Answer)
  | .register id handle =>
    let reply := r.register id handle
    some ⟨reply.state, reply.logs, reply.result.map .flag⟩
  | .has id => some ⟨r, [], .ok (.flag (r.has id))⟩
  | .apply id operation labels =>
    let reply := r.apply id operation labels
    some ⟨reply.state, reply.logs, reply.result.map fun _ => .nothing⟩
  | .snapshot => some ⟨r, [], r.snapshot.map .snapshot⟩
  | .measure _ | .reports => none

/-- A registry behind its lock serves a request, if it can be served now. -/
def Request.throughLock (s : SharedRegistry) : Request → Option (Reply SharedRegistry Answer)
  | .register id handle =>
    let reply := s.register id handle
    some ⟨reply.state, reply.logs, reply.result.map .flag⟩
  | .has id =>
    let reply := s.has id
    some ⟨reply.state, reply.logs, reply.result.map .flag⟩
  | .apply id operation labels =>
    let reply := s.apply id operation labels
    some ⟨reply.state, reply.logs, reply.result.map fun _ => .nothing⟩
  | .snapshot =>
    let reply := s.snapshot
    some ⟨reply.state, reply.logs, reply.result.map .snapshot⟩
  | .measure _ | .reports => none

/-- Serves a request that comes by a route, if it can be served now. -/
def MeteredRegistry.ask (m : MeteredRegistry) (route : Route) (request : Request) :
    Option (Reply MeteredRegistry Answer) :=
  match route with
  | .direct =>
    (request.atOnce m.registry).map fun reply => ⟨{ m with registry := reply.state }, reply.logs, reply.result⟩
  | .metered => m.serve request

end JobPool.Latency
