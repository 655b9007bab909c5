import JobPool.Pool.Gauge
import JobPool.Pool.Step

/-!
Pools over a registry: what the tracker of a pool writes goes to the gauge there, and the gauge says
whether it takes a value. Several pools may share a registry; each of them moves by itself.
-/

namespace JobPool.Pool

open JobPool.Metric (Registry)

variable {J : Type}

/-- Whether the gauge takes the value that the tracker writes next, if it writes one. -/
def gaugeAccepts (config : Config) (r : Registry) (s : State J) : Bool :=
  match s.tracker.nextGauge? with
  | none => true
  | some greatest => Gauge.accepts r config.name greatest

/-- Writes to the gauge what the tracker gave; what the registry logs follows at once. -/
def writeGauge (config : Config) : Registry → List (Event J) → Registry × List (Event J)
  | r, [] => (r, [])
  | r, event :: rest =>
    let reply : Reply Registry Unit := match event with
      | .tracker (.gauge greatest) => Gauge.write r config.name greatest
      | _ => ⟨r, [], .ok ()⟩
    let (r, rest) := writeGauge config reply.state rest
    (r, event :: reply.logs.map .metrics ++ rest)

/-- What a move of a pool over a registry does, if it can be made now. -/
def stepOver [Job J] (config : Config) (r : Registry) (s : State J) (action : Action J) :
    Option (Registry × State J × List (Event J)) :=
  let action := match action with
    | .tracker _ => .tracker (gaugeAccepts config r s)
    | other => other
  (step config s action).map fun (s, events) =>
    let (r, events) := writeGauge config r events
    (r, s, events)

end JobPool.Pool
