import JobPool.Metric.Registry

/-!
A registry that is shared, behind a lock of its own. Readers share the lock and cannot poison it; a
writer that faults while it holds the lock poisons it, and whoever comes afterwards faults. The lock
is held while a metric is looked up and not while it is operated on.
-/

namespace JobPool.Metric

/-- A registry behind a lock. -/
structure SharedRegistry where
  registry : Registry
  poisoned : Bool

namespace SharedRegistry

/-- A registry behind a lock that nobody took yet. -/
def new (r : Registry) : SharedRegistry := ⟨r, false⟩

/-- What a reader finds. -/
def read {α : Type} (s : SharedRegistry) (look : Registry → Except Fault α) : Except Fault α :=
  if s.poisoned then .error .poisoned else look s.registry

/-- What a writer does. -/
def write {α : Type} (s : SharedRegistry) (change : Registry → Reply Registry α) :
    Reply SharedRegistry α :=
  if s.poisoned then ⟨s, [], .error .poisoned⟩
  else
    let reply := change s.registry
    ⟨⟨reply.state, !reply.result.isOk⟩, reply.logs, reply.result⟩

/-- Registers a metric under an id that is not taken, and says whether it did. -/
def register (s : SharedRegistry) (id : String) (handle : Handle) : Reply SharedRegistry Bool :=
  s.write (·.register id handle)

/-- Says whether an id is taken. -/
def has (s : SharedRegistry) (id : String) : Reply SharedRegistry Bool :=
  ⟨s, [], s.read fun r => .ok (r.has id)⟩

/-- Looks up the metric under an id, and then applies an operation to one of its series. -/
def apply (s : SharedRegistry) (id : String) (operation : Operation) (labels : List String) :
    Reply SharedRegistry Unit :=
  match s.read fun r => .ok (r.ids.get? id) with
  | .error fault => ⟨s, [], .error fault⟩
  | .ok none => ⟨s, [Registry.notRegistered id], .ok ()⟩
  | .ok (some handle) =>
    let reply := (s.registry.heap handle).apply operation labels
    ⟨{ s with registry := s.registry.set handle reply.state }, reply.logs, reply.result⟩

/-- All metrics at this moment, read while the lock is held. -/
def snapshot (s : SharedRegistry) : Reply SharedRegistry RegistrySnapshot :=
  ⟨s, [], s.read (·.snapshot)⟩

end SharedRegistry

end JobPool.Metric
