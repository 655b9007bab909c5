import JobPool.Json.Writer

/-!
Settings of a pool: its name, its sizes where they are given, and how it treats failed jobs.
Settings have a JSON form, which names every field.
-/

namespace JobPool

/-- How failed jobs are treated, as far as settings can say it. -/
inductive PolicySetting where
  | discard
  | log
  | retry (retries : UInt64)
  deriving DecidableEq, Repr

/-- Settings of a pool. -/
structure Settings where
  name : String
  maxWorkers : Option UInt64
  queueCapacity : Option UInt64
  policy : PolicySetting
  deriving DecidableEq, Repr

/-- The JSON form of a policy. -/
def PolicySetting.toJson : PolicySetting → Json.Value
  | discard => .object [("kind", .text "discard")]
  | log => .object [("kind", .text "log")]
  | retry n => .object [("kind", .text "retry"), ("retries", .ofWord n)]

namespace Settings

/-- Settings that give only a name. -/
def ofName (name : String) : Settings := ⟨name, none, none, .log⟩

/-- A size, or `null` if it is not given. -/
def sizeToJson : Option UInt64 → Json.Value
  | none => .null
  | some n => .ofWord n

/-- The JSON form of settings. -/
def toJson (s : Settings) : Json.Value :=
  .object [("name", .text s.name), ("max_workers", sizeToJson s.maxWorkers),
    ("queue_capacity", sizeToJson s.queueCapacity), ("failure_policy", s.policy.toJson)]

end Settings

end JobPool
