import JobPool.Latency.MeteredRegistry
import JobPool.Metric.Step

/-!
Sessions with metrics: one metric on its own, an aggregate on its own, or a metered registry, each
asked one thing after the other. Every request is answered after the measurements before it have
been applied.
-/

namespace JobPool.Scenario

open Latency (Aggregate MeteredRegistry Request Answer)

/-- Records in the order of their levels' names and then of their texts. -/
def sortRecords (logs : List Record) : List Record :=
  logs.mergeSort fun a b => textsLe [a.level.name, a.text] [b.level.name, b.text]

/-- What a script asks of a metric. -/
abbrev MetricStep := Metric.Step

/-- What it is answered. -/
abbrev MetricAnswer := Metric.Answer

/-- Asks a metric one thing. -/
def MetricStep.perform : Metric → MetricStep → Reply Metric MetricAnswer := Metric.Step.perform

/-- What a script asks of an aggregate. -/
abbrev AggregateStep := Aggregate.Step

/-- Asks an aggregate one thing. -/
def AggregateStep.perform : Aggregate → AggregateStep → Reply Aggregate (Option Latency.Report) :=
  Aggregate.Step.perform

/-- What a session leaves, one step after the other. -/
def replies {σ ι α : Type} (step : σ → ι → Reply σ α) (state : σ) (inputs : List ι) :
    List (Reply σ α) := Reply.inTurn step state inputs

/-- What a sink is: a registry, a meter over a registry, or a meter with a registry of its own. -/
inductive SinkKind where
  | registry
  | meterOver
  | meterOwn
  deriving DecidableEq, Repr

/-- A sink, and whether its meter pushes by itself. -/
structure Sink where
  kind : SinkKind
  inner : MeteredRegistry
  ticking : Bool
  /-- How many requests there were. -/
  asked : Nat

/-- A sink that nobody used. -/
def Sink.new (kind : SinkKind) : Sink := ⟨kind, .empty, false, 0⟩

/-- What is asked of a sink. -/
inductive SinkStep where
  | ask (request : Request)
  /-- The value of a series. -/
  | value (id : String) (labels : List String)
  /-- The value of a series in the registry that a meter was put over. -/
  | innerValue (id : String) (labels : List String)
  | text
  /-- Starts the meter with an interval that is over soon. -/
  | runTicking
  /-- A measurement of no time, and the push that follows it. -/
  | tocPushed (module : String)

/-- What a sink answers. -/
inductive SinkAnswer where
  | of (answer : Answer)
  | value (value : Option Int64)
  | text (text : String)

/-- The log of a request; the lines of a push are put in order. -/
def orderedLogs (request : Request) (logs : List Record) : List Record :=
  match request with
  | .measure _ => sortRecords logs
  | _ => logs

/-- What a script registers is a metric of its own. -/
def numbered (number : Nat) : Request → Request
  | .register id handle => .register id { handle with number := number }
  | other => other

/-- Serves a request and then lets the meter apply what was sent. -/
def Sink.ask (s : Sink) (request : Request) : Reply Sink SinkAnswer :=
  match s.inner.serve (numbered s.asked request) with
  | none => ⟨s, [], .ok (.of .nothing)⟩
  | some reply =>
    ⟨{ s with inner := reply.state.settle, asked := s.asked + 1 }, orderedLogs request reply.logs,
      reply.result.map .of⟩

/-- The value of a series. -/
def Sink.value (s : Sink) (id : String) (labels : List String) : Reply Sink SinkAnswer :=
  ⟨s, [], s.inner.registry.snapshot.map fun snapshot => .value (snapshot.value? id labels)⟩

/-- Asks a sink one thing. -/
def SinkStep.perform (s : Sink) : SinkStep → Reply Sink SinkAnswer
  | .ask question => s.ask question
  | .value id labels => s.value id labels
  | .innerValue id labels =>
    if s.kind = .meterOwn then ⟨s, [], .ok (.value none)⟩ else s.value id labels
  | .text =>
    ⟨s, [], .ok (.text (if s.kind = .registry then s.inner.registry.text else s.inner.meter.text))⟩
  | .runTicking =>
    let reply := s.ask (.measure .run)
    ⟨{ reply.state with ticking := s.ticking || !s.inner.meter.running }, reply.logs, reply.result⟩
  | .tocPushed module =>
    let applied := s.ask (.measure (.toc module 0))
    if s.ticking then applied.state.ask (.measure .tick) else applied

end JobPool.Scenario
