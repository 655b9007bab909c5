import JobPool.Proofs.Latency.Moves
import JobPool.Proofs.Load.Moves
import JobPool.Proofs.Pool.Gauge

/-!
The sink of a load run. A run that is calm has been calm all the time (`calm_of_move`), and as long as it is, an attempt
counts a failure and the gauge takes a value (`failures_of_add`, `busy_of_write`), as nobody takes the metrics away
that were registered when the run began (`fitted_of_move`).
-/

namespace JobPool.Load

open JobPool.Metric (Registry Alike Operation)
open Latency (Meter)

/-- No metric is poisoned, and neither is the meter as long as the run goes on. -/
structure Calm (s : State) : Prop where
  registry : s.sink.registry.Calm
  meter : s.sink.meter.poisoned = true → ∃ greatest, s.phase = .finished greatest

theorem finished_of_hear {phase : Phase} {events : List (Pool.Event LoadJob)} {greatest : UInt64}
    (ended : events.foldl Phase.hear phase = .finished greatest) : phase = .finished greatest := by
  have one : ∀ (phase : Phase) event, phase.hear event = .finished greatest → phase = .finished greatest := by
    intro phase event ended
    unfold Phase.hear at ended
    split at ended
    · split at ended
      · split at ended <;> cases ended
      · exact ended
    · split at ended
      · cases ended
      · cases ended
      · exact ended
    · exact ended
  induction events generalizing phase with
  | nil => exact ended
  | cons event rest ih => exact one phase event (ih ended)

variable {config : Config} {s t : State} {events : List (Pool.Event LoadJob)}

/-- Nothing is ever healed. -/
theorem calm_of_move (moved : Move config s events t) (calm : Calm t) : Calm s := by
  obtain ⟨registry, meter⟩ := calm
  cases moved with
  | @pool action phase events r pool stage moved =>
    have before : s.sink.registry.Calm := by
      cases moved with
      | quiet => exact registry
      | raise => exact (Registry.of_calm_apply registry).1
    refine ⟨before, fun poisoned => ?_⟩
    obtain ⟨greatest, ended⟩ := meter poisoned
    have finished := finished_of_hear ended
    cases stage with
    | thread | resume => exact ⟨greatest, finished⟩
    | submit | ask | reset | finish => cases finished
  | attempt found working effort =>
    cases effort with
    | measure early measuring moved => exact ⟨registry, fun poisoned => meter (Meter.poisoned_of_step poisoned moved)⟩
    | observe | fail => exact ⟨(Registry.of_calm_apply registry).1, meter⟩
    | succeed => exact ⟨registry, meter⟩
  | meter moved => exact ⟨registry, fun poisoned => meter (Meter.poisoned_of_step poisoned moved)⟩
  | push pushes moved ends =>
    refine ⟨registry, fun poisoned => ?_⟩
    obtain ⟨greatest, ended⟩ := meter (Meter.poisoned_of_step poisoned moved)
    rcases ends with ⟨-, made⟩ | ⟨fault, rfl⟩
    · rw [(Meter.cleared_of_push moved made).1] at poisoned
      cases poisoned
    · cases ended
  | turn turned =>
    refine ⟨registry, fun poisoned => ?_⟩
    obtain ⟨greatest, ended⟩ := meter poisoned
    cases turned <;> cases ended

/-- The counter of failed attempts and the gauge of busy workers are there, every id has a metric of its own, and every
    metric is of the kind and with the description that it was made with. -/
structure Fitted (r : Registry) : Prop where
  counter : r.ids.get? failedJobsId = some failedJobs
  gauge : r.ids.get? Gauge.id = some (Gauge.handle 0)
  own : ∀ id, r.Own id
  alike : ∀ handle, Alike handle.made (r.heap handle)

private theorem Fitted.apply {r : Registry} (fitted : Fitted r) (id : String) (operation : Operation)
    (labels : List String) :
    Fitted (r.apply id operation labels).state := by
  have ids := Registry.ids_apply r id operation labels
  refine ⟨ids ▸ fitted.counter, ids ▸ fitted.gauge, fun other => ?_, fun handle => ?_⟩
  · rw [Registry.Own, ids]
    exact fitted.own other
  · exact (fitted.alike handle).trans (Registry.alike_apply ..)

theorem fitted_start : Fitted (Gauge.register newSink.registry 0).state where
  counter := rfl
  gauge := rfl
  own := Registry.own_of_nodup (by decide +kernel)
  alike := fun handle => by
    simp only [newSink, Gauge.register, Registry.heap_register]
    exact .refl _

theorem fitted_of_move (fitted : Fitted s.sink.registry) (moved : Move config s events t) : Fitted t.sink.registry := by
  cases moved with
  | pool stage moved =>
    cases moved with
    | quiet => exact fitted
    | raise => exact fitted.apply ..
  | attempt found working effort =>
    cases effort with
    | observe | fail => exact fitted.apply ..
    | measure | succeed => exact fitted
  | meter | push | turn => exact fitted

/-- The value under an id for the pool of this name. -/
def reading (r : Registry) (id name : String) : Option Int := (r.plain? id [name]).map Int64.toInt

section

variable {r : Registry} {name : String}

theorem failures_of_add (fitted : Fitted r)
    (done : (r.apply failedJobsId (.change .add 1) [name]).result = .ok ()) :
    reading (r.apply failedJobsId (.change .add 1) [name]).state failedJobsId name =
      some ((reading r failedJobsId name).getD 0 + 1) := by
  have plain := Registry.plain_of_apply fitted.counter done [name]
  rw [if_pos rfl, (fitted.alike _).effect, ← Registry.plain_of_found fitted.counter,
    ← Registry.plain_of_found ((Registry.ids_apply ..).symm ▸ fitted.counter)] at plain
  exact plain

theorem busy_of_write (fitted : Fitted r) {greatest : UInt64} (small : greatest.toNat < 2 ^ 63)
    (done : (Gauge.write r name greatest).result = .ok ()) :
    reading (Gauge.write r name greatest).state Gauge.id name = some (greatest.toNat : Int) := by
  have set : (r.apply Gauge.id (.change .set greatest.toInt64) [name]).result = .ok () := done
  have plain := Registry.plain_of_apply fitted.gauge set [name]
  rw [if_pos rfl, (fitted.alike _).effect,
    ← Registry.plain_of_found ((Registry.ids_apply ..).symm ▸ fitted.gauge)] at plain
  rw [← Gauge.toInt_toInt64 small]
  exact plain

theorem reading_apply_of_ne (fitted : Fitted r) {id other : String} (differs : id ≠ other) (operation : Operation)
    (labels : List String) : reading (r.apply id operation labels).state other name = reading r other name := by
  rw [reading, Registry.plain_apply_of_ne (fitted.own id) differs, reading]

end

end JobPool.Load
