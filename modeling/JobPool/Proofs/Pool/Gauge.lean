import JobPool.Pool.Gauge
import JobPool.Proofs.Latency.Ledger

/-!
The gauge in a registry that is shared. A write goes to the series of one name and is never refused
(`Held.write`); whatever else is asked of the registry, by whichever id the gauge has, leaves the series of the pools
alone (`Held.leaves`), and the gauge that is there stays.
-/

namespace JobPool.Gauge

open JobPool.Metric (Registry Handle Operation Alike)
open JobPool.Latency (Request)

/-- A gauge with one label that is not poisoned. -/
structure IsGauge (m : Metric) : Prop where
  calm : m.poisoned = false
  kind : m.cells.kind = .gauge
  label : m.description.labelNames.length = 1

/-- A value below half the range of its word is read as it was written. -/
theorem toInt_toInt64 {greatest : UInt64} (small : greatest.toNat < 2 ^ 63) :
    greatest.toInt64.toInt = greatest.toNat := by
  have half : 2 * greatest.toBitVec.toNat < 2 ^ 64 := by
    rw [UInt64.toNat_toBitVec]
    omega
  exact BitVec.toInt_eq_toNat_of_lt half

theorem isGauge_new : IsGauge (.newGauge description) := ⟨rfl, rfl, rfl⟩

section metric

variable {m n : Metric}

private theorem IsGauge.of_alike (gauge : IsGauge m) (alike : Alike m n) (calm : n.poisoned = false) : IsGauge n :=
  ⟨calm, alike.kind.trans gauge.kind, by rw [alike.description]; exact gauge.label⟩

private theorem IsGauge.set (gauge : IsGauge m) (name : String) (value : Int64) :
    ∃ n, m.apply (.change .set value) [name] = ⟨n, [], .ok ()⟩ ∧ IsGauge n ∧
      ∀ labels, n.plain? labels = if labels = [name] then some value else m.plain? labels := by
  have taken : m.takes [name] .set value = true := by
    simp [Metric.takes_eq, gauge.kind, Metric.Kind.supports, Metric.Description.fits, gauge.label]
  obtain ⟨description, cells⟩ := m
  cases cells with
  | counter g | histogram bounds g => cases gauge.kind
  | gauge g =>
    have put : g.modify [name] 0 (Metric.Change.inGauge .set value) = (⟨g.table.put [name] value, false⟩, .ok ()) :=
      Metric.Guarded.modify_of_fit gauge.calm rfl
    refine ⟨⟨description, .gauge ⟨g.table.put [name] value, false⟩⟩, ?_, ⟨rfl, rfl, gauge.label⟩, fun labels => ?_⟩
    · simp only [Metric.apply, Metric.refusal_eq_none.mpr taken, Metric.change_gauge, put]
    · exact Table.get?_put ..

/-- An operation on another series leaves a gauge a gauge and its other series alone. -/
theorem IsGauge.apply (gauge : IsGauge m) {operation : Operation} {labels : List String}
    (made : ∀ fault, (m.apply operation labels).result = .error fault → ¬fault.IsOverflow) :
    IsGauge (m.apply operation labels).state ∧
      ∀ other, other ≠ labels → (m.apply operation labels).state.plain? other = m.plain? other := by
  have alike := Metric.alike_of_apply m operation labels
  rcases Metric.apply_of_calm gauge.calm operation labels with ⟨next, logs, done, calm⟩ |
    ⟨next, fault, done, -, overflow⟩
  · have fine : (m.apply operation labels).result = .ok () := by rw [done]
    have effect := Metric.plain_of_apply fine
    rw [done] at alike effect ⊢
    refine ⟨gauge.of_alike alike calm, fun other differs => ?_⟩
    have same := effect other
    rw [if_neg differs] at same
    exact Option.map_injective (fun _ _ => Int64.toInt_inj.mp) same
  · exact absurd overflow (made fault (by rw [done]))

end metric

/-- A gauge that has no series of these names. -/
structure Usable (reserved : String → Prop) (m : Metric) : Prop where
  gauge : IsGauge m
  unused : ∀ name, reserved name → m.plain? [name] = none

/-- No other metric stands under the id of the gauge, and its series of these names hold these values. -/
structure Held (gauge : Handle) (reserved : String → Prop) (values : String → Option UInt64) (r : Registry) :
    Prop where
  only : ∀ other, r.ids.get? id = some other → other = gauge
  isGauge : IsGauge (r.heap gauge)
  series : ∀ name, reserved name → (r.heap gauge).plain? [name] = (values name).map UInt64.toInt64

/-- A request that leaves the series of these names alone: if it gets to the gauge, it is no operation on them, and
    does not overflow. -/
structure Considerate (gauge : Handle) (reserved : String → Prop) (r : Registry) (request : Request) : Prop where
  apart : request.reached r = some gauge → ∀ name, reserved name → request.operation [name] = none
  made : ∀ other operation labels, request = .apply other operation labels → r.ids.get? other = some gauge →
    ∀ fault, ((r.heap gauge).apply operation labels).result = .error fault → ¬fault.IsOverflow

section registry

variable {gauge : Handle} {reserved : String → Prop} {values : String → Option UInt64} {r : Registry}
  {request : Request}

theorem Held.leaves (held : Held gauge reserved values r) (considerate : Considerate gauge reserved r request)
    (only : ∀ other, (request.leaves r).ids.get? id = some other → other = gauge) :
    Held gauge reserved values (request.leaves r) := by
  cases request with
  | register other fresh =>
    have heap : ((Request.register other fresh).leaves r).heap = r.heap := Registry.heap_register ..
    exact ⟨only, heap ▸ held.isGauge, heap ▸ held.series⟩
  | apply other operation labels =>
    have left := Registry.heap_apply r other operation labels gauge
    by_cases found : r.ids.get? other = some gauge
    · obtain ⟨isGauge, others⟩ := held.isGauge.apply (considerate.made other operation labels rfl found)
      rw [if_pos found] at left
      refine ⟨only, left ▸ isGauge, fun name listed => ?_⟩
      have differs : [name] ≠ labels := by
        rintro rfl
        have operates := considerate.apart found name listed
        rw [Request.operation, if_pos rfl] at operates
        cases operates
      rw [← held.series name listed, ← others [name] differs]
      exact congrArg (Metric.plain? · [name]) left
    · rw [if_neg found] at left
      exact ⟨only, left ▸ held.isGauge, fun name listed => left ▸ held.series name listed⟩
  | has | snapshot | measure | reports => exact held

/-- The gauge takes what a pool writes, in the series of the pool. -/
theorem Held.write (held : Held gauge reserved values r) (there : r.ids.get? id = some gauge) (name : String)
    (greatest : UInt64) :
    (Gauge.write r name greatest).result = .ok () ∧
      Held gauge reserved (fun other => if other = name then some greatest else values other)
        (Gauge.write r name greatest).state := by
  obtain ⟨next, made, isGauge, series⟩ := held.isGauge.set name greatest.toInt64
  have written : Gauge.write r name greatest = ⟨r.set gauge next, [], .ok ()⟩ := by
    simp only [Gauge.write, call, Registry.apply_of_found there, made]
  have heap : (r.set gauge next).heap gauge = next := if_pos rfl
  rw [written]
  refine ⟨rfl, held.only, heap.symm ▸ isGauge, fun other listed => ?_⟩
  rw [heap, series]
  by_cases same : other = name
  · simp [same]
  · simp [same, held.series other listed]

end registry

end JobPool.Gauge
