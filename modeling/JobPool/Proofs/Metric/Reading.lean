import Mathlib.Data.List.Nodup
import JobPool.Metric.Registry
import JobPool.Proofs.Metric.Guarded

/-!
The plain values of gauges and counters: what a snapshot tells about a series is what the metric holds
(`value_of_snapshot`), and an operation that does not fault has its effect on its own series and on no other
(`plain_of_apply`).
-/

namespace JobPool.Metric

/-- The value that a gauge or a counter holds for a series. -/
def plain? (m : Metric) (labels : List String) : Option Int64 :=
  match m.cells with
  | .gauge g => g.table.get? labels
  | .counter g => g.table.get? labels
  | .histogram .. => none

/-- The value that a registry holds for a series of a gauge or a counter. -/
def Registry.plain? (r : Registry) (id : String) (labels : List String) : Option Int64 :=
  (r.metrics.get? id).bind (·.plain? labels)

theorem Registry.plain_of_found {r : Registry} {id : String} {handle : Handle} (found : r.ids.get? id = some handle)
    (labels : List String) : r.plain? id labels = (r.heap handle).plain? labels := by
  rw [Registry.plain?, get?_metrics, found, Option.map_some, Option.bind_some]

/-- What a change makes of a number. -/
def Change.applied (change : Change) (value cell : Int) : Int :=
  match change with
  | .add => cell + value
  | .subtract => cell - value
  | .set => value
  | .observe => cell

/-- What an operation makes of the value of its series. -/
def Operation.effect (operation : Operation) (m : Metric) (labels : List String) (cell : Option Int) : Option Int :=
  match operation with
  | .change made value =>
    if m.takes labels made value = true ∧ m.cells.kind ≠ .histogram then some (made.applied value.toInt (cell.getD 0))
    else cell
  | .remove => if m.description.fits labels then none else cell

theorem Alike.effect {m other : Metric} (alike : Alike m other) (operation : Operation) (labels : List String)
    (cell : Option Int) : operation.effect other labels cell = operation.effect m labels cell := by
  cases operation with
  | change made value => simp only [Operation.effect, alike.takes, alike.kind]
  | remove => simp only [Operation.effect, alike.description]

section snapshots

variable {m : Metric} {labels : List String}

/-- A snapshot tells what the table holds. -/
theorem find_series {α : Type} (table : Table (List String) α) (read : α → Reading) (labels : List String) :
    (((table.sorted textsLe).map fun entry => (⟨entry.1, read entry.2⟩ : Series)).find?
        fun series => series.labels = labels) =
      (table.get? labels).map fun cell => ⟨labels, read cell⟩ := by
  rw [List.find?_map]
  simp only [Function.comp_def]
  rw [find?_key, Table.lookup_sorted, Option.map_map]
  rfl

/-- A snapshot is taken unless the lock is poisoned, and tells what the series hold. -/
theorem snapshot_eq_ok {snapshot : Snapshot} (taken : m.snapshot = .ok snapshot) :
    m.poisoned = false ∧ ∀ labels, (snapshot.find? labels).bind (·.reading.value?) = m.plain? labels := by
  cases poisoned : m.poisoned with
  | true => rw [snapshot_of_poisoned poisoned] at taken; cases taken
  | false =>
    refine ⟨rfl, fun labels => ?_⟩
    obtain ⟨description, cells⟩ := m
    cases cells <;>
      simp only [Metric.snapshot, Guarded.series_of_calm poisoned, bind, Except.bind, pure, Except.pure,
        Except.ok.injEq] at taken <;>
      subst taken <;>
      simp only [Snapshot.find?, plain?, find_series]
    · rename_i g; cases g.table.get? labels <;> rfl
    · rename_i g; cases g.table.get? labels <;> rfl
    · rename_i bounds g; cases g.table.get? labels <;> rfl

private theorem Registry.shown_of_snapshots {entries : List (String × Metric)} {taken : List (String × Snapshot)}
    (done : Registry.snapshots entries = .ok taken) (id : String) :
    Option.Rel (fun metric shown => metric.snapshot = .ok shown) (entries.lookup id) (taken.lookup id) := by
  induction entries generalizing taken with
  | nil => cases done; exact .none
  | cons entry rest ih =>
    obtain ⟨key, metric⟩ := entry
    simp only [Registry.snapshots, bind, Except.bind, pure, Except.pure] at done
    cases here : metric.snapshot with
    | error fault => rw [here] at done; cases done
    | ok snapshot =>
      cases later : Registry.snapshots rest with
      | error fault => rw [here, later] at done; cases done
      | ok others =>
        rw [here, later] at done
        cases done
        rw [lookup_entry, lookup_entry]
        by_cases same : id = key
        · simpa [same] using Option.Rel.some here
        · simpa [same] using ih later

private theorem Registry.snapshots_of_calm {entries : List (String × Metric)}
    (calm : ∀ entry ∈ entries, entry.2.poisoned = false) : ∃ taken, Registry.snapshots entries = .ok taken := by
  induction entries with
  | nil => exact ⟨[], rfl⟩
  | cons entry rest ih =>
    obtain ⟨here, made⟩ := Metric.snapshot_of_calm (calm entry List.mem_cons_self)
    obtain ⟨taken, later⟩ := ih fun other listed => calm other (List.mem_cons_of_mem _ listed)
    exact ⟨(entry.1, here) :: taken, by simp only [Registry.snapshots, made, later]; rfl⟩

end snapshots

namespace Registry

variable {r : Registry}

/-- No metric is poisoned. -/
def Calm (r : Registry) : Prop := ∀ id metric, r.metrics.get? id = some metric → metric.poisoned = false

/-- A snapshot of a registry shows the snapshots of its metrics. -/
theorem shown_of_snapshot {snapshot : RegistrySnapshot} (taken : r.snapshot = .ok snapshot) (id : String) :
    Option.Rel (fun metric shown => metric.snapshot = .ok shown) (r.metrics.get? id) (snapshot.metrics.lookup id) := by
  cases listed : Registry.snapshots (r.metrics.sorted textLe) with
  | error fault => rw [Registry.snapshot, listed] at taken; cases taken
  | ok metrics =>
    rw [Registry.snapshot, listed] at taken
    cases taken
    rw [← r.metrics.lookup_sorted textLe]
    exact shown_of_snapshots listed id

/-- A snapshot of a registry is taken unless a metric is poisoned, and tells what the metrics hold. -/
theorem value_of_snapshot {snapshot : RegistrySnapshot} (taken : r.snapshot = .ok snapshot) :
    r.Calm ∧ ∀ id labels, snapshot.value? id labels = r.plain? id labels := by
  constructor
  · intro id metric found
    have shown := shown_of_snapshot taken id
    rw [found] at shown
    generalize snapshot.metrics.lookup id = there at shown
    cases shown with
    | some made => exact (snapshot_eq_ok made).1
  · intro id labels
    have shown := shown_of_snapshot taken id
    rw [RegistrySnapshot.value?, Registry.plain?]
    generalize r.metrics.get? id = held at shown
    generalize snapshot.metrics.lookup id = there at shown
    cases shown with
    | none => rfl
    | some made => exact (snapshot_eq_ok made).2 labels

theorem snapshot_of_calm (calm : r.Calm) :
    ∃ snapshot, r.snapshot = .ok snapshot ∧ ∀ id labels, snapshot.value? id labels = r.plain? id labels := by
  have calms : ∀ entry ∈ r.metrics.sorted textLe, entry.2.poisoned = false := by
    intro entry member
    exact calm entry.1 entry.2 (Table.mem_sorted.mp member)
  obtain ⟨metrics, listed⟩ := snapshots_of_calm calms
  have taken : r.snapshot = .ok ⟨metrics⟩ := by rw [Registry.snapshot, listed]; rfl
  exact ⟨⟨metrics⟩, taken, (value_of_snapshot taken).2⟩

end Registry

section effects

variable {m : Metric} {labels : List String} {change : Change} {value cell next : Int64}

theorem addChecked_eq_ok {a b sum : Int64} (added : addChecked a b = .ok sum) : sum.toInt = a.toInt + b.toInt := by
  unfold addChecked at added
  split at added
  · rename_i fits
    cases added
    rw [Int64.toInt_add]
    exact Int.bmod_eq_of_le fits.1 (Int.lt_of_le_of_lt fits.2 (by decide))
  · cases added

private theorem subChecked_eq_ok {a b difference : Int64} (subtracted : subChecked a b = .ok difference) :
    difference.toInt = a.toInt - b.toInt := by
  unfold subChecked at subtracted
  split at subtracted
  · rename_i fits
    cases subtracted
    rw [Int64.toInt_sub]
    exact Int.bmod_eq_of_le fits.1 (Int.lt_of_le_of_lt fits.2 (by decide))
  · cases subtracted

theorem addTo_eq (added : addTo value cell = (next, none)) : next.toInt = cell.toInt + value.toInt := by
  unfold addTo at added
  split at added
  · rename_i sum done
    cases added
    exact addChecked_eq_ok done
  · cases added

private theorem subtractFrom_eq (subtracted : subtractFrom value cell = (next, none)) :
    next.toInt = cell.toInt - value.toInt := by
  unfold subtractFrom at subtracted
  split at subtracted
  · rename_i difference done
    cases subtracted
    exact subChecked_eq_ok done
  · cases subtracted

theorem Change.inGauge_eq (made : change.inGauge value cell = (next, none)) :
    next.toInt = change.applied value.toInt cell.toInt := by
  cases change with
  | add => exact addTo_eq made
  | subtract => exact subtractFrom_eq made
  | set | observe => cases made; rfl

/-- A change that is made stands in its cell. -/
theorem Guarded.modify_eq_ok {α : Type} {g h : Guarded α} {initial : α} {change : α → α × Option Fault}
    (made : g.modify labels initial change = (h, .ok ())) :
    ∃ cell, change ((g.table.get? labels).getD initial) = (cell, none) ∧ h.table = g.table.put labels cell := by
  cases poisoned : g.poisoned with
  | true => rw [modify_of_poisoned poisoned] at made; cases made
  | false =>
    cases changed : change ((g.table.get? labels).getD initial) with
    | mk cell fault? =>
      cases fault? with
      | none => rw [modify_of_fit poisoned changed] at made; cases made; exact ⟨cell, rfl, rfl⟩
      | some fault => rw [modify_of_overflow poisoned changed] at made; cases made

/-- What a change leaves in the cells of a gauge or a counter. -/
theorem Guarded.get_of_modify {g h : Guarded Int64} {f : Int64 → Int64 × Option Fault}
    (tells : ∀ {cell next}, f cell = (next, none) → next.toInt = change.applied value.toInt cell.toInt)
    (made : g.modify labels 0 f = (h, .ok ())) (other : List String) :
    (h.table.get? other).map Int64.toInt =
      if other = labels then some (change.applied value.toInt (((g.table.get? labels).map Int64.toInt).getD 0))
      else (g.table.get? other).map Int64.toInt := by
  obtain ⟨next, changed, left⟩ := modify_eq_ok made
  have start : ((g.table.get? labels).getD 0).toInt = ((g.table.get? labels).map Int64.toInt).getD 0 := by
    cases g.table.get? labels <;> rfl
  rw [left, Table.get?_put]
  by_cases same : other = labels
  · rw [if_pos same, if_pos same, Option.map_some, tells changed, start]
  · rw [if_neg same, if_neg same]

/-- Only adding is for counters. -/
theorem add_of_supports (supported : Kind.supports .counter change = true) : change = .add := by
  cases change <;> first | rfl | cases supported

/-- A change that is made has its effect on its own series and on no other. -/
theorem plain_of_change {cells : Cells} (supported : m.cells.kind.supports change = true)
    (made : m.cells.change labels change value = (cells, .ok ())) (other : List String) :
    ({ m with cells := cells }.plain? other).map Int64.toInt =
      if other = labels ∧ m.cells.kind ≠ .histogram then
        some (change.applied value.toInt (((m.plain? labels).map Int64.toInt).getD 0))
      else (m.plain? other).map Int64.toInt := by
  obtain ⟨description, cells'⟩ := m
  cases cells' with
  | gauge g =>
    rw [change_gauge] at made
    cases changed : g.modify labels 0 (change.inGauge value) with
    | mk h result =>
      rw [changed] at made
      cases made
      simpa [plain?, Cells.kind] using Guarded.get_of_modify (fun done => Change.inGauge_eq done) changed other
  | counter g =>
    obtain rfl := add_of_supports supported
    cases changed : g.modify labels 0 (addTo value) with
    | mk h result =>
      simp only [Cells.change, changed] at made
      cases made
      have adds : ∀ {cell next}, addTo value cell = (next, none) →
          next.toInt = Change.add.applied value.toInt cell.toInt := fun done => addTo_eq done
      simpa [plain?, Cells.kind] using Guarded.get_of_modify adds changed other
  | histogram bounds g =>
    simp only [Cells.change, Prod.mk.injEq] at made
    obtain ⟨rfl, -⟩ := made
    simp [plain?, Cells.kind]

theorem Guarded.get_of_remove {α : Type} {g h : Guarded α} {there : Bool} (removed : g.remove labels = (h, .ok there))
    (other : List String) : h.table.get? other = if other = labels then none else g.table.get? other := by
  cases poisoned : g.poisoned with
  | true => rw [remove_of_poisoned poisoned] at removed; cases removed
  | false =>
    cases found : g.table.get? labels with
    | none =>
      rw [remove_of_missing poisoned found] at removed
      cases removed
      by_cases same : other = labels <;> simp [same, found]
    | some cell =>
      rw [remove_of_found poisoned found] at removed
      cases removed
      exact Table.get?_erase ..

private theorem Guarded.remove_eq_false {α : Type} {g h : Guarded α} (removed : g.remove labels = (h, .ok false)) :
    h = g := by
  cases poisoned : g.poisoned with
  | true => rw [remove_of_poisoned poisoned] at removed; cases removed
  | false =>
    cases found : g.table.get? labels with
    | none => rw [remove_of_missing poisoned found] at removed; cases removed; rfl
    | some cell => rw [remove_of_found poisoned found] at removed; cases removed

/-- Where there was nothing to remove, nothing changes. -/
theorem remove_eq_false {cells : Cells} (removed : m.cells.remove labels = (cells, .ok false)) : cells = m.cells := by
  cases start : m.cells with
  | gauge g | counter g | histogram bounds g =>
    simp only [start, Cells.remove, Prod.mk.injEq] at removed
    obtain ⟨rfl, done⟩ := removed
    have same : (g.remove labels).1 = g := Guarded.remove_eq_false (Prod.ext rfl done)
    rw [same]

/-- After a removal the series is not there, and the others are as they were. -/
theorem plain_of_remove {cells : Cells} {there : Bool} (removed : m.cells.remove labels = (cells, .ok there))
    (other : List String) :
    { m with cells := cells }.plain? other = if other = labels then none else m.plain? other := by
  obtain ⟨description, cells'⟩ := m
  cases cells' with
  | gauge g =>
    simp only [Cells.remove, Prod.mk.injEq] at removed
    obtain ⟨rfl, done⟩ := removed
    exact Guarded.get_of_remove (Prod.ext rfl done) other
  | counter g =>
    simp only [Cells.remove, Prod.mk.injEq] at removed
    obtain ⟨rfl, done⟩ := removed
    exact Guarded.get_of_remove (Prod.ext rfl done) other
  | histogram bounds g =>
    simp only [Cells.remove, Prod.mk.injEq] at removed
    obtain ⟨rfl, -⟩ := removed
    simp [plain?]

/-- An operation that does not fault has its effect on its own series and on no other. -/
theorem plain_of_apply {operation : Operation} (done : (m.apply operation labels).result = .ok ())
    (other : List String) :
    ((m.apply operation labels).state.plain? other).map Int64.toInt =
      if other = labels then operation.effect m labels ((m.plain? labels).map Int64.toInt)
      else (m.plain? other).map Int64.toInt := by
  cases operation with
  | change change value =>
    cases refused : m.refusal labels change value with
    | some warning =>
      have declined : m.takes labels change value ≠ true := fun taken => by
        rw [refusal_eq_none.mpr taken] at refused
        cases refused
      simp only [apply, refused, Operation.effect, declined]
      by_cases same : other = labels <;> simp [same]
    | none =>
      have taken := refusal_eq_none.mp refused
      cases made : m.cells.change labels change value with
      | mk cells result =>
        simp only [apply, refused, made] at done ⊢
        rw [plain_of_change (supports_of_takes taken) (done ▸ made), Operation.effect]
        by_cases same : other = labels <;> simp [same, taken]
  | remove =>
    cases fits : m.description.fits labels with
    | false =>
      simp only [apply, fits, Operation.effect, Bool.false_eq_true, ↓reduceIte]
      by_cases same : other = labels <;> simp [same]
    | true =>
      cases made : m.cells.remove labels with
      | mk cells result =>
        simp only [apply, fits, made, ↓reduceIte, Operation.effect] at done ⊢
        cases result with
        | error fault => cases done
        | ok there =>
          have left := plain_of_remove made other
          cases there with
          | true => rw [left]; by_cases same : other = labels <;> simp [same]
          | false =>
            obtain rfl := remove_eq_false made
            refine (congrArg (Option.map Int64.toInt) left).trans ?_
            by_cases same : other = labels <;> simp [same]

end effects

namespace Registry

variable {r : Registry} {id : String} {operation : Operation} {labels : List String}

/-- The metric under this id stands under no other. -/
def Own (r : Registry) (id : String) : Prop :=
  ∀ handle, r.ids.get? id = some handle → ∀ other, r.ids.get? other = some handle → other = id

/-- Where no metric is listed twice, every id has a metric of its own. -/
theorem own_of_nodup (distinct : (r.ids.entries.map (·.2)).Nodup) (id : String) : r.Own id := by
  intro handle found other also
  rw [Table.get?, lookup_eq_some_iff_mem r.ids.distinct] at found also
  have same := List.inj_on_of_nodup_map distinct also found rfl
  exact congrArg Prod.fst same

/-- If no metric is poisoned after an operation, none was before, and the operation was made. -/
theorem of_calm_apply (calm : (r.apply id operation labels).state.Calm) :
    r.Calm ∧ (r.apply id operation labels).result = .ok () := by
  have before : r.Calm := by
    intro other metric found
    have after := get?_apply r id operation labels other
    by_cases same : r.Shares id other
    · rw [if_pos same, found, Option.map_some] at after
      cases poisoned : metric.poisoned with
      | false => rfl
      | true =>
        have still := poisoned_of_apply poisoned operation labels
        rw [calm other _ after] at still
        cases still
    · rw [if_neg same] at after
      exact calm other metric (after.trans found)
  refine ⟨before, ?_⟩
  cases found : r.ids.get? id with
  | none => rw [Registry.apply, found]
  | some handle =>
    have there : r.metrics.get? id = some (r.heap handle) := by rw [get?_metrics, found, Option.map_some]
    have after := get?_apply r id operation labels id
    rw [if_pos (show r.Shares id id from rfl), there, Option.map_some] at after
    have unpoisoned := calm id _ after
    rw [Registry.apply, found]
    rcases apply_of_calm (before id _ there) operation labels with ⟨n, logs, made, -⟩ |
      ⟨n, fault, made, poisoned, -⟩
    · exact congrArg Reply.result made
    · rw [made] at unpoisoned
      rw [unpoisoned] at poisoned
      cases poisoned

/-- What an operation on a registry says is what it says on the metric that its id has. -/
theorem apply_of_found {handle : Handle} (found : r.ids.get? id = some handle) :
    r.apply id operation labels =
      ⟨r.set handle ((r.heap handle).apply operation labels).state, ((r.heap handle).apply operation labels).logs,
        ((r.heap handle).apply operation labels).result⟩ := by
  rw [Registry.apply, found]

/-- An operation leaves every metric of the kind and with the description that it has. -/
theorem alike_apply (r : Registry) (id : String) (operation : Operation) (labels : List String) (handle : Handle) :
    Alike (r.heap handle) ((r.apply id operation labels).state.heap handle) := by
  rw [heap_apply]
  split
  · exact alike_of_apply ..
  · exact .refl _

/-- What an operation that is made leaves of the values of the metric that its id has. -/
theorem plain_of_apply {handle : Handle} (found : r.ids.get? id = some handle)
    (done : (r.apply id operation labels).result = .ok ()) (other : List String) :
    (((r.apply id operation labels).state.heap handle).plain? other).map Int64.toInt =
      if other = labels then operation.effect (r.heap handle) labels (((r.heap handle).plain? labels).map Int64.toInt)
      else ((r.heap handle).plain? other).map Int64.toInt := by
  rw [apply_of_found found] at done
  rw [heap_apply, if_pos found]
  exact Metric.plain_of_apply done other

/-- An operation on a metric that stands under no other id shows under no other id. -/
theorem plain_apply_of_ne (own : r.Own id) {other : String} (differs : id ≠ other) (others : List String) :
    (r.apply id operation labels).state.plain? other others = r.plain? other others := by
  rw [Registry.plain?, Registry.plain?, get?_apply]
  cases there : r.ids.get? other with
  | none =>
    have missing : r.metrics.get? other = none := by rw [get?_metrics, there, Option.map_none]
    rw [missing, Option.map_none, ite_self]
  | some handle =>
    have apart : ¬r.Shares id other := fun same => differs (own handle (Eq.trans same there) other there).symm
    rw [if_neg apart]

end Registry

end JobPool.Metric
