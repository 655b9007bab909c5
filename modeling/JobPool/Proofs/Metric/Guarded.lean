import JobPool.Metric.Basic

/-!
The lock of a metric. While it is not poisoned a change is made, or overflows and poisons it (`change_of_calm`); once it
is poisoned nothing gets through (`change_of_poisoned`).
-/

namespace JobPool

/-- A sum or a difference left the range of its word. -/
def Fault.IsOverflow (fault : Fault) : Prop := fault = .addOverflow ∨ fault = .subOverflow

namespace Metric

namespace Guarded

variable {α : Type} {g : Guarded α} {labels : List String} {initial : α} {change : α → α × Option Fault}

theorem lock_of_calm (calm : g.poisoned = false) : g.lock = .ok g.table := by simp [lock, calm]

theorem lock_of_poisoned (poisoned : g.poisoned = true) : g.lock = .error .poisoned := by simp [lock, poisoned]

/-- A change that fits leaves its value in the cell. -/
theorem modify_of_fit {cell : α} (calm : g.poisoned = false)
    (made : change ((g.table.get? labels).getD initial) = (cell, none)) :
    g.modify labels initial change = (⟨g.table.put labels cell, false⟩, .ok ()) := by
  simp only [modify, lock_of_calm calm, made]

/-- A change that overflows leaves what it was about in the cell, and poisons the lock. -/
theorem modify_of_overflow {cell : α} {fault : Fault} (calm : g.poisoned = false)
    (made : change ((g.table.get? labels).getD initial) = (cell, some fault)) :
    g.modify labels initial change = (⟨g.table.put labels cell, true⟩, .error fault) := by
  simp only [modify, lock_of_calm calm, made]

theorem modify_of_poisoned (poisoned : g.poisoned = true) :
    g.modify labels initial change = (g, .error .poisoned) := by
  simp only [modify, lock_of_poisoned poisoned]

theorem remove_of_missing (calm : g.poisoned = false) (missing : g.table.get? labels = none) :
    g.remove labels = (g, .ok false) := by
  simp only [remove, lock_of_calm calm, missing]

theorem remove_of_found {cell : α} (calm : g.poisoned = false) (found : g.table.get? labels = some cell) :
    g.remove labels = (⟨g.table.erase labels, false⟩, .ok true) := by
  simp only [remove, lock_of_calm calm, found]

theorem remove_of_poisoned (poisoned : g.poisoned = true) : g.remove labels = (g, .error .poisoned) := by
  simp only [remove, lock_of_poisoned poisoned]

theorem series_of_poisoned (poisoned : g.poisoned = true) (read : α → Reading) :
    g.series read = .error .poisoned := by
  simp [series, lock_of_poisoned poisoned, bind, Except.bind]

theorem series_of_calm (calm : g.poisoned = false) (read : α → Reading) :
    g.series read = .ok ((g.table.sorted textsLe).map fun entry => ⟨entry.1, read entry.2⟩) := by
  simp [series, lock_of_calm calm, bind, Except.bind, pure, Except.pure]

/-- Behind a lock that is not poisoned, only a fault poisons it. -/
theorem modify_of_calm (calm : g.poisoned = false) (labels : List String) (initial : α) (change : α → α × Option Fault)
    (overflows : ∀ cell fault, (change cell).2 = some fault → fault.IsOverflow) :
    (∃ h, g.modify labels initial change = (h, .ok ()) ∧ h.poisoned = false) ∨
      ∃ h fault, g.modify labels initial change = (h, .error fault) ∧ h.poisoned = true ∧ fault.IsOverflow := by
  cases made : change ((g.table.get? labels).getD initial) with
  | mk cell fault? =>
    cases fault? with
    | none => exact .inl ⟨_, modify_of_fit calm made, rfl⟩
    | some fault => exact .inr ⟨_, fault, modify_of_overflow calm made, rfl, overflows _ fault (by rw [made])⟩

private theorem remove_of_calm (calm : g.poisoned = false) (labels : List String) :
    ∃ h there, g.remove labels = (h, .ok there) ∧ h.poisoned = false := by
  cases found : g.table.get? labels with
  | none => exact ⟨g, false, remove_of_missing calm found, calm⟩
  | some cell => exact ⟨_, true, remove_of_found calm found, rfl⟩

end Guarded

private theorem addChecked_overflows {a b : Int64} {fault : Fault} (faulted : addChecked a b = .error fault) :
    fault.IsOverflow := by
  unfold addChecked at faulted
  split at faulted
  · cases faulted
  · cases faulted; exact .inl rfl

private theorem addTo_overflows {value cell : Int64} {fault : Fault} (faulted : (addTo value cell).2 = some fault) :
    fault.IsOverflow := by
  unfold addTo at faulted
  split at faulted
  · cases faulted
  · cases faulted
    exact addChecked_overflows (by assumption)

private theorem subtractFrom_overflows {value cell : Int64} {fault : Fault}
    (faulted : (subtractFrom value cell).2 = some fault) : fault.IsOverflow := by
  unfold subtractFrom subChecked at faulted
  split at faulted
  · cases faulted
  · rename_i out
    split at out
    · cases out
    · cases out; cases faulted; exact .inr rfl

private theorem observe_overflows {bounds : List Binary64} {value : Int64} {d : Distribution} {fault : Fault}
    (faulted : (Distribution.observe bounds value d).2 = some fault) : fault.IsOverflow := by
  unfold Distribution.observe succChecked at faulted
  split at faulted
  · rename_i out
    split at out
    · cases out
    · cases out; cases faulted; exact .inl rfl
  · split at faulted
    · cases faulted
      exact addChecked_overflows (by assumption)
    · cases faulted

/-- The changes that there are for a metric of this kind. -/
def Kind.changes : Kind → List Change
  | gauge => [.add, .subtract, .set]
  | counter => [.add]
  | histogram => [.observe]

/-- A change that the metric takes: its kind has it, no counter goes down, and there is a value for every label. -/
def takes (m : Metric) (labels : List String) (change : Change) (value : Int64) : Bool :=
  change ∈ m.cells.kind.changes && !(m.cells.kind = .counter && value.toInt < 0) &&
    labels.length = m.description.labelNames.length

/-- The two metrics are described alike and of one kind, whatever their series. -/
structure Alike (m other : Metric) : Prop where
  description : other.description = m.description
  kind : other.cells.kind = m.cells.kind

variable {m other : Metric} {labels : List String} {change : Change} {value : Int64}

theorem takes_eq (m : Metric) (labels : List String) (change : Change) (value : Int64) :
    m.takes labels change value =
      (m.cells.kind.supports change && !(m.cells.kind = .counter && value.toInt < 0) && m.description.fits labels) := by
  have same : decide (change ∈ m.cells.kind.changes) = m.cells.kind.supports change := by
    cases m.cells.kind <;> cases change <;> rfl
  rw [takes, same]
  rfl

theorem Alike.refl (m : Metric) : Alike m m := ⟨rfl, rfl⟩

theorem Alike.trans {third : Metric} (first : Alike m other) (second : Alike other third) : Alike m third :=
  ⟨second.description.trans first.description, second.kind.trans first.kind⟩

theorem Alike.symm (alike : Alike m other) : Alike other m := ⟨alike.description.symm, alike.kind.symm⟩

theorem Alike.refusal (alike : Alike m other) (labels : List String) (change : Change) (value : Int64) :
    other.refusal labels change value = m.refusal labels change value := by
  unfold Metric.refusal
  rw [alike.description, alike.kind]

theorem Alike.takes (alike : Alike m other) (labels : List String) (change : Change) (value : Int64) :
    other.takes labels change value = m.takes labels change value := by
  unfold Metric.takes
  rw [alike.description, alike.kind]

/-- A change is refused unless the metric takes it. -/
theorem refusal_eq_none :
    m.refusal labels change value = none ↔ m.takes labels change value = true := by
  rw [takes_eq]
  unfold refusal
  by_cases falls : m.cells.kind = .counter ∧ value.toInt < 0
  · cases m.cells.kind.supports change <;> simp [falls]
  · have rises : ¬m.cells.kind = .counter ∨ 0 ≤ value.toInt := by
      rw [← Int.not_lt]
      exact Decidable.not_and_iff_not_or_not.mp falls
    cases m.cells.kind.supports change <;> cases m.description.fits labels <;> simp [falls, rises]

theorem supports_of_takes (taken : m.takes labels change value = true) : m.cells.kind.supports change = true := by
  simp only [takes_eq, Bool.and_eq_true] at taken
  exact taken.1.1

private theorem kind_of_change : (m.cells.change labels change value).1.kind = m.cells.kind := by
  unfold Cells.change
  cases m.cells <;> rfl

private theorem kind_of_remove (m : Metric) (labels : List String) : (m.cells.remove labels).1.kind = m.cells.kind := by
  unfold Cells.remove
  cases m.cells <;> rfl

theorem change_of_poisoned (poisoned : m.poisoned = true) :
    m.cells.change labels change value = (m.cells, .error .poisoned) := by
  unfold Metric.poisoned at poisoned
  unfold Cells.change
  cases cells : m.cells <;> simp only [cells] at poisoned <;> simp only [Guarded.modify_of_poisoned poisoned]

theorem remove_of_poisoned (poisoned : m.poisoned = true) :
    m.cells.remove labels = (m.cells, .error .poisoned) := by
  unfold Metric.poisoned at poisoned
  unfold Cells.remove
  cases cells : m.cells <;> simp only [cells] at poisoned <;> simp only [Guarded.remove_of_poisoned poisoned]

theorem snapshot_of_poisoned (poisoned : m.poisoned = true) : m.snapshot = .error .poisoned := by
  unfold Metric.poisoned at poisoned
  unfold snapshot
  cases cells : m.cells <;> simp only [cells] at poisoned <;>
    simp [Guarded.series_of_poisoned poisoned, bind, Except.bind]

/-- What a change does to the cell of a gauge. -/
def Change.inGauge (change : Change) (value cell : Int64) : Int64 × Option Fault :=
  match change with
  | .add => addTo value cell
  | .subtract => subtractFrom value cell
  | .set => (value, none)
  | .observe => (cell, none)

private theorem Change.inGauge_overflows {cell : Int64} {fault : Fault}
    (faulted : (change.inGauge value cell).2 = some fault) : fault.IsOverflow := by
  cases change with
  | add => exact addTo_overflows faulted
  | subtract => exact subtractFrom_overflows faulted
  | set | observe => cases faulted

theorem change_gauge (g : Guarded Int64) :
    (Cells.gauge g).change labels change value =
      (.gauge (g.modify labels 0 (change.inGauge value)).1, (g.modify labels 0 (change.inGauge value)).2) := by
  cases change <;> rfl

/-- Behind a lock that is not poisoned a change is made, or overflows and poisons the lock. -/
theorem change_of_calm (calm : m.poisoned = false) (labels : List String) (change : Change) (value : Int64) :
    (∃ cells, m.cells.change labels change value = (cells, .ok ()) ∧ { m with cells := cells }.poisoned = false) ∨
      ∃ cells fault, m.cells.change labels change value = (cells, .error fault) ∧
        { m with cells := cells }.poisoned = true ∧ fault.IsOverflow := by
  obtain ⟨description, cells⟩ := m
  cases cells with
  | gauge g =>
    rcases Guarded.modify_of_calm calm labels 0 (change.inGauge value) fun cell fault =>
      Change.inGauge_overflows with
      ⟨h, done, calm⟩ | ⟨h, fault, done, poisoned, overflow⟩
    · exact .inl ⟨.gauge h, by rw [change_gauge, done], calm⟩
    · exact .inr ⟨.gauge h, fault, by rw [change_gauge, done], poisoned, overflow⟩
  | counter g =>
    rcases Guarded.modify_of_calm calm labels 0 (addTo value) fun cell fault =>
      addTo_overflows with ⟨h, done, calm⟩ | ⟨h, fault, done, poisoned, overflow⟩
    · exact .inl ⟨.counter h, by simp only [Cells.change]; rw [done], calm⟩
    · exact .inr ⟨.counter h, fault, by simp only [Cells.change]; rw [done], poisoned, overflow⟩
  | histogram bounds g =>
    rcases Guarded.modify_of_calm calm labels (.empty bounds) (Distribution.observe bounds value) fun cell fault =>
      observe_overflows with ⟨h, done, calm⟩ | ⟨h, fault, done, poisoned, overflow⟩
    · exact .inl ⟨.histogram bounds h, by simp only [Cells.change]; rw [done], calm⟩
    · exact .inr ⟨.histogram bounds h, fault, by simp only [Cells.change]; rw [done], poisoned, overflow⟩

private theorem remove_of_calm (calm : m.poisoned = false) (labels : List String) :
    ∃ cells there, m.cells.remove labels = (cells, .ok there) ∧ { m with cells := cells }.poisoned = false := by
  obtain ⟨description, cells⟩ := m
  cases cells with
  | gauge g =>
    obtain ⟨h, there, done, calm⟩ := Guarded.remove_of_calm calm labels
    exact ⟨.gauge h, there, by simp only [Cells.remove]; rw [done], calm⟩
  | counter g =>
    obtain ⟨h, there, done, calm⟩ := Guarded.remove_of_calm calm labels
    exact ⟨.counter h, there, by simp only [Cells.remove]; rw [done], calm⟩
  | histogram bounds g =>
    obtain ⟨h, there, done, calm⟩ := Guarded.remove_of_calm calm labels
    exact ⟨.histogram bounds h, there, by simp only [Cells.remove]; rw [done], calm⟩

theorem snapshot_of_calm (calm : m.poisoned = false) : ∃ snapshot, m.snapshot = .ok snapshot := by
  unfold Metric.poisoned at calm
  unfold snapshot
  cases cells : m.cells <;> simp only [cells] at calm <;>
    simp [Guarded.series_of_calm calm, bind, Except.bind, pure, Except.pure]

/-- An operation on a metric that is not poisoned is made and leaves it so, or overflows and poisons it. -/
theorem apply_of_calm (calm : m.poisoned = false) (operation : Operation) (labels : List String) :
    (∃ n logs, m.apply operation labels = ⟨n, logs, .ok ()⟩ ∧ n.poisoned = false) ∨
      ∃ n fault, m.apply operation labels = ⟨n, [], .error fault⟩ ∧ n.poisoned = true ∧ fault.IsOverflow := by
  cases operation with
  | change change value =>
    cases refused : m.refusal labels change value with
    | some warning => exact .inl ⟨m, [warning], by simp only [apply, refused], calm⟩
    | none =>
      rcases change_of_calm calm labels change value with
        ⟨cells, made, calm⟩ | ⟨cells, fault, made, poisoned, overflow⟩
      · exact .inl ⟨_, [], by simp only [apply, refused, made], calm⟩
      · exact .inr ⟨_, fault, by simp only [apply, refused, made], poisoned, overflow⟩
  | remove =>
    left
    cases fits : m.description.fits labels with
    | false =>
      exact ⟨m, [m.description.arityWarning labels, m.description.notRemoved labels], by simp [apply, fits], calm⟩
    | true =>
      obtain ⟨cells, there, made, calm'⟩ := remove_of_calm calm labels
      cases there with
      | false => exact ⟨m, [m.description.notRemoved labels], by simp [apply, fits, made], calm⟩
      | true => exact ⟨_, [], by simp [apply, fits, made], calm'⟩

/-- A lock that is poisoned stays so. -/
theorem poisoned_of_apply (poisoned : m.poisoned = true) (operation : Operation) (labels : List String) :
    (m.apply operation labels).state.poisoned = true := by
  cases operation with
  | change change value =>
    simp only [apply]
    split
    · exact poisoned
    · rw [change_of_poisoned poisoned]
      exact poisoned
  | remove =>
    simp only [apply]
    split
    · rw [remove_of_poisoned poisoned]
      exact poisoned
    · exact poisoned

/-- No operation changes the description or the kind of the metric. -/
theorem alike_of_apply (m : Metric) (operation : Operation) (labels : List String) :
    Alike m (m.apply operation labels).state := by
  cases operation with
  | change change value =>
    simp only [apply]
    split
    · exact .refl m
    · exact ⟨rfl, kind_of_change⟩
  | remove =>
    simp only [apply]
    split
    · have kind := kind_of_remove m labels
      split
      · rename_i made; rw [made] at kind; exact ⟨rfl, kind⟩
      · exact .refl m
      · exact .refl m
    · exact .refl m

end Metric

end JobPool
