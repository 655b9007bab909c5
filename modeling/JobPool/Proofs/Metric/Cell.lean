import JobPool.Proofs.Metric.Canonical
import JobPool.Proofs.Metric.Reading

/-!
The cells of a metric, of whatever kind. A snapshot tells what the cells hold, in the order of their labels
(`tells_of_snapshot`). An operation that does not fault is ignored, which is logged, or it is made on its own cell
without a word (`cases_of_apply`).
-/

namespace JobPool.Metric

/-- What a metric holds for one series. -/
inductive Cell where
  | number (value : Int64)
  | distribution (bounds : List Binary64) (d : Distribution)

/-- What a snapshot tells about a cell. -/
def Cell.reading : Cell → Reading
  | number value => .value value
  | distribution bounds d => summarize bounds d

/-- What a metric holds for a series. -/
def cell? (m : Metric) (labels : List String) : Option Cell :=
  match m.cells with
  | .gauge g => (g.table.get? labels).map .number
  | .counter g => (g.table.get? labels).map .number
  | .histogram bounds g => (g.table.get? labels).map (.distribution bounds)

/-- The cell that a series starts with. -/
def Cells.initial : Cells → Cell
  | .gauge _ => .number 0
  | .counter _ => .number 0
  | .histogram bounds _ => .distribution bounds (.empty bounds)

section snapshots

variable {m : Metric} {labels : List String}

/-- The snapshot tells what the metric holds: every series once, in the order of the labels. -/
structure Tells (m : Metric) (snapshot : Snapshot) : Prop where
  description : snapshot.description = m.description
  kind : snapshot.kind = m.cells.kind
  found : ∀ labels, snapshot.find? labels = (m.cell? labels).map fun cell => ⟨labels, cell.reading⟩
  held : ∀ series ∈ snapshot.series, ∃ cell, m.cell? series.labels = some cell ∧ series.reading = cell.reading
  ordered : snapshot.series.Pairwise fun a b => a.labels < b.labels

/-- The series of a table are in the order of their labels, and no two have the same. -/
theorem ordered_series {α : Type} (table : Table (List String) α) (read : α → Reading) :
    ((table.sorted textsLe).map fun entry => (⟨entry.1, read entry.2⟩ : Series)).Pairwise
      fun a b => a.labels < b.labels := by
  rw [List.pairwise_map]
  have sorted := table.pairwise_sorted textsLe_total textsLe_trans
  have distinct : (table.sorted textsLe).Pairwise fun a b => a.1 ≠ b.1 := by
    rw [← List.pairwise_map]
    exact ((List.mergeSort_perm _ _).map _).nodup_iff.mpr table.distinct
  exact (sorted.and distinct).imp fun both => lt_of_textsLe both.1 both.2

private theorem held_series {α : Type} {table : Table (List String) α} {read : α → Reading} {series : Series}
    (listed : series ∈ (table.sorted textsLe).map fun entry => (⟨entry.1, read entry.2⟩ : Series)) :
    ∃ cell, table.get? series.labels = some cell ∧ series.reading = read cell := by
  obtain ⟨⟨key, cell⟩, member, rfl⟩ := List.mem_map.mp listed
  exact ⟨cell, Table.mem_sorted.mp member, rfl⟩

/-- Whatever a snapshot tells is there, and whatever is there it tells. -/
theorem tells_of_snapshot {snapshot : Snapshot} (taken : m.snapshot = .ok snapshot) : m.Tells snapshot := by
  cases poisoned : m.poisoned with
  | true => rw [snapshot_of_poisoned poisoned] at taken; cases taken
  | false =>
    obtain ⟨description, cells⟩ := m
    cases cells with
    | gauge g | counter g =>
      simp only [Metric.snapshot, Guarded.series_of_calm poisoned, bind, Except.bind, pure, Except.pure,
        Except.ok.injEq] at taken
      subst taken
      refine ⟨rfl, rfl, fun labels => ?_, fun series listed => ?_, ordered_series ..⟩
      · simp only [Snapshot.find?, cell?, find_series, Option.map_map]
        rfl
      · obtain ⟨cell, there, reading⟩ := held_series listed
        exact ⟨.number cell, by simp only [cell?, there, Option.map_some], reading⟩
    | histogram bounds g =>
      simp only [Metric.snapshot, Guarded.series_of_calm poisoned, bind, Except.bind, pure, Except.pure,
        Except.ok.injEq] at taken
      subst taken
      refine ⟨rfl, rfl, fun labels => ?_, fun series listed => ?_, ordered_series ..⟩
      · simp only [Snapshot.find?, cell?, find_series, Option.map_map]
        rfl
      · obtain ⟨cell, there, reading⟩ := held_series listed
        exact ⟨.distribution bounds cell, by simp only [cell?, there, Option.map_some], reading⟩

end snapshots

/-- In milliseconds the time is at most the bound. -/
def under (time : Int64) (bound : Binary64) : Bool :=
  ((Binary64.ofInt time.toInt).div (Binary64.ofInt 1000)).atMost bound

/-- One observation more: it is counted, added, compared, and counted at the first bound that it does not exceed. -/
structure Distribution.Gains (bounds : List Binary64) (value : Int64) (d now : Distribution) : Prop where
  count : now.count.toNat = d.count.toNat + 1
  sum : now.sum.toInt = d.sum.toInt + value.toInt
  min : now.min.toInt = Min.min d.min.toInt value.toInt
  max : now.max.toInt = Max.max d.max.toInt value.toInt
  length : now.counts.length = d.counts.length
  counts : ∀ i, now.counts[i]? =
    if bounds.findIdx? (under value) = some i then d.counts[i]?.map (· + 1) else d.counts[i]?

/-- What a change makes of a cell. -/
inductive Cell.Becomes (change : Change) (value : Int64) : Cell → Cell → Prop
  | number {cell now : Int64} (plain : change ≠ .observe)
      (result : now.toInt = change.applied value.toInt cell.toInt) : Becomes change value (.number cell) (.number now)
  | distribution {bounds : List Binary64} {d now : Distribution} (observed : change = .observe)
      (gains : d.Gains bounds value now) : Becomes change value (.distribution bounds d) (.distribution bounds now)

section effects

variable {m : Metric} {labels : List String} {change : Change} {value : Int64} {bounds : List Binary64}
  {d now : Distribution}

private theorem length_countAtFirst (value : Int64) (bounds : List Binary64) (counts : List UInt64) :
    (Distribution.countAtFirst value bounds counts).length = counts.length := by
  induction bounds generalizing counts with
  | nil => cases counts <;> rfl
  | cons bound bounds ih =>
    cases counts with
    | nil => rfl
    | cons n counts =>
      by_cases here : Distribution.within value bound = true
      · simp [Distribution.countAtFirst, here]
      · simp [Distribution.countAtFirst, here, ih]

private theorem getElem?_countAtFirst (value : Int64) (bounds : List Binary64) (counts : List UInt64) (i : Nat) :
    (Distribution.countAtFirst value bounds counts)[i]? =
      if bounds.findIdx? (Distribution.within value) = some i then counts[i]?.map (· + 1) else counts[i]? := by
  induction bounds generalizing counts i with
  | nil => cases counts <;> simp [Distribution.countAtFirst]
  | cons bound bounds ih =>
    cases counts with
    | nil => simp [Distribution.countAtFirst]
    | cons n counts =>
      by_cases here : Distribution.within value bound = true
      · cases i with
        | zero => simp [Distribution.countAtFirst, List.findIdx?_cons, here]
        | succ i => simp [Distribution.countAtFirst, List.findIdx?_cons, here]
      · cases i with
        | zero => simp [Distribution.countAtFirst, List.findIdx?_cons, here]
        | succ i => simp [Distribution.countAtFirst, List.findIdx?_cons, here, ih]

private theorem succChecked_eq_ok {n next : UInt64} (counted : succChecked n = .ok next) :
    next.toNat = n.toNat + 1 := by
  unfold succChecked at counted
  split at counted
  · rename_i room
    cases counted
    rw [UInt64.toNat_add]
    exact Nat.mod_eq_of_lt room
  · cases counted

theorem gains_of_observe (observed : d.observe bounds value = (now, none)) : d.Gains bounds value now := by
  unfold Distribution.observe at observed
  cases counted : succChecked d.count with
  | error fault => rw [counted] at observed; cases observed
  | ok count =>
    cases added : addChecked d.sum value with
    | error fault => rw [counted, added] at observed; cases observed
    | ok sum =>
      rw [counted, added] at observed
      cases observed
      refine ⟨succChecked_eq_ok counted, addChecked_eq_ok added, ?_, ?_, length_countAtFirst ..,
        getElem?_countAtFirst value bounds d.counts⟩
      · show (if value.toInt < d.min.toInt then value else d.min).toInt = _
        split <;> omega
      · show (if d.max.toInt < value.toInt then value else d.max).toInt = _
        split <;> omega

/-- A change that is made leaves its result in its own cell, and the others as they were. -/
theorem cell_of_change {cells : Cells} (supported : m.cells.kind.supports change = true)
    (made : m.cells.change labels change value = (cells, .ok ())) :
    ∃ cell, Cell.Becomes change value ((m.cell? labels).getD m.cells.initial) cell ∧
      ∀ other, { m with cells := cells }.cell? other = if other = labels then some cell else m.cell? other := by
  obtain ⟨description, cells'⟩ := m
  cases cells' with
  | gauge g =>
    rw [change_gauge] at made
    cases changed : g.modify labels 0 (change.inGauge value) with
    | mk h result =>
      rw [changed] at made
      cases made
      obtain ⟨next, done, left⟩ := Guarded.modify_eq_ok changed
      have plain : change ≠ .observe := by
        rintro rfl
        cases supported
      refine ⟨.number next, ?_, fun other => ?_⟩
      · have result := Cell.Becomes.number plain (Change.inGauge_eq done)
        simpa [cell?, Cells.initial, Option.getD_map] using result
      · simp only [cell?, left, Table.get?_put]
        split <;> rfl
  | counter g =>
    obtain rfl := add_of_supports supported
    cases changed : g.modify labels 0 (addTo value) with
    | mk h result =>
      simp only [Cells.change, changed] at made
      cases made
      obtain ⟨next, done, left⟩ := Guarded.modify_eq_ok changed
      refine ⟨.number next, ?_, fun other => ?_⟩
      · have result : Cell.Becomes .add value (.number ((g.table.get? labels).getD 0)) (.number next) :=
          .number (by decide) (addTo_eq done)
        simpa [cell?, Cells.initial, Option.getD_map] using result
      · simp only [cell?, left, Table.get?_put]
        split <;> rfl
  | histogram bounds g =>
    have observes : change = .observe := by
      cases change <;> first | rfl | cases supported
    cases changed : g.modify labels (.empty bounds) (Distribution.observe bounds value) with
    | mk h result =>
      simp only [Cells.change, changed] at made
      cases made
      obtain ⟨next, done, left⟩ := Guarded.modify_eq_ok changed
      refine ⟨.distribution bounds next, ?_, fun other => ?_⟩
      · have result := Cell.Becomes.distribution observes (gains_of_observe done)
        simpa [cell?, Cells.initial, Option.getD_map] using result
      · simp only [cell?, left, Table.get?_put]
        split <;> rfl

private theorem Guarded.remove_found {α : Type} {g h : Guarded α} {there : Bool}
    (removed : g.remove labels = (h, .ok there)) :
    there = (g.table.get? labels).isSome := by
  cases poisoned : g.poisoned with
  | true => rw [remove_of_poisoned poisoned] at removed; cases removed
  | false =>
    cases found : g.table.get? labels with
    | none => rw [remove_of_missing poisoned found] at removed; cases removed; rfl
    | some cell => rw [remove_of_found poisoned found] at removed; cases removed; rfl

/-- A removal says whether the cell was there, and leaves the others as they were. -/
theorem cell_of_remove {cells : Cells} {there : Bool} (removed : m.cells.remove labels = (cells, .ok there)) :
    there = (m.cell? labels).isSome ∧
      ∀ other, { m with cells := cells }.cell? other = if other = labels then none else m.cell? other := by
  obtain ⟨description, cells'⟩ := m
  cases cells' with
  | gauge g | counter g | histogram bounds g =>
    simp only [Cells.remove, Prod.mk.injEq] at removed
    obtain ⟨rfl, done⟩ := removed
    have left := Guarded.get_of_remove (Prod.ext rfl done)
    refine ⟨?_, fun other => ?_⟩
    · rw [Guarded.remove_found (Prod.ext rfl done)]
      simp only [cell?, Option.isSome_map]
    · simp only [cell?, left other]
      split <;> rfl

private theorem initial_of_change : (m.cells.change labels change value).1.initial = m.cells.initial := by
  unfold Cells.change
  cases m.cells <;> rfl

private theorem initial_of_remove (m : Metric) (labels : List String) :
    (m.cells.remove labels).1.initial = m.cells.initial := by
  unfold Cells.remove
  cases m.cells <;> rfl

/-- Every series of a metric starts with the same cell, whatever was done to others before. -/
theorem initial_of_apply (m : Metric) (operation : Operation) (labels : List String) :
    (m.apply operation labels).state.cells.initial = m.cells.initial := by
  cases operation with
  | change change value =>
    simp only [apply]
    split
    · rfl
    · exact initial_of_change
  | remove =>
    simp only [apply]
    split
    · have initial := initial_of_remove m labels
      split
      · rename_i made; rw [made] at initial; exact initial
      · rfl
      · rfl
    · rfl

/-- The operation was made: the second metric holds its result for the series, and is as the first elsewhere. -/
inductive Applied (m : Metric) (labels : List String) : Operation → Metric → Prop
  | changed {change : Change} {value : Int64} {n : Metric} {cell : Cell} (alike : Alike m n)
      (becomes : Cell.Becomes change value ((m.cell? labels).getD m.cells.initial) cell)
      (found : ∀ other, n.cell? other = if other = labels then some cell else m.cell? other) :
      Applied m labels (.change change value) n
  | removed {n : Metric} (alike : Alike m n) (there : (m.cell? labels).isSome = true)
      (found : ∀ other, n.cell? other = if other = labels then none else m.cell? other) : Applied m labels .remove n

/-- The lines about an operation that is ignored: one, and before it the number of labels if a removal names too many
    or too few. -/
def remarks (m : Metric) (labels : List String) : Operation → List Record
  | .change change value => (m.refusal labels change value).toList
  | .remove =>
    if m.description.fits labels then
      if (m.cell? labels).isSome then [] else [m.description.notRemoved labels]
    else [m.description.arityWarning labels, m.description.notRemoved labels]

/-- An operation that does not fault is ignored with its lines in the log, or made without a line. -/
theorem cases_of_apply {operation : Operation} (done : (m.apply operation labels).result = .ok ()) :
    (m.apply operation labels).logs = m.remarks labels operation ∧
      (m.remarks labels operation ≠ [] ∧ (m.apply operation labels).state = m ∨
        m.remarks labels operation = [] ∧ m.description.fits labels = true ∧
          m.Applied labels operation (m.apply operation labels).state) := by
  have alike := alike_of_apply m operation labels
  cases operation with
  | change change value =>
    cases refused : m.refusal labels change value with
    | some warning =>
      simp only [apply, refused, remarks, Option.toList_some]
      exact ⟨trivial, .inl ⟨List.cons_ne_nil _ _, trivial⟩⟩
    | none =>
      have taken := refusal_eq_none.mp refused
      cases made : m.cells.change labels change value with
      | mk cells result =>
        simp only [apply, refused, made] at done alike
        obtain ⟨cell, becomes, found⟩ := cell_of_change (supports_of_takes taken) (done ▸ made)
        simp only [apply, refused, made, remarks, Option.toList_none]
        simp only [takes_eq, Bool.and_eq_true] at taken
        exact ⟨trivial, .inr ⟨trivial, taken.2, .changed alike becomes found⟩⟩
  | remove =>
    cases fits : m.description.fits labels with
    | false =>
      simp only [apply, fits, remarks, Bool.false_eq_true, ↓reduceIte]
      exact ⟨trivial, .inl ⟨List.cons_ne_nil _ _, trivial⟩⟩
    | true =>
      cases made : m.cells.remove labels with
      | mk cells result =>
        simp only [apply, fits, made, ↓reduceIte] at done alike
        cases result with
        | error fault => cases done
        | ok there =>
          obtain ⟨rfl, found⟩ := cell_of_remove made
          simp only [apply, fits, made, remarks, ↓reduceIte]
          cases there : (m.cell? labels).isSome with
          | false => exact ⟨rfl, .inl ⟨List.cons_ne_nil _ _, rfl⟩⟩
          | true =>
            simp only [there] at alike
            exact ⟨rfl, .inr ⟨rfl, trivial, .removed alike there found⟩⟩

end effects

end JobPool.Metric
