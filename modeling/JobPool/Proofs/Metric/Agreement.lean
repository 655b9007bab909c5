import JobPool.Proofs.Latency.Ledger
import JobPool.Proofs.Metric.Cell
import JobPool.Proofs.Metric.Poison

/-!
Reading a series off a metric and finding it in a snapshot come to the same, whatever the labels
(`reads_of_run`). Labels that do not fit are never found because no series is ever made under them
(`Keyed.apply`); and the snapshot does not depend on the order in which the table lists its entries.
-/

namespace JobPool.Metric

/-- The number of observations of a histogram. -/
def Reading.count? : Reading → Option UInt64
  | value _ => none
  | summary s => some s.count

/-- Every series has a label for each label name. -/
def Keyed (m : Metric) : Prop := ∀ labels, (m.cell? labels).isSome = true → m.description.fits labels = true

/-- The same entries in any order, behind locks that are alike. -/
structure Guarded.Shuffles {α : Type} (g h : Guarded α) : Prop where
  poisoned : g.poisoned = h.poisoned
  entries : g.table.entries.Perm h.table.entries

/-- The series are of one kind, in any order. -/
def Cells.Shuffles : Cells → Cells → Prop
  | .gauge g, .gauge h => g.Shuffles h
  | .counter g, .counter h => g.Shuffles h
  | .histogram bounds g, .histogram others h => bounds = others ∧ g.Shuffles h
  | _, _ => False

/-- The metrics are described alike and have the same series, in any order. -/
structure Shuffles (m n : Metric) : Prop where
  description : m.description = n.description
  cells : m.cells.Shuffles n.cells

section readings

variable {m n : Metric} {labels : List String}

private theorem Guarded.Shuffles.matches {α : Type} {g h : Guarded α} (shuffled : g.Shuffles h) : g.Matches h :=
  ⟨shuffled.poisoned, fun labels => lookup_perm shuffled.entries g.table.distinct labels⟩

private theorem Shuffles.matches (shuffled : m.Shuffles n) : m.Matches n := by
  obtain ⟨description, cells⟩ := m
  obtain ⟨description', cells'⟩ := n
  obtain ⟨rfl, shuffled⟩ := shuffled
  refine ⟨rfl, ?_⟩
  cases cells with
  | gauge g =>
    cases cells' with
    | gauge h => exact Guarded.Shuffles.matches shuffled
    | counter | histogram => cases shuffled
  | counter g =>
    cases cells' with
    | counter h => exact Guarded.Shuffles.matches shuffled
    | gauge | histogram => cases shuffled
  | histogram bounds g =>
    cases cells' with
    | histogram others h => exact ⟨shuffled.1, shuffled.2.matches⟩
    | gauge | counter => cases shuffled

private theorem Keyed.cell?_of_unfit (keyed : m.Keyed) (unfit : m.description.fits labels = false) :
    m.cell? labels = none := by
  cases found : m.cell? labels with
  | none => rfl
  | some cell =>
    have fits := keyed labels (by rw [found]; rfl)
    rw [unfit] at fits
    cases fits

private theorem keyed_of_fresh (fresh : Latency.Fresh m) : m.Keyed := by
  intro labels found
  obtain ⟨description, rfl | rfl | ⟨bounds, rfl⟩⟩ := fresh <;> cases found

/-- An operation makes a series only under labels that fit. -/
theorem Keyed.apply (keyed : m.Keyed) {operation : Operation} (done : (m.apply operation labels).result = .ok ()) :
    (m.apply operation labels).state.Keyed := by
  obtain ⟨-, ⟨-, same⟩ | ⟨-, fits, applied⟩⟩ := cases_of_apply done
  · rw [same]
    exact keyed
  · have alike := alike_of_apply m operation labels
    intro other found
    rw [alike.description]
    cases applied with
    | changed _ _ left =>
      by_cases same : other = labels
      · rw [same]
        exact fits
      · rw [left, if_neg same] at found
        exact keyed other found
    | removed _ _ left =>
      by_cases same : other = labels
      · rw [same]
        exact fits
      · rw [left, if_neg same] at found
        exact keyed other found

private theorem Keyed.perform (keyed : m.Keyed) {step : Step} {answer : Answer}
    (done : (step.perform m).result = .ok answer) : (step.perform m).state.Keyed := by
  cases step with
  | apply operation labels => exact keyed.apply (done_of_perform done)
  | get labels =>
    rw [state_of_get]
    exact keyed
  | snapshot | series labels => exact keyed

/-- The value that is read off a metric is the value of the cell. -/
theorem value_of_calm (keyed : m.Keyed) (calm : m.poisoned = false) (labels : List String) :
    (m.value labels).result = .ok ((m.cell? labels).bind (·.reading.value?)) := by
  cases fits : m.description.fits labels with
  | false =>
    have missing := keyed.cell?_of_unfit fits
    rw [missing]
    obtain ⟨description, cells⟩ := m
    cases cells <;> simp [value, readCell, fits]
  | true =>
    obtain ⟨description, cells⟩ := m
    cases cells with
    | gauge g | counter g =>
      simp only [value, readCell, fits, ↓reduceIte, Guarded.lock_of_calm calm, Except.map, cell?]
      cases g.table.get? labels <;> rfl
    | histogram bounds g =>
      simp only [value, cell?]
      cases g.table.get? labels <;> rfl

/-- The number that is read off a metric is that of the observations in the cell. -/
theorem count_of_calm (keyed : m.Keyed) (calm : m.poisoned = false) (labels : List String) :
    (m.count labels).result = .ok (((m.cell? labels).bind (·.reading.count?)).getD 0) := by
  cases fits : m.description.fits labels with
  | false =>
    have missing := keyed.cell?_of_unfit fits
    rw [missing]
    obtain ⟨description, cells⟩ := m
    cases cells <;> simp [count, readCell, fits, Except.map]
  | true =>
    obtain ⟨description, cells⟩ := m
    cases cells with
    | gauge g | counter g =>
      simp only [count, cell?]
      cases g.table.get? labels <;> rfl
    | histogram bounds g =>
      simp only [count, readCell, fits, ↓reduceIte, Guarded.lock_of_calm calm, Except.map, cell?]
      cases g.table.get? labels <;> rfl

theorem keyed_after {first : Metric} (fresh : Latency.Fresh first) {steps : List Step}
    (calm : (first.after steps).poisoned = false) : (first.after steps).Keyed := by
  refine calm_induction (motive := fun _ m => m.Keyed) (keyed_of_fresh fresh) ?_ calm
  intro steps step answer _ keyed done
  exact keyed.perform done

end readings

/-- After every run that leaves the lock as it was: the value and the number of observations that are read off the
    metric are those of the series that a snapshot has under the same labels, right or wrong. The series of the
    snapshot are in strict order of their labels, each with a label for every label name, and a metric that lists the
    same entries in another order gives the same snapshot. -/
theorem reads_of_run {first : Metric} (fresh : Latency.Fresh first) (steps : List Step)
    (calm : (first.after steps).poisoned = false) :
    ∃ snapshot, (first.after steps).snapshot = .ok snapshot ∧
      (∀ labels, ((first.after steps).value labels).result =
        .ok ((snapshot.find? labels).bind (·.reading.value?))) ∧
      (∀ labels, ((first.after steps).count labels).result =
        .ok (((snapshot.find? labels).bind (·.reading.count?)).getD 0)) ∧
      (snapshot.series.Pairwise fun a b => a.labels < b.labels) ∧
      (∀ series ∈ snapshot.series, series.labels.length = first.description.labelNames.length) ∧
      ∀ other, (first.after steps).Shuffles other → other.snapshot = .ok snapshot := by
  have keyed := keyed_after fresh calm
  obtain ⟨snapshot, taken⟩ := snapshot_of_calm calm
  have tells := tells_of_snapshot taken
  refine ⟨snapshot, taken, fun labels => ?_, fun labels => ?_, tells.ordered, fun series listed => ?_,
    fun other shuffled => ?_⟩
  · rw [value_of_calm keyed calm, tells.found]
    cases (first.after steps).cell? labels <;> rfl
  · rw [count_of_calm keyed calm, tells.found]
    cases (first.after steps).cell? labels <;> rfl
  · obtain ⟨cell, there, -⟩ := tells.held series listed
    have fits := keyed series.labels (by rw [there]; rfl)
    rw [(alike_after first steps).description] at fits
    exact of_decide_eq_true fits
  · rw [← shuffled.matches.snapshot]
    exact taken

/-- Two shelves, of which one is emptied, and a third that nobody labelled. -/
def shelves : List Step :=
  [.apply (.change .set 5) ["b"], .apply (.change .add 2) ["a"], .apply .remove ["b"], .apply (.change .set 1) ["b"],
    .apply (.change .set 9) []]

theorem shelves_read :
    let gauge := (newGauge ⟨"shelf", "", ["place"]⟩).after shelves
    gauge.poisoned = false ∧ (gauge.value ["a"]).result = .ok (some 2) ∧ (gauge.value []).result = .ok none ∧
      ∃ snapshot, gauge.snapshot = .ok snapshot ∧
        (gauge.value ["b"]).result = .ok ((snapshot.find? ["b"]).bind (·.reading.value?)) := by
  refine ⟨by decide, by decide, by decide, ?_⟩
  have fresh : Latency.Fresh (newGauge ⟨"shelf", "", ["place"]⟩) := ⟨_, .inl rfl⟩
  obtain ⟨snapshot, taken, values, -⟩ := reads_of_run fresh shelves (by decide)
  exact ⟨snapshot, taken, values ["b"]⟩

end JobPool.Metric
