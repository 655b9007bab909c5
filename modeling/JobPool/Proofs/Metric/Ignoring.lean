import JobPool.Proofs.Metric.Cell

/-!
An operation on a registry is ignored and says so, or it is made in silence (`logged_iff_ignored`). Either way the
snapshots before and after can be taken, and they tell which of the two it was: every series that a metric holds is
found under its id and its labels (`series_of_snapshot`).
-/

namespace JobPool

/-- The line is a warning or an error. -/
def Record.Alarms (record : Record) : Prop := record.level = .warn ∨ record.level = .error

namespace Metric

private theorem level_of_refusal {m : Metric} {labels : List String} {change : Change} {value : Int64} {record : Record}
    (refused : m.refusal labels change value = some record) : record.level = .warn := by
  unfold refusal at refused
  split at refused
  · cases refused; rfl
  · split at refused
    · cases refused; rfl
    · split at refused
      · cases refused; rfl
      · cases refused

section remarks

variable {m : Metric} {labels : List String} {operation : Operation}

/-- The lines about an operation that is ignored are warnings and errors. -/
theorem alarms_of_remarks {record : Record} (listed : record ∈ m.remarks labels operation) : record.Alarms := by
  cases operation with
  | change change value => exact .inl (level_of_refusal (Option.mem_toList.mp listed))
  | remove =>
    cases fits : m.description.fits labels with
    | true =>
      cases there : (m.cell? labels).isSome with
      | true => simp [remarks, fits, there] at listed
      | false =>
        simp only [remarks, fits, there, Bool.false_eq_true, ↓reduceIte, List.mem_singleton] at listed
        rw [listed]
        exact .inr rfl
    | false =>
      simp only [remarks, fits, Bool.false_eq_true, ↓reduceIte, List.mem_cons, List.not_mem_nil, or_false] at listed
      rcases listed with rfl | rfl
      · exact .inl rfl
      · exact .inr rfl

/-- There is one line, unless a removal names too many or too few labels. -/
theorem remarks_eq_singleton (ignored : m.remarks labels operation ≠ [])
    (named : operation = .remove → m.description.fits labels = true) : ∃ record,
    m.remarks labels operation = [record] := by
  cases operation with
  | change change value =>
    cases refused : m.refusal labels change value with
    | some warning => exact ⟨warning, by simp only [remarks, refused, Option.toList_some]⟩
    | none => simp [remarks, refused] at ignored
  | remove =>
    simp only [remarks, named rfl, ↓reduceIte] at ignored ⊢
    split at ignored
    · exact absurd rfl ignored
    · rename_i missing
      exact ⟨_, if_neg missing⟩

end remarks

namespace RegistrySnapshot

/-- The series of a metric with exactly these labels. -/
def series? (s : RegistrySnapshot) (id : String) (labels : List String) : Option Series :=
  (s.metrics.lookup id).bind (·.find? labels)

end RegistrySnapshot

namespace Registry

variable {r : Registry} {id : String} {handle : Handle} {operation : Operation} {labels : List String}

/-- What a registry holds for a series. -/
def cell? (r : Registry) (id : String) (labels : List String) : Option Cell :=
  (r.metrics.get? id).bind (·.cell? labels)

/-- A removal names more or fewer labels than the metric has. -/
def Misnamed (r : Registry) (id : String) (labels : List String) (operation : Operation) : Prop :=
  operation = .remove ∧ ∃ metric, r.metrics.get? id = some metric ∧ labels.length ≠ metric.description.labelNames.length

/-- The operation was made: a change leaves its result in the series, a removal finds the series and leaves none, all
    ids of the metric show it, and every other series of every metric is as it was. -/
inductive Applied (r : Registry) (id : String) (labels : List String) : Operation → Registry → Prop
  | changed {change : Change} {value : Int64} {metric : Metric} {cell : Cell} {q : Registry}
      (held : r.metrics.get? id = some metric) (ids : q.ids = r.ids)
      (becomes : Cell.Becomes change value ((r.cell? id labels).getD metric.cells.initial) cell)
      (found : ∀ other others, q.cell? other others =
        if r.Shares id other ∧ others = labels then some cell else r.cell? other others) :
      Applied r id labels (.change change value) q
  | removed {q : Registry} (there : (r.cell? id labels).isSome = true) (ids : q.ids = r.ids)
      (found : ∀ other others, q.cell? other others =
        if r.Shares id other ∧ others = labels then none else r.cell? other others) :
      Applied r id labels .remove q

/-- The operation was ignored: the registry is as it was, and a warning or an error says so. A removal with too many or
    too few labels leaves a warning and then an error. -/
structure Ignored (r : Registry) (id : String) (labels : List String) (operation : Operation)
    (reply : Reply Registry Unit) : Prop where
  state : reply.state = r
  alarms : ∀ record ∈ reply.logs, record.Alarms
  misnamed : r.Misnamed id labels operation → ∃ first second, reply.logs = [.warn first, .error second]
  single : ¬r.Misnamed id labels operation → ∃ record, reply.logs = [record]

/-- A snapshot of a registry tells what its metrics hold. -/
theorem series_of_snapshot {snapshot : RegistrySnapshot} (taken : r.snapshot = .ok snapshot) (id : String)
    (labels : List String) :
    snapshot.series? id labels = (r.cell? id labels).map fun cell => ⟨labels, cell.reading⟩ := by
  have shown := shown_of_snapshot taken id
  rw [RegistrySnapshot.series?, cell?]
  generalize r.metrics.get? id = held at shown
  generalize snapshot.metrics.lookup id = there at shown
  cases shown with
  | none => rfl
  | some made => exact (tells_of_snapshot made).found labels

private theorem metric_of_found (found : r.ids.get? id = some handle) : r.metrics.get? id = some (r.heap handle) := by
  rw [get?_metrics, found, Option.map_some]

private theorem calm_apply (calm : r.Calm) (done : (r.apply id operation labels).result = .ok ()) :
    (r.apply id operation labels).state.Calm := by
  intro other metric found
  rw [get?_metrics, ids_apply] at found
  obtain ⟨there, taken, rfl⟩ := Option.map_eq_some_iff.mp found
  rw [heap_apply]
  split
  · rename_i same
    rw [apply_of_found same] at done
    rcases apply_of_calm (calm other _ (metric_of_found taken)) operation labels with
      ⟨n, logs, made, calm⟩ | ⟨n, fault, made, -⟩
    · rw [made]
      exact calm
    · rw [made] at done
      cases done
  · exact calm other _ (metric_of_found taken)

/-- Unless a sum or a difference leaves its word, an operation on a registry that is not poisoned does not fault. -/
theorem apply_done (calm : r.Calm)
    (fits : ∀ fault, (r.apply id operation labels).result = .error fault → ¬fault.IsOverflow) :
    (r.apply id operation labels).result = .ok () := by
  cases found : r.ids.get? id with
  | none => rw [Registry.apply, found]
  | some handle =>
    rw [apply_of_found found] at fits ⊢
    rcases apply_of_calm (calm id _ (metric_of_found found)) operation labels with
      ⟨n, logs, made, -⟩ | ⟨n, fault, made, -, overflow⟩
    · rw [made]
    · exact absurd overflow (fits fault (by rw [made]))

private theorem cell?_of_found (found : r.ids.get? id = some handle) (others : List String) :
    r.cell? id others = (r.heap handle).cell? others := by
  rw [cell?, metric_of_found found, Option.bind_some]

private theorem cell?_apply (found : r.ids.get? id = some handle) (other : String) (others : List String) :
    (r.apply id operation labels).state.cell? other others =
      if r.Shares id other then ((r.heap handle).apply operation labels).state.cell? others
      else r.cell? other others := by
  have shown := get?_apply r id operation labels other
  by_cases same : r.Shares id other
  · have there : r.ids.get? other = some handle := Eq.trans (Eq.symm same) found
    rw [if_pos same, metric_of_found there, Option.map_some] at shown
    rw [if_pos same, cell?, shown, Option.bind_some]
  · rw [if_neg same] at shown
    rw [if_neg same, cell?, shown, cell?]

private theorem Applied.of_metric (found : r.ids.get? id = some handle)
    (applied : (r.heap handle).Applied labels operation ((r.heap handle).apply operation labels).state) :
    r.Applied id labels operation (r.apply id operation labels).state := by
  have elsewhere : ∀ next other others,
      (∀ others, ((r.heap handle).apply operation labels).state.cell? others =
        if others = labels then next else (r.heap handle).cell? others) →
      (r.apply id operation labels).state.cell? other others =
        if r.Shares id other ∧ others = labels then next else r.cell? other others := by
    intro next other others left
    rw [cell?_apply found, left]
    by_cases same : r.Shares id other
    · have there : r.ids.get? other = some handle := Eq.trans (Eq.symm same) found
      simp [same, cell?_of_found there]
    · simp [same]
  cases applied with
  | changed alike becomes left =>
    rw [← cell?_of_found found] at becomes
    exact .changed (metric_of_found found) (ids_apply ..) becomes fun other others => elsewhere _ other others left
  | removed alike there left =>
    rw [← cell?_of_found found] at there
    exact .removed there (ids_apply ..) fun other others => elsewhere _ other others left

/-- An operation that does not fault is ignored and says so, or is made without a word. -/
theorem cases_of_apply (done : (r.apply id operation labels).result = .ok ()) :
    r.Ignored id labels operation (r.apply id operation labels) ∨
      (r.apply id operation labels).logs = [] ∧
        r.Applied id labels operation (r.apply id operation labels).state := by
  cases found : r.ids.get? id with
  | none =>
    have unknown : ¬r.Misnamed id labels operation := by
      rintro ⟨-, metric, there, -⟩
      rw [get?_metrics, found] at there
      cases there
    have reply : r.apply id operation labels = ⟨r, [notRegistered id], .ok ()⟩ := by rw [Registry.apply, found]
    left
    rw [reply]
    refine ⟨rfl, fun record listed => ?_, fun misnamed => absurd misnamed unknown, fun _ => ⟨_, rfl⟩⟩
    rw [List.mem_singleton.mp listed]
    exact .inl rfl
  | some handle =>
    have reply : r.apply id operation labels = _ := apply_of_found found
    have logs : (r.apply id operation labels).logs = ((r.heap handle).apply operation labels).logs := by rw [reply]
    have state : (r.apply id operation labels).state =
        r.set handle ((r.heap handle).apply operation labels).state := by rw [reply]
    have made : ((r.heap handle).apply operation labels).result = .ok () := by rw [reply] at done; exact done
    obtain ⟨said, ⟨ignored, same⟩ | ⟨quiet, -, applied⟩⟩ := Metric.cases_of_apply made
    · left
      rw [said] at logs
      refine ⟨?_, fun record listed => ?_, fun misnamed => ?_, fun named => ?_⟩
      · rw [state, same, set_heap]
      · rw [logs] at listed
        exact alarms_of_remarks listed
      · obtain ⟨rfl, other, there, unfit⟩ := misnamed
        rw [metric_of_found found] at there
        cases there
        rw [logs, remarks, if_neg (by rwa [Description.fits_iff])]
        exact ⟨_, _, rfl⟩
      · rw [logs]
        refine remarks_eq_singleton ignored fun removes => ?_
        by_contra unfit
        exact named ⟨removes, _, metric_of_found found, by rwa [Description.fits_iff] at unfit⟩
    · right
      exact ⟨by rw [logs, said, quiet], .of_metric found applied⟩

/-- In a registry without a poisoned metric, an operation that does not overflow is made or ignored, and both can be
    told from the snapshots before and after. If it logs a warning or an error it was ignored and the snapshots are the
    same; if it logs neither it logs nothing and was made. -/
theorem logged_iff_ignored (calm : r.Calm) (id : String) (operation : Operation) (labels : List String)
    (fits : ∀ fault, (r.apply id operation labels).result = .error fault → ¬fault.IsOverflow) :
    ∃ before after, r.snapshot = .ok before ∧ (r.apply id operation labels).state.snapshot = .ok after ∧
      (∀ other others, before.series? other others =
        (r.cell? other others).map fun cell => ⟨others, cell.reading⟩) ∧
      (∀ other others, after.series? other others =
        ((r.apply id operation labels).state.cell? other others).map fun cell => ⟨others, cell.reading⟩) ∧
      ((∃ record ∈ (r.apply id operation labels).logs, record.Alarms) →
        r.Ignored id labels operation (r.apply id operation labels) ∧ after = before) ∧
      ((¬∃ record ∈ (r.apply id operation labels).logs, record.Alarms) →
        (r.apply id operation labels).logs = [] ∧
          r.Applied id labels operation (r.apply id operation labels).state) := by
  have done := apply_done calm fits
  obtain ⟨before, earlier, -⟩ := snapshot_of_calm calm
  obtain ⟨after, later, -⟩ := snapshot_of_calm (calm_apply calm done)
  refine ⟨before, after, earlier, later, series_of_snapshot earlier, series_of_snapshot later, ?_⟩
  rcases cases_of_apply done with ignored | ⟨quiet, applied⟩
  · constructor
    · intro _
      refine ⟨ignored, ?_⟩
      rw [ignored.state, earlier] at later
      cases later
      rfl
    · intro silent
      exfalso
      by_cases misnamed : r.Misnamed id labels operation
      · obtain ⟨first, second, logs⟩ := ignored.misnamed misnamed
        exact silent ⟨.warn first, by simp [logs], .inl rfl⟩
      · obtain ⟨record, logs⟩ := ignored.single misnamed
        have listed : record ∈ (r.apply id operation labels).logs := by simp [logs]
        exact silent ⟨record, listed, ignored.alarms record listed⟩
  · constructor
    · rintro ⟨record, listed, -⟩
      rw [quiet] at listed
      cases listed
    · intro _
      exact ⟨quiet, applied⟩

/-- A registry in which one gauge stands under two ids. -/
def closet : Registry :=
  let shelf := newGauge ⟨"shelf", "", ["place"]⟩
  ((empty.register "shelf" shelf).state.register "rack" shelf).state

/-- The gauge is asked to remove a series without saying which, and then to take a value, which both ids show. -/
theorem unnamed_ignored :
    closet.Calm ∧ closet.Misnamed "shelf" [] .remove ∧ closet.Shares "shelf" "rack" ∧
      (∃ before after, closet.snapshot = .ok before ∧ (closet.apply "shelf" .remove []).state.snapshot = .ok after ∧
        after = before) ∧
      closet.Applied "shelf" ["top"] (.change .set 5) (closet.apply "shelf" (.change .set 5) ["top"]).state := by
  have calm : closet.Calm := by
    intro id metric found
    have listed := (lookup_eq_some_iff_mem closet.metrics.distinct).mp found
    rcases List.mem_cons.mp listed with same | listed
    · cases same
      rfl
    · cases List.mem_singleton.mp listed
      rfl
  refine ⟨calm, ⟨rfl, _, rfl, by decide⟩, rfl, ?_, ?_⟩
  · obtain ⟨before, after, earlier, later, -, -, ignored, -⟩ :=
      logged_iff_ignored calm "shelf" .remove [] fun fault faulted => by cases faulted
    refine ⟨before, after, earlier, later, (ignored ⟨_, List.mem_cons_self, ?_⟩).2⟩
    exact .inl rfl
  · obtain ⟨before, after, -, -, -, -, -, made⟩ :=
      logged_iff_ignored calm "shelf" (.change .set 5) ["top"] fun fault faulted => by cases faulted
    exact (made (by rintro ⟨record, listed, -⟩; cases listed)).2

end Registry

end Metric

end JobPool
