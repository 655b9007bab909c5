import Mathlib.Data.List.Nodup
import JobPool.Proofs.Metric.Guarded
import JobPool.Metric.Registry

/-!
Snapshots are canonical: they say what is found under the keys, and nothing about the order in which the keys came.
Tables in which the same is found are the same when they are sorted (`sorted_congr`), so metrics that match give equal
snapshots (`Matches.snapshot`), and so do registries that hold metrics that match (`snapshot_congr`).
-/

namespace JobPool

private theorem textLe_total (a b : String) : (textLe a b || textLe b a) = true := by
  simpa [textLe] using String.le_total a b

private theorem textLe_trans {a b c : String} (first : textLe a b = true) (second : textLe b c = true) :
    textLe a c = true := by
  simp only [textLe, decide_eq_true_eq] at first second ⊢
  exact String.le_trans first second

private theorem textLe_antisymm {a b : String} (first : textLe a b = true) (second : textLe b a = true) : a = b := by
  simp only [textLe, decide_eq_true_eq] at first second
  exact String.le_antisymm first second

theorem textsLe_total (as bs : List String) : (textsLe as bs || textsLe bs as) = true := by
  induction as generalizing bs with
  | nil => simp [textsLe]
  | cons a as ih =>
    cases bs with
    | nil => simp [textsLe]
    | cons b bs =>
      by_cases same : a = b
      · simpa [textsLe, same] using ih bs
      · simpa [textsLe, same, Ne.symm same] using textLe_total a b

private theorem textsLe_antisymm {as bs : List String} (first : textsLe as bs = true) (second : textsLe bs as = true) :
    as = bs := by
  induction as generalizing bs with
  | nil =>
    cases bs with
    | nil => rfl
    | cons b bs => simp [textsLe] at second
  | cons a as ih =>
    cases bs with
    | nil => simp [textsLe] at first
    | cons b bs =>
      by_cases same : a = b
      · simp only [textsLe, same, ↓reduceIte] at first second
        rw [same, ih first second]
      · simp only [textsLe, same, Ne.symm same, ↓reduceIte] at first second
        exact absurd (textLe_antisymm first second) same

theorem textsLe_trans {as bs cs : List String} (first : textsLe as bs = true) (second : textsLe bs cs = true) :
    textsLe as cs = true := by
  induction as generalizing bs cs with
  | nil => simp [textsLe]
  | cons a as ih =>
    cases bs with
    | nil => simp [textsLe] at first
    | cons b bs =>
      cases cs with
      | nil => simp [textsLe] at second
      | cons c cs =>
        by_cases left : a = b
        · subst left
          by_cases right : a = c
          · subst right
            simp only [textsLe, ↓reduceIte] at first second ⊢
            exact ih first second
          · simpa [textsLe, right] using second
        · by_cases right : b = c
          · subst right
            simpa [textsLe, left] using first
          · simp only [textsLe, left, right, ↓reduceIte] at first second
            have outer : ¬a = c := by
              rintro rfl
              exact left (textLe_antisymm first second)
            simpa [textsLe, outer] using textLe_trans first second

/-- What comes first in the order of the lists is below what comes later. -/
theorem lt_of_textsLe {as bs : List String} (below : textsLe as bs = true) (differ : as ≠ bs) : as < bs := by
  induction as generalizing bs with
  | nil =>
    cases bs with
    | nil => exact absurd rfl differ
    | cons b bs => exact List.nil_lt_cons b bs
  | cons a as ih =>
    cases bs with
    | nil => simp [textsLe] at below
    | cons b bs =>
      rw [List.cons_lt_cons_iff]
      by_cases same : a = b
      · subst same
        simp only [textsLe, ↓reduceIte] at below
        right
        exact ⟨rfl, ih below fun equal => differ (by rw [equal])⟩
      · simp only [textsLe, same, ↓reduceIte, textLe, decide_eq_true_eq] at below
        left
        by_contra above
        exact same (String.le_antisymm below (String.not_lt.mp above))

namespace Table

section

variable {κ α β : Type} [DecidableEq κ] {le : κ → κ → Bool}

/-- Tables in which the same is found have the same entries in the same order, once they are sorted. -/
theorem sorted_congr (total : ∀ a b, (le a b || le b a) = true)
    (trans : ∀ {a b c}, le a b = true → le b c = true → le a c = true)
    (antisymm : ∀ {a b}, le a b = true → le b a = true → a = b) {t u : Table κ α}
    (same : ∀ key, t.get? key = u.get? key) : t.sorted le = u.sorted le := by
  have entries : t.entries.Perm u.entries := by
    rw [List.perm_ext_iff_of_nodup (.of_map _ t.distinct) (.of_map _ u.distinct)]
    rintro ⟨key, value⟩
    rw [← lookup_eq_some_iff_mem t.distinct, ← lookup_eq_some_iff_mem u.distinct]
    exact Eq.congr_left (same key)
  refine List.Perm.eq_of_pairwise ?_ (pairwise_sorted total trans t) (pairwise_sorted total trans u) ?_
  · rintro ⟨key, value⟩ ⟨other, value'⟩ first second below above
    obtain rfl := antisymm below above
    have equal : some value = some value' := (mem_sorted.mp first).symm.trans ((same key).trans (mem_sorted.mp second))
    cases equal
    rfl
  · exact (List.mergeSort_perm _ _).trans (entries.trans (List.mergeSort_perm _ _).symm)

omit [DecidableEq κ] in
private theorem sorted_mapValues (t : Table κ α) (f : κ → α → β) :
    (t.mapValues f).sorted le = (t.sorted le).map fun entry => (entry.1, f entry.1 entry.2) := by
  rw [sorted, sorted, mapValues, List.map_mergeSort]
  intro a _ b _
  rfl

end

end Table

namespace Metric

/-- The same is found under all labels, and the locks are alike. -/
structure Guarded.Matches {α : Type} (g h : Guarded α) : Prop where
  poisoned : g.poisoned = h.poisoned
  found : ∀ labels, g.table.get? labels = h.table.get? labels

private theorem Guarded.Matches.series {α : Type} {g h : Guarded α} (same : g.Matches h) (read : α → Reading) :
    g.series read = h.series read := by
  have sorted := Table.sorted_congr textsLe_total textsLe_trans textsLe_antisymm same.found
  cases poisoned : h.poisoned with
  | false =>
    rw [Guarded.series_of_calm (same.poisoned.trans poisoned), Guarded.series_of_calm poisoned, sorted]
  | true =>
    rw [Guarded.series_of_poisoned (same.poisoned.trans poisoned), Guarded.series_of_poisoned poisoned]

/-- The series are of one kind, and the same is found under all labels. -/
def Cells.Matches : Cells → Cells → Prop
  | .gauge g, .gauge h => g.Matches h
  | .counter g, .counter h => g.Matches h
  | .histogram bounds g, .histogram others h => bounds = others ∧ g.Matches h
  | _, _ => False

/-- The metrics are described alike, and the same is found under all labels. -/
structure Matches (m n : Metric) : Prop where
  description : m.description = n.description
  cells : m.cells.Matches n.cells

/-- Metrics in which the same is found give the same snapshot. -/
theorem Matches.snapshot {m n : Metric} (same : m.Matches n) : m.snapshot = n.snapshot := by
  obtain ⟨description, cells⟩ := m
  obtain ⟨description', cells'⟩ := n
  obtain ⟨rfl, same⟩ := same
  cases cells with
  | gauge g =>
    cases cells' with
    | gauge h => simp only [Metric.snapshot, Guarded.Matches.series same]; rfl
    | counter | histogram => cases same
  | counter g =>
    cases cells' with
    | counter h => simp only [Metric.snapshot, Guarded.Matches.series same]; rfl
    | gauge | histogram => cases same
  | histogram bounds g =>
    cases cells' with
    | histogram others h =>
      obtain ⟨rfl, same⟩ := same
      simp only [Metric.snapshot, Guarded.Matches.series same]
      rfl
    | gauge | counter => cases same

namespace Registry

/-- The snapshots of metrics decide the snapshot of the whole. -/
theorem snapshots_congr {entries others : List (String × Metric)}
    (same : (entries.map fun entry => (entry.1, entry.2.snapshot)) = others.map fun entry =>
      (entry.1, entry.2.snapshot)) :
    snapshots entries = snapshots others := by
  induction entries generalizing others with
  | nil =>
    cases others with
    | nil => rfl
    | cons other rest => cases same
  | cons entry rest ih =>
    cases others with
    | nil => cases same
    | cons other rest' =>
      simp only [List.map_cons, List.cons.injEq, Prod.mk.injEq] at same
      obtain ⟨⟨key, snapshot⟩, rest⟩ := same
      simp only [snapshots, key, snapshot, ih rest]

/-- Registries that hold metrics in which the same is found give the same snapshot. -/
theorem snapshot_congr {r q : Registry}
    (same : ∀ id, Option.Rel Matches (r.metrics.get? id) (q.metrics.get? id)) : r.snapshot = q.snapshot := by
  have found : ∀ id, (r.metrics.mapValues fun _ m => m.snapshot).get? id =
      (q.metrics.mapValues fun _ m => m.snapshot).get? id := by
    intro id
    rw [Table.get?_mapValues, Table.get?_mapValues]
    have here := same id
    generalize r.metrics.get? id = metric at here
    generalize q.metrics.get? id = other at here
    cases here with
    | none => rfl
    | some matched => exact congrArg some matched.snapshot
  have sorted := Table.sorted_congr textLe_total textLe_trans textLe_antisymm found
  rw [Table.sorted_mapValues, Table.sorted_mapValues] at sorted
  rw [Registry.snapshot, Registry.snapshot, snapshots_congr sorted]

end Registry

end Metric

end JobPool
