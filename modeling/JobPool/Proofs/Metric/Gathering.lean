import Mathlib.Algebra.BigOperators.Group.List.Basic
import Mathlib.Algebra.Order.BigOperators.Group.List
import Mathlib.Algebra.Order.Ring.Int
import Mathlib.Data.List.Induction
import JobPool.Proofs.Metric.Canonical
import JobPool.Proofs.Metric.Reading

/-!
What counters and histograms gather. Without a removal a series is what its values come to one after the other
(`Grown`), and the order of the values has no part in that (`Grown.matches`). One more value is taken in as long as the
sum of the values, and for a histogram their number, has room (`Grown.change`).
-/

namespace JobPool.Metric

/-- What values come to, added one by one; without a value there is nothing. -/
def gathered {α : Type} (initial : α) (add : α → Int64 → α) (values : List Int64) : Option α :=
  if values = [] then none else some (values.foldl add initial)

/-- A distribution with one more observation, room or not. -/
def Distribution.including (bounds : List Binary64) (d : Distribution) (elapsed : Int64) : Distribution where
  count := d.count + 1
  sum := d.sum + elapsed
  min := if elapsed.toInt < d.min.toInt then elapsed else d.min
  max := if d.max.toInt < elapsed.toInt then elapsed else d.max
  counts := countAtFirst elapsed bounds d.counts

/-- The values have room in a series of this kind: their sum is a signed word, and a histogram can count them. -/
def Room (kind : Kind) (values : List Int64) : Prop :=
  (values.map Int64.toInt).sum ≤ 9223372036854775807 ∧ (kind = .histogram → values.length < UInt64.size)

/-- The second metric is what the first becomes when its series gather these values; gauges gather none. -/
structure Grown (first now : Metric) (values : List String → List Int64) : Prop where
  description : now.description = first.description
  calm : now.poisoned = false
  cells : match first.cells, now.cells with
    | .gauge g, .gauge h => h = g
    | .counter _, .counter h => ∀ labels, h.table.get? labels = gathered 0 (· + ·) (values labels)
    | .histogram bounds _, .histogram others h => others = bounds ∧ ∀ labels,
      h.table.get? labels = gathered (.empty bounds) (Distribution.including bounds) (values labels)
    | _, _ => False

section values

variable {α : Type} {initial : α} {add : α → Int64 → α} {values others : List Int64} {value : Int64}
  {bounds : List Binary64} {kind : Kind}

private theorem gathered_getD (initial : α) (add : α → Int64 → α) (values : List Int64) :
    (gathered initial add values).getD initial = values.foldl add initial := by
  cases values <;> rfl

private theorem gathered_concat (initial : α) (add : α → Int64 → α) (values : List Int64) (value : Int64) :
    gathered initial add (values ++ [value]) = some (add (values.foldl add initial) value) := by
  simp [gathered]

/-- The order of the values does not matter where they can be added in either order. -/
theorem gathered_perm (commute : ∀ cell a b, add (add cell a) b = add (add cell b) a) (perm : values.Perm others) :
    gathered initial add values = gathered initial add others := by
  have fold := perm.foldl_eq' (fun a _ b _ cell => commute cell a b) initial
  unfold gathered
  rw [fold]
  by_cases empty : values = []
  · have emptied : others = [] := by
      rw [empty] at perm
      exact perm.nil_eq.symm
    rw [if_pos empty, if_pos emptied]
  · have kept : ¬others = [] := by
      intro emptied
      rw [emptied] at perm
      exact empty perm.eq_nil
    rw [if_neg empty, if_neg kept]

private theorem add_right_comm (cell a b : Int64) : cell + a + b = cell + b + a := by
  rw [Int64.add_assoc, Int64.add_comm a b, Int64.add_assoc]

private theorem countAtFirst_comm (a b : Int64) (bounds : List Binary64) (counts : List UInt64) :
    Distribution.countAtFirst b bounds (Distribution.countAtFirst a bounds counts) =
      Distribution.countAtFirst a bounds (Distribution.countAtFirst b bounds counts) := by
  induction bounds generalizing counts with
  | nil => rfl
  | cons bound bounds ih =>
    cases counts with
    | nil => rfl
    | cons n counts =>
      by_cases here : Distribution.within a bound = true <;> by_cases there : Distribution.within b bound = true <;>
        simp [Distribution.countAtFirst, here, there, ih]

private theorem lower_comm (low a b : Int64) :
    (if b.toInt < (if a.toInt < low.toInt then a else low).toInt then b else if a.toInt < low.toInt then a else low) =
      if a.toInt < (if b.toInt < low.toInt then b else low).toInt then a else if b.toInt < low.toInt then b
      else low := by
  by_cases here : a.toInt < low.toInt <;> by_cases there : b.toInt < low.toInt
  · simp only [here, there, ↓reduceIte]
    rcases lt_trichotomy a.toInt b.toInt with less | same | more
    · rw [if_neg (by omega), if_pos less]
    · rw [if_neg (by omega), if_neg (by omega), Int64.toInt_inj.mp same]
    · rw [if_pos more, if_neg (by omega)]
  · simp only [here, there, ↓reduceIte]
    rw [if_neg (by omega)]
  · simp only [here, there, ↓reduceIte]
    rw [if_neg (by omega)]
  · simp only [here, there, ↓reduceIte]

private theorem upper_comm (high a b : Int64) :
    (if (if high.toInt < a.toInt then a else high).toInt < b.toInt then b else if high.toInt < a.toInt then a
      else high) =
      if (if high.toInt < b.toInt then b else high).toInt < a.toInt then a else if high.toInt < b.toInt then b else
      high := by
  by_cases here : high.toInt < a.toInt <;> by_cases there : high.toInt < b.toInt
  · simp only [here, there, ↓reduceIte]
    rcases lt_trichotomy a.toInt b.toInt with less | same | more
    · rw [if_pos less, if_neg (by omega)]
    · rw [if_neg (by omega), if_neg (by omega), Int64.toInt_inj.mp same]
    · rw [if_neg (by omega), if_pos more]
  · simp only [here, there, ↓reduceIte]
    rw [if_neg (by omega)]
  · simp only [here, there, ↓reduceIte]
    rw [if_neg (by omega)]
  · simp only [here, there, ↓reduceIte]

/-- Observations can be included in either order. -/
theorem including_comm (bounds : List Binary64) (d : Distribution) (a b : Int64) :
    (d.including bounds a).including bounds b = (d.including bounds b).including bounds a := by
  simp only [Distribution.including, Distribution.mk.injEq]
  exact ⟨trivial, add_right_comm .., lower_comm .., upper_comm .., countAtFirst_comm ..⟩

/-- A value that is not negative needs room. -/
theorem Room.of_concat (room : Room kind (values ++ [value])) (positive : 0 ≤ value.toInt) : Room kind values := by
  obtain ⟨sum, length⟩ := room
  simp only [List.map_append, List.map_cons, List.map_nil, List.sum_append, List.sum_singleton, List.length_append,
    List.length_singleton] at sum length
  exact ⟨by omega, fun histogram => Nat.lt_of_succ_lt (length histogram)⟩

private theorem sum_nonneg (positive : ∀ value ∈ values, 0 ≤ value.toInt) : 0 ≤ (values.map Int64.toInt).sum := by
  refine List.sum_nonneg ?_
  simpa using positive

/-- A sum that has room is what it should be. -/
theorem toInt_add_of_room {a b : Int64} (low : 0 ≤ a.toInt + b.toInt) (high : a.toInt + b.toInt ≤ 9223372036854775807) :
    (a + b).toInt = a.toInt + b.toInt :=
  addChecked_eq_ok (if_pos ⟨by omega, high⟩)

private theorem sum_of_room (room : Room kind values) (positive : ∀ value ∈ values, 0 ≤ value.toInt) :
    (values.foldl (· + ·) (0 : Int64)).toInt = (values.map Int64.toInt).sum := by
  induction values using List.reverseRecOn with
  | nil => rfl
  | append_singleton values value ih =>
    have earlier : ∀ other ∈ values, 0 ≤ other.toInt := fun other listed =>
      positive other (List.mem_append_left _ listed)
    have last : 0 ≤ value.toInt := positive value (by simp)
    have before := ih (room.of_concat last) earlier
    have total : ((values ++ [value]).map Int64.toInt).sum = (values.map Int64.toInt).sum + value.toInt := by simp
    have low := sum_nonneg earlier
    have high := room.1
    rw [total] at high
    rw [List.foldl_append, List.foldl_cons, List.foldl_nil, total, toInt_add_of_room, before] <;> rw [before] <;> omega

/-- What a distribution counts and adds up while there is room. -/
theorem distribution_of_room (bounds : List Binary64) (room : Room .histogram values)
    (positive : ∀ value ∈ values, 0 ≤ value.toInt) :
    (values.foldl (Distribution.including bounds) (.empty bounds)).count.toNat = values.length ∧
      (values.foldl (Distribution.including bounds) (.empty bounds)).sum.toInt = (values.map Int64.toInt).sum := by
  induction values using List.reverseRecOn with
  | nil => exact ⟨rfl, rfl⟩
  | append_singleton values value ih =>
    have earlier : ∀ other ∈ values, 0 ≤ other.toInt := fun other listed =>
      positive other (List.mem_append_left _ listed)
    have last : 0 ≤ value.toInt := positive value (by simp)
    obtain ⟨count, sum⟩ := ih (room.of_concat last) earlier
    have total : ((values ++ [value]).map Int64.toInt).sum = (values.map Int64.toInt).sum + value.toInt := by simp
    have low := sum_nonneg earlier
    obtain ⟨high, number⟩ := room
    have few := number rfl
    rw [total] at high
    rw [List.length_append, List.length_singleton] at few ⊢
    rw [List.foldl_append, List.foldl_cons, List.foldl_nil, total]
    simp only [Distribution.including]
    constructor
    · rw [UInt64.toNat_add, count]
      exact Nat.mod_eq_of_lt few
    · rw [toInt_add_of_room, sum] <;> rw [sum] <;> omega

end values

section changes

variable {values : List Int64} {value : Int64} {bounds : List Binary64}

/-- A counter takes a value that has room, and overflows on any other. -/
theorem addTo_gathered (room : Room .counter values) (positive : ∀ value ∈ values, 0 ≤ value.toInt)
    (last : 0 ≤ value.toInt) :
    (Room .counter (values ++ [value]) ∧
        addTo value (values.foldl (· + ·) 0) = (values.foldl (· + ·) 0 + value, none)) ∨
      (¬Room .counter (values ++ [value]) ∧
        ∃ cell, addTo value (values.foldl (· + ·) 0) = (cell, some .addOverflow)) := by
  have sum := sum_of_room room positive
  have low := sum_nonneg positive
  have total : ((values ++ [value]).map Int64.toInt).sum = (values.map Int64.toInt).sum + value.toInt := by simp
  by_cases high : (values.map Int64.toInt).sum + value.toInt ≤ 9223372036854775807
  · left
    refine ⟨⟨total ▸ high, nofun⟩, ?_⟩
    have fits : FitsSigned ((values.foldl (· + ·) (0 : Int64)).toInt + value.toInt) := by
      rw [sum]
      exact ⟨by omega, high⟩
    simp only [addTo, addChecked, if_pos fits]
  · right
    refine ⟨fun roomy => high (total ▸ roomy.1), values.foldl (· + ·) 0, ?_⟩
    have full : ¬FitsSigned ((values.foldl (· + ·) (0 : Int64)).toInt + value.toInt) := by
      rw [sum]
      exact fun fits => high fits.2
    simp only [addTo, addChecked, if_neg full]

/-- A histogram takes an observation that has room, and overflows on any other. -/
theorem observe_gathered (bounds : List Binary64) (room : Room .histogram values)
    (positive : ∀ value ∈ values, 0 ≤ value.toInt) (last : 0 ≤ value.toInt) :
    (Room .histogram (values ++ [value]) ∧
        Distribution.observe bounds value (values.foldl (Distribution.including bounds) (.empty bounds)) =
          ((values.foldl (Distribution.including bounds) (.empty bounds)).including bounds value, none)) ∨
      (¬Room .histogram (values ++ [value]) ∧
        ∃ cell, Distribution.observe bounds value (values.foldl (Distribution.including bounds) (.empty bounds)) =
          (cell, some .addOverflow)) := by
  obtain ⟨count, sum⟩ := distribution_of_room bounds room positive
  have low := sum_nonneg positive
  have total : ((values ++ [value]).map Int64.toInt).sum = (values.map Int64.toInt).sum + value.toInt := by simp
  generalize values.foldl (Distribution.including bounds) (.empty bounds) = d at count sum
  by_cases few : values.length + 1 < UInt64.size
  · have counted : succChecked d.count = .ok (d.count + 1) := by rw [succChecked, count, if_pos few]
    by_cases high : (values.map Int64.toInt).sum + value.toInt ≤ 9223372036854775807
    · left
      refine ⟨⟨total ▸ high, fun _ => by simpa using few⟩, ?_⟩
      have fits : FitsSigned (d.sum.toInt + value.toInt) := by
        rw [sum]
        exact ⟨by omega, high⟩
      simp only [Distribution.observe, counted, addChecked, if_pos fits, Distribution.including]
    · right
      have full : ¬FitsSigned (d.sum.toInt + value.toInt) := by
        rw [sum]
        exact fun fits => high fits.2
      refine ⟨fun roomy => high (total ▸ roomy.1), { d with count := d.count + 1 }, ?_⟩
      simp only [Distribution.observe, counted, addChecked, if_neg full]
  · right
    have uncounted : succChecked d.count = .error .addOverflow := by rw [succChecked, count, if_neg few]
    refine ⟨fun roomy => few (by simpa using roomy.2 rfl), d, ?_⟩
    simp only [Distribution.observe, uncounted]

end changes

/-- A change that fits the values gathered so far gathers one more. -/
theorem Guarded.modify_gathered {α : Type} {g : Guarded α} {initial : α} {add : α → Int64 → α}
    {values : List String → List Int64} {labels : List String} {value : Int64} (change : α → α × Option Fault)
    (calm : g.poisoned = false) (holds : ∀ labels, g.table.get? labels = gathered initial add (values labels))
    (made : change ((values labels).foldl add initial) = (add ((values labels).foldl add initial) value, none)) :
    ∃ h, g.modify labels initial change = (h, .ok ()) ∧ h.poisoned = false ∧ ∀ other, h.table.get? other =
      gathered initial add (if other = labels then values labels ++ [value] else values other) := by
  rw [← gathered_getD, ← holds] at made
  refine ⟨_, modify_of_fit calm made, rfl, fun other => ?_⟩
  rw [Table.get?_put]
  by_cases same : other = labels
  · rw [if_pos same, if_pos same, gathered_concat, holds, gathered_getD]
  · rw [if_neg same, if_neg same, holds]

/-- A change that overflows on the values gathered so far faults. -/
theorem Guarded.modify_overflowing {α : Type} {g : Guarded α} {initial cell : α} {add : α → Int64 → α}
    {values : List String → List Int64} {labels : List String} (change : α → α × Option Fault)
    (calm : g.poisoned = false) (holds : ∀ labels, g.table.get? labels = gathered initial add (values labels))
    (made : change ((values labels).foldl add initial) = (cell, some .addOverflow)) :
    (g.modify labels initial change).2 = .error .addOverflow := by
  rw [← gathered_getD, ← holds] at made
  rw [modify_of_overflow calm made]

/-- The change by which metrics of a kind gather values. -/
def Kind.gathers : Kind → Option Change
  | .gauge => none
  | .counter => some .add
  | .histogram => some .observe

section growth

variable {first now other : Metric} {values others : List String → List Int64} {labels : List String} {change : Change}
  {value : Int64} {bounds : List Binary64}

private theorem Grown.gauge {g : Guarded Int64} (grown : Grown first now values) (start : first.cells = .gauge g) :
    now.cells = .gauge g := by
  have cells := grown.cells
  rw [start] at cells
  cases here : now.cells with
  | gauge h =>
    rw [here] at cells
    exact congrArg Cells.gauge cells
  | counter | histogram =>
    rw [here] at cells
    cases cells

private theorem Grown.counter {g : Guarded Int64} (grown : Grown first now values) (start : first.cells = .counter g) :
    ∃ h, now.cells = .counter h ∧ h.poisoned = false ∧
      ∀ labels, h.table.get? labels = gathered 0 (· + ·) (values labels) := by
  have cells := grown.cells
  have calm := grown.calm
  rw [start] at cells
  unfold Metric.poisoned at calm
  cases here : now.cells with
  | counter h =>
    rw [here] at cells calm
    exact ⟨h, rfl, calm, cells⟩
  | gauge | histogram =>
    rw [here] at cells
    cases cells

private theorem Grown.histogram {g : Guarded Distribution} (grown : Grown first now values)
    (start : first.cells = .histogram bounds g) :
    ∃ h, now.cells = .histogram bounds h ∧ h.poisoned = false ∧
      ∀ labels, h.table.get? labels = gathered (.empty bounds) (Distribution.including bounds) (values labels) := by
  have cells := grown.cells
  have calm := grown.calm
  rw [start] at cells
  unfold Metric.poisoned at calm
  cases here : now.cells with
  | histogram others h =>
    rw [here] at cells calm
    obtain ⟨rfl, holds⟩ := cells
    exact ⟨h, rfl, calm, holds⟩
  | gauge | counter =>
    rw [here] at cells
    cases cells

theorem Grown.kind (grown : Grown first now values) : now.cells.kind = first.cells.kind := by
  cases start : first.cells with
  | gauge g => rw [grown.gauge start]
  | counter g =>
    obtain ⟨h, here, -⟩ := grown.counter start
    rw [here]
    rfl
  | histogram bounds g =>
    obtain ⟨h, here, -⟩ := grown.histogram start
    rw [here]
    rfl

/-- The order of the values has no part in what a metric becomes. -/
theorem Grown.matches (here : Grown first now values) (there : Grown first other others)
    (perm : ∀ labels, (values labels).Perm (others labels)) : now.Matches other := by
  refine ⟨here.description.trans there.description.symm, ?_⟩
  cases start : first.cells with
  | gauge g =>
    rw [here.gauge start, there.gauge start]
    exact ⟨rfl, fun _ => rfl⟩
  | counter g =>
    obtain ⟨h, left, calm, holds⟩ := here.counter start
    obtain ⟨i, right, calm', holds'⟩ := there.counter start
    rw [left, right]
    refine ⟨calm.trans calm'.symm, fun labels => ?_⟩
    rw [holds, holds', gathered_perm add_right_comm (perm labels)]
  | histogram bounds g =>
    obtain ⟨h, left, calm, holds⟩ := here.histogram start
    obtain ⟨i, right, calm', holds'⟩ := there.histogram start
    rw [left, right]
    refine ⟨rfl, calm.trans calm'.symm, fun labels => ?_⟩
    rw [holds, holds', gathered_perm (including_comm bounds) (perm labels)]

/-- A value that has room is gathered; on any other the metric overflows. -/
theorem Grown.changed (grown : Grown first now values) (gathers : first.cells.kind.gathers = some change)
    (room : Room first.cells.kind (values labels)) (positive : ∀ value ∈ values labels, 0 ≤ value.toInt)
    (last : 0 ≤ value.toInt) :
    (Room first.cells.kind (values labels ++ [value]) ∧ ∃ cells, now.cells.change labels change value =
      (cells, .ok ()) ∧
        Grown first { now with cells := cells } fun other =>
          if other = labels then values labels ++ [value] else values other) ∨
      (¬Room first.cells.kind (values labels ++ [value]) ∧
        (now.cells.change labels change value).2 = .error .addOverflow) := by
  cases start : first.cells with
  | gauge g =>
    rw [start] at gathers
    cases gathers
  | counter g =>
    rw [start] at gathers room
    cases gathers
    obtain ⟨h, here, calm, holds⟩ := grown.counter start
    rw [here]
    rcases addTo_gathered room positive last with ⟨roomy, made⟩ | ⟨full, cell, made⟩
    · left
      obtain ⟨i, done, calm, holds⟩ := Guarded.modify_gathered (addTo value) calm holds made
      refine ⟨roomy, .counter i, by simp only [Cells.change, done], grown.description, calm, ?_⟩
      rw [start]
      exact holds
    · right
      exact ⟨full, Guarded.modify_overflowing (addTo value) calm holds made⟩
  | histogram bounds g =>
    rw [start] at gathers room
    cases gathers
    obtain ⟨h, here, calm, holds⟩ := grown.histogram start
    rw [here]
    rcases observe_gathered bounds room positive last with ⟨roomy, made⟩ | ⟨full, cell, made⟩
    · left
      obtain ⟨i, done, calm, holds⟩ := Guarded.modify_gathered (Distribution.observe bounds value) calm holds made
      refine ⟨roomy, .histogram bounds i, by simp only [Cells.change, done], grown.description, calm, ?_⟩
      rw [start]
      exact ⟨rfl, holds⟩
    · right
      exact ⟨full, Guarded.modify_overflowing (Distribution.observe bounds value) calm holds made⟩

end growth

end JobPool.Metric
