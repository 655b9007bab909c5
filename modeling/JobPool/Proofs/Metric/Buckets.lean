import Mathlib.Algebra.Order.BigOperators.Group.List
import Mathlib.Algebra.Order.Ring.Nat
import JobPool.Proofs.Metric.Cell

/-!
The bounds of a histogram and what is counted at them. The bounds are in order, and whatever does not exceed one that
was given does not exceed one that was kept (`any_sortBounds`). What is counted at the first few bounds adds up to the
observations that do not exceed one of these (`sum_take_counts`), which is what the cumulative counts say
(`cumulative_eq`).
-/

namespace JobPool.Metric

open JobPool.Metric.Distribution (within millis cumulative)

section bounds

variable {a b kept : Binary64} {bounds : List Binary64} {value : Int64}

theorem numericKey_mono (below : a.totalKey ≤ b.totalKey) : a.numericKey ≤ b.numericKey := by
  unfold Binary64.totalKey at below
  unfold Binary64.numericKey
  cases left : a.negative <;> cases right : b.negative <;>
    simp only [left, right, Bool.false_eq_true, ↓reduceIte] at below ⊢ <;> omega

/-- What does not exceed a bound does not exceed a later one that is a number. -/
theorem within_mono (below : a.totalKey ≤ b.totalKey) (number : b.isNaN = false) (held : within value a = true) :
    within value b = true := by
  simp only [within, Binary64.atMost, Bool.and_eq_true, decide_eq_true_eq] at held ⊢
  exact ⟨⟨held.1.1, by simp [number]⟩, Int.le_trans held.2 (numericKey_mono below)⟩

private theorem within_of_same (same : a.sameNumber b = true) (held : within value b = true) :
    within value a = true := by
  simp only [Binary64.sameNumber, Bool.and_eq_true, decide_eq_true_eq] at same
  simp only [within, Binary64.atMost, Bool.and_eq_true, decide_eq_true_eq] at held ⊢
  exact ⟨⟨held.1.1, same.1.1⟩, same.2 ▸ held.2⟩

theorem mergeAfter_sublist (kept : Binary64) (bounds : List Binary64) : (mergeAfter kept bounds).Sublist bounds := by
  induction bounds generalizing kept with
  | nil => exact .slnil
  | cons bound rest ih =>
    unfold mergeAfter
    split
    · exact (ih kept).cons bound
    · exact (ih bound).cons_cons bound

private theorem mergeNeighbours_sublist (bounds : List Binary64) : (mergeNeighbours bounds).Sublist bounds := by
  cases bounds with
  | nil => exact .slnil
  | cons bound rest => exact (mergeAfter_sublist bound rest).cons_cons bound

private theorem perm_insertBound (bound : Binary64) (bounds : List Binary64) :
    (insertBound bound bounds).Perm (bound :: bounds) := by
  induction bounds with
  | nil => exact .refl _
  | cons other rest ih =>
    unfold insertBound
    split
    · exact .refl _
    · exact (ih.cons other).trans (.swap bound other rest)

theorem perm_arrange (bounds : List Binary64) : (arrange bounds).Perm bounds := by
  induction bounds with
  | nil => exact .refl _
  | cons bound rest ih => exact (perm_insertBound bound _).trans (ih.cons bound)

private theorem pairwise_insertBound (bound : Binary64) {bounds : List Binary64}
    (ordered : bounds.Pairwise fun a b => a.totalKey ≤ b.totalKey) :
    (insertBound bound bounds).Pairwise fun a b => a.totalKey ≤ b.totalKey := by
  induction ordered with
  | nil => exact List.pairwise_singleton ..
  | @cons other rest below ordered ih =>
    unfold insertBound
    split
    · rename_i before
      refine .cons (fun later listed => ?_) (.cons below ordered)
      rcases List.mem_cons.mp listed with rfl | listed
      · exact before
      · exact before.trans (below later listed)
    · rename_i after
      refine .cons (fun later listed => ?_) ih
      rcases List.mem_cons.mp ((perm_insertBound bound rest).mem_iff.mp listed) with rfl | listed
      · exact (Int.not_le.mp after).le
      · exact below later listed

theorem pairwise_arrange (bounds : List Binary64) :
    (arrange bounds).Pairwise fun a b => a.totalKey ≤ b.totalKey := by
  induction bounds with
  | nil => exact .nil
  | cons bound rest ih => exact pairwise_insertBound bound ih

theorem sortBounds_subset (bounds : List Binary64) : sortBounds bounds ⊆ bounds := fun _ listed =>
  (perm_arrange bounds).mem_iff.mp ((mergeNeighbours_sublist _).subset listed)

/-- The bounds are in order. -/
theorem sortBounds_ordered (bounds : List Binary64) :
    (sortBounds bounds).Pairwise fun a b => a.totalKey ≤ b.totalKey :=
  (pairwise_arrange bounds).sublist (mergeNeighbours_sublist _)

private theorem any_mergeAfter (value : Int64) (kept : Binary64) (bounds : List Binary64) :
    (within value kept || (mergeAfter kept bounds).any (within value)) =
      (within value kept || bounds.any (within value)) := by
  induction bounds generalizing kept with
  | nil => rfl
  | cons bound rest ih =>
    unfold mergeAfter
    split
    · rename_i same
      rw [ih kept, List.any_cons]
      cases here : within value bound with
      | false => rfl
      | true => rw [within_of_same same here]; rfl
    · rw [List.any_cons, List.any_cons, ih bound]

/-- A bound that was left out is the same number as one that was kept. -/
theorem any_sortBounds (value : Int64) (bounds : List Binary64) :
    (sortBounds bounds).any (within value) = bounds.any (within value) := by
  have arranged : (arrange bounds).any (within value) = bounds.any (within value) := by
    rw [Bool.eq_iff_iff, List.any_eq_true, List.any_eq_true]
    simp only [(perm_arrange bounds).mem_iff]
  rw [← arranged, sortBounds]
  cases arrange bounds with
  | nil => rfl
  | cons bound rest => exact any_mergeAfter value bound rest

end bounds

section counts

variable {bounds : List Binary64} {counts : List UInt64} {values : List Int64} {total : UInt64}

/-- A first few bounds have one that holds just if the first one that holds is among them. -/
theorem any_take (p : Binary64 → Bool) (bounds : List Binary64) (i : Nat) :
    (bounds.take i).any p = (bounds.findIdx? p).any (decide <| · < i) := by
  rw [← List.findIdx?_isSome, List.findIdx?_take]
  cases bounds.findIdx? p with
  | none => rfl
  | some k => by_cases early : k < i <;> simp [Option.guard, early]

/-- The observations of which one of the first bounds is not exceeded: those of one bound less, and those that are
    counted at the last of these bounds. -/
theorem countP_take_succ (bounds : List Binary64) (values : List Int64) (i : Nat) :
    (values.countP fun value => (bounds.take (i + 1)).any (within value)) =
      (values.countP fun value => (bounds.take i).any (within value)) +
        values.countP fun value => bounds.findIdx? (within value) = some i := by
  have point : ∀ first : Option Nat, (if first.any (decide <| · < i + 1) = true then 1 else 0) =
      (if first.any (decide <| · < i) = true then 1 else 0) + if first = some i then 1 else 0 := by
    intro first
    cases first with
    | none => rfl
    | some k =>
      simp only [Option.any_some, decide_eq_true_eq, Option.some.injEq]
      split_ifs <;> omega
  simp only [any_take]
  induction values with
  | nil => rfl
  | cons value rest ih =>
    simp only [List.countP_cons, ih, point, decide_eq_true_eq]
    omega

/-- For each bound there is a count, that of the observations that exceed all bounds before it but not this one. -/
structure Tallied (bounds : List Binary64) (values : List Int64) (counts : List UInt64) : Prop where
  length : counts.length = bounds.length
  first : ∀ i n, counts[i]? = some n → n.toNat = values.countP fun value => bounds.findIdx? (within value) = some i

/-- The counts of the first few bounds add up to the observations that do not exceed one of these bounds. -/
theorem sum_take_counts (tallied : Tallied bounds values counts) {i : Nat} (listed : i ≤ bounds.length) :
    ((counts.take i).map UInt64.toNat).sum = values.countP fun value => (bounds.take i).any (within value) := by
  induction i with
  | zero => simp
  | succ i ih =>
    have inside : i < counts.length := by rw [tallied.length]; omega
    rw [List.take_succ_eq_append_getElem inside, List.map_append, List.sum_append, ih (by omega), countP_take_succ,
      List.map_singleton, List.sum_singleton, tallied.first i _ (List.getElem?_eq_getElem inside)]

theorem map_cumulative (total : UInt64) (same : counts.length = bounds.length) :
    (cumulative total bounds counts).map (·.1) = bounds := by
  induction bounds generalizing counts total with
  | nil => cases counts <;> rfl
  | cons bound rest ih =>
    cases counts with
    | nil => cases same
    | cons n counts => rw [cumulative, List.map_cons, ih _ (Nat.succ.inj same)]

/-- A cumulative count is the sum so far, as long as the sum of all has room. -/
theorem getElem?_cumulative (room : total.toNat + (counts.map UInt64.toNat).sum < UInt64.size) {i : Nat}
    {bucket : Binary64 × UInt64} (listed : (cumulative total bounds counts)[i]? = some bucket) :
    bounds[i]? = some bucket.1 ∧ bucket.2.toNat = total.toNat + ((counts.take (i + 1)).map UInt64.toNat).sum := by
  induction bounds generalizing counts total i with
  | nil => cases counts <;> simp [cumulative] at listed
  | cons bound rest ih =>
    cases counts with
    | nil => simp [cumulative] at listed
    | cons n counts =>
      rw [List.map_cons, List.sum_cons] at room
      have next : (total + n).toNat = total.toNat + n.toNat := by
        rw [UInt64.toNat_add]
        exact Nat.mod_eq_of_lt (Nat.lt_of_le_of_lt (by omega) room)
      cases i with
      | zero =>
        simp only [cumulative, List.getElem?_cons_zero, Option.some.injEq] at listed
        subst listed
        simp [next]
      | succ i =>
        rw [cumulative, List.getElem?_cons_succ] at listed
        obtain ⟨there, sum⟩ := ih (by rw [next]; omega) listed
        refine ⟨there, ?_⟩
        rw [sum, next, List.take_succ_cons, List.map_cons, List.sum_cons]
        omega

/-- A cumulative count is the number of observations that do not exceed this bound or one before it. -/
theorem cumulative_eq (tallied : Tallied bounds values counts) (room : values.length < UInt64.size) {i : Nat}
    {bucket : Binary64 × UInt64} (listed : (cumulative 0 bounds counts)[i]? = some bucket) :
    bounds[i]? = some bucket.1 ∧
      bucket.2.toNat = values.countP fun value => (bounds.take (i + 1)).any (within value) := by
  have all : (counts.map UInt64.toNat).sum = values.countP fun value => bounds.any (within value) := by
    have sum := sum_take_counts tallied (Nat.le_refl _)
    rwa [← tallied.length, List.take_length, tallied.length, List.take_length] at sum
  have fits : (0 : UInt64).toNat + (counts.map UInt64.toNat).sum < UInt64.size := by
    have few : (values.countP fun value => bounds.any (within value)) ≤ values.length := List.countP_le_length
    show 0 + _ < _
    omega
  obtain ⟨there, sum⟩ := getElem?_cumulative fits listed
  refine ⟨there, ?_⟩
  have inside : i < bounds.length := (List.getElem?_eq_some_iff.mp there).1
  rw [sum, sum_take_counts tallied inside]
  exact Nat.zero_add _

theorem cumulative_rising (tallied : Tallied bounds values counts) (room : values.length < UInt64.size) :
    (cumulative 0 bounds counts).Pairwise fun a b => a.2.toNat ≤ b.2.toNat := by
  rw [List.pairwise_iff_getElem]
  intro i j first second less
  rw [(cumulative_eq tallied room (List.getElem?_eq_getElem first)).2,
    (cumulative_eq tallied room (List.getElem?_eq_getElem second)).2]
  refine List.countP_mono_left fun value _ held => ?_
  rw [List.any_eq_true] at held ⊢
  obtain ⟨bound, listed, held⟩ := held
  exact ⟨bound, List.take_subset_take_left _ (by omega) listed, held⟩

theorem cumulative_le (tallied : Tallied bounds values counts) (room : values.length < UInt64.size)
    {bucket : Binary64 × UInt64} (listed : bucket ∈ cumulative 0 bounds counts) :
    bucket.2.toNat ≤ values.length := by
  obtain ⟨i, there⟩ := List.mem_iff_getElem?.mp listed
  rw [(cumulative_eq tallied room there).2]
  exact List.countP_le_length

/-- The last cumulative count leaves out the observations that exceed all bounds. -/
theorem cumulative_last (tallied : Tallied bounds values counts) (room : values.length < UInt64.size)
    {last : Binary64 × UInt64} (final : (cumulative 0 bounds counts).getLast? = some last) :
    values.length = last.2.toNat + values.countP fun value => !bounds.any (within value) := by
  rw [List.getLast?_eq_getElem?] at final
  obtain ⟨there, number⟩ := cumulative_eq tallied room final
  have inside := (List.getElem?_eq_some_iff.mp there).1
  have same := congrArg List.length (map_cumulative 0 tallied.length)
  rw [List.length_map] at same
  rw [number, List.take_of_length_le (by omega), List.length_eq_countP_add_countP fun value =>
    bounds.any (within value)]
  congr 1
  exact List.countP_congr fun value _ => by simp

/-- Among bounds that are in order and numbers, the last one decides. -/
theorem any_take_eq (ordered : bounds.Pairwise fun a b => a.totalKey ≤ b.totalKey)
    (numbers : ∀ bound ∈ bounds, bound.isNaN = false) {i : Nat} {bound : Binary64} (there : bounds[i]? = some bound)
    (value : Int64) : (bounds.take (i + 1)).any (within value) = within value bound := by
  obtain ⟨inside, rfl⟩ := List.getElem?_eq_some_iff.mp there
  rw [Bool.eq_iff_iff, List.any_eq_true]
  constructor
  · rintro ⟨earlier, listed, held⟩
    obtain ⟨j, early, rfl⟩ := List.mem_take_iff_getElem.mp listed
    rcases Nat.lt_or_ge j i with less | more
    · have below := List.pairwise_iff_getElem.mp ordered j i (by omega) inside less
      exact within_mono below (numbers _ (List.getElem_mem inside)) held
    · obtain rfl : j = i := by omega
      exact held
  · intro held
    refine ⟨bounds[i], ?_, held⟩
    rw [List.take_succ_eq_append_getElem inside]
    exact List.mem_append_right _ List.mem_cons_self

end counts

end JobPool.Metric
