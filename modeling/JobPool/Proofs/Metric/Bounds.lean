import Mathlib.Data.List.Pairwise
import JobPool.Proofs.Metric.Buckets
import JobPool.Proofs.Metric.Poison

/-!
The bounds of a histogram are canonical. Sorting goes by the total order and merging by numeric equality; the two fit
together because what lies between two patterns of one number is that number, too (`sameNumber_of_between`), so merging
neighbours leaves no number twice (`pairwise_mergeAfter`). What is kept of a number is the first of its patterns
(`exists_mergeAfter`). So bounds with the same numbers, and with the patterns that are no numbers as often, come to the
same bounds (`SameBounds.sortBounds_eq`).
-/

namespace JobPool

namespace Binary64

variable {a b c x : Binary64}

private theorem toNat_bits (x : Binary64) : x.bits.toNat = (if x.negative then signBit else 0) + x.magnitude := by
  have word := x.bits.toNat_lt
  unfold negative magnitude signBit
  by_cases above : 9223372036854775808 ≤ x.bits.toNat
  · rw [if_pos (decide_eq_true above)]
    omega
  · rw [if_neg (by simpa using above)]
    omega

/-- Different patterns have different places in the total order. -/
theorem totalKey_injective (same : a.totalKey = b.totalKey) : a = b := by
  have left := toNat_bits a
  have right := toNat_bits b
  have bits : a.bits.toNat = b.bits.toNat := by
    unfold totalKey at same
    cases first : a.negative <;> cases second : b.negative <;>
      simp only [first, second, Bool.false_eq_true, ↓reduceIte] at left right same <;> omega
  cases a
  cases b
  exact congrArg Binary64.mk (UInt64.toNat_inj.mp bits)

/-- The two orders differ in the sign of zero alone. -/
theorem numericKey_eq (x : Binary64) : x.numericKey = if x.totalKey < 0 then x.totalKey + 1 else x.totalKey := by
  unfold numericKey totalKey
  cases x.negative <;> simp only [Bool.false_eq_true, ↓reduceIte] <;> split <;> omega

/-- The numbers lie between the infinities. -/
theorem isNaN_eq_false : x.isNaN = false ↔ -1 - (infinityMagnitude : Int) ≤ x.totalKey ∧
    x.totalKey ≤ infinityMagnitude := by
  unfold isNaN totalKey
  rw [decide_eq_false_iff_not]
  cases x.negative <;> simp only [Bool.false_eq_true, ↓reduceIte] <;> omega

private theorem sameNumber_iff :
    a.sameNumber b = true ↔ a.isNaN = false ∧ b.isNaN = false ∧ a.numericKey = b.numericKey := by
  simp [sameNumber, and_assoc]

private theorem sameNumber_self (number : a.isNaN = false) :
    a.sameNumber a = true := sameNumber_iff.mpr ⟨number, number, rfl⟩

private theorem sameNumber_symm (same : a.sameNumber b = true) : b.sameNumber a = true := by
  rw [sameNumber_iff] at same ⊢
  exact ⟨same.2.1, same.1, same.2.2.symm⟩

private theorem sameNumber_comm : a.sameNumber b = b.sameNumber a := by
  rw [Bool.eq_iff_iff]
  exact ⟨sameNumber_symm, sameNumber_symm⟩

private theorem sameNumber_trans (first : a.sameNumber b = true) (second : b.sameNumber c = true) :
    a.sameNumber c = true := by
  rw [sameNumber_iff] at first second ⊢
  exact ⟨first.1, second.2.1, first.2.2.trans second.2.2⟩

/-- What lies between two patterns of one number is that number. -/
theorem sameNumber_of_between (same : a.sameNumber c = true) (above : a.totalKey ≤ b.totalKey)
    (below : b.totalKey ≤ c.totalKey) : a.sameNumber b = true := by
  obtain ⟨first, last, equal⟩ := sameNumber_iff.mp same
  refine sameNumber_iff.mpr ⟨first, ?_, ?_⟩
  · rw [isNaN_eq_false] at first last ⊢
    omega
  · have low := Metric.numericKey_mono above
    have high := Metric.numericKey_mono below
    omega

end Binary64

namespace Metric

open JobPool.Binary64

/-- In the order of the bounds of a histogram. -/
def InOrder (bounds : List Binary64) : Prop := bounds.Pairwise fun a b => a.totalKey ≤ b.totalKey

/-- No number is there twice. -/
def Merged (bounds : List Binary64) : Prop := bounds.Pairwise fun a b => a.sameNumber b = false

/-- The same numbers are there, in any order and however often, and each pattern that is no number is there as often. -/
structure SameBounds (bounds others : List Binary64) : Prop where
  numbers : ∀ x, x.isNaN = false → (x ∈ bounds ↔ x ∈ others)
  rest : ∀ x, x.isNaN = true → bounds.count x = others.count x

section merging

variable {kept bound x : Binary64} {bounds : List Binary64}

private theorem InOrder.skip (ordered : InOrder (kept :: bound :: bounds)) : InOrder (kept :: bounds) :=
  List.Pairwise.sublist ((List.sublist_cons_self bound bounds).cons_cons kept) ordered

private theorem pairwise_mergeAfter (ordered : InOrder (kept :: bounds)) : Merged (kept :: mergeAfter kept bounds) := by
  induction bounds generalizing kept with
  | nil => exact List.pairwise_singleton _ _
  | cons bound rest ih =>
    obtain ⟨above, later⟩ := List.pairwise_cons.mp ordered
    unfold mergeAfter
    split
    · exact ih ordered.skip
    · rename_i differ
      have merged := ih later
      refine List.pairwise_cons.mpr ⟨fun x listed => ?_, merged⟩
      rw [← Bool.not_eq_true]
      intro same
      -- a later pattern of the number that was kept would make this bound one of its patterns
      have below : bound.totalKey ≤ x.totalKey := by
        rcases List.mem_cons.mp listed with rfl | listed
        · exact le_rfl
        · exact (List.pairwise_cons.mp later).1 x ((mergeAfter_sublist _ _).subset listed)
      exact differ (sameNumber_of_between same (above bound List.mem_cons_self) below)

/-- Of every number the first pattern is kept. -/
theorem exists_mergeAfter (ordered : InOrder (kept :: bounds)) (number : x.isNaN = false) (listed : x ∈ bounds) :
    ∃ y ∈ kept :: mergeAfter kept bounds, y.sameNumber x = true ∧ y.totalKey ≤ x.totalKey := by
  induction bounds generalizing kept with
  | nil => cases listed
  | cons bound rest ih =>
    obtain ⟨above, later⟩ := List.pairwise_cons.mp ordered
    unfold mergeAfter
    split
    · rename_i same
      rcases List.mem_cons.mp listed with rfl | listed
      · exact ⟨kept, List.mem_cons_self, same, above x List.mem_cons_self⟩
      · exact ih ordered.skip listed
    · rcases List.mem_cons.mp listed with rfl | listed
      · exact ⟨x, List.mem_cons_of_mem _ List.mem_cons_self, sameNumber_self number, le_rfl⟩
      · obtain ⟨y, found, is⟩ := ih later listed
        exact ⟨y, List.mem_cons_of_mem _ found, is⟩

/-- Whatever is no number stays. -/
theorem count_mergeAfter (unnumbered : x.isNaN = true) (kept : Binary64) (bounds : List Binary64) :
    (mergeAfter kept bounds).count x = bounds.count x := by
  induction bounds generalizing kept with
  | nil => rfl
  | cons bound rest ih =>
    unfold mergeAfter
    split
    · rename_i same
      have other : bound ≠ x := by
        rintro rfl
        rw [(sameNumber_iff.mp same).2.1] at unnumbered
        cases unnumbered
      rw [ih kept, List.count_cons_of_ne other]
    · rw [List.count_cons, List.count_cons, ih bound]

end merging

section sorted

variable {x y : Binary64} {bounds others : List Binary64}

/-- The bounds before neighbours are merged. -/
theorem exists_sorted (bounds : List Binary64) :
    ∃ sorted : List Binary64, InOrder sorted ∧ sorted.Perm bounds ∧ sortBounds bounds = mergeNeighbours sorted :=
  ⟨_, pairwise_arrange bounds, perm_arrange bounds, rfl⟩

private theorem merged_sortBounds (bounds : List Binary64) : Merged (sortBounds bounds) := by
  obtain ⟨sorted, ordered, -, same⟩ := exists_sorted bounds
  rw [same]
  cases sorted with
  | nil => exact .nil
  | cons bound rest => exact pairwise_mergeAfter ordered

private theorem exists_sortBounds (number : x.isNaN = false) (listed : x ∈ bounds) :
    ∃ y ∈ sortBounds bounds, y.sameNumber x = true ∧ y.totalKey ≤ x.totalKey := by
  obtain ⟨sorted, ordered, perm, same⟩ := exists_sorted bounds
  rw [same]
  have there := perm.mem_iff.mpr listed
  cases sorted with
  | nil => cases there
  | cons bound rest =>
    rcases List.mem_cons.mp there with rfl | there
    · exact ⟨x, List.mem_cons_self, sameNumber_self number, le_rfl⟩
    · exact exists_mergeAfter ordered number there

private theorem count_sortBounds (unnumbered : x.isNaN = true) (bounds : List Binary64) :
    (sortBounds bounds).count x = bounds.count x := by
  obtain ⟨sorted, -, perm, same⟩ := exists_sorted bounds
  rw [same, ← perm.count_eq x]
  cases sorted with
  | nil => rfl
  | cons bound rest => rw [mergeNeighbours, List.count_cons, List.count_cons, count_mergeAfter unnumbered]

/-- Where no number is there twice, two patterns of one number are the same pattern. -/
theorem Merged.eq_of_same (merged : Merged bounds) (first : x ∈ bounds) (second : y ∈ bounds)
    (same : x.sameNumber y = true) : x = y := by
  by_contra differ
  have symmetric : Std.Symm fun a b : Binary64 => a.sameNumber b = false :=
    ⟨fun _ _ apart => sameNumber_comm.trans apart⟩
  rw [List.Pairwise.forall merged first second differ] at same
  cases same

private theorem Merged.countP_le_one (merged : Merged bounds) (x : Binary64) :
    (bounds.countP fun y => y.sameNumber x) ≤ 1 := by
  induction bounds with
  | nil => exact Nat.zero_le _
  | cons bound rest ih =>
    obtain ⟨apart, later⟩ := List.pairwise_cons.mp merged
    rw [List.countP_cons]
    by_cases same : bound.sameNumber x = true
    · have none : (rest.countP fun y => y.sameNumber x) = 0 := by
        refine List.countP_eq_zero.mpr fun y there also => ?_
        have alike := sameNumber_trans same (sameNumber_symm also)
        rw [apart y there] at alike
        cases alike
      rw [none, if_pos same]
    · rw [if_neg same]
      exact ih later

/-- Of every number exactly one pattern is kept. -/
theorem countP_sortBounds (number : x.isNaN = false) (listed : x ∈ bounds) :
    ((sortBounds bounds).countP fun y => y.sameNumber x) = 1 := by
  obtain ⟨y, found, same, -⟩ := exists_sortBounds number listed
  exact le_antisymm ((merged_sortBounds bounds).countP_le_one x) (List.countP_pos_iff.mpr ⟨y, found, same⟩)

/-- A number is kept or not, but not twice. -/
theorem count_sortBounds_of_number (number : x.isNaN = false) (bounds : List Binary64) :
    (sortBounds bounds).count x = if x ∈ sortBounds bounds then 1 else 0 := by
  by_cases kept : x ∈ sortBounds bounds
  · have once : (sortBounds bounds).count x ≤ 1 := by
      refine le_trans (List.countP_mono_left fun y _ same => ?_) ((merged_sortBounds bounds).countP_le_one x)
      rw [beq_iff_eq.mp same]
      exact sameNumber_self number
    rw [if_pos kept]
    exact le_antisymm once (List.count_pos_iff.mpr kept)
  · rw [if_neg kept, List.count_eq_zero_of_not_mem kept]

end sorted

section same

variable {x : Binary64} {bounds others : List Binary64}

private theorem SameBounds.symm (same : SameBounds bounds others) : SameBounds others bounds :=
  ⟨fun x number => (same.numbers x number).symm, fun x unnumbered => (same.rest x unnumbered).symm⟩

private theorem sameBounds_of_perm (perm : bounds.Perm others) : SameBounds bounds others :=
  ⟨fun _ _ => perm.mem_iff, fun x _ => perm.count_eq x⟩

/-- A number may be given again. -/
theorem sameBounds_cons (listed : x ∈ bounds) (number : x.isNaN = false) : SameBounds bounds (x :: bounds) := by
  refine ⟨fun y _ => ?_, fun y unnumbered => ?_⟩
  · rw [List.mem_cons]
    constructor
    · exact .inr
    · rintro (rfl | there)
      · exact listed
      · exact there
  · have other : x ≠ y := by
      rintro rfl
      rw [number] at unnumbered
      cases unnumbered
    rw [List.count_cons_of_ne other]

/-- A number that is kept of some bounds is kept of all that are the same: its first pattern is the first in both. -/
theorem SameBounds.mem_sortBounds (same : SameBounds bounds others) (number : x.isNaN = false)
    (kept : x ∈ sortBounds bounds) : x ∈ sortBounds others := by
  obtain ⟨y, there, alike, before⟩ :=
    exists_sortBounds number ((same.numbers x number).mp (sortBounds_subset bounds kept))
  have numbered := (sameNumber_iff.mp alike).1
  obtain ⟨z, found, alike', before'⟩ :=
    exists_sortBounds numbered ((same.numbers y numbered).mpr (sortBounds_subset others there))
  obtain rfl : z = x := (merged_sortBounds bounds).eq_of_same found kept (sameNumber_trans alike' alike)
  obtain rfl : y = z := totalKey_injective (le_antisymm before before')
  exact there

private theorem SameBounds.sortBounds_eq (same : SameBounds bounds others) : sortBounds bounds = sortBounds others := by
  refine List.Perm.eq_of_pairwise ?_ (sortBounds_ordered bounds) (sortBounds_ordered others) ?_
  · intro a b _ _ below above
    exact totalKey_injective (le_antisymm below above)
  · rw [List.perm_iff_count]
    intro x
    cases number : x.isNaN with
    | true => rw [count_sortBounds number, count_sortBounds number, same.rest x number]
    | false =>
      have kept : x ∈ sortBounds bounds ↔ x ∈ sortBounds others :=
        ⟨same.mem_sortBounds number, same.symm.mem_sortBounds number⟩
      simp only [count_sortBounds_of_number number, kept]

/-- Of the two zeros the negative one is kept. -/
theorem negative_zero_kept (listed : zero true ∈ bounds) :
    zero true ∈ sortBounds bounds ∧ zero false ∉ sortBounds bounds := by
  have number : (zero true).isNaN = false := by decide
  have kept : zero true ∈ sortBounds bounds := by
    obtain ⟨y, found, same, before⟩ := exists_sortBounds number listed
    have equal := (sameNumber_iff.mp same).2.2
    have place : (zero true).totalKey = -1 := by decide
    rw [numericKey_eq, numericKey_eq, place] at equal
    have first : y.totalKey = -1 := by
      rw [place] at before
      split at equal <;> omega
    rwa [totalKey_injective (first.trans place.symm)] at found
  refine ⟨kept, fun also => ?_⟩
  have equal := (merged_sortBounds bounds).eq_of_same kept also (by decide)
  exact absurd equal (by decide)

end same

/-- What a histogram keeps of the bounds it is given: they are in order and no number is there twice; of every number
    that was given exactly one pattern is kept, for zero the negative one if it was given; and each pattern that is no
    number is kept as often as it was given. -/
structure Canonical (bounds kept : List Binary64) : Prop where
  ordered : InOrder kept
  merged : Merged kept
  given : kept ⊆ bounds
  numbers : ∀ x ∈ bounds, x.isNaN = false → (kept.countP fun y => y.sameNumber x) = 1
  zeros : zero true ∈ bounds → zero true ∈ kept ∧ zero false ∉ kept
  rest : ∀ x, x.isNaN = true → kept.count x = bounds.count x

theorem canonical_sortBounds (bounds : List Binary64) : Canonical bounds (sortBounds bounds) where
  ordered := sortBounds_ordered bounds
  merged := merged_sortBounds bounds
  given := sortBounds_subset bounds
  numbers _ listed number := countP_sortBounds number listed
  zeros := negative_zero_kept
  rest _ unnumbered := count_sortBounds unnumbered bounds

/-- Whatever bounds a histogram is given, what it keeps is canonical. It does not depend on their order, and it stays the
    same when a number among them is given once more, anywhere. So histograms with bounds that differ only in this say
    the same after the same steps. -/
theorem canonical_of_bounds (d : Description) (bounds : List Binary64) :
    (newHistogram d bounds).cells = .histogram (sortBounds bounds) .empty ∧ Canonical bounds (sortBounds bounds) ∧
    (∀ others, bounds.Perm others → sortBounds others = sortBounds bounds) ∧
    (∀ earlier x later, bounds = earlier ++ later → x ∈ bounds → x.isNaN = false →
      sortBounds (earlier ++ x :: later) = sortBounds bounds) ∧
    ∀ others, SameBounds bounds others → ∀ steps,
      ((newHistogram d others).after steps).snapshot = ((newHistogram d bounds).after steps).snapshot := by
  refine ⟨rfl, canonical_sortBounds bounds, fun others perm => ?_, ?_, fun others same steps => ?_⟩
  · exact (sameBounds_of_perm perm).sortBounds_eq.symm
  · rintro earlier x later rfl listed number
    have moved : sortBounds (x :: (earlier ++ later)) = sortBounds (earlier ++ x :: later) :=
      (sameBounds_of_perm List.perm_middle.symm).sortBounds_eq
    rw [← moved, ← (sameBounds_cons listed number).sortBounds_eq]
  · rw [newHistogram, newHistogram, same.sortBounds_eq]

/-- Both zeros, a number, and twice a pattern that is none, in no order. -/
def untidy : List Binary64 := [zero false, nan false, .ofInt 1, zero true, nan false]

theorem untidy_canonical :
    (zero true ∈ sortBounds untidy ∧ zero false ∉ sortBounds untidy) ∧ (sortBounds untidy).count (nan false) = 2 ∧
    ((sortBounds untidy).countP fun y => y.sameNumber (.ofInt 1)) = 1 ∧
    sortBounds untidy.reverse = sortBounds untidy ∧
    sortBounds ([zero false, nan false] ++ .ofInt 1 :: [.ofInt 1, zero true, nan false]) = sortBounds untidy ∧
    ∀ steps, ((newHistogram ⟨"times", "", ["label"]⟩ (.ofInt 1 :: untidy)).after steps).snapshot =
      ((newHistogram ⟨"times", "", ["label"]⟩ untidy).after steps).snapshot := by
  have one : (ofInt 1).isNaN = false := by decide +kernel
  have given : ofInt 1 ∈ untidy := by simp [untidy]
  obtain ⟨-, canonical, perm, again, same⟩ := canonical_of_bounds ⟨"times", "", ["label"]⟩ untidy
  refine ⟨canonical.zeros (by decide +kernel), ?_, canonical.numbers _ given one,
    perm _ (List.reverse_perm untidy).symm,
    again _ _ _ rfl given one, same _ (sameBounds_cons given one)⟩
  rw [canonical.rest (nan false) (by decide)]
  decide +kernel

end Metric

end JobPool
