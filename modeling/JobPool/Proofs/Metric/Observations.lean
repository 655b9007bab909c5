import Mathlib.Data.List.DropRight
import JobPool.Proofs.Metric.Agreement
import JobPool.Proofs.Metric.Bounds

/-!
What a histogram says about the observations it was given. From the last removal of a series on, its distribution is
a tally of the observations made for its labels (`Tallies.gains`, `holds_of_run`), and a snapshot describes just these
(`described_of_run`).
-/

namespace JobPool.Metric

open JobPool.Metric.Distribution (within)

/-- The observation that a step makes for a series. -/
def observed (labels : List String) : Step → Option Int64
  | .apply (.change .observe value) others => if others = labels then some value else none
  | _ => none

/-- The step removes a series. -/
def removes (labels : List String) : Step → Bool
  | .apply .remove others => others = labels
  | _ => false

/-- The observations for a series since its last removal. -/
def observations (labels : List String) (steps : List Step) : List Int64 :=
  (steps.rtakeWhile fun step => !removes labels step).filterMap (observed labels)

/-- The distribution is a tally of these observations. -/
structure Tallies (bounds : List Binary64) (values : List Int64) (d : Distribution) : Prop where
  count : d.count.toNat = values.length
  sum : d.sum.toInt = (values.map Int64.toInt).sum
  below : ∀ value ∈ values, d.min.toInt ≤ value.toInt
  smallest : d.min ∈ values ∨ values = [] ∧ d.min = Int64.maxValue
  above : ∀ value ∈ values, value.toInt ≤ d.max.toInt
  largest : d.max ∈ values ∨ d.max = 0
  positive : 0 ≤ d.max.toInt
  counts : Tallied bounds values d.counts

/-- What a histogram holds for a series with these observations; without any there is no series. -/
inductive Holds (bounds : List Binary64) : List Int64 → Option Cell → Prop
  | nothing : Holds bounds [] none
  | tally {values : List Int64} {d : Distribution} (made : values ≠ []) (tallies : Tallies bounds values d) :
      Holds bounds values (some (.distribution bounds d))

/-- What a summary says about observations: their number, their sum, the smallest, the larger of the largest and zero,
    and at each of the canonical bounds how many are under it or under one before it. Under the last bound or one before
    it are just those that are under some bound that was given. -/
structure Describes (bounds : List Binary64) (values : List Int64) (s : Summary) : Prop where
  positive : 1 ≤ s.count.toNat
  count : s.count.toNat = values.length
  sum : s.sum.toInt = (values.map Int64.toInt).sum
  smallest : s.min ∈ values ∧ ∀ value ∈ values, s.min.toInt ≤ value.toInt
  largest : (s.max ∈ values ∨ s.max = 0) ∧ 0 ≤ s.max.toInt ∧ ∀ value ∈ values, value.toInt ≤ s.max.toInt
  kept : Canonical bounds (s.buckets.map (·.1))
  cumulative : ∀ i bucket, s.buckets[i]? = some bucket →
    bucket.2.toNat = values.countP fun value => (s.buckets.take (i + 1)).any fun upTo => under value upTo.1
  rising : s.buckets.Pairwise fun a b => a.2.toNat ≤ b.2.toNat
  bounded : ∀ bucket ∈ s.buckets, bucket.2.toNat ≤ s.count.toNat
  unmatched : ∀ last, s.buckets.getLast? = some last →
    s.count.toNat = last.2.toNat + values.countP fun value => !bounds.any (under value)
  exact : (∀ bound ∈ bounds, bound.isNaN = false) → ∀ bucket ∈ s.buckets,
    bucket.2.toNat = values.countP fun value => under value bucket.1

section tallies

variable {bounds : List Binary64} {values : List Int64} {value : Int64} {d now : Distribution}

theorem tallies_empty (bounds : List Binary64) : Tallies bounds [] (.empty bounds) where
  count := rfl
  sum := rfl
  below := nofun
  smallest := .inr ⟨rfl, rfl⟩
  above := nofun
  largest := .inr rfl
  positive := Int.le_refl 0
  counts := by
    refine ⟨List.length_map .., fun i n listed => ?_⟩
    have zero : n ∈ bounds.map fun _ => (0 : UInt64) := List.mem_of_getElem? listed
    obtain ⟨_, -, rfl⟩ := List.mem_map.mp zero
    rfl

private theorem Tallied.gains {counts next : List UInt64} (tallied : Tallied bounds values counts)
    (length : next.length = counts.length) (room : values.length + 1 < UInt64.size)
    (gained : ∀ i, next[i]? =
      if bounds.findIdx? (within value) = some i then counts[i]?.map (· + 1) else counts[i]?) :
    Tallied bounds (values ++ [value]) next := by
  refine ⟨length.trans tallied.length, fun i n listed => ?_⟩
  rw [List.countP_append, List.countP_singleton]
  rw [gained i] at listed
  by_cases here : bounds.findIdx? (within value) = some i
  · rw [if_pos here] at listed
    obtain ⟨before, there, rfl⟩ := Option.map_eq_some_iff.mp listed
    have number := tallied.first i before there
    have few : (values.countP fun value => bounds.findIdx? (within value) = some i) ≤ values.length :=
      List.countP_le_length
    have more : (before + 1).toNat = before.toNat + 1 := by
      rw [UInt64.toNat_add]
      exact Nat.mod_eq_of_lt (Nat.lt_of_le_of_lt (by show before.toNat + 1 ≤ _; omega) room)
    rw [more, number, if_pos (decide_eq_true here)]
  · rw [if_neg here] at listed
    rw [tallied.first i n listed, if_neg (by simpa using here)]
    rfl

/-- One observation more. -/
theorem Tallies.gains (tallies : Tallies bounds values d) (gains : d.Gains bounds value now) :
    Tallies bounds (values ++ [value]) now := by
  have min := gains.min
  have max := gains.max
  have counted : now.count.toNat = (values ++ [value]).length := by
    rw [gains.count, tallies.count, List.length_append, List.length_singleton]
  refine ⟨counted, ?_, fun other listed => ?_, ?_, fun other listed => ?_, ?_, ?_, ?_⟩
  · rw [gains.sum, tallies.sum, List.map_append, List.sum_append, List.map_singleton, List.sum_singleton]
  · rcases List.mem_append.mp listed with earlier | last
    · have below := tallies.below other earlier
      omega
    · rw [List.mem_singleton.mp last]
      omega
  · left
    rw [List.mem_append, List.mem_singleton]
    by_cases less : value.toInt ≤ d.min.toInt
    · right
      exact Int64.toInt_inj.mp (by omega)
    · have kept : now.min = d.min := Int64.toInt_inj.mp (by omega)
      rcases tallies.smallest with earlier | ⟨-, start⟩
      · left
        rw [kept]
        exact earlier
      · -- the minimum starts with the greatest number there is, so the first observation is not above it
        have most := Int64.toInt_le value
        rw [start] at less
        exact absurd most less
  · rcases List.mem_append.mp listed with earlier | last
    · have above := tallies.above other earlier
      omega
    · rw [List.mem_singleton.mp last]
      omega
  · rw [List.mem_append, List.mem_singleton]
    by_cases more : d.max.toInt ≤ value.toInt
    · left
      right
      exact Int64.toInt_inj.mp (by omega)
    · have kept : now.max = d.max := Int64.toInt_inj.mp (by omega)
      rw [kept]
      exact tallies.largest.imp_left .inl
  · have positive := tallies.positive
    omega
  · refine tallies.counts.gains gains.length ?_ gains.counts
    have room := now.count.toNat_lt
    rw [counted, List.length_append] at room
    exact room

private theorem Holds.isSome {cell : Option Cell} (holds : Holds bounds values cell) :
    cell.isSome = true ↔ values ≠ [] := by
  cases holds with
  | nothing => simp
  | tally made tallies => simp [made]

private theorem Holds.tallies {cell : Cell} (holds : Holds bounds values (some cell)) :
    ∃ d, cell = .distribution bounds d ∧ Tallies bounds values d := by
  cases holds with
  | tally made tallies => exact ⟨_, rfl, tallies⟩

/-- The distribution that a change leaves tallies one observation more. -/
theorem Holds.becomes {change : Change} {cell : Option Cell} {left : Cell} (holds : Holds bounds values cell)
    (becomes : Cell.Becomes change value (cell.getD (.distribution bounds (.empty bounds))) left) :
    change = .observe ∧ Holds bounds (values ++ [value]) (some left) := by
  cases holds with
  | nothing =>
    cases becomes with
    | distribution observed gains => exact ⟨observed, .tally (by simp) ((tallies_empty bounds).gains gains)⟩
  | tally made tallies =>
    cases becomes with
    | distribution observed gains => exact ⟨observed, .tally (by simp) (tallies.gains gains)⟩

end tallies

section descriptions

variable {bounds : List Binary64} {values : List Int64} {d : Distribution}

/-- A tally of observations, of which there is one, is summarized by what describes them. -/
theorem Tallies.describes (tallies : Tallies (sortBounds bounds) values d) (made : values ≠ []) {s : Summary}
    (summary : summarize (sortBounds bounds) d = .summary s) : Describes bounds values s := by
  have counted := tallies.count
  have positive : 1 ≤ d.count.toNat := by
    rw [counted]
    exact List.length_pos_iff.mpr made
  have room : values.length < UInt64.size := by
    rw [← counted]
    exact d.count.toNat_lt
  have counts : d.count ≠ 0 := by
    intro zero
    rw [zero] at positive
    cases positive
  cases summary
  have same := map_cumulative 0 tallies.counts.length
  refine ⟨positive, counted, tallies.sum, ?_, ⟨tallies.largest, tallies.positive, tallies.above⟩, ?_,
    fun i bucket listed => ?_, cumulative_rising tallies.counts room, fun bucket listed => ?_, fun last final => ?_,
    fun numbers bucket listed => ?_⟩
  · simp only [counts, ↓reduceIte]
    refine ⟨?_, tallies.below⟩
    rcases tallies.smallest with member | ⟨nothing, -⟩
    · exact member
    · exact absurd nothing made
  · rw [same]
    exact canonical_sortBounds bounds
  · have before : (sortBounds bounds).take (i + 1) =
        ((Distribution.cumulative 0 (sortBounds bounds) d.counts).take (i + 1)).map (·.1) := by
      rw [List.map_take, same]
    rw [(cumulative_eq tallies.counts room listed).2, before]
    simp only [List.any_map]
    rfl
  · rw [counted]
    exact cumulative_le tallies.counts room listed
  · rw [counted, cumulative_last tallies.counts room final]
    simp only [any_sortBounds]
    rfl
  · obtain ⟨i, there⟩ := List.mem_iff_getElem?.mp listed
    obtain ⟨bound, number⟩ := cumulative_eq tallies.counts room there
    rw [number]
    refine List.countP_congr fun value _ => ?_
    have numbered : ∀ bound ∈ sortBounds bounds, bound.isNaN = false := fun bound listed =>
      numbers bound (sortBounds_subset bounds listed)
    rw [any_take_eq (sortBounds_ordered bounds) numbered bound value]
    rfl

end descriptions

section runs

variable {d : Description} {bounds : List Binary64} {steps : List Step} {m : Metric} {labels : List String}
  {operation : Operation}

private theorem removes_self (labels : List String) :
    removes labels (.apply .remove labels) = true := decide_eq_true rfl

private theorem observations_concat (labels : List String) (steps : List Step) (step : Step) :
    observations labels (steps ++ [step]) =
      if removes labels step then [] else observations labels steps ++ (observed labels step).toList := by
  unfold observations
  rw [List.rtakeWhile_concat]
  cases removes labels step with
  | true => rfl
  | false =>
    rw [Bool.not_false, if_pos rfl, if_neg Bool.false_ne_true, List.filterMap_append, List.filterMap_cons,
      List.filterMap_nil]
    cases observed labels step <;> rfl

/-- What is true of the histogram after these steps: every series holds a tally of its observations. -/
structure Kept (d : Description) (bounds : List Binary64) (steps : List Step) (m : Metric) : Prop where
  alike : Alike (newHistogram d bounds) m
  initial : m.cells.initial = .distribution (sortBounds bounds) (.empty (sortBounds bounds))
  holds : ∀ labels, d.fits labels = true → Holds (sortBounds bounds) (observations labels steps) (m.cell? labels)

/-- A step that says nothing about a series leaves its observations as they are. -/
theorem observations_of_other {step : Step} (stays : removes labels step = false)
    (silent : observed labels step = none) :
    observations labels (steps ++ [step]) = observations labels steps := by
  rw [observations_concat, stays, silent, if_neg Bool.false_ne_true]
  exact List.append_nil _

private theorem observations_of_ne {other : List String} (differ : other ≠ labels) :
    observations other (steps ++ [.apply operation labels]) = observations other steps := by
  refine observations_of_other ?_ ?_
  · cases operation with
    | change => rfl
    | remove => exact decide_eq_false (Ne.symm differ)
  · cases operation with
    | change change value => cases change <;> first | rfl | exact if_neg (Ne.symm differ)
    | remove => rfl

/-- A histogram takes every observation for labels that fit. -/
theorem Kept.takes (kept : Kept d bounds steps m) (fits : d.fits labels = true) (value : Int64) :
    m.takes labels .observe value = true := by
  rw [← kept.alike.symm.takes]
  simpa [Metric.takes_eq, newHistogram, Cells.kind, Kind.supports] using fits

/-- What is ignored is no observation, and no removal of a series that is there. -/
theorem Kept.ignored (kept : Kept d bounds steps m) (ignored : m.remarks labels operation ≠ [])
    (fits : d.fits labels = true) :
    Holds (sortBounds bounds) (observations labels (steps ++ [.apply operation labels])) (m.cell? labels) := by
  have holds := kept.holds labels fits
  cases operation with
  | change change value =>
    have plain : change ≠ .observe := by
      rintro rfl
      have taken := refusal_eq_none.mpr (kept.takes fits value)
      rw [remarks, taken] at ignored
      exact ignored rfl
    rw [observations_of_other rfl (by cases change <;> first | rfl | exact absurd rfl plain)]
    exact holds
  | remove =>
    rw [observations_concat, if_pos (removes_self labels)]
    -- a removal of labels that fit is ignored only if there is no series, hence no observation to forget
    cases there : m.cell? labels with
    | none => exact .nothing
    | some cell =>
      have named : m.description.fits labels = true := by
        rw [kept.alike.description]
        exact fits
      rw [remarks, if_pos named, there, if_pos Option.isSome_some] at ignored
      exact absurd rfl ignored

private theorem Kept.apply (kept : Kept d bounds steps m) (done : (m.apply operation labels).result = .ok ()) :
    Kept d bounds (steps ++ [.apply operation labels]) (m.apply operation labels).state := by
  refine ⟨kept.alike.trans (alike_of_apply ..), (initial_of_apply ..).trans kept.initial, fun other fits => ?_⟩
  have holds := kept.holds other fits
  by_cases same : other = labels
  · subst same
    obtain ⟨-, ⟨ignored, state⟩ | ⟨-, -, applied⟩⟩ := cases_of_apply done
    · rw [state]
      exact kept.ignored ignored fits
    · cases applied with
      | changed _ becomes left =>
        rw [kept.initial] at becomes
        obtain ⟨rfl, next⟩ := holds.becomes becomes
        rw [observations_concat, left other, if_pos rfl]
        simpa [removes, observed] using next
      | removed _ _ left =>
        rw [observations_concat, left other, if_pos rfl, if_pos (removes_self other)]
        exact .nothing
  · rw [observations_of_ne same]
    obtain ⟨-, ⟨-, state⟩ | ⟨-, -, applied⟩⟩ := cases_of_apply done
    · rw [state]
      exact holds
    · cases applied with
      | changed _ _ left | removed _ _ left =>
        rw [left other, if_neg same]
        exact holds

private theorem Kept.perform {step : Step} {answer : Answer} (kept : Kept d bounds steps m)
    (done : (step.perform m).result = .ok answer) : Kept d bounds (steps ++ [step]) (step.perform m).state := by
  have unasked : ∀ {other : Step}, (∀ labels, removes labels other = false) →
    (∀ labels, observed labels other = none) →
      Kept d bounds (steps ++ [other]) m := by
    intro other stays silent
    refine ⟨kept.alike, kept.initial, fun labels fits => ?_⟩
    rw [observations_of_other (stays labels) (silent labels)]
    exact kept.holds labels fits
  cases step with
  | apply operation labels => exact kept.apply (done_of_perform done)
  | get labels =>
    rw [state_of_get]
    exact unasked (fun _ => rfl) (fun _ => rfl)
  | snapshot | series labels => exact unasked (fun _ => rfl) (fun _ => rfl)

/-- After a run that leaves the lock as it was, a histogram holds a tally of the observations of each series. -/
theorem kept_of_run (d : Description) (bounds : List Binary64) {steps : List Step}
    (calm : ((newHistogram d bounds).after steps).poisoned = false) :
    Kept d bounds steps ((newHistogram d bounds).after steps) := by
  refine calm_induction (motive := fun steps m => Kept d bounds steps m) ?_ ?_ calm
  · exact ⟨.refl _, rfl, fun labels _ => .nothing⟩
  · intro steps step answer _ kept done
    exact kept.perform done

end runs

/-- Whatever bounds a histogram is given and whatever is asked of it, as long as nothing overflows: a snapshot has the
    series for which there is an observation since their last removal, and describes exactly these observations. -/
theorem described_of_run {d : Description} {bounds : List Binary64} {steps : List Step}
    (fits : ¬(newHistogram d bounds).Overflowed steps) :
    ∃ snapshot, ((newHistogram d bounds).after steps).snapshot = .ok snapshot ∧
      (∀ labels, (snapshot.find? labels).isSome = true ↔
        labels.length = d.labelNames.length ∧ observations labels steps ≠ []) ∧
      ∀ series ∈ snapshot.series, ∃ s, series.reading = .summary s ∧
        Describes bounds (observations series.labels steps) s := by
  have calm : ((newHistogram d bounds).after steps).poisoned = false := by
    rw [← Bool.not_eq_true, poisoned_after rfl]
    exact fits
  have kept := kept_of_run d bounds calm
  have keyed := keyed_after ⟨d, .inr (.inr ⟨bounds, rfl⟩)⟩ calm
  obtain ⟨snapshot, taken⟩ := snapshot_of_calm calm
  have tells := tells_of_snapshot taken
  refine ⟨snapshot, taken, fun labels => ?_, fun series listed => ?_⟩
  · rw [tells.found, Option.isSome_map, ← Description.fits_iff]
    constructor
    · intro there
      have named := keyed labels there
      rw [kept.alike.description] at named
      exact ⟨named, (kept.holds labels named).isSome.mp there⟩
    · rintro ⟨named, made⟩
      exact (kept.holds labels named).isSome.mpr made
  · obtain ⟨cell, there, reading⟩ := tells.held series listed
    have held : (((newHistogram d bounds).after steps).cell? series.labels).isSome = true := by
      rw [there]
      rfl
    have named := keyed series.labels held
    rw [kept.alike.description] at named
    have holds := kept.holds series.labels named
    have made := holds.isSome.mp held
    rw [there] at holds
    obtain ⟨distribution, rfl, tallies⟩ := holds.tallies
    exact ⟨_, reading, tallies.describes made rfl⟩

/-- Two times for one label, the second after a removal, and one time below zero for another. -/
def lapse : List Step :=
  [.apply (.change .observe 700) ["a"], .apply (.change .observe (-3)) ["b"], .apply .remove ["a"], .snapshot,
    .apply (.change .observe 2000) ["a"]]

/-- Times up to any, up to two milliseconds, twice up to one, and a bound that is no number. -/
def scattered : List Binary64 := [.infinity false, .ofInt 2, .ofInt 1, .nan false, .ofInt 1]

theorem lapse_described :
    let times := newHistogram ⟨"times", "", ["label"]⟩ scattered
    ¬times.Overflowed lapse ∧ observations ["a"] lapse = [2000] ∧ observations ["b"] lapse = [-3] ∧
      ∃ snapshot a b, (times.after lapse).snapshot = .ok snapshot ∧
        snapshot.find? ["a"] = some ⟨["a"], .summary a⟩ ∧ Describes scattered (observations ["a"] lapse) a ∧
        a.buckets = [(.ofInt 1, 0), (.ofInt 2, 1), (.infinity false, 1), (.nan false, 1)] ∧
        snapshot.find? ["b"] = some ⟨["b"], .summary b⟩ ∧ Describes scattered (observations ["b"] lapse) b ∧
        b.buckets = [(.ofInt 1, 1), (.ofInt 2, 1), (.infinity false, 1), (.nan false, 1)] := by
  have fits : ¬(newHistogram ⟨"times", "", ["label"]⟩ scattered).Overflowed lapse := by
    rw [← poisoned_after rfl]
    decide +kernel
  obtain ⟨snapshot, taken, -, described⟩ := described_of_run fits
  have tells := tells_of_snapshot taken
  have a : snapshot.find? ["a"] = some ⟨["a"], .summary ⟨1, 2000, 2000, 2000,
      [(.ofInt 1, 0), (.ofInt 2, 1), (.infinity false, 1), (.nan false, 1)]⟩⟩ := by
    rw [tells.found]
    decide +kernel
  have b : snapshot.find? ["b"] = some ⟨["b"], .summary ⟨1, -3, -3, 0,
      [(.ofInt 1, 1), (.ofInt 2, 1), (.infinity false, 1), (.nan false, 1)]⟩⟩ := by
    rw [tells.found]
    decide +kernel
  have describes : ∀ labels s, snapshot.find? labels = some ⟨labels, .summary s⟩ →
      Describes scattered (observations labels lapse) s := by
    intro labels s found
    obtain ⟨_, same, describes⟩ := described _ (List.mem_of_find?_eq_some found)
    cases same
    exact describes
  exact ⟨fits, by decide, by decide, snapshot, _, _, taken, a, describes _ _ a, rfl, b, describes _ _ b, rfl⟩

end JobPool.Metric
