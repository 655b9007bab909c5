import Mathlib.Algebra.Order.BigOperators.Group.List
import Mathlib.Data.List.Infix
import JobPool.Latency.Aggregate
import JobPool.Proofs.Metric.Observations

/-!
What an aggregate says about the latencies it was given. It counts as a histogram without bounds does
(`observe_update`), so after any run it tallies the latencies since the last reset (`tallies_of_history`), and its report
describes just these (`report_of_history`).
-/

namespace JobPool.Latency

open Aggregate (Step)
open JobPool.Metric (Distribution Tallies tallies_empty gains_of_observe)

/-- The latency that a step adds. -/
def latency? : Step → Option Int64
  | .update latency => some latency
  | _ => none

/-- The step forgets all requests. -/
def forgets : Step → Bool
  | .reset => true
  | _ => false

/-- The latencies that were given since the last reset. -/
def latencies (steps : List Step) : List Int64 :=
  (steps.rtakeWhile fun step => !forgets step).filterMap latency?

/-- What an aggregate has room for: latencies that are not negative and not the greatest word, which stands for no
    latency; a sum that is a word; and fewer of them than half the words. -/
structure Bearable (values : List Int64) : Prop where
  low : ∀ value ∈ values, 0 ≤ value.toInt
  high : ∀ value ∈ values, value ≠ Int64.maxValue
  total : (values.map Int64.toInt).sum ≤ 9223372036854775807
  few : values.length < 9223372036854775808

instance (values : List Int64) : Decidable (Bearable values) :=
  -- the values are tested one by one: a quantifier over words would be decided by going through all of them
  decidable_of_iff
    ((values.all fun value => 0 ≤ value.toInt ∧ value ≠ Int64.maxValue) ∧
      (values.map Int64.toInt).sum ≤ 9223372036854775807 ∧ values.length < 9223372036854775808) <| by
    simp only [List.all_eq_true, decide_eq_true_eq]
    constructor
    · rintro ⟨each, total, few⟩
      exact ⟨fun value listed => (each value listed).1, fun value listed => (each value listed).2, total, few⟩
    · rintro ⟨low, high, total, few⟩
      exact ⟨fun value listed => ⟨low value listed, high value listed⟩, total, few⟩

/-- What a report says about latencies: their number, the smallest, the largest, and the largest integer that is not
    above their mean. -/
structure Report.Describes (module : String) (values : List Int64) (r : Report) : Prop where
  module : r.module = module
  rate : r.requestRate.toNat = values.length
  smallest : r.minLatency ∈ values ∧ ∀ value ∈ values, r.minLatency.toInt ≤ value.toInt
  largest : r.maxLatency ∈ values ∧ ∀ value ∈ values, value.toInt ≤ r.maxLatency.toInt
  mean : r.meanLatency.toInt * values.length ≤ (values.map Int64.toInt).sum ∧
    ∀ m : Int, m * values.length ≤ (values.map Int64.toInt).sum → m ≤ r.meanLatency.toInt
  ordered : r.minLatency.toInt ≤ r.meanLatency.toInt ∧ r.meanLatency.toInt ≤ r.maxLatency.toInt

section latencies

variable (steps : List Step)

theorem latencies_update (latency : Int64) : latencies (steps ++ [.update latency]) = latencies steps ++ [latency] := by
  rw [latencies, List.rtakeWhile_concat_pos _ _ _ rfl, List.filterMap_append]
  rfl

theorem latencies_report : latencies (steps ++ [.report]) = latencies steps := by
  rw [latencies, List.rtakeWhile_concat_pos _ _ _ rfl, List.filterMap_append]
  exact List.append_nil _

theorem latencies_reset : latencies (steps ++ [.reset]) = [] := by
  rw [latencies, List.rtakeWhile_concat_neg _ _ _ (by simp [forgets])]
  rfl

end latencies

namespace Aggregate

variable {a b : Aggregate} {module : String} {latency : Int64} {values : List Int64} {steps : List Step}

/-- The aggregate after these steps; whoever makes them goes on after a fault. -/
def after (a : Aggregate) (steps : List Step) : Aggregate :=
  steps.foldl (fun a step => (step.perform a).state) a

/-- The requests as the observations of a histogram without bounds. -/
def observations (a : Aggregate) : Distribution := ⟨a.requests, a.total, a.least, a.greatest, []⟩

theorem after_concat (a : Aggregate) (steps : List Step) (step : Step) :
    a.after (steps ++ [step]) = (step.perform (a.after steps)).state :=
  List.foldl_append

/-- An aggregate takes a request as a histogram without bounds takes an observation. -/
theorem observe_update (a : Aggregate) (latency : Int64) :
    a.observations.observe [] latency = ((a.update latency).1.observations, (a.update latency).2) := by
  unfold Distribution.observe update
  cases counted : succChecked a.requests with
  | error fault => simp only [observations, counted]
  | ok requests =>
    cases added : addChecked a.total latency with
    | error fault => simp only [observations, counted, added]
    | ok total => simp only [observations, counted, added]; rfl

private theorem module_update (a : Aggregate) (latency : Int64) : (a.update latency).1.module = a.module := by
  unfold update
  split
  · rfl
  · split <;> rfl

theorem state_of_update (a : Aggregate) (latency : Int64) :
    (Step.perform a (.update latency)).state = (a.update latency).1 := by
  simp only [Step.perform]
  rcases a.update latency with ⟨b, _ | fault⟩ <;> rfl

theorem isOk_of_update (a : Aggregate) (latency : Int64) :
    (Step.perform a (.update latency)).result.isOk = (a.update latency).2.isNone := by
  simp only [Step.perform]
  rcases a.update latency with ⟨b, _ | fault⟩ <;> rfl

theorem module_after (a : Aggregate) (steps : List Step) : (a.after steps).module = a.module := by
  induction steps using List.reverseRecOn with
  | nil => rfl
  | append_singleton steps step ih =>
    rw [after_concat]
    cases step with
    | update latency => rw [state_of_update, module_update, ih]
    | report | reset => exact ih

/-- A reset forgets all that was before. -/
theorem after_reset (module : String) (earlier later : List Step) :
    (new module).after (earlier ++ .reset :: later) = (new module).after later := by
  have empty : ((new module).after earlier).reset = new module := congrArg new (module_after _ earlier)
  have split : (new module).after (earlier ++ .reset :: later) = (((new module).after earlier).reset).after later :=
    List.foldl_append
  rw [split, empty]

end Aggregate

section bearable

variable {values : List Int64} {latency : Int64}

private theorem Bearable.sum_nonneg (bearable : Bearable values) : 0 ≤ (values.map Int64.toInt).sum := by
  refine List.sum_nonneg fun number listed => ?_
  obtain ⟨value, there, rfl⟩ := List.mem_map.mp listed
  exact bearable.low value there

private theorem mul_le_sum {low : Int} (below : ∀ value ∈ values, low ≤ value.toInt) :
    low * values.length ≤ (values.map Int64.toInt).sum := by
  have sum := List.card_nsmul_le_sum (values.map Int64.toInt) low (by simpa using below)
  rwa [List.length_map, nsmul_eq_mul, mul_comm] at sum

private theorem sum_le_mul {high : Int} (above : ∀ value ∈ values, value.toInt ≤ high) :
    (values.map Int64.toInt).sum ≤ high * values.length := by
  have sum := List.sum_le_card_nsmul (values.map Int64.toInt) high (by simpa using above)
  rwa [List.length_map, nsmul_eq_mul, mul_comm] at sum

/-- What has room for one latency more has room. -/
theorem Bearable.of_concat (bearable : Bearable (values ++ [latency])) : Bearable values := by
  have low := bearable.low latency (by simp)
  have total := bearable.total
  have few := bearable.few
  rw [List.map_append, List.sum_append, List.map_singleton, List.sum_singleton] at total
  rw [List.length_append, List.length_singleton] at few
  exact ⟨fun value listed => bearable.low value (List.mem_append_left _ listed),
    fun value listed => bearable.high value (List.mem_append_left _ listed), by omega, by omega⟩

end bearable

namespace Aggregate

variable {a b : Aggregate} {module : String} {latency : Int64} {values : List Int64} {steps : List Step}

/-- There is room for one latency more. -/
theorem update_of_bearable (tallies : Tallies [] values a.observations) (bearable : Bearable (values ++ [latency])) :
    (a.update latency).2 = none := by
  have before := bearable.of_concat
  have counted : a.requests.toNat = values.length := tallies.count
  have summed : a.total.toInt = (values.map Int64.toInt).sum := tallies.sum
  have few := before.few
  have low := bearable.low latency (by simp)
  have positive := before.sum_nonneg
  have total := bearable.total
  rw [List.map_append, List.sum_append, List.map_singleton, List.sum_singleton] at total
  have word : a.requests.toNat + 1 < UInt64.size := by
    rw [counted]
    exact Nat.lt_trans (Nat.succ_lt_succ few) (by decide)
  have fits : FitsSigned (a.total.toInt + latency.toInt) := ⟨by omega, by omega⟩
  rw [update, succChecked, if_pos word, addChecked, if_pos fits]

/-- A latency that finds room is tallied. -/
theorem tallies_of_update (tallies : Tallies [] values a.observations) (made : (a.update latency).2 = none) :
    Tallies [] (values ++ [latency]) (a.update latency).1.observations := by
  refine tallies.gains (gains_of_observe ?_)
  rw [observe_update, made]

private theorem tallies_of_history (module : String) (bearable : Bearable (latencies steps)) :
    Tallies [] (latencies steps) ((new module).after steps).observations := by
  induction steps using List.reverseRecOn with
  | nil => exact tallies_empty []
  | append_singleton steps step ih =>
    rw [after_concat]
    cases step with
    | update latency =>
      rw [latencies_update] at bearable ⊢
      have tallies := ih bearable.of_concat
      rw [state_of_update]
      exact tallies_of_update tallies (update_of_bearable tallies bearable)
    | report =>
      rw [latencies_report] at bearable ⊢
      exact ih bearable
    | reset =>
      rw [latencies_reset]
      exact tallies_empty []

/-- As long as there are fewer requests than half the words, the mean is the total by their number, rounded toward
    zero. -/
theorem toInt_mean (total : Int64) {requests : UInt64} (some : 0 < requests.toNat)
    (few : requests.toNat < 9223372036854775808) :
    (total / requests.toInt64).toInt = total.toInt.tdiv requests.toNat := by
  have number : requests.toInt64.toInt = requests.toNat :=
    BitVec.toInt_eq_toNat_of_lt (show 2 * requests.toNat < 18446744073709551616 by omega)
  have positive : requests.toInt64 ≠ -1 := by
    intro negative
    rw [negative, show (-1 : Int64).toInt = -1 by decide] at number
    omega
  rw [Int64.toInt_div_of_ne_right _ _ positive, number]

/-- An aggregate that tallies latencies says nothing exactly if there are none. -/
theorem report_eq_none (tallies : Tallies [] values a.observations) : a.report = .ok none ↔ values = [] := by
  have counted : a.requests.toNat = values.length := tallies.count
  have zero : a.requests = 0 ↔ values = [] := by
    rw [← UInt64.toNat_inj, counted]
    exact List.length_eq_zero_iff
  rw [report, ← zero]
  by_cases none : a.requests = 0
  · simp [none]
  · cases divChecked a.total a.requests.toInt64 <;> simp [none, Except.map]

/-- The mean of latencies that are not negative is rounded down. -/
theorem mean_of_bearable (tallies : Tallies [] values a.observations) (bearable : Bearable values)
    (given : values ≠ []) :
    (a.total / a.requests.toInt64).toInt * values.length ≤ (values.map Int64.toInt).sum ∧
      ∀ m : Int, m * values.length ≤ (values.map Int64.toInt).sum → m ≤ (a.total / a.requests.toInt64).toInt := by
  have counted : a.requests.toNat = values.length := tallies.count
  have summed : a.total.toInt = (values.map Int64.toInt).sum := tallies.sum
  have some : 0 < (values.length : Int) := Int.natCast_pos.mpr (List.length_pos_iff.mpr given)
  have positive := bearable.sum_nonneg
  have few := bearable.few
  have mean : (a.total / a.requests.toInt64).toInt = (values.map Int64.toInt).sum / values.length := by
    rw [toInt_mean a.total (by omega) (by omega), summed, counted, Int.tdiv_eq_ediv_of_nonneg positive]
  rw [mean]
  exact ⟨Int.ediv_mul_le _ some.ne', fun m below => Int.le_ediv_of_mul_le some below⟩

private theorem describes_of_bearable (tallies : Tallies [] values a.observations) (bearable : Bearable values)
    {r : Report}
    (told : a.report = .ok (some r)) : r.Describes a.module values := by
  have given : values ≠ [] := by
    rw [Ne, ← report_eq_none tallies, told]
    nofun
  have mean := mean_of_bearable tallies bearable given
  have smallest : a.least ∈ values := by
    rcases tallies.smallest with member | ⟨nothing, -⟩
    · exact member
    · exact absurd nothing given
  have below : ∀ value ∈ values, a.least.toInt ≤ value.toInt := tallies.below
  have above : ∀ value ∈ values, value.toInt ≤ a.greatest.toInt := tallies.above
  have largest : a.greatest ∈ values := by
    rcases tallies.largest with member | zero
    · exact member
    · -- nothing is above zero and nothing below, so every latency is the zero that stands for none
      obtain ⟨value, listed⟩ := List.exists_mem_of_ne_nil values given
      have low := bearable.low value listed
      have high := above value listed
      have greatest : a.greatest = 0 := zero
      rw [greatest] at high ⊢
      have same : value = 0 := Int64.toInt_inj.mp (le_antisymm high low)
      rwa [← same]
  have counted : a.requests.toNat = values.length := tallies.count
  have few : a.requests.toNat < 18446744073709551615 := by
    have fewer := bearable.few
    omega
  rw [report_of_few few] at told
  split at told
  · cases told
  · cases told
    refine ⟨rfl, counted, ?_, ⟨largest, above⟩, mean, ?_, ?_⟩
    · rw [if_neg (bearable.high _ smallest)]
      exact ⟨smallest, below⟩
    · rw [if_neg (bearable.high _ smallest)]
      exact mean.2 _ (mul_le_sum below)
    · have some : 0 < (values.length : Int) := Int.natCast_pos.mpr (List.length_pos_iff.mpr given)
      exact le_of_mul_le_mul_right (mean.1.trans (sum_le_mul above)) some

/-- Latencies that an aggregate has room for have a mean. -/
theorem isOk_of_report (tallies : Tallies [] values a.observations) (bearable : Bearable values) :
    a.report.isOk = true := by
  have counted : a.requests.toNat = values.length := tallies.count
  have few := bearable.few
  rw [report_of_few (by omega)]
  rfl

/-- In every history of latencies that an aggregate has room for, every step is made, and an aggregate that is asked then
    does not fault. It has a report exactly if a latency was given since the last reset, the report describes the
    latencies given since then, and nothing of what was before a reset is left in the aggregate. -/
theorem report_of_history (module : String) {steps : List Step}
    (bearable : ∀ past, past <+: steps → Bearable (latencies past)) :
    (∀ past step, past ++ [step] <+: steps → (step.perform ((new module).after past)).result.isOk = true) ∧
    (∃ told, ((new module).after steps).report = .ok told ∧ (told = none ↔ latencies steps = []) ∧
      ∀ r, told = some r → r.Describes module (latencies steps)) ∧
    ∀ earlier later, steps = earlier ++ .reset :: later → (new module).after steps = (new module).after later := by
  have room := bearable steps (List.prefix_refl _)
  have tallies := tallies_of_history module room
  refine ⟨fun past step begun => ?_, ?_, ?_⟩
  · cases step with
    | update latency =>
      have next := bearable _ begun
      rw [latencies_update] at next
      have before := tallies_of_history module next.of_concat
      rw [isOk_of_update, update_of_bearable before next]
      rfl
    | report =>
      have now := bearable past ((List.prefix_append past _).trans begun)
      exact isOk_of_report (tallies_of_history module now) now
    | reset => rfl
  · have tells := isOk_of_report tallies room
    cases told : ((new module).after steps).report with
    | error fault => rw [told] at tells; cases tells
    | ok report? =>
      refine ⟨report?, rfl, ?_, ?_⟩
      · rw [← report_eq_none tallies, told]
        exact ⟨congrArg _, Except.ok.inj⟩
      · rintro r rfl
        have describes := describes_of_bearable tallies room told
        rwa [module_after] at describes
  · rintro earlier later rfl
    exact after_reset module earlier later

/-- Three latencies after a reset, the last one as great as the room that is left. -/
def brink : List Step :=
  [.update 4, .report, .reset, .update 7, .update 0, .update 9223372036854775800]

theorem brink_reported :
    (∀ past, past <+: brink → Bearable (latencies past)) ∧
    ∃ r, ((new "db").after brink).report = .ok (some r) ∧ r.Describes "db" [7, 0, 9223372036854775800] ∧
      (new "db").after brink = (new "db").after [.update 7, .update 0, .update 9223372036854775800] := by
  have prefixes : ∀ past ∈ brink.inits, Bearable (latencies past) := by decide +kernel
  have bearable : ∀ past, past <+: brink → Bearable (latencies past) := fun past begun =>
    prefixes past ((List.mem_inits past brink).mpr begun)
  have given : latencies brink = [7, 0, 9223372036854775800] := by decide
  obtain ⟨-, ⟨told, made, silent, describes⟩, fresh⟩ := report_of_history "db" bearable
  obtain ⟨r, rfl⟩ : ∃ r, told = some r := by
    rw [← Option.isSome_iff_exists, Option.isSome_iff_ne_none, Ne, silent, given]
    nofun
  exact ⟨bearable, r, made, given ▸ describes r rfl, fresh [.update 4, .report] _ rfl⟩

end Aggregate

end JobPool.Latency
