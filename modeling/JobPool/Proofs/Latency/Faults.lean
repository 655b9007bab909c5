import JobPool.Proofs.Latency.History

/-!
What an update that faults leaves in an aggregate. It is counted before the total is found to have no room, so beside the
run without the updates that fault all is the same but the count (`Trails`). The reports of the two runs differ in the
rate, and with it in the mean, as soon as an update has faulted since the last reset (`report_of_unfaulted`).
-/

namespace JobPool.Latency.Aggregate

open JobPool.Metric (Tallies tallies_empty)

/-- The steps that do not fault where they are made. -/
def unfaulted (a : Aggregate) : List Step → List Step
  | [] => []
  | step :: rest =>
    if (step.perform a).result.isOk then step :: unfaulted (step.perform a).state rest
    else unfaulted (step.perform a).state rest

/-- The second aggregate took these latencies; the first was asked so many times to take one, and took the same. -/
structure Trails (calls : Nat) (taken : List Int64) (a b : Aggregate) : Prop where
  same : a = { b with requests := a.requests }
  counted : a.requests.toNat = min 18446744073709551615 calls
  tallies : Tallies [] taken b.observations
  fewer : taken.length ≤ a.requests.toNat
  begun : taken = [] → calls = 0

variable {a b : Aggregate} {module : String} {latency : Int64} {calls : Nat} {taken : List Int64}
  {steps : List Step}

private theorem unfaulted_concat (a : Aggregate) (steps : List Step) (step : Step) :
    a.unfaulted (steps ++ [step]) =
      a.unfaulted steps ++ if (step.perform (a.after steps)).result.isOk then [step] else [] := by
  induction steps generalizing a with
  | nil => rfl
  | cons first rest ih =>
    rw [List.cons_append, unfaulted, unfaulted, ih]
    split <;> rfl

/-- A step that does not fault is made in both runs. -/
theorem after_unfaulted {step : Step} (made : (step.perform (a.after steps)).result.isOk = true) :
    a.unfaulted (steps ++ [step]) = a.unfaulted steps ++ [step] ∧
      a.after (a.unfaulted (steps ++ [step])) = (step.perform (a.after (a.unfaulted steps))).state := by
  have more : a.unfaulted (steps ++ [step]) = a.unfaulted steps ++ [step] := by rw [unfaulted_concat, if_pos made]
  rw [more, after_concat]
  exact ⟨rfl, rfl⟩

section update

private theorem update_of_room (room : a.requests.toNat + 1 < UInt64.size)
    (fits : FitsSigned (a.total.toInt + latency.toInt)) :
    a.update latency =
      ({ a with
          requests := a.requests + 1
          total := a.total + latency
          least := if latency.toInt < a.least.toInt then latency else a.least
          greatest := if a.greatest.toInt < latency.toInt then latency else a.greatest }, none) := by
  simp only [update, succChecked, if_pos room, addChecked, if_pos fits]

/-- An update whose latency the total has no room for is counted. -/
theorem update_of_overflow (room : a.requests.toNat + 1 < UInt64.size)
    (wide : ¬FitsSigned (a.total.toInt + latency.toInt)) :
    a.update latency = ({ a with requests := a.requests + 1 }, some .addOverflow) := by
  simp only [update, succChecked, if_pos room, addChecked, if_neg wide]

private theorem update_of_full (full : ¬a.requests.toNat + 1 < UInt64.size) :
    a.update latency = (a, some .addOverflow) := by
  simp only [update, succChecked, if_neg full]

private theorem update_eq_none :
    (a.update latency).2 = none ↔
      a.requests.toNat + 1 < UInt64.size ∧ FitsSigned (a.total.toInt + latency.toInt) := by
  by_cases room : a.requests.toNat + 1 < UInt64.size
  · by_cases fits : FitsSigned (a.total.toInt + latency.toInt)
    · simp [update_of_room room fits, room, fits]
    · simp [update_of_overflow room fits, fits]
  · simp [update_of_full room, room]

end update

namespace Trails

private theorem total_eq (trails : Trails calls taken a b) : a.total = b.total := by rw [trails.same]

/-- One more call of an aggregate whose count has room. -/
theorem count (trails : Trails calls taken a b) (room : a.requests.toNat + 1 < UInt64.size) :
    (a.requests + 1).toNat = a.requests.toNat + 1 ∧ (a.requests + 1).toNat = min 18446744073709551615 (calls + 1) := by
  have counted := trails.counted
  have size : UInt64.size = 18446744073709551616 := rfl
  have next : (a.requests + 1).toNat = a.requests.toNat + 1 := by
    rw [UInt64.toNat_add]
    exact Nat.mod_eq_of_lt room
  omega

/-- An update that does not fault does not fault where those that do were left out. -/
theorem made (trails : Trails calls taken a b) (made : (a.update latency).2 = none) :
    (b.update latency).2 = none ∧
      Trails (calls + 1) (taken ++ [latency]) (a.update latency).1 (b.update latency).1 := by
  obtain ⟨room, fits⟩ := update_eq_none.mp made
  have counted : b.requests.toNat = taken.length := trails.tallies.count
  have fewer := trails.fewer
  have room' : b.requests.toNat + 1 < UInt64.size := by omega
  have fits' : FitsSigned (b.total.toInt + latency.toInt) := trails.total_eq ▸ fits
  have next := trails.count room
  have both := update_of_room room' fits'
  have done : (b.update latency).2 = none := by rw [both]
  have tallies := tallies_of_update trails.tallies done
  refine ⟨done, ?_⟩
  rw [both] at tallies ⊢
  rw [update_of_room room fits]
  refine ⟨?_, next.2, tallies, ?_, fun none => ?_⟩
  · rw [trails.same]
  · rw [List.length_append, List.length_singleton]
    show _ ≤ (a.requests + 1).toNat
    omega
  · exact absurd none (by simp)

/-- The first update never faults: the total is zero then. -/
theorem given (trails : Trails calls taken a b) (faulted : (a.update latency).2 ≠ none) : taken ≠ [] := by
  rintro rfl
  have counted := trails.counted
  rw [trails.begun rfl] at counted
  have zero : b.total.toInt = 0 := trails.tallies.sum
  have room : a.requests.toNat + 1 < UInt64.size := by
    rw [counted]
    decide
  have fits : FitsSigned (a.total.toInt + latency.toInt) := by
    rw [trails.total_eq, zero, Int.zero_add]
    exact ⟨latency.le_toInt, Int64.toInt_le latency⟩
  exact faulted (update_eq_none.mpr ⟨room, fits⟩)

/-- An update that faults leaves nothing but its count. -/
theorem fault (trails : Trails calls taken a b) (faulted : (a.update latency).2 ≠ none) :
    Trails (calls + 1) taken (a.update latency).1 b := by
  have given := trails.given faulted
  by_cases room : a.requests.toNat + 1 < UInt64.size
  · by_cases fits : FitsSigned (a.total.toInt + latency.toInt)
    · exact absurd (update_eq_none.mpr ⟨room, fits⟩) faulted
    · have next := trails.count room
      have fewer := trails.fewer
      rw [update_of_overflow room fits]
      refine ⟨?_, next.2, trails.tallies, ?_, fun none => absurd none given⟩
      · rw [trails.same]
      · show _ ≤ (a.requests + 1).toNat
        omega
  · have counted := trails.counted
    have size : UInt64.size = 18446744073709551616 := rfl
    have still : a.requests.toNat = min 18446744073709551615 (calls + 1) := by omega
    rw [update_of_full room]
    exact ⟨trails.same, still, trails.tallies, trails.fewer, fun none => absurd none given⟩

end Trails

/-- Every run trails the one without the updates that fault in it. -/
theorem trails_after (module : String) (steps : List Step) :
    Trails (latencies steps).length (latencies ((new module).unfaulted steps)) ((new module).after steps)
      ((new module).after ((new module).unfaulted steps)) := by
  induction steps using List.reverseRecOn with
  | nil => exact ⟨rfl, rfl, tallies_empty [], Nat.zero_le _, fun _ => rfl⟩
  | append_singleton steps step ih =>
    rw [after_concat]
    cases step with
    | update latency =>
      have result := isOk_of_update ((new module).after steps) latency
      rw [latencies_update, List.length_append, state_of_update]
      cases fault? : (((new module).after steps).update latency).2 with
      | none =>
        rw [fault?] at result
        obtain ⟨more, next⟩ := after_unfaulted result
        rw [next, more, latencies_update, state_of_update]
        exact (ih.made fault?).2
      | some fault =>
        rw [fault?] at result
        rw [unfaulted_concat, if_neg (ne_true_of_eq_false result), List.append_nil]
        exact ih.fault (by rw [fault?]; nofun)
    | report =>
      have state : (Step.perform ((new module).after steps) .report).state = (new module).after steps := rfl
      cases result : (Step.perform ((new module).after steps) .report).result.isOk with
      | true =>
        obtain ⟨more, next⟩ := after_unfaulted result
        rw [next, more, latencies_report, latencies_report]
        exact ih
      | false =>
        rw [unfaulted_concat, if_neg (ne_true_of_eq_false result), List.append_nil, latencies_report]
        exact ih
    | reset =>
      have result : (Step.perform ((new module).after steps) .reset).result.isOk = true := rfl
      obtain ⟨more, next⟩ := after_unfaulted result
      have same : ((new module).after steps).reset = ((new module).after ((new module).unfaulted steps)).reset :=
        congrArg new ((module_after _ _).trans (module_after _ _).symm)
      rw [next, more, latencies_reset, latencies_reset]
      show Trails 0 [] ((new module).after steps).reset _
      rw [same]
      exact ⟨rfl, rfl, tallies_empty [], Nat.zero_le _, fun _ => rfl⟩

/-- The report of the first aggregate is that of the second one with its own rate, and with the mean by this rate, if
    there is one. -/
theorem Trails.report (trails : Trails calls taken a b) :
    a.report = do
      let mean ← divChecked b.total a.requests.toInt64
      let told ← b.report
      return told.map fun r => { r with requestRate := a.requests, meanLatency := mean } := by
  have counted : b.requests.toNat = taken.length := trails.tallies.count
  have fewer := trails.fewer
  have called := trails.counted
  have both : a.requests = 0 ↔ b.requests = 0 := by
    rw [← UInt64.toNat_inj, ← UInt64.toNat_inj, counted]
    constructor
    · intro none
      rw [none] at fewer
      exact Nat.le_zero.mp fewer
    · intro none
      rw [trails.begun (List.length_eq_zero_iff.mp none)] at called
      exact called
  have bounded : b.requests.toNat ≤ a.requests.toNat := counted ▸ fewer
  have same := trails.same
  generalize a.requests = requests at same both bounded ⊢
  subst same
  by_cases none : b.requests = 0
  · have quotient : divChecked b.total (UInt64.toInt64 0) = .ok (b.total / 0) := divChecked_of_ne _ (by decide)
    simp only [Aggregate.report, none, both.mpr none, ↓reduceIte, quotient]
    rfl
  · by_cases few : b.requests.toNat < 18446744073709551615
    · have told := report_of_few few
      rw [if_neg none] at told
      rw [told, Aggregate.report, if_neg (both.not.mpr none)]
      cases divChecked b.total requests.toInt64 <;> rfl
    · -- both counts are the greatest one, so the two aggregates are the same
      have all : requests = b.requests := by
        rw [← UInt64.toNat_inj]
        have word := UInt64.toNat_lt requests
        omega
      subst all
      simp only [Aggregate.report, none, ↓reduceIte]
      cases divChecked b.total b.requests.toInt64 <;> rfl

/-- Where the first aggregate has a report, the second one has one. -/
theorem Trails.tells (trails : Trails calls taken a b) (made : a.report.isOk = true) : b.report.isOk = true := by
  rw [trails.report] at made
  cases told : b.report with
  | ok report? => rfl
  | error fault =>
    rw [told] at made
    cases quotient : divChecked b.total a.requests.toInt64 <;> rw [quotient] at made <;> cases made

/-- Where the updates that fault are left out, no step faults. -/
theorem unfaulted_unfaulted (module : String) (steps : List Step) :
    (new module).unfaulted ((new module).unfaulted steps) = (new module).unfaulted steps := by
  induction steps using List.reverseRecOn with
  | nil => rfl
  | append_singleton steps step ih =>
    cases result : (step.perform ((new module).after steps)).result.isOk with
    | true =>
      have again : (step.perform ((new module).after ((new module).unfaulted steps))).result.isOk = true := by
        cases step with
        | update latency =>
          rw [isOk_of_update, Option.isNone_iff_eq_none] at result ⊢
          exact ((trails_after module steps).made result).1
        | report => exact (trails_after module steps).tells result
        | reset => rfl
      rw [(after_unfaulted result).1, (after_unfaulted again).1, ih]
    | false => rw [unfaulted_concat, if_neg (ne_true_of_eq_false result), List.append_nil, ih]

/-- The count of an aggregate can be told from what it reports. -/
theorem requests_of_report (same : a.report = b.report) : a.requests = b.requests := by
  have rate : ∀ c : Aggregate, ∀ told, c.report = .ok told → (told.map (·.requestRate)).getD 0 = c.requests := by
    intro c told made
    rw [report] at made
    split at made
    · rename_i none
      cases made
      exact none.symm
    · cases quotient : divChecked c.total c.requests.toInt64 <;> rw [quotient] at made <;> cases made
      rfl
  cases told : a.report with
  | ok report? => rw [← rate a _ told, ← rate b _ (same ▸ told)]
  | error fault =>
    -- only the greatest count can be in the way of a report
    have full : ∀ c : Aggregate, c.report = .error fault → c.requests.toNat = 18446744073709551615 := by
      intro c faulted
      by_contra other
      have word := UInt64.toNat_lt c.requests
      rw [report_of_few (by omega)] at faulted
      cases faulted
    rw [← UInt64.toNat_inj, full a told, full b (same ▸ told)]

/-- The two reports are the same just if the counts are. -/
theorem Trails.report_eq (trails : Trails calls taken a b) :
    a.report = b.report ↔ min 18446744073709551615 calls = taken.length := by
  have counted : b.requests.toNat = taken.length := trails.tallies.count
  rw [← trails.counted, ← counted, UInt64.toNat_inj]
  refine ⟨requests_of_report, fun requests => ?_⟩
  have same : a = b := trails.same.trans (by rw [requests])
  rw [same]

/-- With fewer calls than half the words, there is a report whose mean is the total by the number of calls. -/
theorem Trails.mean (trails : Trails calls taken a b) (few : calls < 9223372036854775808) :
    ∃ told, a.report = .ok told ∧
      ∀ r, told = some r → r.meanLatency.toInt = (taken.map Int64.toInt).sum.tdiv calls := by
  have called := trails.counted
  have sum : b.total.toInt = (taken.map Int64.toInt).sum := trails.tallies.sum
  have number : a.requests.toNat = calls := by omega
  refine ⟨_, report_of_few (by omega), fun r told => ?_⟩
  split at told
  · cases told
  · rename_i some
    cases told
    have positive : 0 < a.requests.toNat := Nat.pos_of_ne_zero fun zero => some (UInt64.toNat_inj.mp zero)
    show (a.total / a.requests.toInt64).toInt = _
    rw [toInt_mean a.total positive (number ▸ few), trails.total_eq, sum, number]

/-- In every run of an aggregate in which whoever makes it goes on after a fault: where the steps that fault are left out,
    none faults, and then the rate is the number of latencies that were given since the last reset and the total is their
    sum. With the updates that fault a report says the same, except that the rate counts them, too, and the mean is that
    total by this rate, if it has a quotient. So the two reports are the same just if no update faulted since the last
    reset, as long as the count has room. -/
theorem report_of_unfaulted (module : String) (steps : List Step) :
    let kept := (new module).unfaulted steps
    let a := (new module).after steps
    let b := (new module).after kept
    (new module).unfaulted kept = kept ∧
    b.requests.toNat = (latencies kept).length ∧ b.total.toInt = ((latencies kept).map Int64.toInt).sum ∧
    a.requests.toNat = min 18446744073709551615 (latencies steps).length ∧
    (a.report = do
      let mean ← divChecked b.total a.requests.toInt64
      let told ← b.report
      return told.map fun r => { r with requestRate := a.requests, meanLatency := mean }) ∧
    (a.report = b.report ↔ min 18446744073709551615 (latencies steps).length = (latencies kept).length) ∧
    ((latencies steps).length < 9223372036854775808 → ∃ told, a.report = .ok told ∧ ∀ r, told = some r →
      r.meanLatency.toInt = ((latencies kept).map Int64.toInt).sum.tdiv (latencies steps).length) := by
  have trails := trails_after module steps
  exact ⟨unfaulted_unfaulted module steps, trails.tallies.count, trails.tallies.sum, trails.counted, trails.report,
    trails.report_eq, fun few => trails.mean few⟩

/-- Two updates, the second of which finds no room. -/
def jolt : List Step := [.update 9223372036854775806, .update 2]

theorem jolt_reported :
    (latencies jolt).length < 9223372036854775808 ∧ latencies ((new "db").unfaulted jolt) = [9223372036854775806] ∧
    ∃ r, ((new "db").after jolt).report = .ok (some r) ∧ r.meanLatency.toInt = 4611686018427387903 ∧
      ((new "db").after jolt).report ≠ ((new "db").after ((new "db").unfaulted jolt)).report := by
  have few : (latencies jolt).length < 9223372036854775808 := by decide
  have taken : latencies ((new "db").unfaulted jolt) = [9223372036854775806] := by decide +kernel
  obtain ⟨-, -, -, -, -, same, mean⟩ := report_of_unfaulted "db" jolt
  obtain ⟨told, made, mean⟩ := mean few
  obtain ⟨r, rfl⟩ : ∃ r, told = some r := by
    cases told with
    | some r => exact ⟨r, rfl⟩
    | none => exact absurd made (by decide +kernel)
  refine ⟨few, taken, r, made, ?_, ?_⟩
  · rw [mean r rfl, taken]
    decide +kernel
  · rw [Ne, same, taken]
    decide +kernel

/-- So an update that faults is seen in the next report. -/
theorem fault_is_reported : ¬ ∀ (module : String) (steps : List Step),
    ((new module).after steps).report = ((new module).after ((new module).unfaulted steps)).report := by
  intro same
  have reports := same "db" jolt
  revert reports
  decide +kernel

end JobPool.Latency.Aggregate
