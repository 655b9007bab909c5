import Mathlib.Data.ENat.Lattice
import Mathlib.Data.List.Basic
import JobPool.Proofs.Policy.Attempts
import JobPool.Scenario.ScriptedJob

/-!
What a run comes to, as the attempts at the job decide it. A job is attempted until an attempt succeeds, but no more
often than the policy allows; every failed attempt but the last one allowed leaves a warning, and a job that is given
up leaves what its policy has to say about it. Both halves follow the recursion of a run (`runFrom_of_success`,
`runFrom_of_failure`), with what is still to be attempted as the measure.
-/

namespace JobPool

namespace Job

variable {J : Type} [Job J]

/-- The number of the first attempt that succeeds, counted from one; infinite if all of them fail. -/
noncomputable def firstSuccess (job : J) : ℕ∞ := ⨅ (n : ℕ) (_ : error? job n = none), (n + 1 : ℕ)

/-- An attempt that succeeds is not among those that fail. -/
theorem le_of_success {job : J} {n k : Nat} (fails : Fails n job) (success : error? job k = none) : n ≤ k := by
  by_contra before
  have failed := fails k (by omega)
  rw [success] at failed
  cases failed

private theorem le_firstSuccess {job : J} {n : Nat} (fails : Fails n job) : ((n + 1 : ℕ) : ℕ∞) ≤ firstSuccess job := by
  refine le_iInf₂ fun k succeeded => ?_
  have late := le_of_success fails succeeded
  exact_mod_cast Nat.succ_le_succ late

/-- The first success is the one with only failures before it. -/
theorem firstSuccess_eq {job : J} {n : Nat} (fails : Fails n job) (success : error? job n = none) :
    firstSuccess job = (n + 1 : ℕ) :=
  le_antisymm (iInf₂_le n success) (le_firstSuccess fails)

/-- If so many attempts fail, the first success comes after them. -/
theorem lt_firstSuccess {job : J} {n : Nat} (fails : Fails n job) : (n : ℕ∞) < firstSuccess job := by
  have next : (n : ℕ∞) < (n + 1 : ℕ) := by exact_mod_cast Nat.lt_succ_self n
  exact lt_of_lt_of_le next (le_firstSuccess fails)

/-- Among so many attempts there is a first success, or all of them fail. -/
theorem success_or_fails (job : J) (n : Nat) : (∃ k < n, Fails k job ∧ error? job k = none) ∨ Fails n job := by
  induction n with
  | zero => exact .inr (fails_zero job)
  | succ n ih =>
    rcases ih with ⟨k, before, fails, success⟩ | fails
    · exact .inl ⟨k, by omega, fails, success⟩
    · cases last : error? job n with
      | none => exact .inl ⟨n, by omega, fails, last⟩
      | some e =>
        refine .inr fun i inside => ?_
        rcases Nat.lt_succ_iff_lt_or_eq.mp inside with before | rfl
        · exact fails i before
        · rw [last]
          rfl

/-- A job together with the number of attempts that were made at it. -/
structure Counted (J : Type) where
  job : J
  calls : Nat

instance : Job (Counted J) where
  describe counted := describe counted.job
  attempt counted := ((attempt counted.job).1, ⟨(attempt counted.job).2, counted.calls + 1⟩)

private theorem after_counted (n : Nat) (counted : Counted J) :
    after n counted = ⟨after n counted.job, counted.calls + n⟩ := by
  induction n generalizing counted with
  | zero => rfl
  | succ n ih =>
    rw [after, ih, after, Nat.add_comm n, ← Nat.add_assoc]
    rfl

/-- Counting the attempts changes none of them. -/
theorem error?_counted (counted : Counted J) (n : Nat) : error? counted n = error? counted.job n := by
  rw [error?, after_counted]
  rfl

private theorem fails_counted {counted : Counted J} {n : Nat} : Fails n counted ↔ Fails n counted.job := by
  simp only [Fails, error?_counted]

end Job

namespace Policy

variable {J : Type} [Job J] {p : Policy} {limit n : Nat} {job : J}

/-- An error with all that was added to it, the latest first. -/
def causes (e : JobError) : String := ": ".intercalate (e.contexts.reverse ++ [e.root])

/-- The warnings about the first `count` attempts at a job, as far as they fail, numbered from `n` on. -/
def retryWarnings (limit n count : Nat) (job : J) : List Record :=
  (List.range count).filterMap fun i => (Job.error? job i).map fun e =>
    ⟨.warn, "job '" ++ Job.describe (Job.after (i + 1) job) ++ "' failed (attempt " ++ toString (n + i) ++ "/" ++
      toString limit ++ "), retrying: " ++ causes e⟩

/-- There is a warning about every failed attempt. -/
theorem length_retryWarnings {count : Nat} (fails : Job.Fails count job) :
    (retryWarnings limit n count job).length = count := by
  rw [retryWarnings, List.length_filterMap_eq_countP, List.countP_eq_length.mpr, List.length_range]
  intro i member
  rw [Option.isSome_map]
  exact fails i (List.mem_range.mp member)

/-- The warning about a failed attempt comes before those about the attempts after it. -/
theorem retryWarnings_succ {count : Nat} {e : JobError} (failed : (Job.attempt job).1.error? = some e) :
    retryWarnings limit n (count + 1) job =
      retryWarning (Job.describe (Job.attempt job).2) n limit e ::
        retryWarnings limit (n + 1) count (Job.attempt job).2 := by
  have first : Job.error? job 0 = some e := (Job.error?_eq job 0).trans failed
  rw [retryWarnings, List.range_succ_eq_map, List.filterMap_cons, first, List.filterMap_map]
  refine congrArg (List.cons _) (List.filterMap_congr fun i _ => ?_)
  have number : n + (i + 1) = n + 1 + i := by omega
  simp only [Function.comp_apply, number]
  rfl

/-- A run from attempt number `n` on whose first success is `k` attempts later. -/
theorem runFrom_of_success {k more : Nat} (enough : k ≤ more) (left : limit = n + more) (fails : Job.Fails k job)
    (success : Job.error? job k = none) :
    p.runFrom limit n more job = ⟨.succeeded (n + k), Job.after (k + 1) job, retryWarnings limit n k job, none⟩ := by
  induction k generalizing n more job with
  | zero =>
    have now : (Job.attempt job).1.error? = none := (Job.error?_eq job 0).symm.trans success
    cases more <;> simp only [runFrom, judge, now] <;> rfl
  | succ k ih =>
    obtain ⟨first, later⟩ := Job.fails_succ.mp fails
    obtain ⟨e, failed⟩ := Option.isSome_iff_exists.mp first
    obtain ⟨more, rfl⟩ := Nat.exists_eq_add_one.mpr (Nat.lt_of_lt_of_le (Nat.succ_pos k) enough)
    have allowed : n < limit := by omega
    rw [runFrom]
    simp only [judge, failed, allowed, ↓reduceIte]
    rw [ih (by omega) (by omega) later success, retryWarnings_succ failed, Nat.add_assoc, Nat.add_comm 1 k]
    rfl

/-- A run from attempt number `n` on that fails with every attempt it has. -/
theorem runFrom_of_failure {more : Nat} {e : JobError} (left : limit = n + more) (fails : Job.Fails more job)
    (last : Job.error? job more = some e) :
    p.runFrom limit n more job =
      { p.giveUp (Job.after (more + 1) job) limit e with
        logs := retryWarnings limit n more job ++ (p.giveUp (Job.after (more + 1) job) limit e).logs } := by
  induction more generalizing n job with
  | zero =>
    have now : (Job.attempt job).1.error? = some e := (Job.error?_eq job 0).symm.trans last
    have through : ¬ n < limit := by omega
    obtain rfl : limit = n := left
    simp only [runFrom, judge, now, through, ↓reduceIte]
    rfl
  | succ more ih =>
    obtain ⟨first, later⟩ := Job.fails_succ.mp fails
    obtain ⟨error, failed⟩ := Option.isSome_iff_exists.mp first
    have allowed : n < limit := by omega
    rw [runFrom]
    simp only [judge, failed, allowed, ↓reduceIte]
    rw [ih (by omega) later last, retryWarnings_succ failed]
    rfl

/-- How many attempts a policy allows: one, or one more than its retries. -/
def allowed : Policy → Nat
  | discard | log => 1
  | retry retries | deadLetter retries _ => retries.toNat + 1

private theorem allowed_eq (p : Policy) : p.allowed = p.retries.toNat + 1 := by cases p <;> rfl

/-- The policy is one with a sink that takes letters. -/
def hasSink : Policy → Bool
  | deadLetter _ sinkOpen => sinkOpen
  | _ => false

/-- What a policy says of a job that it gives up. -/
def partingLines (desc : String) (attempts : Nat) (e : JobError) : Policy → List Record
  | discard | deadLetter _ true => []
  | log | retry _ =>
    [⟨.warn, "job '" ++ desc ++ "' failed after " ++ toString attempts ++ " attempt(s): " ++ causes e⟩]
  | deadLetter _ false => [⟨.error, "dead-letter channel closed, dropping job '" ++ desc ++ "': " ++ causes e⟩]

/-- A job that is given up goes to the sink if there is one, and is reported as the policy says. -/
theorem giveUp_eq (p : Policy) (job : J) (attempts : Nat) (e : JobError) :
    p.giveUp job attempts e =
      ⟨if p.hasSink then .deadLettered attempts else .failed attempts, job,
        partingLines (Job.describe job) attempts e p, if p.hasSink then some ⟨job, e, attempts⟩ else none⟩ := by
  cases p with
  | discard | log | retry => rfl
  | deadLetter retries sinkOpen => cases sinkOpen <;> rfl

private theorem retryWarnings_counted (limit n count : Nat) (counted : Job.Counted J) :
    retryWarnings limit n count counted = retryWarnings limit n count counted.job := by
  simp only [retryWarnings, Job.error?_counted, Job.after_counted]
  rfl

/-- A run whose first success is not too late ends with it. -/
theorem run_of_success {k : Nat} (few : p.retries.toNat + 1 < UInt64.size) (enough : k ≤ p.retries.toNat)
    (fails : Job.Fails k job) (success : Job.error? job k = none) :
    p.run job =
      .ok ⟨.succeeded (k + 1), Job.after (k + 1) job, retryWarnings (p.retries.toNat + 1) 1 k job, none⟩ := by
  rw [run_of_few few, runFrom_of_success enough (Nat.add_comm _ 1) fails success, Nat.add_comm 1 k]

/-- A run that fails with every attempt gives the job up. -/
theorem run_of_failure {e : JobError} (few : p.retries.toNat + 1 < UInt64.size)
    (fails : Job.Fails p.retries.toNat job) (last : Job.error? job p.retries.toNat = some e) :
    p.run job =
      .ok ⟨if p.hasSink then .deadLettered (p.retries.toNat + 1) else .failed (p.retries.toNat + 1),
        Job.after (p.retries.toNat + 1) job,
        retryWarnings (p.retries.toNat + 1) 1 p.retries.toNat job ++
          partingLines (Job.describe (Job.after (p.retries.toNat + 1) job)) (p.retries.toNat + 1) e p,
        if p.hasSink then some ⟨Job.after (p.retries.toNat + 1) job, e, p.retries.toNat + 1⟩ else none⟩ := by
  rw [run_of_few few, runFrom_of_failure (Nat.add_comm _ 1) fails last, giveUp_eq]

/-- A run that returns made as many attempts as it has up to the first success, and no more than the policy allows: a
    job that counts its attempts counts just these, and is otherwise run the same. If the first success is among them, the
    run ends with it, and its log is a warning about each attempt before. Otherwise the job was given up after the last
    attempt allowed, with its error: it goes to the sink if the policy has one that takes it, and what the policy says of
    it follows the warnings about the attempts before the last. A panic is a failure like any other. -/
theorem ending_of_run {ending : Ending J} (returned : p.run job = .ok ending) :
    ∃ calls : Nat, (calls : ℕ∞) = min (p.allowed : ℕ∞) (Job.firstSuccess job) ∧
      (∃ counted, p.run (⟨job, 0⟩ : Job.Counted J) = .ok counted ∧ counted.job = ⟨ending.job, calls⟩ ∧
        counted.outcome = ending.outcome ∧ counted.logs = ending.logs) ∧
      ending.job = Job.after calls job ∧
      (retryWarnings p.allowed 1 (calls - 1) job).length = calls - 1 ∧
      (Job.firstSuccess job ≤ p.allowed →
        ending.outcome = .succeeded calls ∧ ending.letter = none ∧
          ending.logs = retryWarnings p.allowed 1 (calls - 1) job) ∧
      (p.allowed < Job.firstSuccess job → ∃ e, Job.error? job (calls - 1) = some e ∧
        ending.outcome = (if p.hasSink then .deadLettered calls else .failed calls) ∧
        ending.letter = (if p.hasSink then some ⟨ending.job, e, calls⟩ else none) ∧
        ending.logs = retryWarnings p.allowed 1 (calls - 1) job ++
          partingLines (Job.describe ending.job) calls e p) := by
  rw [allowed_eq]
  have few : p.retries.toNat + 1 < UInt64.size := by
    by_contra many
    rw [run_of_many (Nat.le_of_not_lt many)] at returned
    cases returned
  rcases Job.success_or_fails job (p.retries.toNat + 1) with ⟨k, before, fails, success⟩ | fails
  · have early : Job.firstSuccess job = (k + 1 : ℕ) := Job.firstSuccess_eq fails success
    have within : ((k + 1 : ℕ) : ℕ∞) ≤ (p.retries.toNat + 1 : ℕ) := by exact_mod_cast before
    have twin : Job.Fails k (⟨job, 0⟩ : Job.Counted J) := Job.fails_counted.mpr fails
    have counted := run_of_success few (by omega) twin ((Job.error?_counted _ k).trans success)
    rw [run_of_success few (by omega) fails success, Except.ok.injEq] at returned
    subst returned
    refine ⟨k + 1, by rw [early, min_eq_right within], ⟨_, counted, ?_, rfl, retryWarnings_counted ..⟩, rfl,
      length_retryWarnings fails, fun _ => ⟨rfl, rfl, rfl⟩, fun late => ?_⟩
    · rw [Job.after_counted, Nat.zero_add]
    · rw [early] at late
      exact absurd within (not_le_of_gt late)
  · obtain ⟨e, last⟩ := Option.isSome_iff_exists.mp (fails p.retries.toNat (by omega))
    have late : ((p.retries.toNat + 1 : ℕ) : ℕ∞) < Job.firstSuccess job := Job.lt_firstSuccess fails
    have before : Job.Fails p.retries.toNat job := fun i inside => fails i (by omega)
    have twin : Job.Fails p.retries.toNat (⟨job, 0⟩ : Job.Counted J) := Job.fails_counted.mpr before
    have counted := run_of_failure few twin ((Job.error?_counted _ _).trans last)
    rw [run_of_failure few before last, Except.ok.injEq] at returned
    subst returned
    refine ⟨p.retries.toNat + 1, by rw [min_eq_left late.le], ⟨_, counted, ?_, rfl, ?_⟩, rfl,
      length_retryWarnings before,
      fun early => absurd early (not_le_of_gt late), fun _ => ⟨e, last, rfl, rfl, rfl⟩⟩
    · rw [Job.after_counted, Nat.zero_add]
    · rw [retryWarnings_counted, Job.after_counted]
      rfl

/-- A job that fails, panics and then succeeds. -/
def moody : Scenario.ScriptedJob where
  id := "moody"
  description := some "mood"
  script := [.failed ⟨"tired", ["again"]⟩, .panicked .other, .succeeded]
  gated := false
  calls := 0

/-- Given up after an error, in silence or not, after a panic, and after a panic with a letter that finds a taker or
    none; and not given up. -/
theorem moody_given_up :
    (∃ ending, discard.run moody = .ok ending ∧ ending.outcome = .failed 1 ∧ ending.logs = []) ∧
    (∃ ending, log.run moody = .ok ending ∧ ending.outcome = .failed 1 ∧
      ending.logs = [⟨.warn, "job 'mood' failed after 1 attempt(s): again: tired"⟩]) ∧
    (∃ ending, (retry 1).run moody = .ok ending ∧ ending.outcome = .failed 2 ∧
      ending.logs = [⟨.warn, "job 'mood' failed (attempt 1/2), retrying: again: tired"⟩,
        ⟨.warn, "job 'mood' failed after 2 attempt(s): job panicked: unknown panic payload"⟩]) ∧
    (∃ ending, (deadLetter 1 false).run moody = .ok ending ∧ ending.outcome = .failed 2 ∧
      ending.logs = [⟨.warn, "job 'mood' failed (attempt 1/2), retrying: again: tired"⟩,
        ⟨.error, "dead-letter channel closed, dropping job 'mood': job panicked: unknown panic payload"⟩]) ∧
    (∃ ending, (deadLetter 1 true).run moody = .ok ending ∧ ending.outcome = .deadLettered 2 ∧
      ending.logs = [⟨.warn, "job 'mood' failed (attempt 1/2), retrying: again: tired"⟩]) ∧
    ∃ ending, (retry 2).run moody = .ok ending ∧ ending.outcome = .succeeded 3 ∧ ending.logs.length = 2 := by
  have once : ((0 + 1 : ℕ) : ℕ∞) < Job.firstSuccess moody := Job.lt_firstSuccess (by decide)
  have twice : ((1 + 1 : ℕ) : ℕ∞) < Job.firstSuccess moody := Job.lt_firstSuccess (by decide)
  have given_up : ∀ (p : Policy) (n : Nat) (ending : Ending Scenario.ScriptedJob), p.allowed = n + 1 →
      ((n + 1 : ℕ) : ℕ∞) < Job.firstSuccess moody → p.run moody = .ok ending →
      ∃ e, Job.error? moody n = some e ∧
        ending.outcome = (if p.hasSink then .deadLettered (n + 1) else .failed (n + 1)) ∧
        ending.logs = retryWarnings (n + 1) 1 n moody ++ partingLines (Job.describe ending.job) (n + 1) e p := by
    intro p n ending allowed late returned
    obtain ⟨calls, least, -, -, -, -, givenUp⟩ := ending_of_run returned
    rw [allowed] at least givenUp
    obtain rfl : calls = n + 1 := by exact_mod_cast least.trans (min_eq_left late.le)
    obtain ⟨e, last, outcome, -, logs⟩ := givenUp late
    exact ⟨e, last, outcome, logs⟩
  refine ⟨?discard, ?log, ?retry, ?unsent, ?sent, ?success⟩
  case discard =>
    obtain ⟨e, ⟨⟩, outcome, logs⟩ := given_up .discard 0 _ rfl once rfl
    exact ⟨_, rfl, outcome, logs⟩
  case log =>
    obtain ⟨e, ⟨⟩, outcome, logs⟩ := given_up .log 0 _ rfl once rfl
    exact ⟨_, rfl, outcome, logs⟩
  case retry =>
    obtain ⟨e, ⟨⟩, outcome, logs⟩ := given_up (.retry 1) 1 _ rfl twice rfl
    exact ⟨_, rfl, outcome, logs⟩
  case unsent =>
    obtain ⟨e, ⟨⟩, outcome, logs⟩ := given_up (.deadLetter 1 false) 1 _ rfl twice rfl
    exact ⟨_, rfl, outcome, logs⟩
  case sent =>
    obtain ⟨e, ⟨⟩, outcome, logs⟩ := given_up (.deadLetter 1 true) 1 _ rfl twice rfl
    exact ⟨_, rfl, outcome, logs⟩
  case success =>
    have third : Job.firstSuccess moody = (2 + 1 : ℕ) := Job.firstSuccess_eq (by decide) rfl
    obtain ⟨ending, returned⟩ : ∃ ending, (retry 2).run moody = .ok ending := ⟨_, rfl⟩
    obtain ⟨calls, least, -, -, -, early, -⟩ := ending_of_run returned
    obtain rfl : calls = 3 := by exact_mod_cast least.trans ((congrArg (min _) third).trans (min_self _))
    obtain ⟨outcome, -, logs⟩ := early third.le
    exact ⟨ending, returned, outcome, congrArg List.length logs⟩

end Policy

end JobPool
