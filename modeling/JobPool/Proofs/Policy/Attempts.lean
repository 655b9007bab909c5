import JobPool.Policy

/-!
The attempts at a job, as the job alone decides them, and the dead letter that follows if all of them
fail. A policy with an open sink sends exactly this letter: what is still to come of it does not
change while a job is attempted again (`Policy.coming_of_judge_again`), and it is what the run ends with
(`Policy.letter_of_judge_ended`).
-/

namespace JobPool

namespace Job

variable {J : Type} [Job J]

/-- The job as so many attempts leave it. -/
def after : Nat → J → J
  | 0, job => job
  | n + 1, job => after n (Job.attempt job).2

/-- The error of attempt number `n`, counted from zero: there is none if it succeeds, a failure has its own, and after a
    panic it says that the job panicked, and with what. -/
def error? (job : J) (n : Nat) : Option JobError :=
  match (Job.attempt (after n job)).1 with
  | .succeeded => none
  | .failed e => some e
  | .panicked (.text message) => some ⟨"job panicked: " ++ message, []⟩
  | .panicked .other => some ⟨"job panicked: unknown panic payload", []⟩

theorem error?_eq (job : J) (n : Nat) : error? job n = (Job.attempt (after n job)).1.error? := by
  unfold error?
  cases (Job.attempt (after n job)).1 with
  | succeeded | failed => rfl
  | panicked payload => cases payload <;> rfl

/-- So many attempts all fail. -/
def Fails (n : Nat) (job : J) : Prop := ∀ i < n, (error? job i).isSome = true

instance (n : Nat) (job : J) : Decidable (Fails n job) := inferInstanceAs (Decidable (∀ i < n, _))

/-- The letter about a job that all attempts failed at: the job as they left it, the error of the last one, and how
    many they were. -/
def letter? (retries : Nat) (job : J) : Option (Letter J) :=
  if Fails (retries + 1) job then (error? job retries).map fun e => ⟨after (retries + 1) job, e, retries + 1⟩ else none

/-- The letter that is still to come when attempt number `n` begins and `more` can follow. -/
def coming? (n more : Nat) (job : J) : Option (Letter J) :=
  (letter? more job).map fun letter => { letter with attempts := n + more }

theorem coming?_first (retries : Nat) (job : J) : coming? 1 retries job = letter? retries job := by
  unfold coming? letter?
  split
  · cases error? job retries <;> simp [Nat.add_comm]
  · rfl

theorem fails_zero (job : J) : Fails 0 job := by
  intro i inside
  omega

/-- The attempts after the first one are those at the job that it left. -/
theorem fails_succ {n : Nat} {job : J} :
    Fails (n + 1) job ↔ (Job.attempt job).1.error?.isSome = true ∧ Fails n (Job.attempt job).2 := by
  rw [show (Job.attempt job).1.error? = error? job 0 from (error?_eq job 0).symm]
  constructor
  · intro fails
    exact ⟨fails 0 (by omega), fun i inside => fails (i + 1) (by omega)⟩
  · rintro ⟨first, later⟩ i inside
    cases i with
    | zero => exact first
    | succ i => exact later i (by omega)

/-- A job whose next attempt succeeds gets no letter. -/
theorem coming?_of_success {n more : Nat} {job : J} (success : (Job.attempt job).1.error? = none) :
    coming? n more job = none := by
  have lives : ¬ Fails (more + 1) job := by
    intro fails
    have first := (fails_succ.mp fails).1
    simp [success] at first
  simp [coming?, letter?, lives]

/-- When the last attempt fails, the letter is about this one. -/
theorem coming?_of_last {n : Nat} {job : J} {e : JobError} (failed : (Job.attempt job).1.error? = some e) :
    coming? n 0 job = some ⟨(Job.attempt job).2, e, n⟩ := by
  have fails : Fails 1 job := fails_succ.mpr ⟨by simp [failed], fails_zero _⟩
  simp [coming?, letter?, fails, error?_eq, after, failed]

/-- After a failed attempt the same letter is to come. -/
theorem coming?_of_failure {n more : Nat} {job : J} {e : JobError} (failed : (Job.attempt job).1.error? = some e) :
    coming? n (more + 1) job = coming? (n + 1) more (Job.attempt job).2 := by
  have same : Fails (more + 1 + 1) job ↔ Fails (more + 1) (Job.attempt job).2 := by
    rw [fails_succ]
    simp [failed]
  have error : error? job (more + 1) = error? (Job.attempt job).2 more := rfl
  have left : after (more + 1 + 1) job = after (more + 1) (Job.attempt job).2 := rfl
  unfold coming? letter?
  simp only [same, error, left]
  split
  · cases error? (Job.attempt job).2 more <;> simp; omega
  · rfl

end Job

namespace Policy

/-- A policy has one attempt more than retries, if that many are a word. -/
theorem attemptLimit_of_few {p : Policy} (few : p.retries.toNat + 1 < UInt64.size) :
    p.attemptLimit = .ok (p.retries.toNat + 1) := by
  have next : (p.retries + 1).toNat = p.retries.toNat + 1 := by
    rw [UInt64.toNat_add]
    exact Nat.mod_eq_of_lt few
  simp [attemptLimit, succChecked, few, next, Except.map]

theorem attemptLimit_of_many {p : Policy} (many : UInt64.size ≤ p.retries.toNat + 1) :
    p.attemptLimit = .error .addOverflow := by
  have out : ¬ p.retries.toNat + 1 < UInt64.size := Nat.not_lt.mpr many
  simp [attemptLimit, succChecked, out, Except.map]

variable {J : Type} [Job J] {limit n : Nat} {job : J}

/-- A run of a job returns what the attempts come to. -/
theorem run_of_few {p : Policy} (few : p.retries.toNat + 1 < UInt64.size) :
    p.run job = .ok (p.runFrom (p.retries.toNat + 1) 1 p.retries.toNat job) := by
  simp [run, attemptLimit_of_few few, bind, Except.bind, pure, Except.pure]

/-- With the greatest number of retries it faults before the first attempt. -/
theorem run_of_many {p : Policy} (many : UInt64.size ≤ p.retries.toNat + 1) : p.run job = .error .addOverflow := by
  simp [run, attemptLimit_of_many many, bind, Except.bind]

/-- An attempt that is made again changes nothing of the letter to come. -/
theorem coming_of_judge_again {p : Policy} {next : J} {warning : Record}
    (judged : p.judge limit n (Job.attempt job).1 (Job.attempt job).2 = .again next warning) :
    Job.coming? n (limit - n) job = Job.coming? (n + 1) (limit - (n + 1)) next := by
  unfold judge at judged
  cases failed : (Job.attempt job).1.error? with
  | none => simp [failed] at judged
  | some e =>
    simp only [failed] at judged
    split at judged
    · rename_i more
      cases judged
      have one : limit - n = limit - (n + 1) + 1 := by omega
      rw [one]
      exact Job.coming?_of_failure failed
    · cases judged

/-- A run ends with the letter that was to come. -/
theorem letter_of_judge_ended {retries : UInt64} {ending : Ending J}
    (judged : (deadLetter retries true).judge limit n (Job.attempt job).1 (Job.attempt job).2 = .ended ending) :
    ending.letter = Job.coming? n (limit - n) job := by
  unfold judge at judged
  cases failed : (Job.attempt job).1.error? with
  | none =>
    simp only [failed] at judged
    cases judged
    exact (Job.coming?_of_success failed).symm
  | some e =>
    simp only [failed] at judged
    split at judged
    · cases judged
    · rename_i last
      cases judged
      have none : limit - n = 0 := by omega
      rw [none, Job.coming?_of_last failed]
      rfl

end Policy

end JobPool
