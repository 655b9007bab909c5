import JobPool.Builder
import JobPool.Load.Job
import JobPool.Proofs.Runs
import JobPool.Proofs.Worker.Letters

/-!
What becomes of a worker that takes a job to run it. If the number of attempts is a word, the worker gets through
with the job by its own moves, shows just what the policy says the run comes to (`runAlone_starting`), and publishes
itself again. If it is not, the run faults for every job, and the worker never does anything again.
-/

namespace JobPool.Worker

variable {J : Type}

/-- What the policy logs. -/
def Event.judged? : Event J → Option Record
  | .judged record => some record
  | _ => none

/-- A run that is over, with the job as its last attempt left it. -/
def Event.finished? : Event J → Option (J × Outcome)
  | .finished job outcome => some (job, outcome)
  | _ => none

/-- What happens is a run that comes to this ending: its logs, its letter and its outcome. -/
structure Shows (events : List (Event J)) (ending : Ending J) : Prop where
  logs : events.filterMap Event.judged? = ending.logs
  letters : letters events = ending.letter.toList
  ended : events.filterMap Event.finished? = [(ending.job, ending.outcome)]

private theorem shows_ending (ending : Ending J) :
    Shows (ending.letter.toList.map .sent ++ ending.logs.map .judged ++
      [.finished ending.job ending.outcome]) ending where
  logs := by cases ending.letter <;> simp [Event.judged?, List.filterMap_cons, Function.comp_def]
  letters := letters_ending ending
  ended := by cases ending.letter <;> simp [Event.finished?, List.filterMap_cons, Function.comp_def]

/-- An attempt before shows its warning first. -/
theorem Shows.again {events : List (Event J)} {ending : Ending J} (shown : Shows events ending) (warning : Record)
    (job : J) (attempt : Nat) :
    Shows (.judged warning :: .attempted job attempt :: events) { ending with logs := warning :: ending.logs } where
  logs := by simp [Event.judged?, List.filterMap_cons, shown.logs]
  letters := shown.letters
  ended := shown.ended

private theorem Shows.begin {events : List (Event J)} {ending : Ending J} (shown : Shows events ending) (job : J) :
    Shows (.started job :: .attempted job 1 :: events) ending :=
  ⟨shown.logs, shown.letters, shown.ended⟩

variable [Job J]

/-- What a worker does by its own moves, while the pool says this at each of them. -/
def runAlone (policy : Policy) (number : Nat) : Worker J → List Admission → Option (Worker J × List (Event J)) :=
  Runs.run fun w pool => w.advance policy number pool

variable (policy : Policy) (number : Nat) {w : Worker J} {job : J}

private theorem runAlone_last {n limit : Nat} {late : Bool} {ending : Ending J}
    (phase : w.phase = .working job n limit late)
    (judged : policy.judge limit n (Job.attempt job).1 (Job.attempt job).2 = .ended ending) :
    runAlone policy number w (List.replicate 1 .room) =
      some ({ w with phase := if late then .draining else .publishing },
        ending.letter.toList.map .sent ++ ending.logs.map .judged ++ [.finished ending.job ending.outcome]) := by
  simp [runAlone, Runs.run, advance, phase, finishAttempt, judged]

/-- From an attempt on, the worker does what the policy does from there. -/
theorem runAlone_working {n limit more : Nat} {late : Bool} (phase : w.phase = .working job n limit late)
    (left : limit - n = more) :
    ∃ moves events, runAlone policy number w (List.replicate moves .room) =
        some ({ w with phase := if late then .draining else .publishing }, events) ∧
      Shows events (policy.runFrom limit n more job) := by
  -- an attempt that is made again leaves one less, so by induction on those that are left
  induction more generalizing w job n with
  | zero =>
    cases judged : policy.judge limit n (Job.attempt job).1 (Job.attempt job).2 with
    | again next warning =>
      obtain ⟨-, more⟩ := Policy.of_judge_again judged
      omega
    | ended ending =>
      refine ⟨1, _, runAlone_last policy number phase judged, ?_⟩
      simp only [Policy.runFrom, judged]
      exact shows_ending ending
  | succ more ih =>
    cases judged : policy.judge limit n (Job.attempt job).1 (Job.attempt job).2 with
    | ended ending =>
      refine ⟨1, _, runAlone_last policy number phase judged, ?_⟩
      simp only [Policy.runFrom, judged]
      exact shows_ending ending
    | again next warning =>
      obtain ⟨rfl, -⟩ := Policy.of_judge_again judged
      obtain ⟨moves, events, ran, shown⟩ :=
        ih (w := { w with phase := .working (Job.attempt job).2 (n + 1) limit late }) rfl (by omega)
      refine ⟨moves + 1, .judged warning :: .attempted (Job.attempt job).2 (n + 1) :: events, ?_, ?_⟩
      · rw [runAlone, List.replicate_succ, Runs.run_cons]
        exact ⟨_, [.judged warning, .attempted (Job.attempt job).2 (n + 1)], events,
          by simp [advance, phase, finishAttempt, judged], ran, rfl⟩
      · simp only [Policy.runFrom, judged]
        exact shown.again warning _ _

/-- A worker that took a job gets through with it as the policy says, if the run of the job returns. -/
theorem runAlone_starting {late : Bool} {ending : Ending J} (phase : w.phase = .starting job late)
    (returns : policy.run job = .ok ending) :
    ∃ moves events, runAlone policy number w (List.replicate moves .room) =
        some ({ w with phase := if late then .draining else .publishing }, events) ∧ Shows events ending := by
  unfold Policy.run at returns
  cases limited : policy.attemptLimit with
  | error fault => simp [limited, bind, Except.bind] at returns
  | ok limit =>
    simp only [limited, bind, Except.bind, pure, Except.pure, Except.ok.injEq] at returns
    obtain ⟨moves, events, ran, shown⟩ :=
      runAlone_working policy number (w := { w with phase := .working job 1 limit late }) rfl rfl
    refine ⟨moves + 1, .started job :: .attempted job 1 :: events, ?_, ?_⟩
    · rw [runAlone, List.replicate_succ, Runs.run_cons]
      exact ⟨_, [.started job, .attempted job 1], events, by simp [advance, phase, begin, limited], ran, rfl⟩
    · rw [← returns]
      exact shown.begin job

/-- Then it publishes itself again, unless it was on its way to stop. -/
theorem runAlone_published {ending : Ending J} (phase : w.phase = .starting job false)
    (returns : policy.run job = .ok ending) :
    ∃ moves events, runAlone policy number w (List.replicate moves .room) =
        some ({ w with phase := .lookingForStop }, events ++ [.published]) ∧ Shows events ending := by
  obtain ⟨moves, events, ran, shown⟩ := runAlone_starting policy number phase returns
  refine ⟨moves + 1, events, ?_, shown⟩
  rw [runAlone, List.replicate_succ', Runs.run_concat]
  exact ⟨_, events, [.published], ran, by simp [advance], rfl⟩

/-- A worker whose run faults never does anything again. -/
theorem runAlone_crashed {late : Bool} {fault : Fault} (phase : w.phase = .starting job late)
    (limited : policy.attemptLimit = .error fault) {pools : List Admission} {t : Worker J} {events : List (Event J)}
    (ran : runAlone policy number w pools = some (t, events)) : .published ∉ events ∧ pools.length ≤ 1 := by
  cases pools with
  | nil =>
    cases ran
    simp
  | cons pool rest =>
    obtain ⟨u, new, later, first, onward, rfl⟩ := Runs.run_cons.mp ran
    simp only [advance, phase, begin, limited, Option.some.injEq, Prod.mk.injEq] at first
    obtain ⟨rfl, rfl⟩ := first
    cases rest with
    | nil =>
      cases onward
      simp
    | cons next more => simp [Runs.run, advance] at onward

/-- If the number of attempts is a word, the run of a job returns and the worker gets through with it, showing just what
    the run comes to, and publishes itself again. If it is not, the run faults, and after this move the worker makes
    no other and does not publish itself. -/
theorem survival_of_retries (phase : w.phase = .starting job false) :
    (policy.retries.toNat + 1 < UInt64.size → ∃ ending moves events, policy.run job = .ok ending ∧
      runAlone policy number w (List.replicate moves .room) =
        some ({ w with phase := .lookingForStop }, events ++ [.published]) ∧ Shows events ending) ∧
    (UInt64.size ≤ policy.retries.toNat + 1 → policy.run job = .error .addOverflow ∧
      ∀ pools t events, runAlone policy number w pools = some (t, events) → .published ∉ events ∧
      pools.length ≤ 1) := by
  constructor
  · intro few
    have returns : policy.run job = _ := Policy.run_of_few few
    obtain ⟨moves, events, ran, shown⟩ := runAlone_published policy number phase returns
    exact ⟨_, moves, events, returns, ran, shown⟩
  · intro many
    refine ⟨Policy.run_of_many many, fun pools t events ran => ?_⟩
    exact runAlone_crashed policy number phase (Policy.attemptLimit_of_many many) ran

/-- A worker that took its only job. -/
def eager : Worker Load.LoadJob := { new with phase := .starting (.new 0 true) false }

theorem eager_survives :
    (∃ ending moves events, (Policy.retry 1).run (Load.LoadJob.new 0 true) = .ok ending ∧
      runAlone (.retry 1) 0 eager (List.replicate moves .room) =
        some ({ eager with phase := .lookingForStop }, events ++ [.published]) ∧ Shows events ending) ∧
    (Policy.retry 18446744073709551615).run (Load.LoadJob.new 0 true) = .error .addOverflow := by
  have few : (Policy.retry 1).retries.toNat + 1 < UInt64.size := by decide
  have many : UInt64.size ≤ (Policy.retry 18446744073709551615).retries.toNat + 1 := by decide
  have phase : eager.phase = .starting (.new 0 true) false := rfl
  exact ⟨(survival_of_retries _ 0 phase).1 few, ((survival_of_retries _ 0 phase).2 many).1⟩

/-- A number of retries that settings can name makes every run fault. -/
theorem greatest_retries_fault :
    ¬ ∀ (setting : PolicySetting) (job : Load.LoadJob), ∃ ending, setting.toPolicy.run job = .ok ending := by
  intro returns
  obtain ⟨ending, ran⟩ := returns (.retry 18446744073709551615) (.new 0 false)
  have many : UInt64.size ≤ (PolicySetting.retry 18446744073709551615).toPolicy.retries.toNat + 1 := by decide
  rw [Policy.run_of_many many] at ran
  cases ran

end JobPool.Worker
