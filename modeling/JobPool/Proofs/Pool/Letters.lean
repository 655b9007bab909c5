import JobPool.Proofs.Pool.Delivery
import JobPool.Proofs.Worker.Letters
import JobPool.Scenario.ScriptedJob

/-!
Dead letters of a pool whose policy sends them and whose sink stays. Each run that was begun either sent the
letter that its attempts decide or is still to send it (`letters_balance`). So once the loop is over, the letters that
were sent are those of the accepted jobs that all attempts failed at, each once (`letters_of_run`).
-/

namespace JobPool.Pool

variable {J : Type}

/-- The letter that is sent to the sink. -/
def Event.letter? : Event J → Option (Letter (Task J))
  | .worker _ event => event.letter?
  | _ => none

/-- The letters that are sent to the sink, in this order. -/
def letters (events : List (Event J)) : List (Letter (Task J)) := events.filterMap Event.letter?

private theorem letters_append (events more : List (Event J)) :
    letters (events ++ more) = letters events ++ letters more :=
  List.filterMap_append

private theorem letters_worker (k : Nat) (done : List (Worker.Event (Task J))) :
    letters (done.map (.worker k)) = Worker.letters done := List.filterMap_map

/-- What no worker did sends no letter. -/
theorem letters_of_others {events : List (Event J)} (others : ∀ event ∈ events, event.isOfWorker = false) :
    letters events = [] := by
  refine List.filterMap_eq_nil_iff.mpr fun event member => ?_
  have other := others event member
  cases event <;> simp_all [Event.isOfWorker, Event.letter?]

variable [Job J] {config : Config} {s t : State J} {action : Action J} {actions : List (Action J)}
  {events : List (Event J)} {retries : UInt64}

/-- How many letters of a kind the jobs under way are still to get. -/
def State.coming (s : State J) (q : Letter (Task J) → Bool) : Nat := s.total fun w => w.phase.coming?.toList.countP q

/-- A sink that went away does not come back. -/
theorem sinkGone_of_move (moved : Move config s action events t) (kept : t.sinkGone = false) : s.sinkGone = false := by
  cases moved with
  | client moved outside => cases moved <;> exact kept
  | owner moved => cases moved <;> exact kept
  | loop moved => cases moved <;> exact kept
  | worker | tracker => exact kept
  | closeSink => cases kept
  | custom found custom moved =>
    obtain ⟨-, idle, m', rfl, -⟩ := of_moveCustom found moved
    exact kept

omit [Job J] in
/-- A pool with a sink that stays runs its jobs with the policy that it was built with. -/
theorem policy_of_kept (sends : config.policy = .deadLetter retries true) (kept : s.sinkGone = false) :
    s.policy config = .deadLetter retries true := by
  simp [State.policy, kept, sends]

/-- The number of attempts of a policy that sends dead letters. -/
theorem attemptLimit_deadLetter {sinkOpen : Bool} (few : retries.toNat + 1 < UInt64.size) :
    (Policy.deadLetter retries sinkOpen).attemptLimit = .ok (retries.toNat + 1) := by
  have same : (Policy.deadLetter retries sinkOpen).retries = retries := rfl
  exact Policy.attemptLimit_of_few (by rw [same]; exact few)

/-- What the runs that begin in a move promise is sent in it or still to come. -/
theorem letters_of_move (moved : Move config s action events t) (sends : s.policy config = .deadLetter retries true)
    (few : retries.toNat + 1 < UInt64.size) (q : Letter (Task J) → Bool) :
    s.coming q + ((started events).filterMap (Job.letter? retries.toNat)).countP q =
      (letters events).countP q + t.coming q := by
  rcases workerMove_or_phases moved with ⟨k, m, done, w, found, own, members, rfl⟩ | ⟨phases, others⟩
  · rw [sends] at own
    have here := congrArg (List.countP q) (own.letters (attemptLimit_deadLetter few))
    have sums := State.total_set found members fun w => w.phase.coming?.toList.countP q
    rw [letters_worker, (jobs_of_worker k done).2.2.2.1]
    simp only [List.countP_append] at here
    simp only [State.coming] at sums ⊢
    omega
  · have none := letters_of_others others
    have idle := (jobs_of_others others).1
    have same : t.coming q = s.coming q := State.total_phase_congr phases fun phase => phase.coming?.toList.countP q
    simp [none, idle, same]

/-- Of the letters that the runs decide that were begun, each was sent or is still to come. -/
theorem letters_balance (sends : config.policy = .deadLetter retries true) (few : retries.toNat + 1 < UInt64.size)
    (ran : run config (start config) actions = some (s, events)) (kept : s.sinkGone = false)
    (q : Letter (Task J) → Bool) :
    ((started events).filterMap (Job.letter? retries.toNat)).countP q = (letters events).countP q + s.coming q := by
  refine run_induction (motive := fun _ events s => s.sinkGone = false →
    ((started events).filterMap (Job.letter? retries.toNat)).countP q = (letters events).countP q + s.coming q)
    ?_ ?_ ran kept
  · intro _
    have none : (start config : State J).coming q = 0 := total_start config rfl
    simp [none, started, letters]
  · intro actions past u action new v first balance last kept
    have before := sinkGone_of_move (move_of_step last) kept
    have balance := balance before
    have here := letters_of_move (move_of_step last) (policy_of_kept sends before) few q
    simp only [started_append, letters_append, List.filterMap_append, List.countP_append]
    omega

/-- Once the loop is over, the letters that were sent to a sink that stayed are exactly those of the accepted jobs that
    all attempts failed at: for each of them one, with the job, the error of the last attempt and their number. -/
theorem letters_of_run (built : config.Buildable) (sends : config.policy = .deadLetter retries true)
    (few : retries.toNat + 1 < UInt64.size) (ran : run config (start config) actions = some (s, events))
    (kept : s.sinkGone = false) (through : s.loop.isOver = true) :
    (letters events).Perm ((accepted events).filterMap (Job.letter? retries.toNat)) := by
  classical
  have returns : AlwaysReturns J config.policy := by
    rw [sends]
    exact alwaysReturns_of_attemptLimit (attemptLimit_deadLetter few)
  have sound := sound_of_reachable built returns ⟨_, _, ran⟩
  -- whatever is counted, all that was accepted was begun
  have begun : (accepted events).Perm (started events) := by
    refine List.perm_iff_count.mpr fun task => ?_
    obtain ⟨backlog, unbegun, -⟩ := sound.over_idle through (· == task)
    have all := accepted_of_run built returns ran (· == task)
    rw [backlog, unbegun, List.countP_nil] at all
    simpa [List.count_eq_countP] using all
  refine List.Perm.trans ?_ (begun.filterMap _).symm
  refine List.perm_iff_count.mpr fun letter => ?_
  have balance := letters_balance sends few ran kept (· == letter)
  have none : s.coming (· == letter) = 0 := by
    refine State.total_eq_zero fun k m found => ?_
    simp [(sound.at_rest through found).1, Worker.Phase.coming?]
  rw [none, Nat.add_zero] at balance
  simpa [List.count_eq_countP] using balance.symm

/-- A pool of two workers that attempt a job twice and then send it to the sink. -/
def mourning : Config := ⟨"mourning", 2, 2, .deadLetter 1 true⟩

/-- A job whose attempts end like this. -/
def mortal (id : String) (script : List Attempt) : Scenario.ScriptedJob := ⟨id, none, script, false, 0⟩

/-- Of three jobs one fails and panics, one panics and panics again, and one recovers from its panic. -/
def funeral : List (Action Scenario.ScriptedJob) :=
  tried mourning ([.submit (mortal "fallen" [.failed (.plain "ill"), .panicked (.text "heart")]) false,
    .submit (mortal "lost" [.panicked .other]) false] ++ turns 9 ++
    [.submit (mortal "risen" [.panicked (.text "fright"), .succeeded]) false, .close] ++ turns 40)

theorem funeral_letters :
    (after mourning funeral).1.loop.isOver = true ∧ (accepted (after mourning funeral).2).length = 3 ∧
    (letters (after mourning funeral).2).Perm
      [⟨⟨0, { mortal "fallen" [.failed (.plain "ill"), .panicked (.text "heart")] with calls := 2 }⟩,
          ⟨"job panicked: heart", []⟩, 2⟩,
        ⟨⟨1, { mortal "lost" [.panicked .other] with calls := 2 }⟩,
          ⟨"job panicked: unknown panic payload", []⟩, 2⟩] := by
  have ran : run mourning (start mourning) funeral = some (after mourning funeral) := run_tried mourning _
  have few : (1 : UInt64).toNat + 1 < UInt64.size := by decide
  exact ⟨rfl, rfl, letters_of_run ⟨by decide, by decide⟩ rfl few ran rfl rfl⟩

end JobPool.Pool
