import JobPool.Proofs.Pool.Lease
import JobPool.Proofs.Pool.Rank
import JobPool.Proofs.Pool.Tracking

/-!
The end of a pool. Once nobody can submit and the owner waits or let go, the pool always comes to its
end: without clients it makes only so many moves, and as long as it is not finished, one of its threads
can move. Nobody waits in a circle: the loop waits for its workers and its tracker (`Sound.loop_waits`), a
worker that was asked to stop or has no sender out waits for nobody (`Sound.worker_goes_on`), and the
tracker waits only for the loop and the owner to let go of it (`wired_of_reachable`).
-/

namespace JobPool.Pool

variable {J : Type}

/-- Every thread of the pool is over, and its owner does not wait for any. -/
structure State.Finished (s : State J) : Prop where
  loop : s.loop = .ended
  workers : ∀ m ∈ s.members, m.worker.phase = .ended
  tracker : s.tracker.isAlive = false
  owner : s.owner = .finished ∨ s.owner = .gone

variable [Job J] {config : Config} {s t : State J} {events : List (Event J)}

/-- Nobody who could not submit can submit, and no owner is back, after a move that is not a client's. -/
theorem quit_of_move (sound : Sound config s) {action : Action J} (moved : Move config s action events t)
    (inside : action.isClient = false) (alone : s.hasSenders = false) (quit : s.owner ≠ .present) :
    t.hasSenders = false ∧ t.owner ≠ .present := by
  cases moved with
  | client moved outside => simp [inside] at outside
  | owner moved => cases moved <;> exact ⟨alone, by simp⟩
  | loop moved => cases moved <;> exact ⟨alone, quit⟩
  | worker | tracker | closeSink => exact ⟨alone, quit⟩
  | custom found custom => exact absurd custom (sound.not_custom found)

private theorem quit_of_run (built : config.Buildable) (returns : AlwaysReturns J config.policy)
    (reached : Reachable config s)
    {actions : List (Action J)} (inside : ∀ action ∈ actions, action.isClient = false)
    (ran : run config s actions = some (t, events)) (alone : s.hasSenders = false) (quit : s.owner ≠ .present) :
    t.hasSenders = false ∧ t.owner ≠ .present := by
  induction actions generalizing s events with
  | nil => cases ran; exact ⟨alone, quit⟩
  | cons action rest ih =>
    obtain ⟨middle, past, later, moved, others, -⟩ := run_cons.mp ran
    obtain ⟨alone, quit⟩ := quit_of_move (sound_of_reachable built returns reached) (move_of_step moved)
      (inside action (by simp)) alone quit
    exact ih (reached.step moved) (fun other member => inside other (by simp [member])) others alone quit

namespace Sound

/-- A worker that did not end moves if it was asked to stop or has no sender out. -/
theorem worker_goes_on (sound : Sound config s) {k : Nat} {m : Member (Task J)} (found : s.members[k]? = some m)
    (unended : m.worker.phase ≠ .ended) (cause : s.loop.asks k = true ∨ s.out.count k = 0) :
    (step config s (.worker k)).isSome = true := by
  have seat := sound.seats k m found
  rw [← seat.asked] at cause
  have advanced := seat.leased.goes_on (s.policy config) k (sound.admitted found) unended cause
  simpa only [step, State.moveWorker, found, Option.isSome_map] using advanced

/-- A loop that cannot move waits for a worker to publish itself, for the tracker, or for a worker to end. -/
theorem loop_waits (sound : Sound config s) (alone : s.hasSenders = false)
    (through : s.loop.isOver = false) (waits : (step config s .loop).isSome = false) :
    (∃ task, s.loop = .seeking task ∧ s.idle.items = []) ∨
    (∃ event, s.tracker.send event = none) ∨
    ∃ k m, s.loop = .joining k ∧ s.members[k]? = some m ∧ m.worker.phase ≠ .ended := by
  simp only [step, State.moveLoop] at waits
  cases loop : s.loop with
  | receiving => cases items : s.queue.items <;> simp [loop, Channel.take?, items, alone] at waits
  | seeking task =>
    left
    cases items : s.idle.items with
    | nil => exact ⟨task, rfl, rfl⟩
    | cons k rest => simp [loop, Channel.take?, items] at waits
  | sampling task k busy =>
    right; left
    simp only [loop, Option.isSome_map] at waits
    exact ⟨.sample busy, by simpa using waits⟩
  | handing task k => simp [loop, sound.handed loop] at waits
  | joining k =>
    right; right
    simp only [loop, State.joinOne] at waits
    cases found : s.members[k]? with
    | none => simp [found] at waits
    | some m =>
      refine ⟨k, m, rfl, found, ?_⟩
      intro ended
      have standard := (sound.seats k m found).standard
      by_cases running : m.worker.running = true <;>
        simp [found, standard, Worker.join, ended, running] at waits
  | leased | leaving | stopping | finishing => simp [loop] at waits
  | ended | faulted => simp [loop, Loop.isOver] at through

/-- Until the loop is over, it or somebody it waits for moves. -/
theorem some_thread_moves (sound : Sound config s) (built : config.Buildable)
    (wired : Tracker.Wired s.handles s.tracker) (alone : s.hasSenders = false) (through : s.loop.isOver = false) :
    ∃ action : Action J, action.isThread = true ∧ (step config s action).isSome = true := by
  cases free : (step config s .loop).isSome with
  | true => exact ⟨.loop, rfl, free⟩
  | false =>
    rcases sound.loop_waits alone through free with ⟨task, loop, empty⟩ | ⟨event, full⟩ | ⟨k, m, loop, found, unended⟩
    · -- no sender is out, so the first worker is on its way to the pool
      obtain ⟨m, found⟩ := sound.found built.staffed
      have seat := sound.seats 0 m found
      have unended : m.worker.phase ≠ .ended := by
        intro ended
        have asked := seat.asked
        simp [loop, Loop.asks, Worker.asked, ended, Worker.Phase.isStopping] at asked
      have home : s.out.count 0 = 0 := by simp [State.out, loop, Loop.lessee, empty]
      exact ⟨.worker 0, rfl, sound.worker_goes_on found unended (.inr home)⟩
    · have advanced := wired.moves_on full config.name true
      exact ⟨.tracker true, rfl, by simpa only [step, State.moveTracker, Option.isSome_map] using advanced⟩
    · exact ⟨.worker k, rfl, sound.worker_goes_on found unended (.inl (by rw [loop]; rfl))⟩

/-- A pool whose threads all wait is finished. -/
theorem finished_of_stuck (sound : Sound config s) (built : config.Buildable)
    (wired : Tracker.Wired s.handles s.tracker) (alone : s.hasSenders = false) (quit : s.owner ≠ .present)
    (stuck : ∀ action : Action J, action.isThread = true → step config s action = none) : s.Finished := by
  have through : s.loop.isOver = true := by
    cases through : s.loop.isOver with
    | true => rfl
    | false =>
      obtain ⟨action, thread, free⟩ := sound.some_thread_moves built wired alone through
      simp [stuck action thread] at free
  have ended := sound.ended_of_isOver through
  have owner := stuck .owner rfl
  simp only [step, State.moveOwner, ended] at owner
  have released : s.owner.holdsTracker = false := by
    cases at_owner : s.owner <;> simp_all [Owner.holdsTracker]
  have gone : s.tracker.isAlive = false := by
    cases alive : s.tracker.isAlive with
    | false => rfl
    | true =>
      have none : s.tracker.handles = 0 := by rw [wired.handles]; simp [State.handles, released, through]
      have free := Tracker.advance_isSome config.name true alive (.inr none)
      have waits := stuck (.tracker true) rfl
      simp only [step, State.moveTracker, Option.map_eq_none_iff] at waits
      simp [waits] at free
  refine ⟨ended, ?_, gone, ?_⟩
  · intro m member
    obtain ⟨k, found⟩ := List.mem_iff_getElem?.mp member
    exact (sound.at_rest through found).1
  · cases at_owner : s.owner with
    | present => exact absurd at_owner quit
    | joiningLoop => simp [at_owner] at owner
    | joiningTracker =>
      cases status : s.tracker.status <;> simp_all [Tracker.isAlive]
    | finished => exact .inl rfl
    | gone => exact .inr rfl

end Sound

/-- No thread of a finished pool moves. -/
theorem State.Finished.stuck (finished : s.Finished) {action : Action J} (thread : action.isThread = true) :
    step config s action = none := by
  obtain ⟨loop, workers, tracker, owner⟩ := finished
  cases action with
  | owner => rcases owner with owner | owner <;> simp [step, State.moveOwner, owner]
  | loop => simp [step, State.moveLoop, loop]
  | worker k =>
    simp only [step, State.moveWorker]
    cases found : s.members[k]? with
    | none => rfl
    | some m => simp [Worker.advance, workers m (List.mem_of_getElem? found)]
  | tracker accepts =>
    cases status : s.tracker.status <;> simp_all [step, State.moveTracker, Tracker.advance, Tracker.isAlive]
  | _ => simp [Action.isThread] at thread

/-- Once nobody can submit and the owner is not present any more, a pool can make only so many moves without clients,
    and its threads stop moving exactly when all of them have ended. -/
theorem shutdown_of_reachable (built : config.Buildable) (returns : AlwaysReturns J config.policy)
    (reached : Reachable config s) (alone : s.hasSenders = false) (quit : s.owner ≠ .present) :
    ∃ bound, ∀ actions t events, (∀ action ∈ actions, action.isClient = false) →
      run config s actions = some (t, events) →
      actions.length ≤ bound ∧
      ((∀ action, action.isThread = true → step config t action = none) ↔ t.Finished) := by
  obtain ⟨limit, limited⟩ := Worker.exists_limit config.policy
  refine ⟨s.rank config.size limit, ?_⟩
  intro actions t events inside ran
  have later := reached.run ran
  obtain ⟨alone, quit⟩ := quit_of_run built returns reached inside ran alone quit
  refine ⟨length_le_rank built returns limited reached inside ran, ?_, fun finished action => finished.stuck⟩
  exact (sound_of_reachable built returns later).finished_of_stuck built
    (wired_of_reachable built returns later) alone quit

/-- The owner submits a job and waits for the end of the pool. -/
def farewell : List (Action Load.LoadJob) := [.submit (.new 0 false) false, .finish]

theorem shutdown_after_farewell :
    (after smallest farewell).1.queue.items = [⟨0, .new 0 false⟩] ∧ (after smallest farewell).1.owner = .joiningLoop ∧
      ∃ bound, ∀ actions t events, (∀ action ∈ actions, action.isClient = false) →
        run smallest (after smallest farewell).1 actions = some (t, events) →
        actions.length ≤ bound ∧
        ((∀ action, action.isThread = true → step smallest t action = none) ↔ t.Finished) :=
  ⟨rfl, rfl, shutdown_of_reachable smallest_buildable smallest_returns (reachable_after _ _) rfl (by decide)⟩

end JobPool.Pool
