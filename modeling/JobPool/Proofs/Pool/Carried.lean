import JobPool.Proofs.Pool.Utilization

/-!
A pool whose jobs change while they are run. What is known of a pool that makes moves (`Carried.move`) is still known
after a worker put another job in the place of the one that it runs, as long as an attempt leaves the same of both
(`Carried.rework`).
-/

namespace JobPool.Pool

variable {J : Type}

/-- The owner that waited for the loop waited until it was over, and who waited for the tracker until it was gone. -/
structure Rests (s : State J) : Prop where
  joined : s.owner = .joiningTracker → s.loop.isOver = true
  finished : s.owner = .finished → s.loop.isOver = true ∧ s.tracker.isAlive = false

variable [Job J] {config : Config} {s t : State J} {action : Action J} {events : List (Event J)}

/-- A loop that is over makes no move, and nobody else sets it going again. -/
theorem over_of_move (sound : Sound config s) (moved : Move config s action events t)
    (through : s.loop.isOver = true) : t.loop = s.loop := by
  cases moved with
  | client moved outside => cases moved <;> rfl
  | owner moved => cases moved <;> rfl
  | worker | tracker | closeSink => rfl
  | custom found custom => exact absurd custom (sound.not_custom found)
  | loop moved =>
    have ended := sound.ended_of_isOver through
    cases moved <;> simp_all

private theorem rests_of_move (sound : Sound config s) (rests : Rests s) (moved : Move config s action events t) :
    Rests t := by
  have stays : s.loop.isOver = true → t.loop.isOver = true := by
    intro through
    rw [over_of_move sound moved through]
    exact through
  have gone : s.tracker.isAlive = false → t.tracker.isAlive = false := by
    intro gone
    by_contra alive
    rw [(trackerMove_of_move sound moved).alive (by simpa using alive)] at gone
    cases gone
  have kept : t.owner = s.owner → Rests t := by
    intro same
    refine ⟨fun joining => ?_, fun finished => ?_⟩
    · rw [same] at joining
      exact stays (rests.joined joining)
    · rw [same] at finished
      obtain ⟨through, dead⟩ := rests.finished finished
      exact ⟨stays through, gone dead⟩
  cases moved with
  | client moved outside =>
    cases moved with
    | finish | letGo | letGoLate => exact ⟨by simp, by simp⟩
    | _ => exact kept rfl
  | owner moved =>
    cases moved with
    | joinLoop waiting through => exact ⟨fun _ => through, by simp⟩
    | joinTracker waiting through =>
      refine ⟨by simp, fun _ => ⟨rests.joined waiting, ?_⟩⟩
      simpa [Tracker.isAlive] using through
  | loop moved => cases moved <;> exact kept rfl
  | worker | tracker | closeSink => exact kept rfl
  | custom found custom => exact absurd custom (sound.not_custom found)

section working

variable {k : Nat} {m : Member (Task J)} {task next : Task J} {attempt limit : Nat} {draining : Bool}

omit [Job J] in
/-- The pool does not see what becomes of a job while it is run. -/
theorem Sound.rework (sound : Sound config s) (found : s.members[k]? = some m)
    (working : m.worker.phase = .working task attempt limit draining) (next : Task J) :
    Sound config (s.setWorker k m { m.worker with phase := .working next attempt limit draining }) := by
  have seat := sound.seats k m found
  refine sound.setWorker found ⟨seat.standard, seat.capacity, ?_, ?_, ?_, seat.running, ?_, seat.abandoned⟩
  · simpa [Worker.Leased, working] using seat.leased
  · simpa [Worker.Phase.isShut, Worker.Phase.isStopping, working] using seat.shut
  · simpa [Worker.asked, Worker.Phase.isStopping, working] using seat.asked
  · intro joined
    rw [seat.ended joined] at working
    cases working

/-- A job that is run stays the job that it was, as far as attempts do not change it. -/
theorem Booked.rework (found : s.members[k]? = some m) (working : m.worker.phase = .working task attempt limit draining)
    (same : (Job.attempt next).2 = (Job.attempt task).2) :
    Booked s [] (s.setWorker k m { m.worker with phase := .working next attempt limit draining }) where
  order := by simp [State.backlog, State.setWorker, accepted, handed]
  begun := by
    intro p
    have kept : (s.setWorker k m { m.worker with phase := .working next attempt limit draining }).unbegun p =
        s.unbegun p := by
      refine State.total_set_same found rfl ?_
      simp [Worker.held, Worker.taken?, working]
    rw [kept]
    rfl
  ended := by
    intro p lasting
    have kept : (s.setWorker k m { m.worker with phase := .working next attempt limit draining }).underway p =
        s.underway p := by
      refine State.total_set_same found rfl ?_
      have alike : p next = p task := by rw [← lasting next, same, lasting task]
      simp [Worker.job?, working, alike]
    rw [kept]
    rfl
  answered := fun _ => rfl

omit [Job J] in
private theorem State.Gauged.rework (gauged : s.Gauged config) (found : s.members[k]? = some m)
    (working : m.worker.phase = .working task attempt limit draining) (next : Task J) :
    (s.setWorker k m { m.worker with phase := .working next attempt limit draining }).Gauged config := by
  have kept : (s.setWorker k m { m.worker with phase := .working next attempt limit draining }).occupied =
      s.occupied := by
    refine State.total_set_same found rfl ?_
    simp [Worker.occupied, Worker.Phase.isBusy, working]
  intro task number busy loop
  rw [kept]
  exact gauged task number busy loop

end working

/-- What is known of a pool, given what happened in it. -/
structure Carried (config : Config) (past : List (Event J)) (s : State J) : Prop where
  sound : Sound config s
  booked : Booked (start config) past s
  wired : Tracker.Wired s.handles s.tracker
  gauged : s.Gauged config
  rests : Rests s

theorem carried_start (config : Config) : Carried config [] (start config : State J) where
  sound := sound_start
  booked := .refl _
  wired := Tracker.wired_new 2
  gauged := by simp [State.Gauged, start, State.new]
  rests := ⟨by simp [start, State.new], by simp [start, State.new]⟩

theorem Carried.move {past : List (Event J)} (carried : Carried config past s) (built : config.Buildable)
    (returns : AlwaysReturns J config.policy) (moved : Move config s action events t) :
    Carried config (past ++ events) t where
  sound := carried.sound.move built returns moved
  booked := carried.booked.trans (booked_of_move carried.sound built returns moved)
  wired := wired_of_move carried.sound.ordinary carried.wired moved
  gauged := gauged_of_move carried.sound built carried.gauged moved
  rests := rests_of_move carried.sound carried.rests moved

theorem Carried.rework {past : List (Event J)} (carried : Carried config past s) {k : Nat} {m : Member (Task J)}
    {task next : Task J} {attempt limit : Nat} {draining : Bool} (found : s.members[k]? = some m)
    (working : m.worker.phase = .working task attempt limit draining)
    (same : (Job.attempt next).2 = (Job.attempt task).2) :
    Carried config past (s.setWorker k m { m.worker with phase := .working next attempt limit draining }) where
  sound := carried.sound.rework found working next
  booked := by
    have booked := carried.booked.trans (.rework found working same)
    rwa [List.append_nil] at booked
  wired := carried.wired
  gauged := carried.gauged.rework found working next
  rests := ⟨carried.rests.joined, carried.rests.finished⟩

/-- Once the loop is over, the runs of all jobs that were let in are over. -/
theorem Carried.returned {past : List (Event J)} (carried : Carried config past s) (through : s.loop.isOver = true)
    {p : Task J → Bool} (lasting : ∀ task, p (Job.attempt task).2 = p task) :
    (returned past).countP p = (accepted past).countP p := by
  obtain ⟨backlog, unbegun, underway⟩ := carried.sound.over_idle through p
  have all := carried.booked.accepted_eq p
  have begun := carried.booked.started_eq lasting
  rw [backlog, unbegun, List.countP_nil] at all
  rw [underway] at begun
  omega

end JobPool.Pool
