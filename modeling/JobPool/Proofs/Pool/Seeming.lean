import JobPool.Proofs.Pool.Lease
import JobPool.Proofs.Pool.Phases
import JobPool.Proofs.Pool.Tracking
import JobPool.Proofs.Worker.Load

/-!
A pool whose jobs may fault. As long as the loop takes jobs, nobody joins a worker, so that a worker that
crashed only seems never to get round to publishing itself; the pool as it seems is sound
(`sound_of_seeming`). What does not depend on the workers holds as well: they stay of the standard kind,
the tracker stays wired, and once the loop left, nobody can submit (`alone_of_reachable`).
-/

namespace JobPool.Pool

variable {J : Type}

/-- The pool as it seems to those who do not join its workers. -/
def State.seeming (s : State J) : State J :=
  { s with members := s.members.map fun m => { m with worker := m.worker.seeming } }

theorem seeming_found {s : State J} {k : Nat} {m : Member (Task J)} (found : s.members[k]? = some m) :
    s.seeming.members[k]? = some { m with worker := m.worker.seeming } := by
  simp [State.seeming, found]

/-- The seeming pool after one worker changed. -/
theorem seeming_setWorker (s : State J) (k : Nat) (m : Member (Task J)) (w : Worker (Task J)) :
    (s.setWorker k m w).seeming = s.seeming.setWorker k { m with worker := m.worker.seeming } w.seeming := by
  simp [State.seeming, State.setWorker, List.map_set]

/-- A job can be handed over if it seems so. -/
theorem hand_seeming (config : Config) (s : State J) (task : Task J) (k : Nat) :
    (s.seeming.hand config task k).isSome = (s.hand config task k).isSome := by
  unfold State.hand
  cases found : s.members[k]? with
  | none => simp [State.seeming, found]
  | some m =>
    rw [seeming_found found]
    simp only [Worker.seeming]
    cases m.worker.inbox.offer task <;> rfl

/-- The invariant after a worker changed, given that it is still seated as before. -/
theorem Sound.reseat {config : Config} {s : State J} {k : Nat} {m : Member (Task J)} {w : Worker (Task J)}
    (sound : Sound config s) (found : s.members[k]? = some m) (seat : s.Seated k { m with worker := w }) :
    Sound config (s.setWorker k m w) where
  size := by simpa [State.setWorker] using sound.size
  seats := sound.seats_set found rfl seat fun _ _ _ seated => seated
  idleCapacity := sound.idleCapacity
  listed := sound.listed
  idleClosed := sound.idleClosed
  queueClosed := sound.queueClosed
  unfaulted := sound.unfaulted
  drained := sound.drained

variable [Job J] {config : Config} {s t : State J} {action : Action J} {events : List (Event J)}

/-- No worker changes its kind. -/
theorem kinds_of_move (moved : Move config s action events t) : t.members.map (·.kind) = s.members.map (·.kind) := by
  cases moved with
  | client moved => cases moved <;> rfl
  | owner moved => cases moved <;> rfl
  | loop moved =>
    cases moved with
    | hand loop found | stop loop found | join loop found => exact State.map_members_set _ found rfl rfl
    | stopFaulty | retire => simp [State.closeLoop, Function.comp_def]
    | _ => rfl
  | worker found => exact State.map_members_set _ found rfl rfl
  | custom found custom moved =>
    obtain ⟨-, idle, m', rfl, kind, -⟩ := of_moveCustom found moved
    exact State.map_members_set _ found rfl kind
  | tracker | closeSink => rfl

private theorem kinds_of_reachable (reached : Reachable config s) :
    s.members.map (·.kind) = List.replicate config.size .standard := by
  refine reachable_induction (motive := fun s => s.members.map (·.kind) = List.replicate config.size .standard) ?_ ?_
    reached
  · simp [start, State.new]
  · intro s action new t reached kinds moved
    rw [kinds_of_move (move_of_step moved), kinds]

theorem ordinary_of_reachable (reached : Reachable config s) : s.Ordinary := by
  intro k m found
  have kind : (s.members.map (·.kind))[k]? = some m.kind := by simp [found]
  rw [kinds_of_reachable reached] at kind
  exact List.eq_of_mem_replicate (List.mem_of_getElem? kind)

theorem publishers_of_reachable (built : config.Buildable) (reached : Reachable config s) : s.hasPublishers = true := by
  have size : s.members.length = config.size := by
    simpa using congrArg List.length (kinds_of_reachable reached)
  have inside : 0 < s.members.length := by rw [size]; exact built.staffed
  exact (ordinary_of_reachable reached).publishers (List.getElem?_eq_getElem inside)

theorem wired_of_ordinary (reached : Reachable config s) : Tracker.Wired s.handles s.tracker := by
  have begun : Tracker.Wired (start config : State J).handles (start config : State J).tracker := Tracker.wired_new 2
  refine reachable_induction (motive := fun s => Tracker.Wired s.handles s.tracker) begun ?_ reached
  intro s action new t reached wired moved
  exact wired_of_move (ordinary_of_reachable reached) wired (move_of_step moved)

/-- Nobody gets to submit again once nobody can. -/
theorem alone_of_move (ordinary : s.Ordinary) (moved : Move config s action events t) (alone : s.hasSenders = false) :
    t.hasSenders = false := by
  obtain ⟨own, others, waiting⟩ := hasSenders_eq_false.mp alone
  cases moved with
  | client moved =>
    cases moved with
    | enter sender | queueUp sender => simp [alone] at sender
    | letIn found | sendBack found => simp [waiting] at found
    | share sender => simp [own] at sender
    | drop | close | finish | letGo => simp [hasSenders_eq_false, own, others, waiting]
    | turnAway | finishAgain | letGoLate | reset | resetNobody | ask | askNobody => exact alone
  | owner moved => cases moved <;> exact alone
  | loop moved => cases moved <;> exact alone
  | worker | tracker | closeSink => exact alone
  | custom found custom => exact absurd custom (ordinary.not_custom found)

/-- The loop leaves its work for good, and only when nobody can submit. -/
theorem left_of_move (publishers : s.hasPublishers = true) (ordinary : s.Ordinary)
    (moved : Move config s action events t) (left : t.loop.hasLeft = true) :
    s.loop.hasLeft = true ∨ s.hasSenders = false := by
  cases moved with
  | client moved => cases moved <;> exact .inl left
  | owner moved => cases moved <;> exact .inl left
  | loop moved =>
    cases moved with
    | leave loop empty alone => exact .inr alone
    | lose loop empty none => simp [publishers] at none
    | receive | lease | count | sample | hand | takeBack => simp [Loop.hasLeft] at left
    | announce loop | stop loop | stopCustom loop | stopFaulty loop | stoppedAll loop | join loop | joinCustom loop
    | joinedAll loop | retire loop => exact .inl (by rw [loop]; rfl)
  | worker | tracker | closeSink => exact .inl left
  | custom found custom => exact absurd custom (ordinary.not_custom found)

theorem alone_of_reachable (built : config.Buildable) (reached : Reachable config s) (left : s.loop.hasLeft = true) :
    s.hasSenders = false := by
  refine reachable_induction (motive := fun s => s.loop.hasLeft = true → s.hasSenders = false) ?_ ?_ reached left
  · simp [start, State.new, Loop.hasLeft]
  · intro s action new t reached before moved left
    have ordinary := ordinary_of_reachable reached
    have made := move_of_step moved
    rcases left_of_move (publishers_of_reachable built reached) ordinary made left with before' | alone
    · exact alone_of_move ordinary made (before before')
    · exact alone_of_move ordinary made alone

/-- The loop that takes jobs now took jobs before. -/
theorem stays_of_move (moved : Move config s action events t) (ordinary : s.Ordinary)
    (stays : t.loop.hasLeft = false) : s.loop.hasLeft = false := by
  cases moved with
  | client moved => cases moved <;> exact stays
  | owner moved => cases moved <;> exact stays
  | loop moved =>
    cases moved with
    | receive loop | lease loop | count loop | sample loop | hand loop | takeBack loop => rw [loop]; rfl
    | stopFaulty loop found faulty => exact absurd faulty (ordinary.not_faulty found)
    | _ => simp [Loop.hasLeft, State.closeLoop] at stays
  | worker | tracker | closeSink => exact stays
  | custom found custom => exact absurd custom (ordinary.not_custom found)

namespace Sound

omit [Job J] in
/-- A worker crashes in the eyes of others as if it went to publish itself. -/
theorem crash (sound : Sound config s.seeming) (stays : s.loop.hasLeft = false) {k : Nat} {m : Member (Task J)}
    (found : s.members[k]? = some m) {task : Task J} {draining : Bool} (phase : m.worker.phase =
      .starting task draining) :
    Sound config (s.setWorker k m { m.worker with phase := .crashed }).seeming := by
  have seat := sound.seats k _ (seeming_found found)
  have intact : m.worker.phase ≠ .crashed := by simp [phase]
  rw [seeming_setWorker]
  refine sound.reseat (seeming_found found) ?_
  rw [Worker.seeming_of_intact intact] at seat
  have unasked : s.seeming.loop.asks k = false := Loop.asks_of_stays stays k
  have asked := seat.asked
  have shut := seat.shut
  have leased := seat.leased
  have ended := seat.ended
  simp only [phase, Worker.asked, Worker.Phase.isShut, Worker.Phase.isStopping,
    Worker.Leased] at asked shut leased ended
  -- nobody asked the worker to stop, so that it crashed in the midst of its work
  obtain ⟨pending, rfl⟩ : m.worker.stopPending = false ∧ draining = false := by simpa [unasked] using asked
  exact {
    standard := seat.standard
    capacity := seat.capacity
    leased := leased
    shut := shut
    asked := by simp [Worker.asked, Worker.seeming, Worker.Phase.seeming, Worker.Phase.isStopping, pending, unasked]
    running := seat.running
    ended := fun joined => by simpa using ended joined
    abandoned := seat.abandoned }

/-- As long as the loop takes jobs, every move keeps the invariant of the pool as it seems. -/
theorem seemingMove (sound : Sound config s.seeming) (built : config.Buildable) (ordinary : s.Ordinary)
    (moved : Move config s action events t) (stays : t.loop.hasLeft = false) : Sound config t.seeming := by
  have stayed := stays_of_move moved ordinary stays
  have vacuous : ∀ {p : Prop}, s.seeming.loop.hasLeft = true → p := fun {p} left => by
    have same : s.seeming.loop.hasLeft = s.loop.hasLeft := rfl
    simp [same, stayed] at left
  cases moved with
  | client moved =>
    cases moved <;> exact sound.frame rfl rfl rfl rfl vacuous
  | owner moved => cases moved <;> exact sound.frame rfl rfl rfl rfl vacuous
  | loop moved =>
    cases moved with
    | receive loop first => exact sound.loop built (.receive loop first)
    | lease loop first => exact sound.loop built (.lease loop first)
    | count loop => exact sound.loop built (.count loop)
    | sample loop sent => exact sound.loop built (.sample loop sent)
    | takeBack loop found shut => exact sound.loop built (.takeBack loop (seeming_found found) shut)
    | @hand task k m loop found unshut room =>
      have handed := sound.hand loop (seeming_found found) unshut
      have members := congrArg State.members (seeming_setWorker s k m
        { m.worker with inbox := m.worker.inbox.push task })
      exact handed.frame members rfl rfl rfl handed.drained
    | stopFaulty loop found faulty => exact absurd faulty (ordinary.not_faulty found)
    | _ => simp [Loop.hasLeft, State.closeLoop] at stays
  | @worker k m done w found own =>
    have before := own.intact_before
    by_cases crashed : w.phase = .crashed
    · cases own with
      | crash phase => exact sound.crash stayed found phase
      | @finish job attempt limit draining => cases draining <;> simp at crashed
      | _ => simp at crashed
    · have here := seeming_found found
      have members := congrArg State.members (seeming_setWorker s k m w)
      rw [Worker.seeming_of_intact before] at here members
      rw [Worker.seeming_of_intact crashed] at members
      have moved := sound.worker here own crashed
      exact moved.frame members rfl rfl rfl moved.drained
  | custom found custom => exact absurd custom (ordinary.not_custom found)
  | tracker | closeSink => exact sound.frame rfl rfl rfl rfl vacuous

end Sound

/-- As long as the loop takes jobs, the pool as it seems is sound, whether runs of jobs fault or not. -/
theorem sound_of_seeming (built : config.Buildable) (reached : Reachable config s) (stays : s.loop.hasLeft = false) :
    Sound config s.seeming := by
  refine reachable_induction (motive := fun s => s.loop.hasLeft = false → Sound config s.seeming) ?_ ?_ reached stays
  · intro _
    have fresh : (start config : State J).seeming = start config := by
      simp [State.seeming, start, State.new, Worker.seeming, Worker.Phase.seeming, Worker.start, Worker.new]
    rw [fresh]
    exact sound_start
  · intro s action new t reached before moved stays
    have ordinary := ordinary_of_reachable reached
    have made := move_of_step moved
    exact (before (stays_of_move made ordinary stays)).seemingMove built ordinary made stays

end JobPool.Pool
