import JobPool.Proofs.Pool.Soundness
import JobPool.Proofs.Pool.Total
import JobPool.Proofs.Tracker.Wiring
import JobPool.Proofs.Worker.Rank

/-!
How far a pool is from rest. Its rank counts what its loop, its workers, its tracker, its waiting owner
and its sink can still do without the clients, and every move of one of them lowers it (`rank_of_move`).
So without clients a pool makes no more moves than its rank (`length_le_rank`).
-/

namespace JobPool.Pool

open Worker (senderRank jobRank)

variable {J : Type}

/-- What an accepted job in the queue counts. -/
def queuedRank (limit : Nat) : Nat := jobRank limit + 4

/-- What the loop can still do with `size` workers. It asks each worker to stop, which may cost the worker a move, and
    joins it. -/
def Loop.rank {T : Type} (size limit : Nat) : Loop T → Nat
  | .receiving => 3 * size + 5
  | .seeking _ => 3 * size + 5 + jobRank limit + 3
  | .leased _ _ => 3 * size + 5 + jobRank limit + 7
  | .sampling _ _ _ => 3 * size + 5 + jobRank limit + 6
  | .handing _ _ => 3 * size + 5 + jobRank limit + 4
  | .leaving => 3 * size + 4
  | .stopping k => 2 * (size - k) + size + 3
  | .joining k => size - k + 2
  | .finishing => 1
  | .ended => 0
  | .faulted => 0

/-- What an owner that waits can still do. -/
def Owner.rank : Owner → Nat
  | .joiningLoop => 2
  | .joiningTracker => 1
  | _ => 0

/-- What a pool can still do without its clients. -/
def State.rank (size limit : Nat) (s : State J) : Nat :=
  s.queue.items.length * queuedRank limit + s.loop.rank size limit + s.idle.items.length * senderRank +
    s.total (Worker.rank limit) + s.tracker.rank + s.owner.rank + (!s.sinkGone).toNat

variable [Job J] {config : Config} {s t : State J} {events : List (Event J)} {limit : Nat}

omit [Job J] in
private theorem rank_of_ownerMove (moved : OwnerMove config s events t) :
    t.rank config.size limit < s.rank config.size limit := by
  have released := Tracker.rank_release s.tracker
  cases moved with
  | joinLoop waiting | joinTracker waiting =>
    simp only [State.rank, State.total, waiting, Owner.rank]
    omega

private theorem rank_of_workerMove {policy : Policy} {pool : Worker.Admission} {k : Nat} {m : Member (Task J)}
    {events : List (Worker.Event (Task J))} {w : Worker (Task J)} (found : s.members[k]? = some m)
    (moved : Worker.Move policy k pool m.worker events w)
    (limited : ∀ most, policy.attemptLimit = .ok most → most ≤ limit) :
    State.rank config.size limit { s.setWorker k m w with
      idle := if events.any Worker.Event.isPublished then s.idle.push k else s.idle } < s.rank config.size limit := by
  have lower := moved.rank limited
  have sums := State.total_set (t := s.setWorker k m w) found rfl (Worker.rank limit)
  cases published : events.any Worker.Event.isPublished with
  | false =>
    simp only [published, Bool.false_eq_true, ↓reduceIte, State.rank, State.total, State.setWorker] at lower sums ⊢
    omega
  | true =>
    simp only [published, ↓reduceIte, State.rank, State.total, State.setWorker, Channel.push, List.length_append,
      List.length_singleton, Nat.add_mul, Nat.one_mul] at lower sums ⊢
    omega

omit [Job J] in
private theorem rank_of_hand {task : Task J} {k : Nat} {m : Member (Task J)} (loop : s.loop = .handing task k)
    (found : s.members[k]? = some m) :
    State.rank config.size limit
        { s.setWorker k m { m.worker with inbox := m.worker.inbox.push task } with loop := .receiving } <
      s.rank config.size limit := by
  have more := Worker.rank_push limit m.worker task
  have sums := State.total_set (t := s.setWorker k m { m.worker with inbox := m.worker.inbox.push task }) found rfl
    (Worker.rank limit)
  simp only [State.rank, State.total, State.setWorker, loop, Loop.rank] at sums ⊢
  omega

omit [Job J] in
private theorem rank_of_stop (sound : Sound config s) {k : Nat} {m : Member (Task J)} (loop : s.loop = .stopping k)
    (found : s.members[k]? = some m) :
    State.rank config.size limit { s.setWorker k m m.worker.stop with loop := .stopping (k + 1) } <
      s.rank config.size limit := by
  have inside := sound.inside found
  have more := Worker.rank_stop limit m.worker
  have sums := State.total_set (t := s.setWorker k m m.worker.stop) found rfl (Worker.rank limit)
  simp only [State.rank, State.total, State.setWorker, loop, Loop.rank] at sums ⊢
  omega

omit [Job J] in
private theorem rank_of_join (sound : Sound config s) {k : Nat} {m : Member (Task J)} {w : Worker (Task J)}
    {logs : List Record}
    (loop : s.loop = .joining k) (found : s.members[k]? = some m)
    (joined : m.worker.join config.name k = some (w, logs)) :
    State.rank config.size limit { s.setWorker k m w with loop := .joining (k + 1) } < s.rank config.size limit := by
  have inside := sound.inside found
  obtain ⟨-, rfl⟩ := sound.ended_of_join loop found joined
  have same : (s.setWorker k m { m.worker with running := false }).total (Worker.rank limit) =
      s.total (Worker.rank limit) := State.total_set_same found rfl (by exact Worker.rank_congr rfl rfl rfl)
  simp only [State.rank, State.total, State.setWorker, loop, Loop.rank] at same ⊢
  omega

omit [Job J] in
/-- The workers are at rest when the loop lets go of them. -/
theorem rank_of_retire (sound : Sound config s) (loop : s.loop = .finishing) :
    (s.closeLoop .ended).rank config.size limit < s.rank config.size limit := by
  have released := Tracker.rank_release s.tracker
  have rests : (s.closeLoop .ended).total (Worker.rank limit) = 0 := by
    refine State.total_eq_zero fun k n found => ?_
    obtain ⟨ended, empty⟩ := (sound.retire loop).at_rest rfl found
    exact Worker.rank_ended ended empty
  simp only [State.rank, rests]
  simp only [State.closeLoop, loop, Loop.rank, Channel.close]
  omega

private theorem rank_of_loopMove (sound : Sound config s) (moved : LoopMove config s events t) :
    t.rank config.size limit < s.rank config.size limit := by
  cases moved with
  | receive loop first =>
    simp only [State.rank, State.total, loop, first, Loop.rank, queuedRank, List.length_cons, Nat.add_mul, Nat.one_mul]
    omega
  | lease loop first =>
    simp only [State.rank, State.total, loop, first, Loop.rank, senderRank, List.length_cons, Nat.add_mul, Nat.one_mul]
    omega
  | sample loop sent =>
    have more := Tracker.rank_send sent
    simp only [State.rank, State.total, loop, Loop.rank]
    omega
  | leave loop | lose loop | count loop | takeBack loop | announce loop =>
    simp only [State.rank, State.total, loop, Loop.rank]
    omega
  | stoppedAll loop none | joinedAll loop none =>
    simp only [State.rank, State.total, loop, Loop.rank]
    omega
  | stopCustom loop found custom => exact absurd custom (sound.not_custom found)
  | stopFaulty loop found faulty => exact absurd faulty (sound.not_faulty found)
  | joinCustom loop found custom => exact absurd custom (sound.not_custom found)
  | hand loop found => exact rank_of_hand loop found
  | stop loop found => exact rank_of_stop sound loop found
  | join loop found standard joined => exact rank_of_join sound loop found joined
  | retire loop => exact rank_of_retire sound loop

/-- Every move of a pool that is not a client's lowers its rank. -/
theorem rank_of_move (sound : Sound config s)
    (limited : ∀ most, config.policy.attemptLimit = .ok most → most ≤ limit) {action : Action J}
    (moved : Move config s action events t) (inside : action.isClient = false) :
    t.rank config.size limit < s.rank config.size limit := by
  cases moved with
  | client moved outside => simp [inside] at outside
  | owner moved => exact rank_of_ownerMove moved
  | loop moved => exact rank_of_loopMove sound moved
  | worker found moved =>
    exact rank_of_workerMove found moved (by rw [State.attemptLimit_policy]; exact limited)
  | custom found custom => exact absurd custom (sound.not_custom found)
  | tracker moved =>
    have lower := moved.rank
    simp only [State.rank, State.total]
    omega
  | closeSink unclosed =>
    simp only [State.rank, State.total, unclosed, Bool.not_false, Bool.not_true, Bool.toNat_true, Bool.toNat_false]
    omega

/-- Without its clients, a pool makes no more moves than its rank. -/
theorem length_le_rank (built : config.Buildable) (returns : AlwaysReturns J config.policy)
    (limited : ∀ most, config.policy.attemptLimit = .ok most → most ≤ limit) (reached : Reachable config s)
    {actions : List (Action J)} (inside : ∀ action ∈ actions, action.isClient = false)
    (ran : run config s actions = some (t, events)) :
    actions.length ≤ s.rank config.size limit := by
  induction actions generalizing s events with
  | nil => exact Nat.zero_le _
  | cons action rest ih =>
    obtain ⟨middle, past, later, moved, others, -⟩ := run_cons.mp ran
    have lower := rank_of_move (sound_of_reachable built returns reached) limited (move_of_step moved)
      (inside action (by simp))
    have few := ih (reached.step moved) (fun other member => inside other (by simp [member])) others
    rw [List.length_cons]
    omega

end JobPool.Pool
