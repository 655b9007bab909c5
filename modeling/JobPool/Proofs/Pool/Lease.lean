import JobPool.Proofs.Pool.Soundness

/-!
The leases of a pool. At every moment a worker that did not decide to stop is in exactly one situation,
so the loop always finds room in the inbox of a worker it took out of the pool, a worker always finds
room in the pool, and the loop never finds itself without workers.
-/

namespace JobPool.Pool

variable {J : Type}

namespace State

/-- In how many situations worker `k` is: it is about to publish itself, its sender is in the pool of idle workers or in
    the hand of the loop, a job is in its inbox, or it runs a job. -/
def situations (s : State J) (k : Nat) (w : Worker (Task J)) : Nat :=
  w.phase.isPublishing.toNat + s.idle.items.count k + (s.loop.lessee == some k).toNat + w.inbox.items.length +
    w.phase.isBusy.toNat

/-- The jobs that are run now. -/
def inside (s : State J) : List (Task J) := s.members.filterMap fun m => m.worker.job?

private theorem count_out (s : State J) (k : Nat) :
    s.out.count k = s.idle.items.count k + (s.loop.lessee == some k).toNat := by
  cases lessee : s.loop.lessee with
  | none => simp [out, lessee]
  | some j => by_cases same : j = k <;> simp [out, lessee, same, Nat.add_comm]

end State

namespace Sound

variable {config : Config} {s t : State J}

private theorem situations (sound : Sound config s) {k : Nat} {m : Member (Task J)} (found : s.members[k]? = some m) :
    s.situations k m.worker ≤ 1 ∧ (m.worker.phase.isStopping = false → s.situations k m.worker = 1) := by
  have leased := (sound.seats k m found).leased
  have split : s.situations k m.worker = m.worker.phase.isPublishing.toNat + s.out.count k +
      m.worker.inbox.items.length + m.worker.phase.isBusy.toNat := by
    rw [State.situations, State.count_out]
    omega
  rw [split]
  exact ⟨leased.at_most_one, leased.eq_one⟩

theorem inside_le (sound : Sound config s) : s.inside.length ≤ config.size := by
  rw [← sound.size]
  exact List.length_filterMap_le _ _

/-- The inbox of a worker whose sender the loop holds is open and empty, so the loop can hand over its job. -/
theorem handed (sound : Sound config s) {task : Task J} {k : Nat} (loop : s.loop = .handing task k) :
    (s.hand config task k).isSome = true := by
  have out : s.out = k :: s.idle.items := by simp [State.out, loop, Loop.lessee]
  obtain ⟨m, found⟩ := sound.found (sound.listed k (by simp [out]))
  have seat := sound.seats k m found
  have leased := seat.leased
  rw [out, List.count_cons_self] at leased
  have room : m.worker.inbox.items.length < m.worker.inbox.capacity := by simp [leased.empty, seat.capacity]
  simp [State.hand, found, Channel.offer_of_room (sound.unshut loop found) room]

/-- A worker that is about to publish itself has no sender out, so there is room for it. -/
theorem admitted (sound : Sound config s) {k : Nat} {m : Member (Task J)} (found : s.members[k]? = some m)
    (phase : m.worker.phase = .publishing) : s.admission ≠ .full := by
  have leased := (sound.seats k m found).leased
  simp only [Worker.Leased, phase] at leased
  have room := sound.room (sound.inside found) (List.count_eq_zero.mp leased.1)
  have fits : s.idle.items.length < s.idle.capacity := by
    rw [sound.idleCapacity]
    simp only [State.out, List.length_append] at room
    omega
  simp only [State.admission, Channel.hasRoom, fits, decide_true, ↓reduceIte]
  split <;> simp

variable [Job J]

/-- No job is lost for want of workers. -/
theorem unlost (sound : Sound config s) (built : config.Buildable) {action : Action J} {events : List (Event J)}
    (moved : Move config s action events t) (task : Task J) : .lost task ∉ events := by
  cases moved with
  | client moved => cases moved <;> simp
  | owner moved =>
    intro lost
    cases moved with
    | joinLoop waiting through logged | joinTracker waiting through logged =>
      obtain ⟨record, same⟩ := logged _ lost
      cases same
  | loop moved =>
    cases moved with
    | lose loop empty alone => simp [sound.publishers built] at alone
    | _ => simp
  | worker | tracker | closeSink => simp
  | custom found custom => exact absurd custom (sound.not_custom found)

end Sound

variable [Job J] {config : Config} {s : State J}

/-- In every state that a pool gets into, each worker is in at most one situation, and in exactly one unless it decided
    to stop; no more jobs are run than there are workers; the loop does not wait to hand over a job; the pool is
    not full for a worker that publishes itself; and no move loses a job for want of workers. -/
theorem leases_of_reachable (built : config.Buildable) (returns : AlwaysReturns J config.policy)
    (reached : Reachable config s) :
    (∀ k m, s.members[k]? = some m →
      s.situations k m.worker ≤ 1 ∧ (m.worker.phase.isStopping = false → s.situations k m.worker = 1)) ∧
    s.inside.length ≤ config.size ∧
    (∀ task k, s.loop = .handing task k → (step config s .loop).isSome = true) ∧
    (∀ (k : Nat) (m : Member (Task J)), s.members[k]? = some m → m.worker.phase = .publishing → s.admission ≠ .full) ∧
    ∀ action t events, step config s action = some (t, events) → ∀ task, .lost task ∉ events := by
  have sound := sound_of_reachable built returns reached
  refine ⟨fun k m found => sound.situations found, sound.inside_le, ?_, fun k m found => sound.admitted found, ?_⟩
  · intro task k loop
    simp only [step, State.moveLoop, loop]
    exact sound.handed loop
  · intro action t events moved task
    exact sound.unlost built (move_of_step moved) task

/-- The worker publishes itself, and the loop takes it out of the pool for the only job. -/
def handover : List (Action Load.LoadJob) := [.worker 0, .submit (.new 0 false) false, .loop, .loop, .loop, .loop]

theorem leases_at_handover :
    (after smallest handover).1.loop = .handing ⟨0, .new 0 false⟩ 0 ∧
      (step smallest (after smallest handover).1 .loop).isSome = true := by
  refine ⟨rfl, ?_⟩
  exact (leases_of_reachable smallest_buildable smallest_returns (reachable_after _ _)).2.2.1 _ _ rfl

end JobPool.Pool
