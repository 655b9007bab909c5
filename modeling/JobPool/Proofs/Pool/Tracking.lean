import JobPool.Proofs.Pool.Soundness
import JobPool.Proofs.Tracker.Outlook
import JobPool.Proofs.Tracker.Wiring

/-!
What a pool does to its tracker. It lets go of a handle, sends a sample, a reset or a question, or the
tracker moves by itself (`TrackerMove`); so the tracker knows how many handles to it there are
(`wired_of_reachable`), what it will know does not get less without a reset (`outlook_of_run`), and a question
is answered with what the tracker knew when it was asked (`promises_of_run`).
-/

namespace JobPool.Pool

variable {J : Type}

/-- How many handles to the tracker there are. -/
def State.handles (s : State J) : Nat := s.owner.holdsTracker.toNat + (!s.loop.isOver).toNat

/-- What a move of a pool does to its tracker. -/
inductive TrackerMove (config : Config) (s : State J) (action : Action J) : Tracker → Prop
  | same : TrackerMove config s action s.tracker
  | release : TrackerMove config s action s.tracker.release
  | sample {task : Task J} {k : Nat} {busy : UInt64} {tracker : Tracker} (loop : s.loop = .sampling task k busy)
      (sent : s.tracker.send (.sample busy) = some tracker) : TrackerMove config s action tracker
  | reset {tracker : Tracker} (demand : action = .resetTracker) (sent : s.tracker.send .reset = some tracker) :
      TrackerMove config s action tracker
  | question {caller : Nat} {tracker : Tracker} (demand : action = .askTracker caller)
      (sent : s.tracker.send (.question caller) = some tracker) : TrackerMove config s action tracker
  | own {effects : List Tracker.Effect} {tracker : Tracker}
      (moved : Tracker.Move config.name s.tracker effects tracker) : TrackerMove config s action tracker

namespace TrackerMove

variable {config : Config} {s : State J} {action : Action J} {tracker : Tracker}

/-- A tracker that is gone stays gone. -/
theorem alive (moved : TrackerMove config s action tracker) (alive : tracker.isAlive = true) :
    s.tracker.isAlive = true := by
  cases moved with
  | same => exact alive
  | release => rwa [Tracker.alive_of_release] at alive
  | sample _ sent | reset _ sent | question _ sent => rwa [Tracker.alive_of_send sent] at alive
  | own moved => exact moved.alive

/-- Only a reset makes the outlook of a tracker worse. -/
theorem outlook (moved : TrackerMove config s action tracker) (wired : Tracker.Wired s.handles s.tracker)
    (alive : tracker.isAlive = true) (kept : action ≠ .resetTracker) :
    s.tracker.outlook.toNat ≤ tracker.outlook.toNat := by
  have before := moved.alive alive
  have unclosed : s.tracker.channel.closed = false := by rw [wired.closed, before]; rfl
  cases moved with
  | same => exact Nat.le_refl _
  | release => exact Nat.le_of_eq (congrArg UInt64.toNat (Tracker.outlook_of_release before).symm)
  | sample _ sent => rw [Tracker.outlook_of_send sent unclosed, Tracker.absorb_sample]; omega
  | reset demand => exact absurd demand kept
  | question _ sent => rw [Tracker.outlook_of_send sent unclosed]; exact Nat.le_refl _
  | own moved => exact Nat.le_of_eq (congrArg UInt64.toNat (moved.outlook alive).symm)

theorem within (moved : TrackerMove config s action tracker) {most : Nat} (within : s.tracker.Within most)
    (few : ∀ task k busy, s.loop = .sampling task k busy → busy.toNat ≤ most) : tracker.Within most := by
  cases moved with
  | same => exact within
  | release => exact within.release
  | @sample task k busy tracker loop sent =>
    refine within.send sent ?_
    rintro other ⟨⟩
    exact few task k busy loop
  | reset _ sent | question _ sent => exact within.send sent (by simp)
  | own moved => exact within.move moved

/-- A promise is kept, whatever the pool does, unless the caller asks again. -/
theorem promises (moved : TrackerMove config s action tracker) {caller least : Nat}
    (promises : Tracker.Promises caller least s.tracker) (once : action ≠ .askTracker caller) :
    Tracker.Promises caller least tracker := by
  cases moved with
  | same => exact promises
  | release => exact promises.release
  | sample _ sent | reset _ sent => exact promises.send sent (by simp)
  | @question other tracker demand sent =>
    refine promises.send sent ?_
    rintro ⟨⟩
    exact once demand
  | own moved => exact moved.keeps promises

end TrackerMove

variable [Job J] {config : Config} {s t : State J} {action : Action J} {events : List (Event J)}

theorem trackerMove_of_move (sound : Sound config s) (moved : Move config s action events t) :
    TrackerMove config s action t.tracker := by
  cases moved with
  | client moved outside =>
    cases moved with
    | reset holds sent => exact .reset rfl sent
    | ask holds alive sent => exact .question rfl sent
    | letGo => exact .release
    | _ => exact .same
  | owner moved =>
    cases moved with
    | joinLoop => exact .release
    | joinTracker => exact .same
  | loop moved =>
    cases moved with
    | sample loop sent => exact .sample loop sent
    | retire | stopFaulty => exact .release
    | _ => exact .same
  | worker | closeSink => exact .same
  | custom found custom => exact absurd custom (sound.not_custom found)
  | tracker moved => exact .own moved

/-- An answer is the tracker's, or says that there is none. -/
theorem answer_of_move (sound : Sound config s) (moved : Move config s action events t) {caller : Nat} {answer : UInt64}
    (answered : .tracker (.answer caller answer) ∈ events) :
    (action = .askTracker caller ∧ answer = 0) ∨
      ∃ effects, Tracker.Move config.name s.tracker effects t.tracker ∧ .answer caller answer ∈ effects := by
  cases moved with
  | client moved outside =>
    cases moved with
    | askNobody =>
      simp only [List.mem_singleton, Event.tracker.injEq, Tracker.Effect.answer.injEq] at answered
      obtain ⟨rfl, rfl⟩ := answered
      exact .inl ⟨rfl, rfl⟩
    | _ => simp at answered
  | owner moved =>
    cases moved with
    | joinLoop waiting through logged | joinTracker waiting through logged =>
      obtain ⟨record, same⟩ := logged _ answered
      cases same
  | loop moved => cases moved <;> simp at answered
  | worker | closeSink => simp at answered
  | custom found custom => exact absurd custom (sound.not_custom found)
  | tracker moved => exact .inr ⟨_, moved, by simpa using answered⟩

/-- The tracker knows how many handles to it there are. -/
theorem wired_of_move (ordinary : s.Ordinary) (wired : Tracker.Wired s.handles s.tracker) {action : Action J}
    (moved : Move config s action events t) : Tracker.Wired t.handles t.tracker := by
  cases moved with
  | client moved outside =>
    cases moved with
    | reset holds sent => exact wired.send sent
    | ask holds alive sent => exact wired.send sent
    | finish present => simpa [State.handles, present, Owner.holdsTracker] using wired
    | letGo present =>
      simp only [State.handles, present, Owner.holdsTracker, Bool.toNat_true] at wired
      rw [Nat.add_comm] at wired
      simpa [State.handles, Owner.holdsTracker] using wired.release
    | letGoLate finished => simpa [State.handles, finished, Owner.holdsTracker] using wired
    | _ => exact wired
  | owner moved =>
    cases moved with
    | joinLoop waiting through =>
      simp only [State.handles, waiting, through, Owner.holdsTracker, Bool.toNat_true] at wired
      simpa [State.handles, through, Owner.holdsTracker] using wired.release
    | joinTracker waiting through => simpa [State.handles, waiting, Owner.holdsTracker] using wired
  | loop moved =>
    cases moved with
    | sample loop sent =>
      have sent := wired.send sent
      rw [State.handles, loop] at sent
      exact sent
    | retire loop =>
      rw [State.handles, loop] at wired
      exact wired.release
    | stopFaulty loop found faulty => exact absurd faulty (ordinary.not_faulty found)
    | receive loop | leave loop | lease loop | lose loop | count loop | hand loop | takeBack loop | announce loop
    | stop loop | stopCustom loop | stoppedAll loop | join loop | joinCustom loop | joinedAll loop =>
      rw [State.handles, loop] at wired
      exact wired
  | worker | closeSink => exact wired
  | custom found custom => exact absurd custom (ordinary.not_custom found)
  | tracker moved => exact wired.move moved

theorem wired_of_reachable (built : config.Buildable) (returns : AlwaysReturns J config.policy)
    (reached : Reachable config s) : Tracker.Wired s.handles s.tracker := by
  have begun : Tracker.Wired (start config : State J).handles (start config : State J).tracker := Tracker.wired_new 2
  refine reachable_induction (motive := fun s => Tracker.Wired s.handles s.tracker) begun ?_ reached
  intro s action new t reached wired moved
  exact wired_of_move (sound_of_reachable built returns reached).ordinary wired (move_of_step moved)

section

variable {actions : List (Action J)} (built : config.Buildable) (returns : AlwaysReturns J config.policy)
  (reached : Reachable config s) (ran : run config s actions = some (t, events))
include built returns reached ran

theorem alive_of_run (alive : t.tracker.isAlive = true) : s.tracker.isAlive = true := by
  refine reached.run_induction (motive := fun _ _ u => u.tracker.isAlive = true →
    s.tracker.isAlive = true) id ?_ ran alive
  intro actions past u action new v reached before moved alive
  exact before ((trackerMove_of_move (sound_of_reachable built returns reached) (move_of_step moved)).alive alive)

theorem outlook_of_run (alive : t.tracker.isAlive = true) (kept : .resetTracker ∉ actions) :
    s.tracker.outlook.toNat ≤ t.tracker.outlook.toNat := by
  refine reached.run_induction (motive := fun actions _ u => u.tracker.isAlive = true → .resetTracker ∉ actions →
    s.tracker.outlook.toNat ≤ u.tracker.outlook.toNat) (fun _ _ => Nat.le_refl _) ?_ ran alive kept
  intro actions past u action new v reached before moved alive kept
  have tracked := trackerMove_of_move (sound_of_reachable built returns reached) (move_of_step moved)
  simp only [List.mem_append, List.mem_singleton, not_or] at kept
  have more := tracked.outlook (wired_of_reachable built returns reached) alive (Ne.symm kept.2)
  exact Nat.le_trans (before (tracked.alive alive) kept.1) more

/-- Every answer to a question is as promised. -/
theorem promises_of_run {caller least : Nat} (promises : Tracker.Promises caller least s.tracker)
    (once : .askTracker caller ∉ actions) {answer : UInt64} (answered : .tracker (.answer caller answer) ∈ events) :
    least ≤ answer.toNat := by
  refine (reached.run_induction (motive := fun actions events u => .askTracker caller ∉ actions →
    Tracker.Promises caller least u.tracker ∧
      ∀ answer, .tracker (.answer caller answer) ∈ events → least ≤ answer.toNat)
    (fun _ => ⟨promises, by simp⟩) ?_ ran once).2 answer answered
  intro actions past u action new v reached before moved once
  have sound := sound_of_reachable built returns reached
  simp only [List.mem_append, List.mem_singleton, not_or] at once
  obtain ⟨promises, kept⟩ := before once.1
  refine ⟨(trackerMove_of_move sound (move_of_step moved)).promises promises (Ne.symm once.2), ?_⟩
  intro answer answered
  rcases List.mem_append.mp answered with old | fresh
  · exact kept answer old
  · rcases answer_of_move sound (move_of_step moved) fresh with ⟨asked, -⟩ | ⟨effects, own, listed⟩
    · exact absurd asked.symm once.2
    · exact promises.answer own listed

end

end JobPool.Pool
