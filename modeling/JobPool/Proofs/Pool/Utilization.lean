import JobPool.Proofs.Pool.Delivery
import JobPool.Proofs.Pool.Lease
import JobPool.Proofs.Pool.Tracking

/-!
What the tracker says about the workers. A worker that was handed a job is neither in the pool of idle
workers nor in the hand of the loop (`occupied_add_out_le`), so the loop counts it as busy when it
samples the next job (`Gauged`); from a sample on, the tracker will know of all workers with a job until
it is told to forget (`Covered`). As every job is sampled before it is run (`sampled_of_run`), an answer
is at least the number of the jobs that were run together at an earlier moment (`inside_le_answer`).
-/

namespace JobPool.Pool

variable {J : Type}

/-- The loop is about to hand a job over, and told the tracker. -/
def Loop.isHanding {T : Type} : Loop T → Bool
  | .handing _ _ => true
  | _ => false

namespace State

/-- How many jobs the workers were handed and are not through with. -/
def occupied (s : State J) : Nat := s.total Worker.occupied

/-- A sample that the loop took counts the workers with a job, and the one that it is about to give one. -/
def Gauged (config : Config) (s : State J) : Prop :=
  ∀ task k busy, s.loop = .sampling task k busy → s.occupied + 1 ≤ busy.toNat ∧ busy.toNat ≤ config.size

/-- A tracker that is alive will know of all workers with a job. -/
def Covered (s : State J) : Prop :=
  s.tracker.isAlive = true → s.occupied + s.loop.isHanding.toNat ≤ s.tracker.outlook.toNat

/-- Every job that is run keeps a worker occupied. -/
theorem inside_le_occupied (s : State J) : s.inside.length ≤ s.occupied := by
  have counted : s.inside.length = s.total fun w => w.job?.toList.length := by
    unfold inside total
    induction s.members with
    | nil => rfl
    | cons m rest ih => cases job : m.worker.job? <;> simp [job, ih, Nat.add_comm]
  rw [counted]
  refine total_le fun w => ?_
  cases phase : w.phase <;> simp [Worker.job?, Worker.occupied, Worker.Phase.isBusy, phase]

end State

variable {config : Config} {s t : State J}

/-- A worker with a job has no sender out. -/
theorem Sound.occupied_add_out_le (sound : Sound config s) : s.occupied + s.out.length ≤ config.size := by
  rw [← sound.size]
  refine State.total_add_length_le (fun k m found => (sound.seats k m found).leased.occupied) ?_
  rw [sound.size]
  exact sound.listed

/-- The loop never counts more idle workers than there are, and not even all. -/
theorem Sound.count (sound : Sound config s) {task : Task J} {k : Nat} (loop : s.loop = .leased task k) :
    s.occupied + 1 + s.idle.items.length ≤ config.size := by
  have few := sound.occupied_add_out_le
  simp only [State.out, loop, Loop.lessee, Option.toList_some, List.singleton_append, List.length_cons] at few
  omega

variable [Job J] {action : Action J} {actions : List (Action J)} {events : List (Event J)}

theorem gauged_of_move (sound : Sound config s) (built : config.Buildable) (gauged : s.Gauged config)
    (moved : Move config s action events t) : t.Gauged config := by
  cases moved with
  | client moved outside => cases moved <;> exact gauged
  | owner moved => cases moved <;> exact gauged
  | tracker | closeSink => exact gauged
  | custom found custom => exact absurd custom (sound.not_custom found)
  | @worker k m events w found moved =>
    intro task number busy loop
    obtain ⟨all, few⟩ := gauged task number busy loop
    have least := moved.occupied
    have sums := State.total_set (t := s.setWorker k m w) found rfl Worker.occupied
    refine ⟨?_, few⟩
    simp only [State.occupied, State.total, State.setWorker] at all sums ⊢
    omega
  | loop moved =>
    intro task number busy loop
    cases moved with
    | count leased =>
      have room := sound.count leased
      have word := built.word
      simp only [Loop.sampling.injEq] at loop
      obtain ⟨rfl, rfl, rfl⟩ := loop
      rw [UInt64.toNat_ofNat_of_lt' (by omega)]
      simp only [State.occupied, State.total] at room ⊢
      omega
    | _ => simp [State.closeLoop] at loop

private theorem gauged_of_reachable (built : config.Buildable) (returns : AlwaysReturns J config.policy)
    (reached : Reachable config s) : s.Gauged config := by
  refine reachable_induction (motive := fun s => s.Gauged config) (by simp [State.Gauged, start, State.new]) ?_ reached
  intro s action new t reached gauged moved
  exact gauged_of_move (sound_of_reachable built returns reached) built gauged (move_of_step moved)

/-- Nothing that the tracker knows or is told is greater than the number of workers. -/
theorem within_of_reachable (built : config.Buildable) (returns : AlwaysReturns J config.policy)
    (reached : Reachable config s) : s.tracker.Within config.size := by
  have begun : (start config : State J).tracker.Within config.size :=
    ⟨Nat.zero_le _, by simp [start, State.new, Tracker.new, Channel.empty]⟩
  refine reachable_induction (motive := fun s => s.tracker.Within config.size) begun ?_ reached
  intro s action new t reached within moved
  have tracked := trackerMove_of_move (sound_of_reachable built returns reached) (move_of_step moved)
  exact tracked.within within fun task k busy loop => (gauged_of_reachable built returns reached task k busy loop).2

/-- Once a sample was sent, the tracker will know of all workers with a job. -/
theorem covered_of_sample (gauged : s.Gauged config) (wired : Tracker.Wired s.handles s.tracker)
    {task : Task J} {k : Nat} {busy : UInt64} (loop : s.loop = .sampling task k busy)
    (moved : LoopMove config s events t) : t.Covered := by
  cases moved with
  | sample _ sent =>
    rename_i same
    rw [loop] at same
    cases same
    intro alive
    have before : s.tracker.isAlive = true := by rw [← Tracker.alive_of_send sent]; exact alive
    have unclosed : s.tracker.channel.closed = false := by rw [wired.closed, before]; rfl
    have all := (gauged task k busy loop).1
    rw [Tracker.outlook_of_send sent unclosed, Tracker.absorb_sample]
    simp only [State.occupied, State.total, Loop.isHanding, Bool.toNat_true] at all ⊢
    omega
  | _ => simp_all

/-- Unless it sends a sample, the loop gives no worker a job that was not counted before. -/
theorem occupied_of_loopMove (sound : Sound config s) (moved : LoopMove config s events t)
    (quiet : ¬ ∃ task k busy, s.loop = .sampling task k busy) :
    t.occupied + t.loop.isHanding.toNat ≤ s.occupied + s.loop.isHanding.toNat := by
  cases moved with
  | sample loop => exact absurd ⟨_, _, _, loop⟩ quiet
  | @hand task k m loop found =>
    have sums := State.total_set (t := s.setWorker k m { m.worker with inbox := m.worker.inbox.push task }) found rfl
      Worker.occupied
    simp only [State.occupied, State.total, State.setWorker, Worker.occupied, Channel.push, List.length_append,
      List.length_singleton, loop, Loop.isHanding, Bool.toNat_true, Bool.toNat_false] at sums ⊢
    omega
  | @stop k m loop found =>
    have same : State.occupied { s.setWorker k m m.worker.stop with loop := .stopping (k + 1) } = s.occupied :=
      State.total_set_same found rfl (by rfl)
    rw [same]
    exact Nat.le_add_right _ _
  | @join k m w logs loop found standard joined =>
    obtain ⟨phase, inbox⟩ := Worker.join_same joined
    have idle : w.occupied = m.worker.occupied := by rw [Worker.occupied, Worker.occupied, phase, inbox]
    have same : State.occupied { s.setWorker k m w with loop := .joining (k + 1) } = s.occupied :=
      State.total_set_same found rfl idle
    rw [same]
    exact Nat.le_add_right _ _
  | stopFaulty loop found faulty => exact absurd faulty (sound.not_faulty found)
  | retire loop =>
    have same : (s.closeLoop .ended).occupied = s.occupied := State.total_closeLoop s .ended fun _ => rfl
    rw [same]
    exact Nat.le_add_right _ _
  | receive | leave | lease | lose | count | takeBack | announce | stopCustom | stoppedAll | joinCustom | joinedAll =>
    exact Nat.le_add_right _ _

private theorem covered_of_move (sound : Sound config s) (gauged : s.Gauged config)
    (wired : Tracker.Wired s.handles s.tracker) (covered : s.Covered) (moved : Move config s action events t)
    (kept : action ≠ .resetTracker) : t.Covered := by
  have tracked := trackerMove_of_move sound moved
  intro alive
  have before := covered (tracked.alive alive)
  have outlook := tracked.outlook wired alive kept
  cases moved with
  | client moved outside => cases moved <;> exact Nat.le_trans before outlook
  | owner moved => cases moved <;> exact Nat.le_trans before outlook
  | tracker | closeSink => exact Nat.le_trans before outlook
  | custom found custom => exact absurd custom (sound.not_custom found)
  | @worker k m events w found moved =>
    have least := moved.occupied
    have sums := State.total_set (t := s.setWorker k m w) found rfl Worker.occupied
    simp only [State.occupied, State.total, State.setWorker] at before sums outlook ⊢
    omega
  | loop moved =>
    by_cases sampling : ∃ task k busy, s.loop = .sampling task k busy
    · obtain ⟨task, k, busy, loop⟩ := sampling
      exact covered_of_sample gauged wired loop moved alive
    · exact Nat.le_trans (Nat.le_trans (occupied_of_loopMove sound moved sampling) before) outlook

private theorem covered_of_run (built : config.Buildable) (returns : AlwaysReturns J config.policy)
    (reached : Reachable config s) (covered : s.Covered) (ran : run config s actions = some (t, events))
    (kept : .resetTracker ∉ actions) : t.Covered := by
  refine reached.run_induction (motive := fun actions _ u => .resetTracker ∉ actions → u.Covered) (fun _ => covered) ?_
    ran kept
  intro actions past u action new v reached before moved kept
  simp only [List.mem_append, List.mem_singleton, not_or] at kept
  exact covered_of_move (sound_of_reachable built returns reached) (gauged_of_reachable built returns reached)
    (wired_of_reachable built returns reached) (before kept.1) (move_of_step moved) (Ne.symm kept.2)

/-- After these moves, the loop is about to send the sample that it took for the job with this ticket. -/
def SampleDue (config : Config) (ticket : Nat) (actions : List (Action J)) : Prop :=
  ∃ (s : State J) (events : List (Event J)) (task : Task J) (k : Nat) (busy : UInt64),
    run config (start config) actions = some (s, events) ∧ s.loop = .sampling task k busy ∧ task.ticket = ticket

/-- During these moves, the sample for the job with this ticket was sent. -/
def Sampled (config : Config) (ticket : Nat) (actions : List (Action J)) : Prop :=
  ∃ before after, actions = before ++ .loop :: after ∧ SampleDue config ticket before

/-- During these moves, the sample for the job with this ticket was sent, and the tracker was told to forget later. -/
def Forgotten (config : Config) (ticket : Nat) (actions : List (Action J)) : Prop :=
  ∃ before between after, actions = before ++ .loop :: (between ++ .resetTracker :: after) ∧
    SampleDue config ticket before

private theorem Sampled.append {ticket : Nat} (sampled : Sampled config ticket actions) (more : List (Action J)) :
    Sampled config ticket (actions ++ more) := by
  obtain ⟨before, after, rfl, due⟩ := sampled
  exact ⟨before, after ++ more, by simp, due⟩

/-- The loop hands over a job only after it sent the sample for it. -/
theorem handing_of_move (sound : Sound config s) (moved : Move config s action events t) {task : Task J} {k : Nat}
    (loop : t.loop = .handing task k) :
    s.loop = .handing task k ∨ (action = .loop ∧ ∃ busy, s.loop = .sampling task k busy) := by
  cases moved with
  | client moved outside => cases moved <;> exact .inl loop
  | owner moved => cases moved <;> exact .inl loop
  | worker | tracker | closeSink => exact .inl loop
  | custom found custom => exact absurd custom (sound.not_custom found)
  | loop moved =>
    cases moved with
    | sample sampling sent =>
      cases loop
      exact .inr ⟨rfl, _, sampling⟩
    | _ => simp [State.closeLoop] at loop

theorem handed_of_move (sound : Sound config s) (moved : Move config s action events t) {task : Task J}
    (member : task ∈ handed events) : ∃ k, s.loop = .handing task k := by
  obtain ⟨event, happened, same⟩ := List.mem_filterMap.mp member
  unfold Event.handed? at same
  split at same
  · cases same
    cases moved with
    | client moved outside => cases moved <;> simp at happened
    | owner moved =>
      cases moved with
      | joinLoop waiting through logged | joinTracker waiting through logged =>
        obtain ⟨record, other⟩ := logged _ happened
        cases other
    | worker | tracker | closeSink => simp at happened
    | custom found custom => exact absurd custom (sound.not_custom found)
    | loop moved =>
      cases moved with
      | hand loop =>
        simp only [List.mem_singleton, Event.handed.injEq] at happened
        obtain ⟨rfl, rfl⟩ := happened
        exact ⟨_, loop⟩
      | _ => simp at happened
  · cases same

/-- Every job that was handed to a worker was sampled before. -/
theorem sampled_of_handed (built : config.Buildable) (returns : AlwaysReturns J config.policy)
    (ran : run config (start config) actions = some (s, events)) {task : Task J} (member : task ∈ handed events) :
    Sampled config task.ticket actions := by
  refine (run_induction (motive := fun actions events s =>
    (∀ task k, s.loop = .handing task k → Sampled config task.ticket actions) ∧
      ∀ task ∈ handed events, Sampled config task.ticket actions) ?_ ?_ ran).2 task member
  · exact ⟨by simp [start, State.new], by simp [handed]⟩
  · intro actions past t action new u first before moved
    have sound := sound_of_reachable built returns ⟨_, _, first⟩
    obtain ⟨handing, done⟩ := before
    constructor
    · intro task k loop
      rcases handing_of_move sound (move_of_step moved) loop with old | ⟨rfl, busy, sampling⟩
      · exact (handing task k old).append _
      · exact ⟨actions, [], rfl, t, past, task, k, busy, first, sampling, rfl⟩
    · intro task member
      rw [handed_append] at member
      rcases List.mem_append.mp member with old | fresh
      · exact (done task old).append _
      · obtain ⟨k, loop⟩ := handed_of_move sound (move_of_step moved) fresh
        exact (handing task k loop).append _

omit [Job J] in
theorem underway_eq (s : State J) (p : Task J → Bool) : s.underway p = s.inside.countP p := by
  unfold State.underway State.total State.inside
  induction s.members with
  | nil => rfl
  | cons m rest ih =>
    cases job : m.worker.job? <;> simp [job, ih, List.countP_cons, Nat.add_comm]

/-- Every job that is run was sampled before. -/
theorem sampled_of_run (built : config.Buildable) (returns : AlwaysReturns J config.policy)
    (ran : run config (start config) actions = some (s, events)) {task : Task J} (member : task ∈ s.inside) :
    Sampled config task.ticket actions := by
  have now : 0 < s.inside.countP (hasTicket task.ticket) := List.countP_pos_iff.mpr ⟨task, member, by simp [hasTicket]⟩
  have begun := started_of_run built returns ran task.ticket
  rw [underway_eq] at begun
  have handedOver := (booked_of_run built returns ran).begun (hasTicket task.ticket)
  rw [unbegun_start] at handedOver
  have some : 0 < (handed events).countP (hasTicket task.ticket) := by omega
  obtain ⟨other, listed, same⟩ := List.countP_pos_iff.mp some
  have ticket : other.ticket = task.ticket := by simpa [hasTicket] using same
  rw [← ticket]
  exact sampled_of_handed built returns ran listed

/-- A caller that does not wait for another answer asks the living tracker of a pool whose owner is present, and gets
    this answer before it asks again. -/
def State.Answers (config : Config) (s : State J) (caller : Nat) (answer : UInt64) : Prop :=
  s.owner = .present ∧ s.tracker.isAlive = true ∧ .question caller ∉ s.tracker.channel.items ∧
    ∃ asked new later t events, step config s (.askTracker caller) = some (asked, new) ∧
      run config asked later = some (t, events) ∧ .askTracker caller ∉ later ∧
      .tracker (.answer caller answer) ∈ events

/-- An answer is at least what the tracker would know anyway. -/
theorem outlook_le_answer (built : config.Buildable) (returns : AlwaysReturns J config.policy)
    (reached : Reachable config s) {caller : Nat} {answer : UInt64} (answers : s.Answers config caller answer) :
    s.tracker.outlook.toNat ≤ answer.toNat := by
  obtain ⟨present, alive, fresh, asked, new, later, t, events, asking, ran, once, answered⟩ := answers
  have unclosed : s.tracker.channel.closed = false := by
    rw [(wired_of_reachable built returns reached).closed, alive]; rfl
  have holds : s.owner.holdsTracker = true := by rw [present]; rfl
  have next := reached.step asking
  simp only [step, State.ask, State.tell, holds, alive, Bool.and_self, ↓reduceIte, Option.map_eq_some_iff] at asking
  obtain ⟨middle, ⟨tracker, sent, rfl⟩, same⟩ := asking
  cases same
  exact promises_of_run built returns next ran (Tracker.promises_ask sent unclosed fresh (Nat.le_refl _)) once answered

/-- No more jobs were run at one moment than a later answer says, unless the tracker was told to forget after the sample
    for `task`, which may be any of these jobs. -/
theorem inside_le_answer (built : config.Buildable) (returns : AlwaysReturns J config.policy)
    {before between : List (Action J)} {past more : List (Event J)} {u : State J}
    (begun : run config (start config) before = some (s, past)) (ran : run config s between = some (u, more))
    {caller : Nat} {answer : UInt64} (answers : u.Answers config caller answer) {task : Task J}
    (member : task ∈ s.inside) :
    s.inside.length ≤ answer.toNat ∨ Forgotten config task.ticket (before ++ between) := by
  obtain ⟨first, after, rfl, due⟩ := sampled_of_run built returns begun member
  by_cases forgotten : .resetTracker ∈ after ++ between
  · right
    obtain ⟨kept, lost, split⟩ := List.append_of_mem forgotten
    exact ⟨first, kept, lost, by rw [List.append_assoc, List.cons_append, split], due⟩
  · left
    obtain ⟨x, earlier, waiting, k, busy, reachedX, sampling, -⟩ := due
    obtain ⟨x', earlier', rest, same, onward, -⟩ := run_split begun
    rw [reachedX] at same
    cases same
    obtain ⟨y, sent, rest, sending, running, -⟩ := run_cons.mp onward
    have there : Reachable config x := ⟨_, _, reachedX⟩
    have here : Reachable config s := ⟨_, _, begun⟩
    simp only [List.mem_append, not_or] at forgotten
    -- from the sample on, the tracker will know of all workers with a job, so it does at `s`
    have covered : y.Covered := by
      exact covered_of_sample (gauged_of_reachable built returns there) (wired_of_reachable built returns there)
        sampling (loopMove_of_moveLoop sending)
    have alive := alive_of_run built returns here ran answers.2.1
    have now := covered_of_run built returns (there.step sending) covered running forgotten.1 alive
    have onwards := outlook_of_run built returns here ran answers.2.1 forgotten.2
    have answered := outlook_le_answer built returns (here.run ran) answers
    have few := s.inside_le_occupied
    omega

/-- No answer is greater than the number of workers. -/
theorem answer_le (built : config.Buildable) (returns : AlwaysReturns J config.policy)
    (ran : run config (start config) actions = some (s, events)) {caller : Nat} {answer : UInt64}
    (answered : .tracker (.answer caller answer) ∈ events) : answer.toNat ≤ config.size := by
  refine (reachable_start config).run_induction (motive := fun _ events _ => ∀ caller answer,
    .tracker (.answer caller answer) ∈ events → answer.toNat ≤ config.size) (by simp) ?_ ran caller answer answered
  intro actions past t action new u reached before moved caller answer answered
  rcases List.mem_append.mp answered with old | fresh
  · exact before caller answer old
  · rcases answer_of_move (sound_of_reachable built returns reached) (move_of_step moved) fresh with
      ⟨-, rfl⟩ | ⟨effects, own, listed⟩
    · exact Nat.zero_le _
    · rw [(own.answer_eq listed).1]
      exact (within_of_reachable built returns reached).1

/-- The loop never finds as many idle workers as there are workers, so it samples between one and all of them; no
    answer is greater than the number of workers; and no answer is less than the number of jobs that were run together at
    an earlier moment, unless the tracker was told to forget after the sample for each of these jobs. -/
theorem utilization_of_run (built : config.Buildable) (returns : AlwaysReturns J config.policy)
    (ran : run config (start config) actions = some (s, events)) :
    (∀ task k, s.loop = .leased task k → s.idle.items.length < config.size) ∧
    (∀ task k busy, s.loop = .sampling task k busy → 1 ≤ busy.toNat ∧ busy.toNat ≤ config.size) ∧
    (∀ caller answer, .tracker (.answer caller answer) ∈ events → answer.toNat ≤ config.size) ∧
    ∀ between more u caller answer, run config s between = some (u, more) → u.Answers config caller answer →
      ∀ task ∈ s.inside, s.inside.length ≤ answer.toNat ∨ Forgotten config task.ticket (actions ++ between) := by
  have reached : Reachable config s := ⟨_, _, ran⟩
  have sound := sound_of_reachable built returns reached
  have gauged := gauged_of_reachable built returns reached
  refine ⟨?_, ?_, ?_, ?_⟩
  · intro task k loop
    have few := sound.count loop
    omega
  · intro task k busy loop
    obtain ⟨all, few⟩ := gauged task k busy loop
    exact ⟨by omega, few⟩
  · exact fun caller answer => answer_le built returns ran
  · intro between more u caller answer further answers task member
    exact inside_le_answer built returns ran further answers member

/-- Two jobs are run at a time. -/
def rush : List (Action Load.LoadJob) :=
  tried pair ([.worker 0, .worker 1, .submit (.new 0 false) false] ++ List.replicate 5 .loop ++
    [.submit (.new 1 false) false] ++ List.replicate 5 .loop ++ List.replicate 3 (.worker 0) ++
    List.replicate 3 (.worker 1) ++ [.tracker true])

private theorem rush_answers : (after pair rush).1.Answers pair 7 2 := by
  have known : ∃ asked new later t events, step pair (after pair rush).1 (.askTracker 7) = some (asked, new) ∧
      run pair asked later = some (t, events) ∧ .askTracker 7 ∉ later ∧
      events[2]? = some (.tracker (.answer 7 2)) :=
    ⟨_, _, [.tracker true, .tracker true], _, _, rfl, rfl, by simp, rfl⟩
  obtain ⟨asked, new, later, t, events, asking, ran, once, answered⟩ := known
  exact ⟨rfl, rfl, by decide, asked, new, later, t, events, asking, ran, once, List.mem_of_getElem? answered⟩

theorem utilization_of_rush :
    (after pair rush).1.inside = [⟨0, .new 0 false⟩, ⟨1, .new 1 false⟩] ∧ (after pair rush).1.Answers pair 7 2 ∧
      ((after pair rush).1.inside.length ≤ (2 : UInt64).toNat ∨ Forgotten pair 0 (rush ++ [])) := by
  refine ⟨rfl, rush_answers, ?_⟩
  have ran : run pair (start pair) rush = some (after pair rush) := run_tried pair _
  have used := utilization_of_run pair_buildable pair_returns ran
  exact used.2.2.2 [] [] _ 7 2 rfl rush_answers ⟨0, .new 0 false⟩ (List.mem_cons_self)

end JobPool.Pool
