import Mathlib.Data.List.Perm.Subperm
import JobPool.Proofs.Pool.Moves
import JobPool.Proofs.Pool.Run
import JobPool.Proofs.Worker.Lease

/-!
The invariant of a pool of standard workers. Every worker holds its lease, given how many of its
senders are in the pool of idle workers or in the hand of the loop; it was asked to stop and was
joined just as far as the loop got with that; and once the loop leaves the queue, nobody can submit
any more. Every state that a pool gets into is sound (`sound_of_reachable`).
-/

namespace JobPool.Pool

variable {J : Type}

namespace Loop

variable {T : Type}

/-- The worker whose sender the loop holds. -/
def lessee : Loop T → Option Nat
  | .leased _ k => some k
  | .sampling _ k _ => some k
  | .handing _ k => some k
  | _ => none

/-- The loop asked worker `k` to stop. -/
def asks (k : Nat) : Loop T → Bool
  | .stopping next => k < next
  | .joining _ => true
  | .finishing => true
  | .ended => true
  | _ => false

/-- The loop joined worker `k`. -/
def joins (k : Nat) : Loop T → Bool
  | .joining next => k < next
  | .finishing => true
  | .ended => true
  | _ => false

/-- The loop takes no more jobs. -/
def hasLeft : Loop T → Bool
  | .receiving => false
  | .seeking _ => false
  | .leased _ _ => false
  | .sampling _ _ _ => false
  | .handing _ _ => false
  | _ => true

/-- The loop asks nobody to stop as long as it takes jobs. -/
theorem asks_of_stays {loop : Loop T} (stays : loop.hasLeft = false) (k : Nat) : loop.asks k = false := by
  cases loop <;> first | rfl | cases stays

theorem isOver_of_stays {loop : Loop T} (stays : loop.hasLeft = false) : loop.isOver = false := by
  cases loop <;> first | rfl | cases stays

end Loop

/-- The workers whose senders are out: the one whose sender the loop holds, and those in the pool of idle workers. -/
def State.out (s : State J) : List Nat := s.loop.lessee.toList ++ s.idle.items

/-- What is true of a worker with so many senders out, as far as the loop got with it. -/
structure Seat {T : Type} (senders : Nat) (asked joined through : Bool) (m : Member T) : Prop where
  standard : m.kind = .standard
  capacity : m.worker.inbox.capacity = 1
  leased : m.worker.Leased senders
  shut : m.worker.inbox.closed = m.worker.phase.isShut
  asked : m.worker.asked = asked
  running : m.worker.running = !joined
  ended : joined = true → m.worker.phase = .ended
  abandoned : m.worker.abandoned = through

/-- What is true of a worker in a state. -/
def State.Seated (s : State J) (k : Nat) (m : Member (Task J)) : Prop :=
  Seat (s.out.count k) (s.loop.asks k) (s.loop.joins k) s.loop.isOver m

/-- All workers are of the standard kind. -/
def State.Ordinary (s : State J) : Prop :=
  ∀ (k : Nat) (m : Member (Task J)), s.members[k]? = some m → m.kind = .standard

namespace State.Ordinary

variable {s : State J} (ordinary : s.Ordinary) {k : Nat} {m : Member (Task J)} (found : s.members[k]? = some m)
include ordinary found

theorem not_custom : m.kind ≠ .custom := by
  rw [ordinary k m found]
  simp

theorem not_faulty : m.kind ≠ .faultyStop := by
  rw [ordinary k m found]
  simp

/-- Standard workers never give up their access to the pool. -/
theorem publishers : s.hasPublishers = true := by
  simp only [State.hasPublishers, List.any_eq_true]
  exact ⟨m, List.mem_of_getElem? found, by simp [ordinary.not_custom found]⟩

end State.Ordinary

theorem hasSenders_eq_false {s : State J} :
    s.hasSenders = false ↔ s.ownSender = false ∧ s.otherSenders = 0 ∧ s.waiting = [] := by
  simp [State.hasSenders, and_assoc]

/-- The invariant of a pool of standard workers. -/
structure Sound (config : Config) (s : State J) : Prop where
  size : s.members.length = config.size
  seats : ∀ k m, s.members[k]? = some m → s.Seated k m
  idleCapacity : s.idle.capacity = config.size
  listed : ∀ k ∈ s.out, k < config.size
  idleClosed : s.idle.closed = s.loop.isOver
  queueClosed : s.queue.closed = s.loop.isOver
  unfaulted : s.loop ≠ .faulted
  drained : s.loop.hasLeft = true → s.queue.items = [] ∧ s.hasSenders = false

theorem sound_start {config : Config} : Sound config (start config : State J) where
  size := by simp [start, State.new]
  seats := by
    intro k m found
    obtain rfl := member_of_start found
    constructor <;>
      simp [Worker.start, Worker.new, Channel.empty, Worker.Leased, State.out, Loop.lessee, Loop.asks, Loop.joins,
        Loop.isOver, Worker.asked, Worker.Phase.isShut, Worker.Phase.isStopping, start, State.new]
  idleCapacity := rfl
  listed := by simp [State.out, start, State.new, Channel.empty, Loop.lessee]
  idleClosed := rfl
  queueClosed := rfl
  unfaulted := by simp [start, State.new]
  drained := by simp [start, State.new, Loop.hasLeft]

namespace Sound

variable {config : Config} {s t : State J}

theorem inside (sound : Sound config s) {k : Nat} {m : Member (Task J)} (found : s.members[k]? = some m) :
    k < config.size := by
  rw [← sound.size]
  exact (List.getElem?_eq_some_iff.mp found).1

theorem found (sound : Sound config s) {k : Nat} (inside : k < config.size) : ∃ m, s.members[k]? = some m :=
  ⟨_, List.getElem?_eq_getElem (by rw [sound.size]; exact inside)⟩

/-- A worker that is not there has a number beyond the last one. -/
theorem outside (sound : Sound config s) {k : Nat} (none : s.members[k]? = none) : config.size ≤ k := by
  rw [← sound.size]
  exact List.getElem?_eq_none_iff.mp none

theorem ordinary (sound : Sound config s) : s.Ordinary := fun k m found => (sound.seats k m found).standard

theorem not_custom (sound : Sound config s) {k : Nat} {m : Member (Task J)} (found : s.members[k]? = some m) :
    m.kind ≠ .custom := sound.ordinary.not_custom found

theorem not_faulty (sound : Sound config s) {k : Nat} {m : Member (Task J)} (found : s.members[k]? = some m) :
    m.kind ≠ .faultyStop := sound.ordinary.not_faulty found

/-- A loop that is over did not fault. -/
theorem ended_of_isOver (sound : Sound config s) (through : s.loop.isOver = true) : s.loop = .ended := by
  cases loop : s.loop with
  | ended => rfl
  | faulted => exact absurd loop sound.unfaulted
  | _ => simp [loop, Loop.isOver] at through

/-- Once the loop is over, no worker has anything to do. -/
theorem at_rest (sound : Sound config s) (through : s.loop.isOver = true) {k : Nat} {m : Member (Task J)}
    (found : s.members[k]? = some m) : m.worker.phase = .ended ∧ m.worker.inbox.items = [] := by
  have seat := sound.seats k m found
  have phase := seat.ended (by rw [sound.ended_of_isOver through]; rfl)
  have leased := seat.leased
  simp only [Worker.Leased, phase] at leased
  exact ⟨phase, leased.2⟩

/-- The loop joins no worker before it ended. -/
theorem ended_of_join (sound : Sound config s) {k : Nat} {m : Member (Task J)} {w : Worker (Task J)}
    {logs : List Record}
    (loop : s.loop = .joining k) (found : s.members[k]? = some m)
    (joined : m.worker.join config.name k = some (w, logs)) :
    m.worker.phase = .ended ∧ w = { m.worker with running := false } := by
  have seat := sound.seats k m found
  rw [State.Seated, loop] at seat
  have running : m.worker.running = true := by simpa [Loop.joins] using seat.running
  exact seat.leased.ended_of_join running joined

/-- No worker closes its inbox while the loop still hands over jobs, so the loop never has to take one back. -/
theorem unshut (sound : Sound config s) {task : Task J} {k : Nat} {m : Member (Task J)}
    (loop : s.loop = .handing task k) (found : s.members[k]? = some m) : m.worker.inbox.closed = false := by
  have seat := sound.seats k m found
  have unasked := seat.asked
  simp only [loop, Loop.asks, Worker.asked, Bool.or_eq_false_iff] at unasked
  rw [seat.shut]
  cases phase : m.worker.phase <;> simp_all [Worker.Phase.isShut, Worker.Phase.isStopping]

theorem publishers (sound : Sound config s) (built : config.Buildable) : s.hasPublishers = true := by
  obtain ⟨m, found⟩ := sound.found built.staffed
  exact sound.ordinary.publishers found

/-- No worker has two senders out. -/
theorem nodup (sound : Sound config s) : s.out.Nodup := by
  rw [List.nodup_iff_count]
  intro k
  by_cases listed : k ∈ s.out
  · obtain ⟨m, found⟩ := sound.found (sound.listed k listed)
    have few := (sound.seats k m found).leased.le_one
    omega
  · simp [List.count_eq_zero_of_not_mem listed]

/-- As long as some worker has no sender out, the others leave room in the pool of idle workers. -/
theorem room (sound : Sound config s) {k : Nat} (inside : k < config.size) (absent : k ∉ s.out) :
    s.out.length < config.size := by
  -- `k` and the workers with a sender out are different numbers below the size
  have distinct : (k :: s.out).Nodup := List.nodup_cons.mpr ⟨absent, sound.nodup⟩
  have within : k :: s.out ⊆ List.range config.size := by
    intro j member
    rcases List.mem_cons.mp member with same | listed
    · subst same; exact List.mem_range.mpr inside
    · exact List.mem_range.mpr (sound.listed j listed)
  have bound := (List.subperm_of_subset distinct within).length_le
  rw [List.length_cons, List.length_range] at bound
  exact bound

/-- The invariant speaks of the loop only through what it holds, whom it asked and joined, and whether it left. -/
theorem relabel (sound : Sound config s) (members : t.members = s.members) (out : t.out = s.out)
    (asks : ∀ k < config.size, t.loop.asks k = s.loop.asks k) (joins : ∀ k < config.size,
    t.loop.joins k = s.loop.joins k)
    (through : t.loop.isOver = s.loop.isOver) (capacity : t.idle.capacity = s.idle.capacity)
    (idleClosed : t.idle.closed = s.idle.closed) (queueClosed : t.queue.closed = s.queue.closed)
    (unfaulted : t.loop ≠ .faulted) (drained : t.loop.hasLeft = true → t.queue.items = [] ∧ t.hasSenders = false) :
    Sound config t where
  size := by rw [members]; exact sound.size
  seats := by
    intro k m found
    rw [members] at found
    rw [State.Seated, out, asks k (sound.inside found), joins k (sound.inside found), through]
    exact sound.seats k m found
  idleCapacity := capacity.trans sound.idleCapacity
  listed := by rw [out]; exact sound.listed
  idleClosed := by rw [idleClosed, through]; exact sound.idleClosed
  queueClosed := by rw [queueClosed, through]; exact sound.queueClosed
  unfaulted := unfaulted
  drained := drained

/-- Whatever leaves the workers, the pool of idle workers and the loop as they are keeps the invariant, as long as
    nobody can submit once the loop left. -/
theorem frame (sound : Sound config s) (members : t.members = s.members) (idle : t.idle = s.idle)
    (loop : t.loop = s.loop) (closed : t.queue.closed = s.queue.closed)
    (drained : s.loop.hasLeft = true → t.queue.items = [] ∧ t.hasSenders = false) : Sound config t :=
  sound.relabel members (by rw [State.out, State.out, idle, loop]) (by simp [loop]) (by simp [loop]) (by rw [loop])
    (by rw [idle]) (by rw [idle]) closed (by rw [loop]; exact sound.unfaulted) (by rw [loop]; exact drained)

/-- Nobody who could not submit before can submit after a move of a client. -/
theorem client {action : Action J} {events : List (Event J)} (sound : Sound config s)
    (moved : ClientMove config s action events t) : Sound config t := by
  have gone : s.loop.hasLeft = true → s.queue.items = [] ∧ s.ownSender = false ∧ s.otherSenders = 0 ∧ s.waiting = [] :=
    fun left => ⟨(sound.drained left).1, hasSenders_eq_false.mp (sound.drained left).2⟩
  cases moved with
  | enter sender | queueUp sender =>
    exact sound.frame rfl rfl rfl rfl (fun left => by simp [(sound.drained left).2] at sender)
  | letIn found => exact sound.frame rfl rfl rfl rfl (fun left => by simp [(gone left).2.2.2] at found)
  | sendBack found => exact sound.frame rfl rfl rfl rfl (fun left => by simp [(gone left).2.2.2] at found)
  | share own => exact sound.frame rfl rfl rfl rfl (fun left => by simp [(gone left).2.1] at own)
  | drop | close | finish | letGo =>
    refine sound.frame rfl rfl rfl rfl (fun left => ?_)
    obtain ⟨empty, own, others, waiting⟩ := gone left
    exact ⟨empty, by simp [hasSenders_eq_false, own, others, waiting]⟩
  | turnAway | finishAgain | letGoLate | reset | resetNobody | ask | askNobody =>
    exact sound.frame rfl rfl rfl rfl sound.drained

private theorem owner {events : List (Event J)} (sound : Sound config s) (moved : OwnerMove config s events t) :
    Sound config t := by
  cases moved with
  | joinLoop | joinTracker => exact sound.frame rfl rfl rfl rfl sound.drained

variable [Job J]

/-- The seat of a worker is as the invariant says after its own move. -/
theorem seat_of_move (sound : Sound config s) {k : Nat} {m : Member (Task J)} (found : s.members[k]? = some m)
    {events : List (Worker.Event (Task J))} {w : Worker (Task J)}
    (moved : Worker.Move (s.policy config) k s.admission m.worker events w) (intact : w.phase ≠ .crashed) :
    Seat (s.out.count k + if events.any Worker.Event.isPublished then 1 else 0) (s.loop.asks k) (s.loop.joins k)
      s.loop.isOver { m with worker := w } := by
  have seat := sound.seats k m found
  refine ⟨seat.standard, ?_, moved.leased intact seat.leased, moved.shut intact seat.shut, ?_, ?_, ?_, ?_⟩
  · rw [moved.capacity]; exact seat.capacity
  · rw [← seat.asked]
    apply moved.asked intact seat.shut
    -- before the loop is over, the pool is there and the worker is not abandoned
    cases through : s.loop.isOver with
    | true => left; rw [seat.asked, sound.ended_of_isOver through]; rfl
    | false =>
      right
      refine ⟨?_, by rw [seat.abandoned, through]⟩
      simp only [State.admission, sound.idleClosed, through, Bool.false_eq_true, ↓reduceIte]
      split <;> simp
  · rw [moved.running]; exact seat.running
  · intro joined
    have ended := seat.ended joined
    cases moved <;> simp_all
  · rw [moved.abandoned]; exact seat.abandoned

omit [Job J] in
/-- The seats after one worker changed, given how it is seated now and that the others are seated as before. -/
theorem seats_set (sound : Sound config s) {k : Nat} {m m' : Member (Task J)} (found : s.members[k]? = some m)
    (members : t.members = s.members.set k m') (self : t.Seated k m')
    (others : ∀ j n, j ≠ k → s.Seated j n → t.Seated j n) : ∀ j n, t.members[j]? = some n → t.Seated j n := by
  intro j n at_j
  have inside : k < s.members.length := (List.getElem?_eq_some_iff.mp found).1
  rw [members] at at_j
  by_cases same : j = k
  · subst same
    rw [List.getElem?_set_self inside] at at_j
    cases at_j
    exact self
  · rw [List.getElem?_set_ne (Ne.symm same)] at at_j
    exact others j n same (sound.seats j n at_j)

omit [Job J] in
/-- A worker that changes where only it can see keeps its seat. -/
theorem setWorker (sound : Sound config s) {k : Nat} {m : Member (Task J)} {w : Worker (Task J)}
    (found : s.members[k]? = some m)
    (seat : Seat (s.out.count k) (s.loop.asks k) (s.loop.joins k) s.loop.isOver { m with worker := w }) :
    Sound config (s.setWorker k m w) where
  size := by simpa [State.setWorker] using sound.size
  seats := sound.seats_set found rfl seat (fun j n _ seated => seated)
  idleCapacity := sound.idleCapacity
  listed := sound.listed
  idleClosed := sound.idleClosed
  queueClosed := sound.queueClosed
  unfaulted := sound.unfaulted
  drained := sound.drained

theorem worker (sound : Sound config s) {k : Nat} {m : Member (Task J)} (found : s.members[k]? = some m)
    {events : List (Worker.Event (Task J))} {w : Worker (Task J)}
    (moved : Worker.Move (s.policy config) k s.admission m.worker events w) (intact : w.phase ≠ .crashed) :
    Sound config { s.setWorker k m w with
      idle := if events.any Worker.Event.isPublished then s.idle.push k else s.idle } := by
  have seat := sound.seat_of_move found moved intact
  cases published : events.any Worker.Event.isPublished with
  | false =>
    simp only [published, Bool.false_eq_true, ↓reduceIte, Nat.add_zero] at seat ⊢
    exact sound.setWorker found seat
  | true =>
    simp only [published, ↓reduceIte] at seat ⊢
    have out : State.out { s.setWorker k m w with idle := s.idle.push k } = s.out ++ [k] := by
      simp [State.out, State.setWorker, Channel.push]
    exact {
      size := by simpa [State.setWorker] using sound.size
      seats := by
        refine sound.seats_set found rfl ?_ ?_
        · rw [State.Seated, out, List.count_append, List.count_singleton_self]
          exact seat
        · intro j n other seated
          have none : List.count j [k] = 0 := List.count_eq_zero_of_not_mem (by simpa using other)
          rw [State.Seated, out, List.count_append, none]
          exact seated
      idleCapacity := sound.idleCapacity
      listed := by
        intro j member
        rw [out] at member
        rcases List.mem_append.mp member with before | new
        · exact sound.listed j before
        · rw [List.mem_singleton.mp new]; exact sound.inside found
      idleClosed := sound.idleClosed
      queueClosed := sound.queueClosed
      unfaulted := sound.unfaulted
      drained := sound.drained }

omit [Job J] in
theorem hand (sound : Sound config s) {task : Task J} {k : Nat} {m : Member (Task J)}
    (loop : s.loop = .handing task k) (found : s.members[k]? = some m) (unshut : m.worker.inbox.closed = false) :
    Sound config
      { s.setWorker k m { m.worker with inbox := m.worker.inbox.push task } with loop := .receiving } := by
  have out : s.out = k :: s.idle.items := by simp [State.out, loop, Loop.lessee]
  have seat := sound.seats k m found
  have leased := seat.leased
  rw [out, List.count_cons_self] at leased
  have unstopped : m.worker.phase.isShut = false := by rw [← seat.shut]; exact unshut
  have asked := seat.asked
  have running := seat.running
  have ended := seat.ended
  have abandoned := seat.abandoned
  have idleClosed := sound.idleClosed
  have queueClosed := sound.queueClosed
  rw [loop] at asked running ended abandoned idleClosed queueClosed
  exact {
    size := by simpa [State.setWorker] using sound.size
    seats := by
      refine sound.seats_set found rfl ?_ ?_
      · exact ⟨seat.standard, seat.capacity, leased.hand unstopped task, seat.shut, asked, running, ended, abandoned⟩
      · intro j n other seated
        rw [State.Seated, out, List.count_cons_of_ne other.symm, loop] at seated
        exact seated
    idleCapacity := sound.idleCapacity
    listed := fun j member => sound.listed j (by rw [out]; exact List.mem_cons_of_mem k member)
    idleClosed := idleClosed
    queueClosed := queueClosed
    unfaulted := by simp
    drained := by simp [Loop.hasLeft] }

omit [Job J] in
/-- The invariant after the loop is through with worker `k` and goes on to the next one. -/
theorem passOn (sound : Sound config s) {k : Nat} {m : Member (Task J)} {w : Worker (Task J)} {next : Loop (Task J)}
    (found : s.members[k]? = some m)
    (seat : Seat (s.out.count k) (next.asks k) (next.joins k) next.isOver { m with worker := w })
    (lessee : next.lessee = s.loop.lessee) (asks : ∀ j, j ≠ k → next.asks j = s.loop.asks j)
    (joins : ∀ j, j ≠ k → next.joins j = s.loop.joins j) (through : next.isOver = s.loop.isOver)
    (unfaulted : next ≠ .faulted) (left : s.loop.hasLeft = true) :
    Sound config { s.setWorker k m w with loop := next } where
  size := by simpa [State.setWorker] using sound.size
  seats := by
    have out : State.out { s.setWorker k m w with loop := next } = s.out := by
      simp only [State.out, State.setWorker, lessee]
    refine sound.seats_set found rfl ?_ ?_
    · rw [State.Seated, out]; exact seat
    · intro j n other seated
      rw [State.Seated, out]
      simp only [asks j other, joins j other, through]
      exact seated
  idleCapacity := sound.idleCapacity
  listed := by
    intro j member
    simp only [State.out, State.setWorker, lessee] at member
    exact sound.listed j member
  idleClosed := by rw [through]; exact sound.idleClosed
  queueClosed := by rw [through]; exact sound.queueClosed
  unfaulted := unfaulted
  drained := fun _ => sound.drained left

omit [Job J] in
private theorem stop (sound : Sound config s) {k : Nat} {m : Member (Task J)} (loop : s.loop = .stopping k)
    (found : s.members[k]? = some m) :
    Sound config { s.setWorker k m m.worker.stop with loop := .stopping (k + 1) } := by
  have seat := sound.seats k m found
  rw [State.Seated, loop] at seat
  refine sound.passOn found ?_ ?_ ?_ ?_ ?_ ?_ ?_
  · exact ⟨seat.standard, seat.capacity, Worker.leased_congr rfl rfl seat.leased, seat.shut,
      by simp [Worker.asked, Worker.stop, Loop.asks], seat.running, seat.ended, seat.abandoned⟩
  · simp [loop, Loop.lessee]
  · intro j other
    simp only [loop, Loop.asks, decide_eq_decide]
    omega
  · simp [loop, Loop.joins]
  · simp [loop, Loop.isOver]
  · simp
  · simp [loop, Loop.hasLeft]

omit [Job J] in
private theorem join (sound : Sound config s) {k : Nat} {m : Member (Task J)} {w : Worker (Task J)} {logs : List Record}
    (loop : s.loop = .joining k) (found : s.members[k]? = some m)
    (joined : m.worker.join config.name k = some (w, logs)) :
    Sound config { s.setWorker k m w with loop := .joining (k + 1) } := by
  obtain ⟨ended, rfl⟩ := sound.ended_of_join loop found joined
  have seat := sound.seats k m found
  rw [State.Seated, loop] at seat
  refine sound.passOn found ?_ ?_ ?_ ?_ ?_ ?_ ?_
  · exact ⟨seat.standard, seat.capacity, Worker.leased_congr rfl rfl seat.leased, seat.shut, seat.asked,
      by simp [Loop.joins], fun _ => ended, seat.abandoned⟩
  · simp [loop, Loop.lessee]
  · simp [loop, Loop.asks]
  · intro j other
    simp only [loop, Loop.joins, decide_eq_decide]
    omega
  · simp [loop, Loop.isOver]
  · simp
  · simp [loop, Loop.hasLeft]

omit [Job J] in
theorem retire (sound : Sound config s) (loop : s.loop = .finishing) : Sound config (s.closeLoop .ended) where
  size := by simpa [State.closeLoop] using sound.size
  seats := by
    intro k n at_k
    simp only [State.closeLoop, List.getElem?_map, Option.map_eq_some_iff] at at_k
    obtain ⟨m, found, rfl⟩ := at_k
    have seat := sound.seats k m found
    rw [State.Seated, State.out, loop] at seat
    exact ⟨seat.standard, seat.capacity, Worker.leased_congr rfl rfl seat.leased, seat.shut, seat.asked, seat.running,
      seat.ended, rfl⟩
  idleCapacity := sound.idleCapacity
  listed := by
    have listed := sound.listed
    rw [State.out, loop] at listed
    exact listed
  idleClosed := rfl
  queueClosed := rfl
  unfaulted := by simp [State.closeLoop]
  drained := fun _ => sound.drained (by rw [loop]; rfl)

/-- The loop takes a worker for what it is: its own moves keep the invariant. -/
theorem loop {events : List (Event J)} (sound : Sound config s) (built : config.Buildable)
    (moved : LoopMove config s events t) : Sound config t := by
  cases moved with
  | receive loop | count loop | sample loop =>
    refine sound.relabel rfl ?_ ?_ ?_ ?_ rfl rfl rfl (by simp) (by simp [Loop.hasLeft])
    all_goals simp [State.out, loop, Loop.lessee, Loop.asks, Loop.joins, Loop.isOver]
  | leave loop empty alone =>
    refine sound.relabel rfl ?_ ?_ ?_ ?_ rfl rfl rfl (by simp) (fun _ => ⟨empty, alone⟩)
    all_goals simp [State.out, loop, Loop.lessee, Loop.asks, Loop.joins, Loop.isOver]
  | lease loop first =>
    refine sound.relabel rfl ?_ ?_ ?_ ?_ rfl rfl rfl (by simp) (by simp [Loop.hasLeft])
    all_goals simp [State.out, loop, first, Loop.lessee, Loop.asks, Loop.joins, Loop.isOver]
  | lose loop empty alone => simp [sound.publishers built] at alone
  | announce loop =>
    refine sound.relabel rfl ?_ ?_ ?_ ?_ rfl rfl rfl (by simp) (fun _ => sound.drained (by rw [loop]; rfl))
    all_goals simp [State.out, loop, Loop.lessee, Loop.asks, Loop.joins, Loop.isOver]
  | stoppedAll loop none =>
    have beyond := sound.outside none
    refine sound.relabel rfl ?_ ?_ ?_ ?_ rfl rfl rfl (by simp) (fun _ => sound.drained (by rw [loop]; rfl))
    all_goals simp [State.out, loop, Loop.lessee, Loop.asks, Loop.joins, Loop.isOver]
    omega
  | joinedAll loop none =>
    have beyond := sound.outside none
    refine sound.relabel rfl ?_ ?_ ?_ ?_ rfl rfl rfl (by simp) (fun _ => sound.drained (by rw [loop]; rfl))
    all_goals simp [State.out, loop, Loop.lessee, Loop.asks, Loop.joins, Loop.isOver]
    omega
  | stopCustom loop found custom => exact absurd custom (sound.not_custom found)
  | stopFaulty loop found faulty => exact absurd faulty (sound.not_faulty found)
  | joinCustom loop found custom => exact absurd custom (sound.not_custom found)
  | hand loop found unshut room => exact sound.hand loop found unshut
  | takeBack loop found shut => simp [sound.unshut loop found] at shut
  | stop loop found standard => exact sound.stop loop found
  | join loop found standard joined => exact sound.join loop found joined
  | retire loop => exact sound.retire loop

/-- Every move of anybody keeps the invariant. -/
theorem move (sound : Sound config s) (built : config.Buildable) (returns : AlwaysReturns J config.policy)
    {action : Action J} {events : List (Event J)} (moved : Move config s action events t) : Sound config t := by
  cases moved with
  | client moved => exact sound.client moved
  | owner moved => exact sound.owner moved
  | loop moved => exact sound.loop built moved
  | worker found moved => exact sound.worker found moved (moved.intact returns.run_policy)
  | custom found custom => exact absurd custom (sound.not_custom found)
  | tracker | closeSink => exact sound.frame rfl rfl rfl rfl sound.drained

end Sound

/-- Every state that a pool of standard workers gets into is sound. -/
theorem sound_of_reachable [Job J] {config : Config} (built : config.Buildable)
    (returns : AlwaysReturns J config.policy) {s : State J} (reached : Reachable config s) : Sound config s :=
  reachable_induction sound_start (fun _ sound moved => sound.move built returns (move_of_step moved)) reached

end JobPool.Pool
