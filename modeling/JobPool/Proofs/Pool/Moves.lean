import JobPool.Pool.Step
import JobPool.Proofs.Tracker.Moves
import JobPool.Proofs.Worker.Moves

/-!
What can happen in a pool, move by move. `move_of_step` takes `step` apart once and for all: a move
is one of its clients, of its loop, of one of its workers, of its owner, of its tracker or of its sink.
Nothing is assumed about the workers here.
-/

namespace JobPool.Pool

variable {J : Type}

/-- Somebody outside acts: a submitter, the owner unless it waits, or a caller. -/
def Action.isClient : Action J → Bool
  | .owner => false
  | .loop => false
  | .worker _ => false
  | .custom _ _ => false
  | .tracker _ => false
  | .closeSink => false
  | _ => true

/-- A thread of the pool acts, or its owner while it waits for them. -/
def Action.isThread : Action J → Bool
  | .owner => true
  | .loop => true
  | .worker _ => true
  | .tracker _ => true
  | _ => false

/-- A move of somebody who can submit, of the owner that does not wait, or of a caller. -/
inductive ClientMove (config : Config) (s : State J) : Action J → List (Event J) → State J → Prop
  | enter {action : Action J} {job : J} (sender : s.hasSenders = true) (unclosed : s.queue.closed = false)
      (room : s.queue.items.length < s.queue.capacity) :
      ClientMove config s action [.submitted ⟨s.nextTicket, job⟩ .accepted]
        { s with nextTicket := s.nextTicket + 1, queue := s.queue.push ⟨s.nextTicket, job⟩ }
  | turnAway {action : Action J} {job : J} {answer : Submission} (refused : answer ≠ .accepted) :
      ClientMove config s action [.submitted ⟨s.nextTicket, job⟩ answer] { s with nextTicket := s.nextTicket + 1 }
  | queueUp {action : Action J} {job : J} (sender : s.hasSenders = true) (unclosed : s.queue.closed = false)
      (full : s.queue.capacity ≤ s.queue.items.length) :
      ClientMove config s action []
        { s with nextTicket := s.nextTicket + 1, waiting := s.waiting ++ [⟨s.nextTicket, job⟩] }
  | letIn {action : Action J} {index : Nat} {task : Task J} (found : s.waiting[index]? = some task)
      (unclosed : s.queue.closed = false) (room : s.queue.items.length < s.queue.capacity) :
      ClientMove config s action [.submitted task .accepted]
        { s with waiting := s.waiting.eraseIdx index, queue := s.queue.push task }
  | sendBack {action : Action J} {index : Nat} {task : Task J} (found : s.waiting[index]? = some task)
      (closed : s.queue.closed = true) :
      ClientMove config s action [.submitted task .closed] { s with waiting := s.waiting.eraseIdx index }
  | share {action : Action J} (own : s.ownSender = true) :
      ClientMove config s action [] { s with otherSenders := s.otherSenders + 1 }
  | drop {action : Action J} : ClientMove config s action [] { s with otherSenders := s.otherSenders - 1 }
  | close {action : Action J} : ClientMove config s action [] { s with ownSender := false }
  | finish {action : Action J} (present : s.owner = .present) :
      ClientMove config s action [] { s with ownSender := false, owner := .joiningLoop }
  | finishAgain {action : Action J} : ClientMove config s action [] s
  | letGo {action : Action J} (present : s.owner = .present) :
      ClientMove config s action [] { s with ownSender := false, owner := .gone, tracker := s.tracker.release }
  | letGoLate {action : Action J} (finished : s.owner = .finished) :
      ClientMove config s action [] { s with owner := .gone }
  | reset {tracker : Tracker} (holds : s.owner.holdsTracker = true) (sent : s.tracker.send .reset = some tracker) :
      ClientMove config s .resetTracker [.log (resettingRecord config)] { s with tracker := tracker }
  | resetNobody (without : s.owner.holdsTracker = false) :
      ClientMove config s .resetTracker [.log (resettingRecord config)] s
  | ask {caller : Nat} {tracker : Tracker} (holds : s.owner.holdsTracker = true) (alive : s.tracker.isAlive = true)
      (sent : s.tracker.send (.question caller) = some tracker) :
      ClientMove config s (.askTracker caller) [] { s with tracker := tracker }
  | askNobody {caller : Nat} (without : s.owner.holdsTracker = false ∨ s.tracker.isAlive = false) :
      ClientMove config s (.askTracker caller) [.tracker (.answer caller 0)] s

/-- A move of an owner that waits. -/
inductive OwnerMove (config : Config) (s : State J) : List (Event J) → State J → Prop
  | joinLoop {events : List (Event J)} (waiting : s.owner = .joiningLoop) (through : s.loop.isOver = true)
      (logged : ∀ event ∈ events, ∃ record, event = .log record) :
      OwnerMove config s events { s with owner := .joiningTracker, tracker := s.tracker.release }
  | joinTracker {events : List (Event J)} (waiting : s.owner = .joiningTracker) (through : s.tracker.status ≠ .alive)
      (logged : ∀ event ∈ events, ∃ record, event = .log record) :
      OwnerMove config s events { s with owner := .finished }

variable [Job J]

/-- A move of the dispatch loop. -/
inductive LoopMove (config : Config) (s : State J) : List (Event J) → State J → Prop
  | receive {task : Task J} {rest : List (Task J)} (loop : s.loop = .receiving)
      (first : s.queue.items = task :: rest) :
      LoopMove config s [] { s with queue := { s.queue with items := rest }, loop := .seeking task }
  | leave (loop : s.loop = .receiving) (empty : s.queue.items = []) (alone : s.hasSenders = false) :
      LoopMove config s [] { s with loop := .leaving }
  | lease {task : Task J} {k : Nat} {rest : List Nat} (loop : s.loop = .seeking task)
      (first : s.idle.items = k :: rest) :
      LoopMove config s [] { s with idle := { s.idle with items := rest }, loop := .leased task k }
  | lose {task : Task J} (loop : s.loop = .seeking task) (empty : s.idle.items = [])
      (alone : s.hasPublishers = false) :
      LoopMove config s [.log (lostRecord config task), .lost task] { s with loop := .leaving }
  | count {task : Task J} {k : Nat} (loop : s.loop = .leased task k) :
      LoopMove config s []
        { s with loop := .sampling task k (UInt64.ofNat (config.size - s.idle.items.length)) }
  | sample {task : Task J} {k : Nat} {busy : UInt64} {tracker : Tracker} (loop : s.loop = .sampling task k busy)
      (sent : s.tracker.send (.sample busy) = some tracker) :
      LoopMove config s [] { s with tracker := tracker, loop := .handing task k }
  | hand {task : Task J} {k : Nat} {m : Member (Task J)} (loop : s.loop = .handing task k)
      (found : s.members[k]? = some m) (unshut : m.worker.inbox.closed = false)
      (room : m.worker.inbox.items.length < m.worker.inbox.capacity) :
      LoopMove config s [.handed task k]
        { s.setWorker k m { m.worker with inbox := m.worker.inbox.push task } with loop := .receiving }
  | takeBack {task : Task J} {k : Nat} {m : Member (Task J)} (loop : s.loop = .handing task k)
      (found : s.members[k]? = some m) (shut : m.worker.inbox.closed = true) :
      LoopMove config s [.log (retryRecord config)] { s with loop := .seeking task }
  | announce (loop : s.loop = .leaving) :
      LoopMove config s [.log (stoppingRecord config)] { s with loop := .stopping 0 }
  | stop {k : Nat} {m : Member (Task J)} (loop : s.loop = .stopping k) (found : s.members[k]? = some m)
      (standard : m.kind = .standard) :
      LoopMove config s [] { s.setWorker k m m.worker.stop with loop := .stopping (k + 1) }
  | stopCustom {k : Nat} {m : Member (Task J)} (loop : s.loop = .stopping k) (found : s.members[k]? = some m)
      (custom : m.kind = .custom) : LoopMove config s [] { s with loop := .stopping (k + 1) }
  | stopFaulty {k : Nat} {m : Member (Task J)} (loop : s.loop = .stopping k) (found : s.members[k]? = some m)
      (faulty : m.kind = .faultyStop) : LoopMove config s [] (s.closeLoop .faulted)
  | stoppedAll {k : Nat} (loop : s.loop = .stopping k) (none : s.members[k]? = none) :
      LoopMove config s [] { s with loop := .joining 0 }
  | join {k : Nat} {m : Member (Task J)} {worker : Worker (Task J)} {logs : List Record}
      (loop : s.loop = .joining k) (found : s.members[k]? = some m) (standard : m.kind ≠ .custom)
      (joined : m.worker.join config.name k = some (worker, logs)) :
      LoopMove config s (logs.map .joined) { s.setWorker k m worker with loop := .joining (k + 1) }
  | joinCustom {k : Nat} {m : Member (Task J)} (loop : s.loop = .joining k) (found : s.members[k]? = some m)
      (custom : m.kind = .custom) : LoopMove config s [] { s with loop := .joining (k + 1) }
  | joinedAll {k : Nat} (loop : s.loop = .joining k) (none : s.members[k]? = none) :
      LoopMove config s [] { s with loop := .finishing }
  | retire (loop : s.loop = .finishing) :
      LoopMove config s [.log (loopEndedRecord config)] (s.closeLoop .ended)

/-- A move of anybody in a pool. -/
inductive Move (config : Config) (s : State J) : Action J → List (Event J) → State J → Prop
  | client {action : Action J} {events : List (Event J)} {t : State J}
      (moved : ClientMove config s action events t) (outside : action.isClient = true) : Move config s action events t
  | owner {events : List (Event J)} {t : State J} (moved : OwnerMove config s events t) :
      Move config s .owner events t
  | loop {events : List (Event J)} {t : State J} (moved : LoopMove config s events t) :
      Move config s .loop events t
  | worker {k : Nat} {m : Member (Task J)} {events : List (Worker.Event (Task J))} {w : Worker (Task J)}
      (found : s.members[k]? = some m)
      (moved : Worker.Move (s.policy config) k s.admission m.worker events w) :
      Move config s (.worker k) (events.map (.worker k))
        { s.setWorker k m w with
          idle := if events.any Worker.Event.isPublished then s.idle.push k else s.idle }
  | custom {k : Nat} {act : CustomAct} {m : Member (Task J)} {events : List (Event J)} {t : State J}
      (found : s.members[k]? = some m) (custom : m.kind = .custom) (moved : s.moveCustom k act = some (t, events)) :
      Move config s (.custom k act) events t
  | tracker {accepts : Bool} {effects : List Tracker.Effect} {tracker : Tracker}
      (moved : Tracker.Move config.name s.tracker effects tracker) :
      Move config s (.tracker accepts) (effects.map .tracker) { s with tracker := tracker }
  | closeSink (unclosed : s.sinkGone = false) : Move config s .closeSink [] { s with sinkGone := true }

omit [Job J] in
/-- What a custom worker does shows nothing, and changes only who is in the pool of idle workers and what it holds
    itself. -/
theorem of_moveCustom {s t : State J} {k : Nat} {act : CustomAct} {m : Member (Task J)} {events : List (Event J)}
    (found : s.members[k]? = some m) (moved : s.moveCustom k act = some (t, events)) :
    events = [] ∧ ∃ (idle : Channel Nat) (m' : Member (Task J)),
      t = { s with idle := idle, members := s.members.set k m' } ∧ m'.kind = m.kind ∧
        m'.worker.phase = m.worker.phase := by
  unfold State.moveCustom at moved
  simp only [found] at moved
  split at moved
  · cases moved
  · cases act with
    | publish =>
      obtain ⟨inside, here⟩ := List.getElem?_eq_some_iff.mp found
      have same : s.members.set k m = s.members := by rw [← here]; exact List.set_getElem_self inside
      simp only at moved
      split at moved
      · cases moved; exact ⟨rfl, s.idle.push k, m, by rw [same], rfl, rfl⟩
      · cases moved
    | takeJob =>
      obtain ⟨⟨job, inbox⟩, taken, made⟩ := Option.map_eq_some_iff.mp moved
      cases made
      exact ⟨rfl, s.idle, _, rfl, rfl, rfl⟩
    | closeInbox | release => cases moved; exact ⟨rfl, s.idle, _, rfl, rfl, rfl⟩

omit [Job J] in
private theorem clientMove_of_submit {config : Config} {s : State J} {action : Action J} (sender : s.hasSenders = true)
    (job : J) (wait : Bool) : ClientMove config s action (s.submit job wait).2 (s.submit job wait).1 := by
  have closedNow : Submission.closed ≠ .accepted := by simp
  have fullNow : Submission.full ≠ .accepted := by simp
  unfold State.submit
  cases closed : s.queue.closed with
  | true => simp only [Channel.offer_of_closed closed]; exact .turnAway closedNow
  | false =>
    by_cases room : s.queue.items.length < s.queue.capacity
    · simp only [Channel.offer_of_room closed room]; exact .enter sender closed room
    · simp only [Channel.offer_of_full closed room]
      cases wait with
      | true => exact .queueUp sender closed (Nat.le_of_not_lt room)
      | false => exact .turnAway fullNow

omit [Job J] in
private theorem clientMove_of_resume {config : Config} {s t : State J} {action : Action J} {index : Nat}
    {events : List (Event J)} (moved : s.resume index = some (t, events)) : ClientMove config s action events t := by
  unfold State.resume at moved
  cases found : s.waiting[index]? with
  | none => simp [found] at moved
  | some task =>
    simp only [found] at moved
    cases closed : s.queue.closed with
    | true => simp only [Channel.offer_of_closed closed] at moved; cases moved; exact .sendBack found closed
    | false =>
      by_cases room : s.queue.items.length < s.queue.capacity
      · simp only [Channel.offer_of_room closed room] at moved
        cases moved
        exact .letIn found closed room
      · simp only [Channel.offer_of_full closed room] at moved
        cases moved

omit [Job J] in
private theorem ownerMove_of_moveOwner {config : Config} {s t : State J} {events : List (Event J)}
    (moved : s.moveOwner config = some (t, events)) : OwnerMove config s events t := by
  have logged : ∀ {record : Record}, ∀ event ∈ [(.log record : Event J)], ∃ record, event = .log record := by simp
  unfold State.moveOwner at moved
  split at moved
  · rename_i waiting
    split at moved
    · rename_i loop; cases moved; exact .joinLoop waiting (by rw [loop]; rfl) (by nofun)
    · rename_i loop; cases moved; exact .joinLoop waiting (by rw [loop]; rfl) logged
    · cases moved
  · rename_i waiting
    split at moved
    · cases moved
    · rename_i status; cases moved; exact .joinTracker waiting (by simp [status]) (by nofun)
    · rename_i status; cases moved; exact .joinTracker waiting (by simp [status]) logged
  · cases moved

/-- What the dispatch loop does is one of its moves. -/
theorem loopMove_of_moveLoop {config : Config} {s t : State J} {events : List (Event J)}
    (moved : s.moveLoop config = some (t, events)) : LoopMove config s events t := by
  unfold State.moveLoop at moved
  cases loop : s.loop with
  | ended | faulted => simp [loop] at moved
  | receiving =>
    cases items : s.queue.items with
    | nil =>
      simp only [loop, Channel.take?, items] at moved
      split at moved
      · cases moved
      · cases moved; exact .leave loop items (by simpa using ‹¬ s.hasSenders = true›)
    | cons task rest =>
      simp [loop, Channel.take?, items] at moved
      obtain ⟨rfl, rfl⟩ := moved
      exact .receive loop items
  | seeking task =>
    cases items : s.idle.items with
    | nil =>
      simp only [loop, Channel.take?, items] at moved
      split at moved
      · cases moved
      · cases moved; exact .lose loop items (by simpa using ‹¬ s.hasPublishers = true›)
    | cons k rest => simp [loop, Channel.take?, items] at moved; obtain ⟨rfl, rfl⟩ := moved; exact .lease loop items
  | leased task k => simp [loop] at moved; obtain ⟨rfl, rfl⟩ := moved; exact .count loop
  | sampling task k busy =>
    simp only [loop, Option.map_eq_some_iff] at moved
    obtain ⟨tracker, sent, same⟩ := moved
    cases same
    exact .sample loop sent
  | handing task k =>
    simp only [loop, State.hand] at moved
    cases found : s.members[k]? with
    | none => simp [found] at moved
    | some m =>
      cases shut : m.worker.inbox.closed with
      | true =>
        simp only [found, Channel.offer_of_closed shut] at moved
        cases moved
        exact .takeBack loop found shut
      | false =>
        by_cases room : m.worker.inbox.items.length < m.worker.inbox.capacity
        · simp only [found, Channel.offer_of_room shut room] at moved
          cases moved
          exact .hand loop found shut room
        · simp only [found, Channel.offer_of_full shut room] at moved
          cases moved
  | leaving => simp [loop] at moved; obtain ⟨rfl, rfl⟩ := moved; exact .announce loop
  | stopping k =>
    simp only [loop, State.stopOne, Option.some.injEq, Prod.mk.injEq] at moved
    obtain ⟨rfl, rfl⟩ := moved
    cases found : s.members[k]? with
    | none => exact .stoppedAll loop found
    | some m =>
      cases kind : m.kind with
      | standard => simp only [kind]; exact .stop loop found kind
      | custom => simp only [kind]; exact .stopCustom loop found kind
      | faultyStop => simp only [kind]; exact .stopFaulty loop found kind
  | joining k =>
    simp only [loop, State.joinOne] at moved
    cases found : s.members[k]? with
    | none => simp [found] at moved; obtain ⟨rfl, rfl⟩ := moved; exact .joinedAll loop found
    | some m =>
      by_cases custom : m.kind = .custom
      · simp [found, custom] at moved; obtain ⟨rfl, rfl⟩ := moved; exact .joinCustom loop found custom
      · have waits : ∃ worker logs, m.worker.join config.name k = some (worker, logs) ∧
            t = { s.setWorker k m worker with loop := .joining (k + 1) } ∧ events = logs.map .joined := by
          cases kind : m.kind with
          | custom => exact absurd kind custom
          | _ =>
            simp only [found, kind, Option.map_eq_some_iff, Prod.mk.injEq, Prod.exists] at moved
            obtain ⟨worker, logs, joined, rfl, rfl⟩ := moved
            exact ⟨worker, logs, joined, rfl, rfl⟩
        obtain ⟨worker, logs, joined, rfl, rfl⟩ := waits
        exact .join loop found custom joined
  | finishing => simp [loop] at moved; obtain ⟨rfl, rfl⟩ := moved; exact .retire loop

/-- What happens in a step is a move of somebody. -/
theorem move_of_step {config : Config} {s t : State J} {action : Action J} {events : List (Event J)}
    (moved : step config s action = some (t, events)) : Move config s action events t := by
  cases action with
  | submit job wait =>
    have refused : Submission.closed ≠ .accepted := by simp
    simp only [step, Option.some.injEq] at moved
    split at moved
    · rename_i own
      have sender : s.hasSenders = true := by simp [State.hasSenders, own]
      have made : ClientMove config s (.submit job wait) (s.submit job wait).2 (s.submit job wait).1 :=
        clientMove_of_submit sender job wait
      rw [moved] at made
      exact .client made rfl
    · cases moved; exact .client (.turnAway refused) rfl
  | submitOther job wait =>
    simp only [step] at moved
    split at moved
    · rename_i others
      have sender : s.hasSenders = true := by simp [State.hasSenders, others]
      have made : ClientMove config s (.submitOther job wait) (s.submit job wait).2 (s.submit job wait).1 :=
        clientMove_of_submit sender job wait
      rw [Option.some.inj moved] at made
      exact .client made rfl
    · cases moved
  | resume index => exact .client (clientMove_of_resume moved) rfl
  | shareSender =>
    simp only [step] at moved
    split at moved
    · cases moved; exact .client (.share (by assumption)) rfl
    · cases moved
  | dropSender =>
    simp only [step] at moved
    split at moved
    · cases moved; exact .client .drop rfl
    · cases moved
  | close => cases moved; exact .client .close rfl
  | finish =>
    simp only [step] at moved
    split at moved
    · cases moved; exact .client (.finish (by assumption)) rfl
    · cases moved; exact .client .finishAgain rfl
    · cases moved
  | letGo =>
    simp only [step] at moved
    split at moved
    · cases moved; exact .client (.letGo (by assumption)) rfl
    · cases moved; exact .client (.letGoLate (by assumption)) rfl
    · cases moved
  | owner => exact .owner (ownerMove_of_moveOwner moved)
  | resetTracker =>
    simp only [step, State.tell, Option.map_eq_some_iff] at moved
    obtain ⟨u, told, same⟩ := moved
    cases same
    split at told
    · obtain ⟨tracker, sent, rfl⟩ := Option.map_eq_some_iff.mp told
      exact .client (.reset (by assumption) sent) rfl
    · cases told; exact .client (.resetNobody (by simpa using ‹¬ s.owner.holdsTracker = true›)) rfl
  | askTracker caller =>
    simp only [step, State.ask, State.tell] at moved
    by_cases holds : s.owner.holdsTracker = true
    · by_cases alive : s.tracker.isAlive = true
      · simp only [holds, alive, Bool.and_self, ↓reduceIte, Option.map_eq_some_iff] at moved
        obtain ⟨u, ⟨tracker, sent, rfl⟩, same⟩ := moved
        cases same
        exact .client (.ask holds alive sent) rfl
      · simp [alive] at moved
        obtain ⟨rfl, rfl⟩ := moved
        exact .client (.askNobody (.inr (by simpa using alive))) rfl
    · simp [holds] at moved
      obtain ⟨rfl, rfl⟩ := moved
      exact .client (.askNobody (.inl (by simpa using holds))) rfl
  | loop => exact .loop (loopMove_of_moveLoop moved)
  | worker k =>
    simp only [step, State.moveWorker] at moved
    cases found : s.members[k]? with
    | none => simp [found] at moved
    | some m =>
      simp only [found, Option.map_eq_some_iff, Prod.mk.injEq, Prod.exists] at moved
      obtain ⟨w, made, advanced, rfl, rfl⟩ := moved
      have worker : Move config s (.worker k) _ _ := .worker found (Worker.move_of_advance advanced)
      cases published : made.any Worker.Event.isPublished with
      | true => simp only [published, ↓reduceIte] at worker; exact worker
      | false => simp only [published, ↓reduceIte, Bool.false_eq_true] at worker; exact worker
  | custom k act =>
    have opened := moved
    simp only [step, State.moveCustom] at opened
    cases found : s.members[k]? with
    | none => simp [found] at opened
    | some m =>
      by_cases custom : m.kind = .custom
      · exact .custom found custom moved
      · simp [found, custom] at opened
  | tracker accepts =>
    simp only [step, State.moveTracker, Option.map_eq_some_iff, Prod.mk.injEq, Prod.exists] at moved
    obtain ⟨tracker, effects, advanced, rfl, rfl⟩ := moved
    exact .tracker (Tracker.move_of_advance advanced)
  | closeSink =>
    simp only [step] at moved
    split at moved
    · cases moved
    · cases moved; exact .closeSink (by simpa using ‹¬ s.sinkGone = true›)

end JobPool.Pool
