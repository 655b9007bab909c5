import JobPool.Proofs.Runs
import JobPool.Proofs.Worker.Order
import JobPool.Solo

/-!
Runs of a worker by itself. `move_of_step` takes `step` apart once and for all; what is known of the worker
in every state that a run comes to is `orderly_of_run`.
-/

namespace JobPool.Solo

open JobPool.Pool (Submission)

variable {J : Type} [Job J]

/-- A move of the worker, of whoever owns it or takes it out of the pool, or of one of its clients. -/
inductive Move (config : Config) (s : State J) : Action J → List (Event J) → State J → Prop
  | start : Move config s .start [] { s with worker := s.worker.start }
  | stop : Move config s .stop [] { s with worker := s.worker.stop }
  | join {w : Worker (Task J)} {logs : List Record}
      (joined : s.worker.join config.name config.number = some (w, logs)) :
      Move config s .join (logs.map .joined) { s with worker := w }
  | worker {w : Worker (Task J)} {done : List (Worker.Event (Task J))}
      (own : Worker.Move (s.policy config) config.number s.admission s.worker done w) :
      Move config s .worker (done.map .worker) (s.moved w done)
  | take {rest : List Unit} (first : s.pool.items = () :: rest) :
      Move config s .take [] { s with pool := { s.pool with items := rest }, taken := true }
  | dropPool : Move config s .dropPool [] { s with pool := { s.pool with items := [], closed := true } }
  | enter {job : J} {wait : Bool} (unclosed : s.worker.inbox.closed = false)
      (room : s.worker.inbox.items.length < s.worker.inbox.capacity) :
      Move config s (.send job wait) [.sent ⟨s.nextTicket, job⟩ .accepted]
        { s with
            nextTicket := s.nextTicket + 1,
            worker := { s.worker with inbox := s.worker.inbox.push ⟨s.nextTicket, job⟩ } }
  | turnAway {job : J} {wait : Bool} {answer : Submission} (refused : answer ≠ .accepted) :
      Move config s (.send job wait) [.sent ⟨s.nextTicket, job⟩ answer] { s with nextTicket := s.nextTicket + 1 }
  | queueUp {job : J} :
      Move config s (.send job true) []
        { s with nextTicket := s.nextTicket + 1, waiting := s.waiting ++ [⟨s.nextTicket, job⟩] }
  | letIn {index : Nat} {task : Task J} (found : s.waiting[index]? = some task)
      (unclosed : s.worker.inbox.closed = false)
      (room : s.worker.inbox.items.length < s.worker.inbox.capacity) :
      Move config s (.resume index) [.sent task .accepted]
        { s with
            waiting := s.waiting.eraseIdx index,
            worker := { s.worker with inbox := s.worker.inbox.push task } }
  | sendBack {index : Nat} {task : Task J} (found : s.waiting[index]? = some task) :
      Move config s (.resume index) [.sent task .closed] { s with waiting := s.waiting.eraseIdx index }
  | closeSink : Move config s .closeSink [] { s with sinkGone := true }

variable {config : Config} {s t : State J} {action : Action J} {actions : List (Action J)} {events : List (Event J)}

private theorem move_of_send (job : J) (wait : Bool) :
    Move config s (.send job wait) (s.send job wait).2 (s.send job wait).1 := by
  simp only [State.send]
  cases closed : s.worker.inbox.closed with
  | true =>
    simp only [Channel.offer_of_closed closed]
    exact .turnAway (by simp)
  | false =>
    by_cases room : s.worker.inbox.items.length < s.worker.inbox.capacity
    · simp only [Channel.offer_of_room closed room]
      exact .enter closed room
    · simp only [Channel.offer_of_full closed room]
      cases wait with
      | true => exact .queueUp
      | false => exact .turnAway (by simp)

private theorem move_of_resume {index : Nat} (resumed : s.resume index = some (t, events)) :
    Move config s (.resume index) events t := by
  unfold State.resume at resumed
  cases found : s.waiting[index]? with
  | none => simp [found] at resumed
  | some task =>
    simp only [found] at resumed
    cases closed : s.worker.inbox.closed with
    | true =>
      rw [Channel.offer_of_closed closed] at resumed
      cases resumed
      exact .sendBack found
    | false =>
      by_cases room : s.worker.inbox.items.length < s.worker.inbox.capacity
      · rw [Channel.offer_of_room closed room] at resumed
        cases resumed
        exact .letIn found closed room
      · rw [Channel.offer_of_full closed room] at resumed
        cases resumed

/-- Whatever happens is one of these moves. -/
theorem move_of_step (moved : step config s action = some (t, events)) : Move config s action events t := by
  unfold step at moved
  cases action with
  | start => cases moved; exact .start
  | stop => cases moved; exact .stop
  | join =>
    obtain ⟨⟨w, logs⟩, joined, same⟩ := Option.map_eq_some_iff.mp moved
    cases same
    exact .join joined
  | worker =>
    obtain ⟨⟨w, done⟩, advanced, same⟩ := Option.map_eq_some_iff.mp moved
    cases same
    exact .worker (Worker.move_of_advance advanced)
  | take =>
    obtain ⟨⟨first, pool⟩, taken, same⟩ := Option.map_eq_some_iff.mp moved
    cases items : s.pool.items with
    | nil => simp [Channel.take?, items] at taken
    | cons first rest =>
      simp only [Channel.take?, items, Option.some.injEq, Prod.mk.injEq] at taken
      obtain ⟨-, rfl⟩ := taken
      cases same
      exact .take items
  | dropPool => cases moved; exact .dropPool
  | send job wait =>
    simp only at moved
    split at moved
    · have made : Move config s (.send job wait) _ _ := move_of_send job wait
      rwa [Option.some.inj moved] at made
    · cases moved
  | resume index => exact move_of_resume moved
  | closeSink => cases moved; exact .closeSink

/-- Makes moves one after the other, from a worker that was just made. -/
def run (config : Config) (actions : List (Action J)) : Option (State J × List (Event J)) :=
  Runs.run (step config) (start config) actions

/-- What a worker does in the states that it gets into, whatever happens around it. -/
theorem orderly_of_move (moved : Move config s action events t) (orderly : s.worker.Orderly) : t.worker.Orderly := by
  cases moved with
  | start => exact orderly.start
  | stop => exact orderly.stop
  | join joined => exact orderly.join joined
  | worker own => exact own.orderly orderly
  | enter unclosed room | letIn found unclosed room => exact orderly.push unclosed room _
  | take | dropPool | turnAway | queueUp | sendBack | closeSink => exact orderly

theorem orderly_of_run (ran : run config actions = some (s, events)) : s.worker.Orderly := by
  refine Runs.run_induction (motive := fun _ _ s => s.worker.Orderly) Worker.orderly_new ?_ ran
  intro actions past t action new u first orderly last
  exact orderly_of_move (move_of_step last) orderly

/-- What a worker that was just made comes to and what happens, if these moves can all be made. -/
def after (config : Config) (actions : List (Action J)) : State J × List (Event J) :=
  Runs.after (step config) (start config) actions

end JobPool.Solo
