import JobPool.Proofs.Worker.Lease

/-!
What holds of a worker whatever is done to it from outside: when its thread can be absent, when its inbox is
closed, and how much is in it (`Orderly`). Once the worker was asked to stop, what the inbox can still take is
limited, and only the worker that looked for requests just before can be given a job more (`Move.allowance`).
-/

namespace JobPool.Worker

variable {J : Type}

/-- A worker as its owner, its clients and its own moves leave it. -/
structure Orderly (w : Worker J) : Prop where
  absent : w.running = false → w.phase = .resting ∨ w.phase = .ended ∨ w.phase = .crashed
  shut : w.phase.isShut = true → w.inbox.closed = true
  drained : w.phase = .ended → w.inbox.items = []
  single : w.inbox.capacity = 1
  few : w.inbox.items.length ≤ 1

theorem orderly_new : (new : Worker J).Orderly := by
  constructor <;> simp [new, Channel.empty, Phase.isShut, Phase.isStopping]

namespace Orderly

variable {w : Worker J}

theorem start (orderly : w.Orderly) : w.start.Orderly := by
  unfold Worker.start
  split
  · exact orderly
  · exact ⟨by simp, by simp [Phase.isShut, Phase.isStopping], by simp, orderly.single, orderly.few⟩

theorem stop (orderly : w.Orderly) : w.stop.Orderly :=
  ⟨orderly.absent, orderly.shut, orderly.drained, orderly.single, orderly.few⟩

theorem join {w' : Worker J} {name : String} {number : Nat} {logs : List Record} (orderly : w.Orderly)
    (joined : w.join name number = some (w', logs)) : w'.Orderly := by
  unfold Worker.join at joined
  split at joined
  · cases joined
    exact orderly
  · split at joined
    · rename_i ended
      cases joined
      exact ⟨fun _ => .inr (.inl ended), orderly.shut, orderly.drained, orderly.single, orderly.few⟩
    · rename_i crashed
      cases joined
      exact ⟨fun _ => .inr (.inr crashed), orderly.shut, orderly.drained, orderly.single, orderly.few⟩
    · cases joined

/-- A job gets into an open inbox only when there is none in it. -/
theorem empty (orderly : w.Orderly) (room : w.inbox.items.length < w.inbox.capacity) : w.inbox.items = [] := by
  rw [orderly.single] at room
  exact List.eq_nil_of_length_eq_zero (by omega)

theorem push (orderly : w.Orderly) (unclosed : w.inbox.closed = false)
    (room : w.inbox.items.length < w.inbox.capacity) (job : J) : { w with inbox := w.inbox.push job }.Orderly := by
  refine ⟨orderly.absent, orderly.shut, ?_, orderly.single, ?_⟩
  · intro ended
    have closed := orderly.shut (by simp [show w.phase = .ended from ended, Phase.isShut, Phase.isStopping])
    simp [unclosed] at closed
  · simp [Channel.push, orderly.empty room]

end Orderly

theorem stopPending_of_join {w w' : Worker J} {name : String} {number : Nat} {logs : List Record}
    (joined : w.join name number = some (w', logs)) : w'.stopPending = w.stopPending := by
  unfold join at joined
  split at joined
  · cases joined; rfl
  · split at joined
    · cases joined; rfl
    · cases joined; rfl
    · cases joined

variable [Job J] {policy : Policy} {number : Nat} {pool : Admission} {w w' : Worker J} {events : List (Event J)}

theorem Move.orderly (moved : Move policy number pool w events w') (orderly : w.Orderly) : w'.Orderly := by
  have present : w.running = true := by
    rcases running : w.running with _ | _
    · rcases orderly.absent running with phase | phase | phase <;> cases moved <;> simp_all
    · rfl
  have few := orderly.few
  refine ⟨by simp [moved.running, present], ?_, ?_, by rw [moved.capacity, orderly.single], ?_⟩
  · have shut := orderly.shut
    cases moved with
    | @finish job attempt limit draining ending phase judged =>
      cases draining <;> simp_all [Phase.isShut, Phase.isStopping]
    | close phase => simp [Channel.close]
    | _ phase => simp_all [Phase.isShut, Phase.isStopping]
  · cases moved with
    | @finish job attempt limit draining ending phase judged => cases draining <;> simp
    | retire phase empty => simp [empty]
    | _ phase => simp
  · cases moved with
    | take phase first | drain phase first => simp [first] at few ⊢; simp [few]
    | _ => exact few

/-- A worker does not open its inbox again. -/
theorem Move.closed (moved : Move policy number pool w events w') (closed : w.inbox.closed = true) :
    w'.inbox.closed = true := by
  cases moved with
  | close => rfl
  | _ => exact closed

/-- The worker looked for requests and is about to look for a job. -/
def Phase.isBetweenLooks : Phase J → Bool
  | .lookingForJob => true
  | _ => false

/-- So many jobs more can get into the inbox of a worker that was asked to stop. -/
def allowance (w : Worker J) : Nat :=
  if w.inbox.closed then 0 else 1 + w.phase.isBetweenLooks.toNat - w.inbox.items.length

/-- The worker will not take jobs for long any more: it was asked to stop, or its inbox is closed. -/
def leaves (w : Worker J) : Prop := w.asked = true ∨ w.inbox.closed = true

omit [Job J] in
theorem leaves_stop (w : Worker J) : w.stop.leaves := .inl (by simp [asked, stop])

theorem Move.leaves (moved : Move policy number pool w events w') (orderly : w.Orderly) (leaves : w.leaves) :
    w'.leaves := by
  have shut := orderly.shut
  unfold Worker.leaves Worker.asked at *
  cases moved with
  | @finish job attempt limit draining ending phase judged =>
    cases draining <;> simp_all [Phase.isShut, Phase.isStopping]
  | close phase => simp [Channel.close]
  | @crash job draining fault phase limited => cases draining <;> simp_all [Phase.isShut, Phase.isStopping]
  | _ phase => simp_all [Phase.isShut, Phase.isStopping]

omit [Job J] in
/-- A job that gets into the inbox uses up some of what can get in. -/
theorem Orderly.allowance_push (orderly : w.Orderly) (unclosed : w.inbox.closed = false)
    (room : w.inbox.items.length < w.inbox.capacity) (job : J) :
    { w with inbox := w.inbox.push job }.allowance + 1 = w.allowance := by
  simp [allowance, Channel.push, unclosed, orderly.empty room, Nat.add_comm]

omit [Job J] in
/-- A worker that was not looking for a job takes one more, a worker that was takes at most two. -/
theorem allowance_le (w : Worker J) : w.allowance ≤ 1 + w.phase.isBetweenLooks.toNat := by
  unfold allowance
  split <;> omega

/-- A worker that was asked to stop does not get ready for more jobs by what it does. -/
theorem Move.allowance (moved : Move policy number pool w events w') (orderly : w.Orderly) (leaves : w.leaves) :
    w'.allowance ≤ w.allowance := by
  have shut := orderly.shut
  cases moved with
  | @finish job attempt limit draining ending phase judged =>
    cases draining <;> simp [Worker.allowance, Phase.isBetweenLooks, phase]
  | @take job rest phase first =>
    have few := orderly.few
    simp only [first, List.length_cons] at few
    have none : rest = [] := List.eq_nil_of_length_eq_zero (by omega)
    simp [Worker.allowance, Phase.isBetweenLooks, phase, first, none]
  | drain phase first =>
    have closed := shut (by simp [phase, Phase.isShut, Phase.isStopping])
    simp [Worker.allowance, closed]
  | look phase free => simp_all [Worker.allowance, Worker.leaves, Worker.asked, Phase.isStopping]
  | giveUp phase empty closed => simp [Worker.allowance, closed]
  | park phase empty unclosed => simp [Worker.allowance, Phase.isBetweenLooks, phase, empty, unclosed]
  | close phase => simp [Worker.allowance, Channel.close]
  | _ phase => simp [Worker.allowance, Phase.isBetweenLooks, phase]

end JobPool.Worker
