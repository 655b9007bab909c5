import JobPool.Proofs.Worker.Moves

/-!
The lease of a worker: how many senders of its inbox can be out, and how many jobs can be with it, in
each phase. A worker that was not asked to stop either publishes itself, or has exactly one sender out or
one job in its inbox, or runs one job; every move keeps that (`Move.leased`), and only a request or
the end of the pool sets a worker on its way to stop (`Move.asked`).
-/

namespace JobPool.Worker

variable {J : Type}

/-- The worker decided to stop. -/
def Phase.isStopping : Phase J → Bool
  | .closing => true
  | .draining => true
  | .starting _ late => late
  | .working _ _ _ late => late
  | .ended => true
  | _ => false

/-- The worker closed its inbox. -/
def Phase.isShut : Phase J → Bool
  | .closing => false
  | phase => phase.isStopping

/-- The worker runs a job, or took one to run it at once. -/
def Phase.isBusy : Phase J → Bool
  | .starting _ _ => true
  | .working _ _ _ _ => true
  | _ => false

/-- The worker is about to publish itself. -/
def Phase.isPublishing : Phase J → Bool
  | .publishing => true
  | _ => false

/-- The worker was asked to stop. -/
def asked (w : Worker J) : Bool := w.stopPending || w.phase.isStopping

/-- So many senders of the inbox may be out. -/
def Leased (w : Worker J) (senders : Nat) : Prop :=
  match w.phase with
  | .resting => False
  | .publishing => senders = 0 ∧ w.inbox.items = []
  | .lookingForStop => senders + w.inbox.items.length = 1
  | .lookingForJob => senders + w.inbox.items.length = 1
  | .waiting => senders + w.inbox.items.length = 1
  | .starting _ _ => senders = 0 ∧ w.inbox.items = []
  | .working _ _ _ _ => senders = 0 ∧ w.inbox.items = []
  | .closing => senders + w.inbox.items.length ≤ 1
  | .draining => senders + w.inbox.items.length ≤ 1
  | .ended => senders ≤ 1 ∧ w.inbox.items = []
  | .crashed => False

theorem Leased.le_one {w : Worker J} {senders : Nat} (leased : w.Leased senders) :
    senders + w.inbox.items.length ≤ 1 := by
  unfold Leased at leased
  split at leased
  all_goals first | exact leased.elim | (obtain ⟨out, empty⟩ := leased; simp [out, empty]) | omega

/-- A worker that did not decide to stop is in exactly one situation: it publishes itself, a sender is out, a job is in
    its inbox, or it runs a job. -/
theorem Leased.eq_one {w : Worker J} {senders : Nat} (leased : w.Leased senders)
    (unstopped : w.phase.isStopping = false) :
    w.phase.isPublishing.toNat + senders + w.inbox.items.length + w.phase.isBusy.toNat = 1 := by
  unfold Leased at leased
  cases phase : w.phase <;> simp_all [Phase.isStopping, Phase.isPublishing, Phase.isBusy]

/-- A worker that decided to stop is in at most one of these situations. -/
theorem Leased.at_most_one {w : Worker J} {senders : Nat} (leased : w.Leased senders) :
    w.phase.isPublishing.toNat + senders + w.inbox.items.length + w.phase.isBusy.toNat ≤ 1 := by
  unfold Leased at leased
  cases phase : w.phase <;> simp_all [Phase.isPublishing, Phase.isBusy]

/-- How many jobs the worker was handed and is not through with. -/
def occupied (w : Worker J) : Nat := w.inbox.items.length + w.phase.isBusy.toNat

theorem Leased.occupied {w : Worker J} {senders : Nat} (leased : w.Leased senders) : w.occupied + senders ≤ 1 := by
  have few := leased.at_most_one
  unfold Worker.occupied
  omega

/-- A worker with a sender out does not run a job, and its inbox is empty. -/
theorem Leased.empty {w : Worker J} {senders : Nat} (leased : w.Leased (senders + 1)) : w.inbox.items = [] := by
  have few := leased.le_one
  exact List.eq_nil_of_length_eq_zero (by omega)

/-- A sender that is out may bring a job into an open inbox. -/
theorem Leased.hand {w : Worker J} {senders : Nat} (leased : w.Leased (senders + 1))
    (unshut : w.phase.isShut = false) (job : J) : { w with inbox := w.inbox.push job }.Leased senders := by
  have empty := leased.empty
  unfold Leased at *
  cases phase : w.phase <;> simp_all [Phase.isShut, Phase.isStopping, Channel.push]

theorem leased_congr {w w' : Worker J} {senders : Nat} (phase : w'.phase = w.phase)
    (items : w'.inbox.items = w.inbox.items) (leased : w.Leased senders) : w'.Leased senders := by
  unfold Leased at *
  rw [phase, items]
  exact leased

/-- Joining a worker with a lease waits until it ended. -/
theorem Leased.ended_of_join {w w' : Worker J} {senders : Nat} (leased : w.Leased senders) (running : w.running = true)
    {name : String} {number : Nat} {logs : List Record} (joined : w.join name number = some (w', logs)) :
    w.phase = .ended ∧ w' = { w with running := false } := by
  unfold join at joined
  simp only [running, Bool.not_true, Bool.false_eq_true, ↓reduceIte] at joined
  split at joined
  · cases joined; exact ⟨by assumption, rfl⟩
  · rename_i crashed
    simp [Leased, crashed] at leased
  · cases joined

variable [Job J]

/-- A worker does not crash in a run of a job that returns. -/
theorem Move.intact {policy : Policy} {number : Nat} {pool : Admission} {w w' : Worker J} {events : List (Event J)}
    (moved : Move policy number pool w events w') (returns : ∀ job : J, ∃ ending, policy.run job = .ok ending) :
    w'.phase ≠ .crashed := by
  cases moved with
  | @crash job draining fault phase limited =>
    obtain ⟨ending, ran⟩ := returns job
    simp [Policy.run, limited, bind, Except.bind] at ran
  | @finish job attempt limit draining ending phase judged => cases draining <;> simp
  | _ => simp

variable {policy : Policy} {number : Nat} {pool : Admission} {w w' : Worker J} {events : List (Event J)}

/-- Every move of a worker keeps its lease; publishing puts one more sender out. -/
theorem Move.leased (moved : Move policy number pool w events w')
    (intact : w'.phase ≠ .crashed) {senders : Nat} (leased : w.Leased senders) :
    w'.Leased (senders + if events.any Event.isPublished then 1 else 0) := by
  cases moved with
  | crash => exact absurd rfl intact
  | publish phase => simp_all [Leased, Event.isPublished]
  | @take job rest phase first =>
    simp only [Leased, phase, first, List.length_cons] at leased
    have none : senders = 0 ∧ rest = [] := ⟨by omega, List.eq_nil_of_length_eq_zero (by omega)⟩
    simpa [Leased] using none
  | @drain job rest phase first =>
    simp only [Leased, phase, first, List.length_cons] at leased
    have none : senders = 0 ∧ rest = [] := ⟨by omega, List.eq_nil_of_length_eq_zero (by omega)⟩
    simpa [Leased] using none
  | @finish job attempt limit draining ending phase judged =>
    cases draining <;> simp_all [Leased, Event.isPublished]
  | close phase => simp_all [Leased, Channel.close]
  | _ phase => simp_all [Leased, Event.isPublished]

/-- No move of a worker hands it a job. -/
theorem Move.occupied (moved : Move policy number pool w events w') : w'.occupied ≤ w.occupied := by
  cases moved with
  | @finish job attempt limit draining ending phase judged =>
    cases draining <;> simp [Worker.occupied, phase, Phase.isBusy]
  | take phase first | drain phase first => simp [Worker.occupied, phase, first, Phase.isBusy]
  | close phase => simp [Worker.occupied, phase, Phase.isBusy, Channel.close]
  | _ phase => simp [Worker.occupied, phase, Phase.isBusy]

theorem Move.capacity (moved : Move policy number pool w events w') :
    w'.inbox.capacity = w.inbox.capacity := by
  cases moved <;> rfl

theorem Move.running (moved : Move policy number pool w events w') : w'.running = w.running := by
  cases moved <;> rfl

theorem Move.abandoned (moved : Move policy number pool w events w') : w'.abandoned = w.abandoned := by
  cases moved <;> rfl

/-- The inbox is closed after the decision to stop and before it is drained, and stays closed. -/
theorem Move.shut (moved : Move policy number pool w events w')
    (intact : w'.phase ≠ .crashed) (shut : w.inbox.closed = w.phase.isShut) :
    w'.inbox.closed = w'.phase.isShut := by
  cases moved with
  | crash => exact absurd rfl intact
  | @finish job attempt limit draining ending phase judged =>
    cases draining <;> simp_all [Phase.isShut, Phase.isStopping]
  | close phase => simp [Phase.isShut, Phase.isStopping, Channel.close]
  | _ phase => simp_all [Phase.isShut, Phase.isStopping]

/-- A worker is asked to stop by others only, and stays asked. -/
theorem Move.asked (moved : Move policy number pool w events w')
    (intact : w'.phase ≠ .crashed) (shut : w.inbox.closed = w.phase.isShut)
    (cause : w.asked = true ∨ pool ≠ .gone ∧ w.abandoned = false) : w'.asked = w.asked := by
  cases moved with
  | crash => exact absurd rfl intact
  | @finish job attempt limit draining ending phase judged =>
    cases draining <;> simp_all [Worker.asked, Phase.isStopping]
  | heed phase summoned => rcases summoned with pending | abandoned <;> simp_all [Worker.asked, Phase.isStopping]
  | _ phase => simp_all [Worker.asked, Phase.isShut, Phase.isStopping]

/-- A worker that did not end goes on if it was asked to stop or has no sender out. -/
theorem Leased.goes_on {senders : Nat} (leased : w.Leased senders) (policy : Policy) (number : Nat)
    (admitted : w.phase = .publishing → pool ≠ .full) (unended : w.phase ≠ .ended)
    (cause : w.asked = true ∨ senders = 0) : (w.advance policy number pool).isSome = true := by
  unfold advance
  unfold Leased at leased
  cases phase : w.phase with
  | resting | crashed => simp [phase] at leased
  | ended => exact absurd phase unended
  | publishing => cases pool <;> simp_all
  | lookingForStop => simp only; split <;> rfl
  | lookingForJob | draining => simp only; split <;> rfl
  | waiting =>
    have reason : w.stopPending = true ∨ w.inbox.items ≠ [] := by
      rcases cause with asked | none
      · left; simpa [Worker.asked, phase, Phase.isStopping] using asked
      · right; simp only [phase, none] at leased; intro empty; simp [empty] at leased
    rcases reason with pending | filled
    · simp [pending]
    · simp [filled]
  | starting | working | closing => rfl

end JobPool.Worker
