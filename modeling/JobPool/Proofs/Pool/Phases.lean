import JobPool.Proofs.Pool.Moves
import JobPool.Proofs.Pool.Total
import JobPool.Proofs.Worker.Delivery

/-!
Where the threads of the workers are. Only the move of a worker changes its phase, and only there does a
worker do what others see; everybody else leaves the phases as they are (`workerMove_or_phases`). So what
is counted by the phases alone has to be looked at for the moves of workers only.
-/

namespace JobPool.Pool

variable {J : Type}

/-- The phases of the workers, in the order of their numbers. -/
def State.phases (s : State J) : List (Worker.Phase (Task J)) := s.members.map fun m => m.worker.phase

/-- A worker did it. -/
def Event.isOfWorker : Event J → Bool
  | .worker _ _ => true
  | _ => false

namespace State

/-- A sum that looks at the phases only. -/
theorem total_phases (s : State J) (g : Worker.Phase (Task J) → Nat) :
    (s.total fun w => g w.phase) = (s.phases.map g).sum := by
  simp [total, phases, Function.comp_def]

theorem total_phase_congr {s t : State J} (same : t.phases = s.phases) (g : Worker.Phase (Task J) → Nat) :
    (t.total fun w => g w.phase) = s.total fun w => g w.phase := by
  rw [total_phases, total_phases, same]

/-- What is the same of a worker that changes is the same of all workers. -/
theorem map_members_set {β : Type} {s t : State J} {k : Nat} {m m' : Member (Task J)} (f : Member (Task J) → β)
    (found : s.members[k]? = some m) (members : t.members = s.members.set k m') (same : f m' = f m) :
    t.members.map f = s.members.map f := by
  obtain ⟨inside, rfl⟩ := List.getElem?_eq_some_iff.mp found
  have within : k < (s.members.map f).length := by simpa using inside
  have here : (s.members.map f)[k] = f s.members[k] := List.getElem_map _
  have stays : (s.members.map f).set k (s.members.map f)[k] = s.members.map f := List.set_getElem_self within
  rw [here] at stays
  rw [members, List.map_set, same]
  exact stays

/-- A worker that changes but not in its phase. -/
theorem phases_set {s t : State J} {k : Nat} {m m' : Member (Task J)} (found : s.members[k]? = some m)
    (members : t.members = s.members.set k m') (same : m'.worker.phase = m.worker.phase) : t.phases = s.phases :=
  map_members_set (fun m => m.worker.phase) found members same

private theorem phases_closeLoop (s : State J) (loop : Loop (Task J)) : (s.closeLoop loop).phases = s.phases := by
  simp [phases, closeLoop, Function.comp_def]

end State

variable [Job J] {config : Config} {s t : State J} {action : Action J} {events : List (Event J)}

omit [Job J] in
theorem phases_of_clientMove (moved : ClientMove config s action events t) :
    t.phases = s.phases ∧ ∀ event ∈ events, event.isOfWorker = false := by
  cases moved <;> exact ⟨rfl, by simp [Event.isOfWorker]⟩

omit [Job J] in
theorem phases_of_ownerMove (moved : OwnerMove config s events t) :
    t.phases = s.phases ∧ ∀ event ∈ events, event.isOfWorker = false := by
  cases moved with
  | joinLoop waiting through logged | joinTracker waiting through logged =>
    refine ⟨rfl, fun event member => ?_⟩
    obtain ⟨record, rfl⟩ := logged event member
    rfl

theorem phases_of_loopMove (moved : LoopMove config s events t) :
    t.phases = s.phases ∧ ∀ event ∈ events, event.isOfWorker = false := by
  cases moved with
  | hand loop found | stop loop found => exact ⟨State.phases_set found rfl rfl, by simp [Event.isOfWorker]⟩
  | join loop found standard joined =>
    exact ⟨State.phases_set found rfl (Worker.join_same joined).1, by simp [Event.isOfWorker]⟩
  | stopFaulty | retire => exact ⟨State.phases_closeLoop _ _, by simp [Event.isOfWorker]⟩
  | _ => exact ⟨rfl, by simp [Event.isOfWorker]⟩

/-- A move of a pool is one of a worker, or leaves the phases of all workers as they are and shows nothing of them. -/
theorem workerMove_or_phases (moved : Move config s action events t) :
    (∃ (k : Nat) (m : Member (Task J)) (done : List (Worker.Event (Task J))) (w : Worker (Task J)),
      s.members[k]? = some m ∧ Worker.Move (s.policy config) k s.admission m.worker done w ∧
        t.members = s.members.set k { m with worker := w } ∧ events = done.map (.worker k)) ∨
      (t.phases = s.phases ∧ ∀ event ∈ events, event.isOfWorker = false) := by
  cases moved with
  | @worker k m done w found moved => exact .inl ⟨k, m, done, w, found, moved, rfl, rfl⟩
  | client moved => exact .inr (phases_of_clientMove moved)
  | owner moved => exact .inr (phases_of_ownerMove moved)
  | loop moved => exact .inr (phases_of_loopMove moved)
  | custom found custom moved =>
    obtain ⟨rfl, idle, m', rfl, -, phase⟩ := of_moveCustom found moved
    exact .inr ⟨State.phases_set found rfl phase, by simp⟩
  | tracker | closeSink => exact .inr ⟨rfl, by simp [Event.isOfWorker]⟩

end JobPool.Pool
