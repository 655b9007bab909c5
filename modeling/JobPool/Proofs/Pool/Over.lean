import JobPool.Pool.Gauged
import JobPool.Proofs.Pool.Moves
import JobPool.Proofs.Tracker.Law

/-!
What a pool over a registry can do, move by move: it moves by itself and leaves the registry as it is, or its
tracker finds a new greatest sample, which goes to the gauge (`overMove_of_stepOver`).
-/

namespace JobPool.Pool

open JobPool.Metric (Registry)

variable {J : Type}

/-- Nothing is given to the gauge. -/
def Ungauged (events : List (Event J)) : Prop := ∀ greatest, .tracker (.gauge greatest) ∉ events

private theorem writeGauge_ungauged (config : Config) (r : Registry) {told : List (Event J)} (quiet : Ungauged told) :
    (writeGauge config r told).1 = r := by
  induction told with
  | nil => rfl
  | cons event rest ih =>
    have later := ih fun greatest listed => quiet greatest (List.mem_cons_of_mem _ listed)
    simp only [writeGauge]
    split
    · exact absurd List.mem_cons_self (quiet _)
    · exact later

/-- Whoever does not listen to the registry learns nothing more from a move over it. -/
theorem foldl_writeGauge {β : Type} {f : β → Event J → β} (deaf : ∀ b record, f b (.metrics record) = b)
    (config : Config)
    (r : Registry) (events : List (Event J)) (b : β) :
    (writeGauge config r events).2.foldl f b = events.foldl f b := by
  have logs : ∀ (records : List Record) b, (records.map (.metrics : Record → Event J)).foldl f b = b := by
    intro records
    induction records with
    | nil => exact fun _ => rfl
    | cons record rest ih =>
      intro b
      rw [List.map_cons, List.foldl_cons, deaf, ih]
  induction events generalizing r b with
  | nil => rfl
  | cons event rest ih =>
    simp only [writeGauge, List.cons_append, List.foldl_cons, List.foldl_append]
    rw [logs, ih]

variable [Job J]

/-- A move of a pool over a registry. -/
inductive OverMove (config : Config) (r : Registry) (s : State J) : Action J → List (Event J) → Registry →
  State J → Prop
  | quiet {action : Action J} {events : List (Event J)} {t : State J} (moved : step config s action = some (t, events))
      (quiet : Ungauged events) : OverMove config r s action events r t
  | raise {accepts : Bool} {greatest : UInt64} {tracker : Tracker}
      (moved : Tracker.Move config.name s.tracker [.log (Tracker.raised config.name greatest), .gauge greatest] tracker)
      (lives : (Gauge.write r config.name greatest).result.isOk = true → tracker.status ≠ .died) :
      OverMove config r s (.tracker accepts)
        [.tracker (.log (Tracker.raised config.name greatest)), .tracker (.gauge greatest)]
        (Gauge.write r config.name greatest).state { s with tracker := tracker }

variable {config : Config} {r : Registry} {s t : State J} {action : Action J} {events : List (Event J)}

private theorem ungauged_of_step (moved : step config s action = some (t, events)) (other : ∀ accepts,
    action ≠ .tracker accepts) :
    Ungauged events := by
  intro greatest listed
  cases move_of_step moved with
  | client moved outside => cases moved <;> simp at listed
  | owner moved =>
    cases moved with
    | joinLoop waiting through logged | joinTracker waiting through logged =>
      obtain ⟨record, same⟩ := logged _ listed
      cases same
  | loop moved => cases moved <;> simp at listed
  | worker | closeSink => simp at listed
  | custom found custom moved =>
    obtain ⟨rfl, -⟩ := of_moveCustom found moved
    cases listed
  | tracker => exact absurd rfl (other _)

/-- What a pool over a registry does is one of its moves; what the registry logs follows. -/
theorem overMove_of_stepOver {r' : Registry} {told : List (Event J)}
    (moved : stepOver config r s action = some (r', t, told)) :
    ∃ events, OverMove config r s action events r' t ∧ told = (writeGauge config r events).2 := by
  have plain : (∀ accepts, action ≠ .tracker accepts) → stepOver config r s action =
      (step config s action).map fun moved =>
        ((writeGauge config r moved.2).1, moved.1, (writeGauge config r moved.2).2) := by
    intro other
    cases action with
    | tracker accepts => exact absurd rfl (other accepts)
    | _ => rfl
  by_cases tracks : ∃ accepts, action = .tracker accepts
  · obtain ⟨accepts, rfl⟩ := tracks
    obtain ⟨⟨s', events⟩, stepped, same⟩ := Option.map_eq_some_iff.mp moved
    obtain ⟨⟨tracker, effects⟩, advanced, made⟩ := Option.map_eq_some_iff.mp stepped
    cases made
    cases same
    cases next : s.tracker.nextGauge? with
    | none =>
      have shape := Tracker.advance_of_nextGauge config.name accepts s.tracker
      have asked := Tracker.advance_of_nextGauge config.name (gaugeAccepts config r s) s.tracker
      simp only [next] at shape asked
      obtain ⟨either, quiet⟩ := shape
      rw [asked.1] at advanced
      have silent : Ungauged (effects.map (.tracker : Tracker.Effect → Event J)) := by
        intro greatest listed
        exact quiet tracker effects advanced greatest (by simpa using listed)
      have taken : step config s (.tracker accepts) = some ({ s with tracker := tracker }, effects.map .tracker) := by
        simp only [step, State.moveTracker, either, advanced, Option.map_some]
      refine ⟨_, ?_, rfl⟩
      rw [writeGauge_ungauged config r silent]
      exact .quiet taken silent
    | some greatest =>
      have shape := Tracker.advance_of_nextGauge config.name (gaugeAccepts config r s) s.tracker
      simp only [next] at shape
      obtain ⟨u, taken, either⟩ := shape
      have own := Tracker.move_of_advance advanced
      have decided : gaugeAccepts config r s = (Gauge.write r config.name greatest).result.isOk := by
        simp only [gaugeAccepts, next, Gauge.accepts]
      rw [either] at advanced
      cases advanced
      refine ⟨_, .raise own fun fine => ?_, rfl⟩
      rw [decided, fine]
      exact Tracker.undied_of_advance taken
  · have other : ∀ accepts, action ≠ .tracker accepts := fun accepts same => tracks ⟨accepts, same⟩
    rw [plain other] at moved
    obtain ⟨⟨s', events⟩, stepped, same⟩ := Option.map_eq_some_iff.mp moved
    cases same
    have quiet := ungauged_of_step stepped other
    refine ⟨events, ?_, rfl⟩
    rw [writeGauge_ungauged config r quiet]
    exact .quiet stepped quiet

theorem OverMove.move {r' : Registry} (moved : OverMove config r s action events r' t) :
    Move config s action events t := by
  cases moved with
  | quiet moved => exact move_of_step moved
  | raise moved => exact .tracker moved

end JobPool.Pool
