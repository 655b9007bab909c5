import Mathlib.Data.List.Induction

/-!
Runs of whatever makes moves: a system in which a move can be made or cannot, and in which every move
shows what happens in it.
-/

namespace JobPool.Runs

variable {σ α ε : Type} {step : σ → α → Option (σ × List ε)}

/-- Makes moves one after the other; what happens is listed in order. -/
def run (step : σ → α → Option (σ × List ε)) : σ → List α → Option (σ × List ε)
  | s, [] => some (s, [])
  | s, action :: rest =>
    match step s action with
    | none => none
    | some (t, events) => (run step t rest).map fun (u, later) => (u, events ++ later)

private theorem run_append (s : σ) (first later : List α) :
    run step s (first ++ later) =
      match run step s first with
      | none => none
      | some (t, events) => (run step t later).map fun (u, more) => (u, events ++ more) := by
  induction first generalizing s with
  | nil => simp [run]
  | cons action rest ih =>
    simp only [List.cons_append, run]
    cases step s action with
    | none => rfl
    | some moved =>
      simp only [ih]
      cases run step moved.1 rest with
      | none => rfl
      | some middle => simp [Option.map_map, Function.comp_def, List.append_assoc]

/-- A run is a first move with a run after it. -/
theorem run_cons {s u : σ} {action : α} {rest : List α} {events : List ε} :
    run step s (action :: rest) = some (u, events) ↔
      ∃ t new later, step s action = some (t, new) ∧ run step t rest = some (u, later) ∧ events = new ++ later := by
  cases first : step s action with
  | none => simp [run, first]
  | some moved =>
    obtain ⟨t, new⟩ := moved
    simp only [run, first, Option.map_eq_some_iff, Prod.mk.injEq, Option.some.injEq, Prod.exists]
    constructor
    · rintro ⟨v, later, ran, rfl, rfl⟩
      exact ⟨t, new, later, ⟨rfl, rfl⟩, ran, rfl⟩
    · rintro ⟨_, _, later, ⟨rfl, rfl⟩, ran, rfl⟩
      exact ⟨u, later, ran, rfl, rfl⟩

/-- A run is a run to some state and a run from there. -/
theorem run_split {s u : σ} {first later : List α} {events : List ε} :
    run step s (first ++ later) = some (u, events) ↔
      ∃ t past new, run step s first = some (t, past) ∧ run step t later = some (u, new) ∧ events = past ++ new := by
  rw [run_append]
  cases begun : run step s first with
  | none => simp
  | some moved =>
    obtain ⟨t, past⟩ := moved
    simp only [Option.map_eq_some_iff, Prod.mk.injEq, Prod.exists]
    constructor
    · rintro ⟨v, new, ended, rfl, rfl⟩
      exact ⟨t, past, new, rfl, ended, rfl⟩
    · rintro ⟨t', past', new, same, ended, rfl⟩
      cases same
      exact ⟨u, new, ended, rfl, rfl⟩

/-- A run is a shorter run with a last move. -/
theorem run_concat {s u : σ} {actions : List α} {action : α} {events : List ε} :
    run step s (actions ++ [action]) = some (u, events) ↔
      ∃ t past new, run step s actions = some (t, past) ∧ step t action = some (u, new) ∧ events = past ++ new := by
  rw [run_split]
  refine exists_congr fun t => exists_congr fun past => exists_congr fun new => and_congr_right fun _ =>
    and_congr_left fun _ => ?_
  cases last : step t action with
  | none => simp [run, last]
  | some next => simp [run, last, Prod.ext_iff]

/-- What holds at the start and is kept by every move holds after every run. -/
theorem run_induction {s : σ} {motive : List α → List ε → σ → Prop} (begun : motive [] [] s)
    (kept : ∀ {actions past t action new u}, run step s actions = some (t, past) → motive actions past t →
      step t action = some (u, new) → motive (actions ++ [action]) (past ++ new) u)
    {actions : List α} {events : List ε} {t : σ} (ran : run step s actions = some (t, events)) :
    motive actions events t := by
  induction actions using List.reverseRecOn generalizing t events with
  | nil => simp only [run, Option.some.injEq, Prod.mk.injEq] at ran; obtain ⟨rfl, rfl⟩ := ran; exact begun
  | append_singleton actions action ih =>
    obtain ⟨middle, past, new, first, last, rfl⟩ := run_concat.mp ran
    exact kept first (ih first) last

/-- What these moves come to, if they can all be made. -/
def after (step : σ → α → Option (σ × List ε)) (s : σ) (actions : List α) : σ × List ε :=
  (run step s actions).getD (s, [])

theorem run_after {s : σ} {actions : List α} (made : (run step s actions).isSome = true) :
    run step s actions = some (after step s actions) := by
  obtain ⟨moved, ran⟩ := Option.isSome_iff_exists.mp made
  rw [after, ran, Option.getD_some]

/-- Of these moves, tried one after the other, those that can be made. -/
def able (step : σ → α → Option (σ × List ε)) : σ → List α → List α
  | _, [] => []
  | s, action :: rest =>
    match step s action with
    | none => able step s rest
    | some (t, _) => action :: able step t rest

theorem isSome_run_able (s : σ) (actions : List α) : (run step s (able step s actions)).isSome = true := by
  induction actions generalizing s with
  | nil => rfl
  | cons action rest ih =>
    rw [able]
    cases moved : step s action with
    | none => exact ih s
    | some next =>
      simp only [run, moved, Option.isSome_map]
      exact ih next.1

/-- What the events come to, each of them given those before it. -/
def gather {β : Type} (f : List ε → ε → Option β) (past : List ε) : List ε → List β
  | [] => []
  | event :: later => (f past event).toList ++ gather f (past ++ [event]) later

theorem gather_append {β : Type} (f : List ε → ε → Option β) (past events more : List ε) :
    gather f past (events ++ more) = gather f past events ++ gather f (past ++ events) more := by
  induction events generalizing past with
  | nil => simp [gather]
  | cons event later ih => simp [gather, ih]

/-- What was before matters only as far as it is looked at. -/
theorem gather_congr {β : Type} {f : List ε → ε → Option β} {past other : List ε}
    (same : ∀ between event, f (past ++ between) event = f (other ++ between) event) (events : List ε) :
    gather f past events = gather f other events := by
  induction events generalizing past other with
  | nil => rfl
  | cons event later ih =>
    have here : f past event = f other event := by simpa using same [] event
    have after : ∀ between next, f (past ++ [event] ++ between) next = f (other ++ [event] ++ between) next := by
      intro between next
      simpa using same (event :: between) next
    rw [gather, gather, here, ih after]

/-- What holds of every event in a list, given those before it. -/
def Throughout (p : List ε → ε → Prop) (events : List ε) : Prop :=
  ∀ past event later, events = past ++ event :: later → p past event

section

variable {p : List ε → ε → Prop} {events more : List ε}

theorem throughout_nil : Throughout p [] := by
  intro past event later split
  simp at split

theorem throughout_append :
    Throughout p (events ++ more) ↔ Throughout p events ∧ Throughout (fun past => p (events ++ past)) more := by
  constructor
  · intro held
    refine ⟨?_, ?_⟩
    · rintro past event later rfl
      exact held past event (later ++ more) (by simp)
    · rintro past event later rfl
      exact held (events ++ past) event later (by simp)
  · rintro ⟨first, last⟩ past event later split
    rcases List.append_eq_append_iff.mp split with ⟨between, rfl, rest⟩ | ⟨between, rfl, rest⟩
    · exact last between event later rest
    · cases between with
      | nil => simpa using last [] event later (by simpa using rest.symm)
      | cons next between =>
        obtain ⟨rfl, rfl⟩ := List.cons_eq_cons.mp rest
        exact first past event between rfl

theorem throughout_cons {event : ε} :
    Throughout p (event :: more) ↔ p [] event ∧ Throughout (fun past => p (event :: past)) more := by
  have single : Throughout p [event] ↔ p [] event := by
    constructor
    · intro held
      exact held [] event [] rfl
    · intro here past other later split
      cases past with
      | nil => cases split; exact here
      | cons first past => simp at split
  rw [← List.singleton_append, throughout_append, single]
  rfl

theorem throughout_of_forall (held : ∀ event ∈ events, ∀ past, p past event) : Throughout p events := by
  rintro past event later rfl
  exact held event (by simp) past

end

end JobPool.Runs
