import Mathlib.Data.List.Induction
import JobPool.Proofs.Metric.Guarded
import JobPool.Metric.Step

/-!
What an overflow leaves behind. A step that overflows under the lock poisons it, and whatever takes the lock
afterwards faults; whatever is dismissed before the lock is answered as always (`perform_of_poisoned`,
`perform_of_dismissed`). So a half-made change is never seen: what a metric answers is what it would answer had the
steps that faulted been left out (`said_of_unfaulted`).
-/

namespace JobPool.Metric

/-- The step gets as far as the lock: it fits the kind and the labels of the metric, and asks no counter to go down. -/
def locks (m : Metric) : Step → Bool
  | .apply (.change change value) labels => m.takes labels change value
  | .apply .remove labels => labels.length = m.description.labelNames.length
  | .get labels => labels.length = m.description.labelNames.length
  | .snapshot => true
  | .series _ => true

/-- The metric after these steps. -/
def after (m : Metric) (steps : List Step) : Metric := steps.foldl (fun m step => (step.perform m).state) m

/-- What is logged and answered, step by step. -/
def said (m : Metric) (steps : List Step) : List (List Record × Except Fault Answer) :=
  (Reply.inTurn Step.perform m steps).map fun reply => (reply.logs, reply.result)

/-- One of these steps overflows. -/
def Overflowed (m : Metric) (steps : List Step) : Prop :=
  ∃ heard ∈ m.said steps, ∃ fault, heard.2 = .error fault ∧ fault.IsOverflow

/-- The steps that do not fault where they are made. -/
def unfaulted (m : Metric) : List Step → List Step
  | [] => []
  | step :: rest =>
    if (step.perform m).result.isOk then step :: unfaulted (step.perform m).state rest
    else unfaulted (step.perform m).state rest

variable {m other : Metric} {step : Step} {labels : List String} {change : Change} {value : Int64}

private theorem Alike.locks (alike : Alike m other) (step : Step) : other.locks step = m.locks step := by
  cases step with
  | apply operation labels => cases operation <;> simp only [Metric.locks, alike.takes, alike.description]
  | get | snapshot | series => simp only [Metric.locks, alike.description]

/-- A step that is dismissed before the lock says the same of every metric that is described alike. -/
theorem perform_of_dismissed (dismissed : m.locks step = false) :
    ∃ logs answer, ∀ other, Alike m other → step.perform other = ⟨other, logs, .ok answer⟩ := by
  cases step with
  | apply operation labels =>
    cases operation with
    | change change value =>
      cases refused : m.refusal labels change value with
      | none => rw [locks, refusal_eq_none.mp refused] at dismissed; cases dismissed
      | some warning =>
        refine ⟨[warning], .nothing, fun other alike => ?_⟩
        simp only [Step.perform, apply, alike.refusal, refused, Except.map]
    | remove =>
      refine ⟨[m.description.arityWarning labels, m.description.notRemoved labels], .nothing, fun other alike => ?_⟩
      change m.description.fits labels = false at dismissed
      simp [Step.perform, apply, alike.description, dismissed, Except.map]
  | get labels =>
    change m.description.fits labels = false at dismissed
    cases counts : m.cells with
    | histogram bounds g =>
      refine ⟨[m.description.arityWarning labels], .count 0, fun other alike => ?_⟩
      obtain ⟨description, cells⟩ := other
      obtain ⟨rfl, kind⟩ := alike
      cases cells <;> simp [counts, Cells.kind] at kind
      simp [Step.perform, count, readCell, Cells.kind, dismissed, Except.map]
    | gauge g | counter g =>
      refine ⟨[m.description.arityWarning labels], .value none, fun other alike => ?_⟩
      obtain ⟨description, cells⟩ := other
      obtain ⟨rfl, kind⟩ := alike
      cases cells <;> simp [counts, Cells.kind] at kind
      simp [Step.perform, Metric.value, readCell, Cells.kind, dismissed, Except.map]
  | snapshot | series labels => cases dismissed

/-- Whatever takes a poisoned lock faults and changes nothing. -/
theorem perform_of_poisoned (poisoned : m.poisoned = true) (locked : m.locks step = true) :
    step.perform m = ⟨m, [], .error .poisoned⟩ := by
  cases step with
  | apply operation labels =>
    cases operation with
    | change change value =>
      simp only [Step.perform, apply, refusal_eq_none.mpr locked, change_of_poisoned poisoned, Except.map]
    | remove =>
      change m.description.fits labels = true at locked
      simp only [Step.perform, apply, locked, ↓reduceIte, remove_of_poisoned poisoned, Except.map]
  | get labels =>
    change m.description.fits labels = true at locked
    obtain ⟨description, cells⟩ := m
    cases cells <;>
      simp [Step.perform, count, Metric.value, readCell, Cells.kind, locked, Guarded.lock_of_poisoned poisoned,
        Except.map]
  | snapshot | series labels => simp [Step.perform, snapshot_of_poisoned poisoned, Except.map]

/-- Behind a lock that is not poisoned a step is made and leaves it so, or overflows and poisons it. -/
theorem perform_of_calm (calm : m.poisoned = false) (step : Step) :
    (∃ n logs answer, step.perform m = ⟨n, logs, .ok answer⟩ ∧ n.poisoned = false) ∨
      ∃ n fault, step.perform m = ⟨n, [], .error fault⟩ ∧ n.poisoned = true ∧ fault.IsOverflow := by
  cases step with
  | apply operation labels =>
    rcases apply_of_calm calm operation labels with ⟨n, logs, made, calm⟩ | ⟨n, fault, made, poisoned, overflow⟩
    · exact .inl ⟨n, logs, .nothing, by rw [Step.perform, made]; rfl, calm⟩
    · exact .inr ⟨n, fault, by rw [Step.perform, made]; rfl, poisoned, overflow⟩
  | get labels =>
    left
    cases locked : m.locks (.get labels) with
    | false =>
      obtain ⟨logs, answer, made⟩ := perform_of_dismissed locked
      exact ⟨m, logs, answer, made m (.refl m), calm⟩
    | true =>
      change m.description.fits labels = true at locked
      obtain ⟨description, cells⟩ := m
      cases cells <;>
        simpa [Step.perform, count, Metric.value, readCell, Cells.kind, locked, Guarded.lock_of_calm calm,
          Except.map]
          using calm
  | snapshot | series labels =>
    obtain ⟨snapshot, made⟩ := snapshot_of_calm calm
    exact .inl ⟨m, [], _, by rw [Step.perform, made, Except.map], calm⟩

/-- A step that is answered made its operation, if it is one. -/
theorem done_of_perform {operation : Operation} {answer : Answer}
    (done : (Step.perform m (.apply operation labels)).result = .ok answer) :
    (m.apply operation labels).result = .ok () := by
  cases result : (m.apply operation labels).result with
  | ok => rfl
  | error fault => simp only [Step.perform, result, Except.map] at done; cases done

theorem state_of_get (m : Metric) (labels : List String) : (Step.perform m (.get labels)).state = m := by
  simp only [Step.perform]
  split <;> rfl

/-- No step changes the description or the kind of the metric. -/
theorem alike_of_perform (m : Metric) (step : Step) : Alike m (step.perform m).state := by
  cases step with
  | apply operation labels => exact alike_of_apply m operation labels
  | get labels =>
    rw [state_of_get]
    exact .refl m
  | snapshot | series labels => exact .refl m

/-- The second metric is what the first would be without the steps that faulted: the same, unless one of them
poisoned the lock. -/
structure Shadows (m n : Metric) : Prop where
  alike : Alike m n
  same : m.poisoned = false → n = m

private theorem Shadows.refl (m : Metric) : Shadows m m := ⟨.refl m, fun _ => rfl⟩

private theorem after_cons (m : Metric) (step : Step) (rest : List Step) :
    m.after (step :: rest) = (step.perform m).state.after rest := rfl

private theorem said_cons (m : Metric) (step : Step) (rest : List Step) :
    m.said (step :: rest) = ((step.perform m).logs, (step.perform m).result) :: (step.perform m).state.said rest := rfl

/-- A step that does not fault says the same of both. -/
theorem Shadows.made {n : Metric} (shadows : Shadows m n) (made : (step.perform m).result.isOk = true) :
    (step.perform n).logs = (step.perform m).logs ∧ (step.perform n).result = (step.perform m).result ∧
      Shadows (step.perform m).state (step.perform n).state := by
  cases locked : m.locks step with
  | false =>
    obtain ⟨logs, answer, same⟩ := perform_of_dismissed locked
    rw [same m (.refl m), same n shadows.alike]
    exact ⟨rfl, rfl, shadows⟩
  | true =>
    cases poisoned : m.poisoned with
    | true => rw [perform_of_poisoned poisoned locked] at made; cases made
    | false =>
      obtain rfl := shadows.same poisoned
      exact ⟨rfl, rfl, .refl _⟩

/-- A fault is an overflow, or the lock that was poisoned before; either way the lock is poisoned afterwards. -/
theorem of_fault {fault : Fault} (faulted : (step.perform m).result = .error fault) :
    (step.perform m).state.poisoned = true ∧
      (m.poisoned = false ∧ fault.IsOverflow ∨ m.poisoned = true ∧ fault = .poisoned) := by
  cases poisoned : m.poisoned with
  | false =>
    rcases perform_of_calm poisoned step with ⟨n, logs, answer, made, -⟩ | ⟨n, fault', made, poisoned', overflow⟩
    · rw [made] at faulted; cases faulted
    · rw [made] at faulted ⊢; cases faulted; exact ⟨poisoned', .inl ⟨rfl, overflow⟩⟩
  | true =>
    cases locked : m.locks step with
    | true => rw [perform_of_poisoned poisoned locked] at faulted ⊢; cases faulted; exact ⟨poisoned, .inr ⟨rfl, rfl⟩⟩
    | false =>
      obtain ⟨logs, answer, made⟩ := perform_of_dismissed locked
      rw [made m (.refl m)] at faulted; cases faulted

private theorem Shadows.fault {n : Metric} {fault : Fault} (shadows : Shadows m n)
    (faulted : (step.perform m).result = .error fault) : Shadows (step.perform m).state n := by
  refine ⟨(alike_of_perform m step).symm.trans shadows.alike, fun calm => ?_⟩
  rw [(of_fault faulted).1] at calm
  cases calm

/-- The steps that fault say nothing that is heard later. -/
theorem Shadows.said {n : Metric} (shadows : Shadows m n) (steps : List Step) :
    n.said (m.unfaulted steps) = (m.said steps).filter fun heard => heard.2.isOk := by
  induction steps generalizing m n with
  | nil => rfl
  | cons step rest ih =>
    rw [said_cons, unfaulted]
    cases result : (step.perform m).result with
    | ok answer =>
      have kept : (Except.ok answer : Except Fault Answer).isOk = true := rfl
      have made : (step.perform m).result.isOk = true := by rw [result]; exact kept
      obtain ⟨logs, same, shadows⟩ := shadows.made made
      rw [if_pos kept, said_cons, ih shadows, logs, same, result]
      rfl
    | error fault =>
      have left : ¬(Except.error fault : Except Fault Answer).isOk = true := Bool.false_ne_true
      rw [if_neg left, ih (shadows.fault result)]
      rfl

/-- A poisoned metric stays as it is. -/
theorem after_of_poisoned (poisoned : m.poisoned = true) (steps : List Step) : m.after steps = m := by
  induction steps with
  | nil => rfl
  | cons step rest ih =>
    have still : (step.perform m).state = m := by
      cases locked : m.locks step with
      | true => rw [perform_of_poisoned poisoned locked]
      | false =>
        obtain ⟨logs, answer, made⟩ := perform_of_dismissed locked
        rw [made m (.refl m)]
    rw [after_cons, still, ih]

theorem alike_after (m : Metric) (steps : List Step) : Alike m (m.after steps) := by
  induction steps generalizing m with
  | nil => exact .refl m
  | cons step rest ih => exact (alike_of_perform m step).trans (ih _)

/-- The lock is poisoned by an overflow and by nothing else. -/
theorem poisoned_after (calm : m.poisoned = false) (steps : List Step) :
    (m.after steps).poisoned = true ↔ m.Overflowed steps := by
  unfold Overflowed
  induction steps generalizing m with
  | nil => simp [after, said, Reply.inTurn, calm]
  | cons step rest ih =>
    rw [after_cons, said_cons]
    simp only [List.mem_cons, exists_eq_or_imp]
    rcases perform_of_calm calm step with ⟨n, logs, answer, made, calm⟩ | ⟨n, fault, made, poisoned, overflow⟩
    · rw [made, ih calm]
      simp
    · rw [made, after_of_poisoned poisoned]
      exact ⟨fun _ => .inl ⟨fault, rfl, overflow⟩, fun _ => poisoned⟩

private theorem after_concat (m : Metric) (steps : List Step) (step : Step) :
    m.after (steps ++ [step]) = (step.perform (m.after steps)).state :=
  List.foldl_append

/-- What holds at first and is kept by every step that is answered holds after a run that leaves the lock as it was. -/
theorem calm_induction {motive : List Step → Metric → Prop} (start : motive [] m)
    (move : ∀ steps step answer, (m.after steps).poisoned = false → motive steps (m.after steps) →
      (step.perform (m.after steps)).result = .ok answer →
        motive (steps ++ [step]) (step.perform (m.after steps)).state)
    {steps : List Step} (calm : (m.after steps).poisoned = false) : motive steps (m.after steps) := by
  induction steps using List.reverseRecOn with
  | nil => exact start
  | append_singleton steps step ih =>
    rw [after_concat] at calm ⊢
    cases poisoned : (m.after steps).poisoned with
    | true =>
      have still := after_of_poisoned poisoned [step]
      rw [after_cons] at still
      rw [show (step.perform (m.after steps)).state = m.after steps from still, poisoned] at calm
      cases calm
    | false =>
      cases result : (step.perform (m.after steps)).result with
      | ok answer => exact move steps step answer poisoned (ih poisoned) result
      | error fault => rw [(of_fault result).1] at calm; cases calm

/-- In every run of a metric: the answers and the lines of the steps that do not fault are those of the run without the
    steps that fault, which itself leaves the lock as it was. A fault is an overflow, when there was none before, or
    the lock that an overflow has poisoned. Once a step has overflowed, whatever takes the lock faults, and whatever
    is dismissed before the lock says what it says of any metric that is described alike and not poisoned. -/
theorem said_of_unfaulted (calm : m.poisoned = false) (steps : List Step) :
    (m.said (m.unfaulted steps) = (m.said steps).filter fun heard => heard.2.isOk) ∧
    (m.after (m.unfaulted steps)).poisoned = false ∧
    ∀ step : Step,
      (∀ fault, (step.perform (m.after steps)).result = .error fault →
        ¬m.Overflowed steps ∧ fault.IsOverflow ∨ m.Overflowed steps ∧ fault = .poisoned) ∧
      (m.Overflowed steps → m.locks step = true → step.perform (m.after steps) =
      ⟨m.after steps, [], .error .poisoned⟩) ∧
      (m.locks step = false → ∃ logs answer, step.perform (m.after steps) = ⟨m.after steps, logs, .ok answer⟩ ∧
        ∀ other, Alike m other → other.poisoned = false → step.perform other = ⟨other, logs, .ok answer⟩) := by
  have same := (Shadows.refl m).said steps
  refine ⟨same, ?_, fun step => ?_⟩
  · rw [← Bool.not_eq_true, poisoned_after calm]
    rintro ⟨heard, listed, fault, faulted, -⟩
    rw [same, List.mem_filter, faulted] at listed
    cases listed.2
  · have locks := (alike_after m steps).locks step
    refine ⟨fun fault faulted => ?_, fun overflowed locked => ?_, fun dismissed => ?_⟩
    · rw [← poisoned_after calm steps, Bool.not_eq_true]
      exact (of_fault faulted).2
    · exact perform_of_poisoned ((poisoned_after calm steps).mpr overflowed) (locks.trans locked)
    · obtain ⟨logs, answer, made⟩ := perform_of_dismissed (locks.trans dismissed)
      exact ⟨logs, answer, made _ (.refl _), fun other alike _ => made other ((alike_after m steps).symm.trans alike)⟩

/-- A histogram whose sum has no room for the second observation: the first is counted, then an observation is tried,
    then the count is asked for with and without the label that is due. -/
def crowded : List Step :=
  [.apply (.change .observe Int64.maxValue) ["a"], .apply (.change .observe 1) ["a"], .get ["a"], .get []]

theorem crowded_unfaulted :
    let times := newHistogram ⟨"times", "", ["label"]⟩ []
    times.unfaulted crowded = [.apply (.change .observe Int64.maxValue) ["a"], .get []] ∧
      times.said (times.unfaulted crowded) = (times.said crowded).filter (fun heard => heard.2.isOk) ∧
      Step.perform (times.after crowded) .snapshot = ⟨times.after crowded, [], .error .poisoned⟩ := by
  have all := said_of_unfaulted (m := newHistogram ⟨"times", "", ["label"]⟩ []) rfl crowded
  refine ⟨?_, all.1, (all.2.2 .snapshot).2.1 ?_ rfl⟩
  · rfl
  · exact ⟨_, List.mem_cons_of_mem _ List.mem_cons_self, .addOverflow, rfl, .inl rfl⟩

end JobPool.Metric
