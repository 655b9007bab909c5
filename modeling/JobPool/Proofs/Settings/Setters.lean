import Mathlib.Data.List.Induction
import JobPool.Load.Arguments
import JobPool.Proofs.Settings.Building

/-!
What the setters of a builder come to. A setter gives a value for one field or, given a size of zero, none; a builder
after any calls has for each field the last value that was given for it (`after_eq`). So only the order among the calls
of one setter matters (`after_congr`), and the arguments of a load run and the settings that say the same make one
builder (`builder_of_arguments`).
-/

namespace JobPool

/-- A call of a setter. -/
inductive Setter (Q : Type) where
  | maxWorkers (n : UInt64)
  | queueCapacity (n : UInt64)
  | policy (policy : Policy)
  | queue (queue : Q)

namespace Setter

/-- What a setter sets. -/
inductive Field where
  | maxWorkers
  | queueCapacity
  | policy
  | queue
  deriving DecidableEq

variable {Q : Type}

/-- The field that a call sets. -/
def field : Setter Q → Field
  | maxWorkers _ => .maxWorkers
  | queueCapacity _ => .queueCapacity
  | policy _ => .policy
  | queue _ => .queue

/-- The number of workers that a call gives; zero is none. -/
def workers? : Setter Q → Option UInt64
  | maxWorkers n => (some n).filter (0 < ·)
  | _ => none

/-- The capacity that a call gives; zero is none. -/
def capacity? : Setter Q → Option UInt64
  | queueCapacity n => (some n).filter (0 < ·)
  | _ => none

/-- The policy that a call gives. -/
def policy? : Setter Q → Option Policy
  | policy p => some p
  | _ => none

/-- The job queue that a call gives. -/
def queue? : Setter Q → Option Q
  | queue q => some q
  | _ => none

/-- The last of the values that calls give. -/
def last {α : Type} (gives : Setter Q → Option α) (calls : List (Setter Q)) : Option α :=
  (calls.filterMap gives).getLast?

/-- The number of workers that calls ask for. -/
def workers (calls : List (Setter Q)) : UInt64 := (last workers? calls).getD 10

/-- The job queue that calls ask for. -/
def queueChoice (calls : List (Setter Q)) : QueueChoice Q :=
  match last queue? calls with
  | some given => .supplied given
  | none => .fresh ((last capacity? calls).getD (workers calls))

section

variable {α : Type} {gives : Setter Q → Option α} {calls : List (Setter Q)}

private theorem last_concat (gives : Setter Q → Option α) (calls : List (Setter Q)) (call : Setter Q) :
    last gives (calls ++ [call]) = (gives call).or (last gives calls) := by
  rw [last, List.filterMap_append, List.filterMap_cons, List.filterMap_nil]
  cases gives call with
  | none => rw [List.append_nil]; rfl
  | some value => rw [List.getLast?_concat]; rfl

/-- What is given for a field is given by the calls that set it. -/
theorem last_filter {field : Field} (own : ∀ call, (gives call).isSome = true → call.field = field)
    (calls : List (Setter Q)) : last gives (calls.filter fun call => call.field = field) = last gives calls := by
  rw [last, List.filterMap_filter, last]
  congr 2
  funext call
  by_cases set : call.field = field
  · simp [set]
  · have none : gives call = none := by
      rw [← Option.not_isSome_iff_eq_none]
      exact fun given => set (own call given)
    simp [set, none]

private theorem field_of_given (call : Setter Q) :
    (call.workers?.isSome = true → call.field = .maxWorkers) ∧
    (call.capacity?.isSome = true → call.field = .queueCapacity) ∧
    (call.policy?.isSome = true → call.field = .policy) ∧ (call.queue?.isSome = true → call.field = .queue) := by
  cases call <;> simp [workers?, capacity?, policy?, queue?, field]

/-- A size that is given is not zero. -/
theorem positive_of_given (call : Setter Q) (n : UInt64) :
    (call.workers? = some n → 0 < n) ∧ (call.capacity? = some n → 0 < n) := by
  cases call with
  | maxWorkers | queueCapacity => simp +contextual [workers?, capacity?, Option.filter_eq_some_iff]
  | policy | queue => exact ⟨nofun, nofun⟩

private theorem given_of_last {value : α} (found : last gives calls = some value) :
    ∃ call ∈ calls, gives call = some value :=
  List.mem_filterMap.mp (List.mem_of_getLast? found)

private theorem workers_pos (calls : List (Setter Q)) : 0 < workers calls := by
  unfold workers
  cases found : last workers? calls with
  | none => decide
  | some n =>
    obtain ⟨call, -, given⟩ := given_of_last found
    exact (positive_of_given call n).1 given

/-- A new job queue has room. -/
theorem fresh_pos {calls : List (Setter Q)} {capacity : UInt64} (fresh : queueChoice calls = .fresh capacity) :
    0 < capacity := by
  unfold queueChoice at fresh
  split at fresh
  · cases fresh
  · cases fresh
    cases found : last capacity? calls with
    | none => exact workers_pos calls
    | some n =>
      obtain ⟨call, -, given⟩ := given_of_last found
      exact (positive_of_given call n).2 given

end

end Setter

namespace Builder

variable {Q : Type} {b : Builder Q} {calls others : List (Setter Q)}

/-- Calls a setter. -/
def set (b : Builder Q) : Setter Q → Builder Q
  | .maxWorkers n => b.maxWorkersSet n
  | .queueCapacity n => b.queueCapacitySet n
  | .policy policy => b.policySet policy
  | .queue queue => b.queueSet queue

/-- The builder after calls of setters. -/
def after (b : Builder Q) (calls : List (Setter Q)) : Builder Q := calls.foldl set b

/-- A call sets what it gives. -/
theorem set_eq (b : Builder Q) (call : Setter Q) :
    b.set call =
      { name := b.name
        maxWorkers := call.workers?.getD b.maxWorkers
        queueCapacity := call.capacity?.or b.queueCapacity
        queue := call.queue?.or b.queue
        policy := call.policy?.getD b.policy } := by
  cases call with
  | maxWorkers n => exact maxWorkersSet?_eq b (some n)
  | queueCapacity n => exact queueCapacitySet?_eq b (some n)
  | policy | queue => rfl

/-- What was given last is set. -/
theorem after_eq (b : Builder Q) (calls : List (Setter Q)) :
    b.after calls =
      { name := b.name
        maxWorkers := (Setter.last Setter.workers? calls).getD b.maxWorkers
        queueCapacity := (Setter.last Setter.capacity? calls).or b.queueCapacity
        queue := (Setter.last Setter.queue? calls).or b.queue
        policy := (Setter.last Setter.policy? calls).getD b.policy } := by
  induction calls using List.reverseRecOn with
  | nil => rfl
  | append_singleton calls call ih =>
    have next : b.after (calls ++ [call]) = (b.after calls).set call := List.foldl_append
    rw [next, set_eq, ih]
    simp only [Setter.last_concat, Option.or_assoc, Option.getD_or]

/-- Only the order among the calls of one setter matters. -/
theorem after_congr (b : Builder Q)
    (same : ∀ field, (calls.filter fun call => call.field = field) = others.filter fun call => call.field = field) :
    b.after calls = b.after others := by
  have last : ∀ {α : Type} {gives : Setter Q → Option α} {field : Setter.Field},
      (∀ call, (gives call).isSome = true → call.field = field) → Setter.last gives calls =
      Setter.last gives others := by
    intro α gives field own
    rw [← Setter.last_filter own calls, same field, Setter.last_filter own others]
  rw [after_eq, after_eq, last fun call => (Setter.field_of_given call).1, last fun call =>
    (Setter.field_of_given call).2.1,
    last fun call => (Setter.field_of_given call).2.2.1, last fun call => (Setter.field_of_given call).2.2.2]

/-- Calls of different setters can be made in either order. -/
theorem after_swap (b : Builder Q) {c d : Setter Q} (differ : c.field ≠ d.field) (earlier later : List (Setter Q)) :
    b.after (earlier ++ c :: d :: later) = b.after (earlier ++ d :: c :: later) := by
  refine after_congr b fun field => ?_
  by_cases first : c.field = field
  · have second : ¬d.field = field := fun same => differ (first.trans same.symm)
    simp [first, second]
  · simp [first, List.filter_cons]

/-- The pool that calls ask for. -/
theorem plan_after (name : String) (calls : List (Setter Q)) :
    ((new name).after calls).plan =
      { name := name
        maxWorkers := Setter.workers calls
        queue := Setter.queueChoice calls
        policy := (Setter.last Setter.policy? calls).getD .log } := by
  rw [after_eq]
  simp only [plan, new, Option.or_none]
  rfl

/-- A pool is built from any calls if its sizes are in reach of memory and its name holds no NUL. -/
theorem start_after {name : String} (free : '\x00' ∉ name.toList) (calls : List (Setter Q))
    (small : (Setter.workers calls).toNat ≤ Channel.greatestCapacity)
    (short : ∀ capacity, Setter.queueChoice calls = .fresh capacity → capacity.toNat ≤ Channel.greatestCapacity) :
    ((new name).after calls).plan.start = .ok () := by
  have staffed := Setter.workers_pos calls
  have workers := checkCapacity_of_bounds (UInt64.lt_iff_toNat_lt.mp staffed) small
  have made : ((new name).after calls).plan.makeChannels = .ok () := by
    rw [plan_after, Plan.makeChannels]
    cases chosen : Setter.queueChoice calls with
    | fresh capacity =>
      have queue := checkCapacity_of_bounds (UInt64.lt_iff_toNat_lt.mp (Setter.fresh_pos chosen))
        (short capacity chosen)
      simp only [queue, workers]
      rfl
    | supplied => exact workers
  rw [Plan.start, made, plan_after, if_pos staffed, Plan.startFrom]
  simp only [startThread_of_no_nul (nul_mem_workerThread.not.mpr free),
    startThread_of_no_nul (nul_mem_trackerThread.not.mpr free),
    startThread_of_no_nul (nul_mem_dispatchThread.not.mpr free)]
  rfl

/-- Arguments without a settings file make the builder that the settings make which say the same. -/
theorem builder_of_arguments {a : Load.Arguments} (load : String → Except Settings.LoadError Settings)
    (described : a.config = none) :
    a.builder load =
      .ok (ofSettings ⟨a.name, a.workers, a.queueCapacity, if a.retries = 0 then .log else .retry a.retries⟩ :
        Builder Q) := by
  rw [Load.Arguments.builder, described]
  simp only [Load.Arguments.describedPool, Load.Arguments.retryPolicySet, ofSettings, maxWorkersSet?_eq,
    queueCapacitySet?_eq]
  by_cases none : a.retries = 0
  · simp [none, policySet, new, PolicySetting.toPolicy]
  · have some : 0 < a.retries := UInt64.pos_iff_ne_zero.mpr none
    simp [none, some, policySet, new, PolicySetting.toPolicy]

/-- Whatever setters are called, in any order and with any arguments: the pool that is built has the last number of
    workers that is not zero, or ten, with as much room for idle workers; its job queue is the last one supplied, or a new
    one with the last capacity that is not zero, or else with room for as many jobs as there are workers; and its policy
    is the last one set, or to log. It is built if these sizes are in reach of memory and its name holds no NUL. Calls of
    different setters can be made in either order, and the arguments of a load run without a settings file make the
    builder that the settings make which say the same. -/
theorem built_of_setters (J : Type) (room : Q → Nat) (name : String) :
    (∀ calls : List (Setter Q),
      let plan := ((new name).after calls).plan
      let pool : Pool.State J := Pool.start (.ofPlan room plan)
      plan =
        { name := name
          maxWorkers := Setter.workers calls
          queue := Setter.queueChoice calls
          policy := (Setter.last Setter.policy? calls).getD .log } ∧
      (Pool.Config.ofPlan room plan).size = (Setter.workers calls).toNat ∧
      pool.members.length = (Setter.workers calls).toNat ∧ pool.idle.capacity = (Setter.workers calls).toNat ∧
      pool.queue.capacity = (Setter.last Setter.queue? calls).elim
        ((Setter.last Setter.capacity? calls).getD (Setter.workers calls)).toNat room ∧
      ('\x00' ∉ name.toList → (Setter.workers calls).toNat ≤ Channel.greatestCapacity →
        (∀ capacity, plan.queue = .fresh capacity → capacity.toNat ≤ Channel.greatestCapacity) →
        plan.start = .ok ())) ∧
    (∀ (earlier later : List (Setter Q)) (c d : Setter Q), c.field ≠ d.field →
      (new name).after (earlier ++ c :: d :: later) = (new name).after (earlier ++ d :: c :: later)) ∧
    ∀ (load : String → Except Settings.LoadError Settings) (a : Load.Arguments), a.config = none →
      a.builder load =
        .ok (ofSettings ⟨a.name, a.workers, a.queueCapacity, if a.retries = 0 then .log else .retry a.retries⟩ :
          Builder Q) := by
  refine ⟨fun calls => ?_, fun earlier later c d differ => after_swap _ differ earlier later,
    fun load a described => builder_of_arguments load described⟩
  have start := fun (free : '\x00' ∉ name.toList) small short => start_after free calls small short
  rw [plan_after] at start
  simp only [plan_after]
  refine ⟨trivial, rfl, ?_, rfl, ?_, start⟩
  · simp [Pool.start, Pool.State.new, Pool.Config.ofPlan]
  · show Plan.queueCapacity room _ = _
    unfold Plan.queueCapacity Setter.queueChoice
    cases Setter.last Setter.queue? calls <;> rfl

/-- Sizes, among them zeros, a policy and a queue, which is given by its room. -/
def requests : List (Setter Nat) :=
  [.maxWorkers 4, .queueCapacity 9, .maxWorkers 0, .policy .discard, .queueCapacity 0]

theorem requests_built :
    ((new "mailer").after requests).plan = ⟨"mailer", 4, .fresh 9, .discard⟩ ∧
    ((new "mailer").after requests).plan.start = .ok () ∧
    ((new "mailer").after (requests ++ [.queue 7])).plan = ⟨"mailer", 4, .supplied 7, .discard⟩ ∧
    ((new "mailer").after ([.maxWorkers 4] ++ .maxWorkers 0 :: .queueCapacity 9 :: [.policy .discard]) =
      (new "mailer" : Builder Nat).after ([.maxWorkers 4] ++ .queueCapacity 9 :: .maxWorkers 0 :: [.policy .discard])) ∧
    { Load.Arguments.default with workers := some 0, retries := 3 }.builder (fun _ => .ok (.ofName "other")) =
      .ok (ofSettings ⟨"demo", some 0, none, .retry 3⟩ : Builder Nat) := by
  obtain ⟨built, swapped, described⟩ := built_of_setters Empty id "mailer" (Q := Nat)
  obtain ⟨plan, -, -, -, -, started⟩ := built requests
  refine ⟨plan, started (by decide) (by decide) ?_, (built _).1, swapped _ _ _ _ (by decide), ?_⟩
  · intro capacity fresh
    rw [plan] at fresh
    cases fresh
    decide
  · exact described _ { Load.Arguments.default with workers := some 0, retries := 3 } rfl

end Builder

end JobPool
