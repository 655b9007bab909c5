import Mathlib.Algebra.Order.BigOperators.Group.List
import Mathlib.Algebra.Order.Ring.Int
import Mathlib.Data.List.DropRight
import JobPool.Latency.Access
import JobPool.Proofs.Metric.Reading
import JobPool.Proofs.Runs

/-!
What the values of gauges and counters come to, as the requests alone decide it. The first registration of an id fixes
its metric, which other ids may have as well; the value of a series is what the changes come to that the metric takes,
by whichever of its ids, from the series' last removal on (`expected`). A registry tells just that, whichever way the
requests take (`values_of_run`).
-/

namespace JobPool.Latency

open JobPool.Metric (Registry RegistrySnapshot Handle Operation Change Alike)

/-- The metric that a request registers under an id. -/
def Request.registered (id : String) : Request → Option Handle
  | .register other handle => if other = id then some handle else none
  | _ => none

/-- The metric that is registered first under an id. -/
def firstRegistered (id : String) (requests : List Request) : Option Handle :=
  requests.findSome? fun request => request.registered id

/-- The operation on series with these labels that a request is for. -/
def Request.operation (labels : List String) : Request → Option Operation
  | .apply _ operation others => if others = labels then some operation else none
  | _ => none

/-- The metric that a request after these is for. -/
def Request.target (before : List Request) : Request → Option Handle
  | .apply id _ _ => firstRegistered id before
  | _ => none

/-- The operation on a series of a metric that a request after these is for. -/
def Request.operationOn (handle : Handle) (labels : List String) (before : List Request) (request : Request) :
    Option Operation :=
  if request.target before = some handle then request.operation labels else none

/-- The operations on a series of a metric. -/
def operationsOn (handle : Handle) (labels : List String) (requests : List Request) : List Operation :=
  Runs.gather (fun before request => request.operationOn handle labels before) [] requests

/-- The change that a metric takes from an operation. -/
def accepted (m : Metric) (labels : List String) : Operation → Option (Change × Int)
  | .change change value => if m.takes labels change value then some (change, value.toInt) else none
  | .remove => none

/-- The changes that a metric takes after the last removal. -/
def changesOf (m : Metric) (labels : List String) (operations : List Operation) : List (Change × Int) :=
  (operations.rtakeWhile fun operation => operation ≠ .remove).filterMap (accepted m labels)

/-- What the changes of a series come to: for a gauge they are made one after the other, for a counter they are added
    up. Without a change there is no series, and histograms have no plain value. -/
def amount : Metric.Kind → List (Change × Int) → Option Int
  | _, [] => none
  | .gauge, changes => some (changes.foldl (fun cell change => change.1.applied change.2 cell) 0)
  | .counter, changes => some (changes.map (·.2)).sum
  | .histogram, _ => none

/-- What the operations on a series come to. -/
def worth (m : Metric) (labels : List String) (operations : List Operation) : Option Int :=
  amount m.cells.kind (changesOf m labels operations)

/-- The value of a series under an id after these requests. -/
def expected (id : String) (labels : List String) (requests : List Request) : Option Int :=
  (firstRegistered id requests).bind fun handle => worth handle.made labels (operationsOn handle labels requests)

section reference

variable {m : Metric} {id : String} {handle : Handle} {labels : List String} {operations : List Operation}
  {requests : List Request} {request : Request}

private theorem amount_nil (kind : Metric.Kind) : amount kind [] = none := by cases kind <;> rfl

private theorem amount_gauge (changes : List (Change × Int)) :
    (amount .gauge changes).getD 0 = changes.foldl (fun cell change => change.1.applied change.2 cell) 0 := by
  cases changes <;> rfl

private theorem amount_counter (changes : List (Change × Int)) :
    (amount .counter changes).getD 0 = (changes.map (·.2)).sum := by
  cases changes <;> rfl

private theorem amount_histogram (changes : List (Change × Int)) : amount .histogram changes = none := by
  cases changes <;> rfl

/-- A change of a kind that has it is made on top of those before it. -/
theorem amount_concat {kind : Metric.Kind} {change : Change} (supported : kind.supports change = true)
    (changes : List (Change × Int)) (value : Int) :
    amount kind (changes ++ [(change, value)]) =
      if kind ≠ .histogram then some (change.applied value ((amount kind changes).getD 0))
      else amount kind changes := by
  have more : ∀ kind, kind ≠ .histogram → (amount kind (changes ++ [(change, value)])).isSome = true := by
    intro kind plain
    cases kind with
    | gauge | counter => cases changes <;> rfl
    | histogram => exact absurd rfl plain
  cases kind with
  | gauge =>
    obtain ⟨total, is⟩ := Option.isSome_iff_exists.mp (more .gauge (by decide))
    have sum := amount_gauge (changes ++ [(change, value)])
    rw [is, Option.getD_some, List.foldl_append, ← amount_gauge] at sum
    simp [is, sum]
  | counter =>
    obtain rfl := Metric.add_of_supports supported
    obtain ⟨total, is⟩ := Option.isSome_iff_exists.mp (more .counter (by decide))
    have sum := amount_counter (changes ++ [(.add, value)])
    rw [is, Option.getD_some, List.map_append, List.sum_append, ← amount_counter] at sum
    simp [is, sum, Change.applied]
  | histogram => simp [amount_histogram]

private theorem changesOf_concat (m : Metric) (labels : List String) (operations : List Operation)
    (operation : Operation) :
    changesOf m labels (operations ++ [operation]) =
      if operation = .remove then [] else changesOf m labels operations ++ (accepted m labels operation).toList := by
  unfold changesOf
  rw [List.rtakeWhile_concat]
  by_cases removes : operation = .remove
  · simp [removes]
  · rw [if_pos (by simpa using removes), if_neg removes, List.filterMap_append, List.filterMap_cons, List.filterMap_nil]
    cases accepted m labels operation <;> rfl

/-- Where the labels do not fit there is never a series. -/
theorem worth_of_unfit (unfit : m.description.fits labels = false) (operations : List Operation) :
    worth m labels operations = none := by
  have nothing : changesOf m labels operations = [] := by
    rw [changesOf, List.filterMap_eq_nil_iff]
    intro operation _
    cases operation <;> simp [accepted, Metric.takes_eq, unfit]
  rw [worth, nothing, amount_nil]

/-- What one more operation makes of the value is its effect. -/
theorem worth_concat (m : Metric) (labels : List String) (operations : List Operation) (operation : Operation) :
    worth m labels (operations ++ [operation]) = operation.effect m labels (worth m labels operations) := by
  rw [worth, changesOf_concat]
  cases operation with
  | remove =>
    rw [if_pos rfl, amount_nil, Operation.effect]
    cases fits : m.description.fits labels with
    | true => rfl
    | false => exact (worth_of_unfit fits operations).symm
  | change change value =>
    have kept : Operation.change change value ≠ .remove := by simp
    rw [if_neg kept, accepted, Operation.effect]
    by_cases taken : m.takes labels change value = true
    · rw [if_pos taken, Option.toList_some, amount_concat (Metric.supports_of_takes taken)]
      simp only [taken, true_and]
      rfl
    · rw [if_neg taken, if_neg (fun both => taken both.1), Option.toList_none, List.append_nil]
      rfl

private theorem firstRegistered_concat (id : String) (requests : List Request) (request : Request) :
    firstRegistered id (requests ++ [request]) = (firstRegistered id requests).or (request.registered id) := by
  rw [firstRegistered, List.findSome?_append, List.findSome?_cons, List.findSome?_nil]
  cases request.registered id <;> rfl

private theorem operationsOn_concat (handle : Handle) (labels : List String) (requests : List Request)
    (request : Request) :
    operationsOn handle labels (requests ++ [request]) =
      operationsOn handle labels requests ++ (request.operationOn handle labels requests).toList := by
  rw [operationsOn, Runs.gather_append, List.nil_append, Runs.gather, Runs.gather, List.append_nil]
  rfl

/-- What one more request makes of the value of a series of a metric. -/
theorem worth_operationsOn_concat (m : Metric) (handle : Handle) (labels : List String) (requests : List Request)
    (request : Request) :
    worth m labels (operationsOn handle labels (requests ++ [request])) =
      match request.operationOn handle labels requests with
      | none => worth m labels (operationsOn handle labels requests)
      | some operation => operation.effect m labels (worth m labels (operationsOn handle labels requests)) := by
  rw [operationsOn_concat]
  cases request.operationOn handle labels requests with
  | none => rw [Option.toList_none, List.append_nil]
  | some operation => exact worth_concat m labels _ operation

/-- What one more request makes of the value of a series under an id that is taken. -/
theorem expected_concat (registered : firstRegistered id requests = some handle) (labels : List String)
    (request : Request) :
    expected id labels (requests ++ [request]) =
      match request.operationOn handle labels requests with
      | none => expected id labels requests
      | some operation => operation.effect handle.made labels (expected id labels requests) := by
  rw [expected, expected, firstRegistered_concat, registered, Option.some_or, Option.bind_some, Option.bind_some]
  exact worth_operationsOn_concat ..

/-- A counter is never below zero. -/
theorem worth_nonneg (counts : m.cells.kind = .counter) {total : Int} (is : worth m labels operations = some total) :
    0 ≤ total := by
  have sum := amount_counter (changesOf m labels operations)
  rw [← counts] at sum
  rw [worth] at is
  rw [is, Option.getD_some] at sum
  rw [sum]
  refine List.sum_nonneg fun value listed => ?_
  obtain ⟨change, made, rfl⟩ := List.mem_map.mp listed
  obtain ⟨operation, -, taken⟩ := List.mem_filterMap.mp made
  cases operation with
  | remove => cases taken
  | change kind value =>
    rw [accepted] at taken
    split at taken
    · rename_i takes
      cases taken
      simp only [Metric.takes_eq, counts, Bool.and_eq_true] at takes
      simpa using takes.1.2
    · cases taken

/-- Only a removal takes a counter down. -/
theorem effect_of_counter (counts : m.cells.kind = .counter) {operation : Operation} (keeps : operation ≠ .remove)
    (labels : List String) (total : Int) : ∃ next, operation.effect m labels (some total) = some next ∧
    total ≤ next := by
  cases operation with
  | remove => exact absurd rfl keeps
  | change change value =>
    by_cases taken : m.takes labels change value = true
    · have supported := Metric.supports_of_takes taken
      rw [counts] at supported
      obtain rfl := Metric.add_of_supports supported
      have rises : 0 ≤ value.toInt := by
        simp only [Metric.takes_eq, counts, Bool.and_eq_true] at taken
        simpa using taken.1.2
      refine ⟨total + value.toInt, if_pos ⟨taken, by simp [counts]⟩, ?_⟩
      omega
    · exact ⟨total, if_neg fun both => taken both.1, le_rfl⟩

end reference

/-- The registry after a request, whichever way it came. -/
def Request.leaves (r : Registry) : Request → Registry
  | .register id handle => (r.register id handle).state
  | .apply id operation labels => (r.apply id operation labels).state
  | _ => r

/-- An id that is taken keeps its metric. -/
theorem ids_leaves {r : Registry} {id : String} {handle : Handle} (taken : r.ids.get? id = some handle)
    (request : Request) : (request.leaves r).ids.get? id = some handle := by
  cases request with
  | register other fresh =>
    simp only [Request.leaves, Registry.register]
    cases free : r.has other with
    | true => exact taken
    | false =>
      have differs : ¬id = other := by
        rintro rfl
        simp [Registry.has, taken] at free
      simpa [Table.get?_put, differs] using taken
  | apply other operation labels =>
    simp only [Request.leaves, Registry.ids_apply]
    exact taken
  | has | snapshot | measure | reports => exact taken

/-- A registration takes an id that is free. -/
theorem ids_registered {r : Registry} {id : String} (free : r.ids.get? id = none) (handle : Handle) :
    ((Request.register id handle).leaves r).ids.get? id = some handle := by
  simp [Request.leaves, Registry.register, Registry.has, free, Table.get?_put]

/-- An id is taken by its registration only. -/
theorem register_of_ids_leaves {r : Registry} {request : Request} {id : String} {handle : Handle}
    (free : r.ids.get? id = none) (taken : (request.leaves r).ids.get? id = some handle) :
    request = .register id handle := by
  cases request with
  | register other fresh =>
    simp only [Request.leaves, Registry.register] at taken
    split at taken
    · rw [free] at taken
      cases taken
    · rw [Table.get?_put] at taken
      split at taken
      · rename_i same
        cases taken
        rw [same]
      · rw [free] at taken
        cases taken
  | apply other operation labels =>
    simp only [Request.leaves, Registry.ids_apply] at taken
    rw [free] at taken
    cases taken
  | has | snapshot | measure | reports => cases free.symm.trans taken

section routes

variable {m : MeteredRegistry} {route : Route} {request : Request} {reply : Reply MeteredRegistry Answer}

/-- Both routes do the same to the registry. -/
theorem registry_of_ask (asked : m.ask route request = some reply) :
    reply.state.registry = request.leaves m.registry := by
  cases route with
  | direct =>
    cases request <;>
      simp only [MeteredRegistry.ask, Request.atOnce, Option.map_some, Option.map_none, Option.some.injEq,
        reduceCtorEq] at asked <;>
      exact asked ▸ rfl
  | metered =>
    cases request with
    | measure action =>
      obtain ⟨⟨meter, reports, result⟩, -, same⟩ := Option.map_eq_some_iff.mp asked
      exact same ▸ rfl
    | _ => cases asked; rfl

/-- Both routes pass on how an operation ended. -/
theorem result_of_ask {id : String} {operation : Operation} {labels : List String}
    (asked : m.ask route (.apply id operation labels) = some reply) :
    reply.result = (m.registry.apply id operation labels).result.map fun _ => .nothing := by
  cases route <;> cases asked <;> rfl

theorem result_of_register {id : String} {handle : Handle} (asked : m.ask route (.register id handle) = some reply) :
    reply.result = .ok (.flag (!m.registry.has id)) := by
  have registered : (m.registry.register id handle).result = .ok (!m.registry.has id) := by
    unfold Registry.register
    cases m.registry.has id <;> rfl
  cases route with
  | direct | metered => cases asked; exact congrArg (Except.map Answer.flag) registered

theorem ask_snapshot (m : MeteredRegistry) (route : Route) :
    m.ask route .snapshot = some ⟨m, [], m.registry.snapshot.map .snapshot⟩ := by
  cases route <;> rfl

end routes

/-- A metric without series. -/
def Fresh (m : Metric) : Prop :=
  ∃ description, m = Metric.newGauge description ∨ m = Metric.newCounter description ∨
    ∃ bounds, m = Metric.newHistogram description bounds

private theorem Fresh.calm {m : Metric} (fresh : Fresh m) : m.poisoned = false := by
  obtain ⟨description, rfl | rfl | ⟨bounds, rfl⟩⟩ := fresh <;> rfl

private theorem Fresh.plain {m : Metric} (fresh : Fresh m) (labels : List String) : m.plain? labels = none := by
  obtain ⟨description, rfl | rfl | ⟨bounds, rfl⟩⟩ := fresh <;> rfl

/-- What the request registers, if anything, is a metric without series. -/
def Request.Plain : Request → Prop
  | .register _ handle => Fresh handle.made
  | _ => True

/-- The request registers nothing but fresh metrics, and no operation that it asks for overflows. -/
structure Request.Fits (request : Request) (r : Registry) : Prop where
  plain : request.Plain
  made : ∀ id operation labels, request = .apply id operation labels →
    ∀ fault, (r.apply id operation labels).result = .error fault → ¬fault.IsOverflow

/-- The ids have the metrics that were registered first, and a metric that was made without series is what the requests
    come to. -/
structure Accounts (requests : List Request) (r : Registry) : Prop where
  ids : ∀ id, r.ids.get? id = firstRegistered id requests
  fresh : ∀ id handle, firstRegistered id requests = some handle → Fresh handle.made
  calm : ∀ handle, Fresh handle.made → (r.heap handle).poisoned = false
  alike : ∀ handle, Alike handle.made (r.heap handle)
  plain : ∀ handle, Fresh handle.made → ∀ labels,
    ((r.heap handle).plain? labels).map Int64.toInt = worth handle.made labels (operationsOn handle labels requests)

namespace Accounts

variable {requests : List Request} {request : Request} {r : Registry} {id : String} {handle : Handle}

private theorem start : Accounts [] .empty where
  ids := fun _ => rfl
  fresh := nofun
  calm := fun _ fresh => fresh.calm
  alike := fun _ => .refl _
  plain := fun handle fresh labels => by
    rw [Registry.empty, fresh.plain]
    exact (amount_nil handle.made.cells.kind).symm

/-- A request that is no operation leaves every metric as it is. -/
theorem idle (accounts : Accounts requests r) {q : Registry} (heap : q.heap = r.heap)
    (ids : ∀ id, q.ids.get? id = firstRegistered id (requests ++ [request]))
    (fresh : ∀ id handle, request.registered id = some handle → Fresh handle.made)
    (untargeted : request.target requests = none) : Accounts (requests ++ [request]) q where
  ids := ids
  fresh := fun id handle first => by
    rw [firstRegistered_concat] at first
    cases earlier : firstRegistered id requests with
    | some other => rw [earlier] at first; cases first; exact accounts.fresh id handle earlier
    | none => rw [earlier] at first; exact fresh id handle first
  calm := heap ▸ accounts.calm
  alike := heap ▸ accounts.alike
  plain := fun handle fresh labels => by
    rw [heap, accounts.plain handle fresh, worth_operationsOn_concat, Request.operationOn, untargeted]
    rfl

/-- A registration stays without effect unless it is the first. -/
theorem register (accounts : Accounts requests r) (fresh : Fresh handle.made) :
    Accounts (requests ++ [.register id handle]) (r.register id handle).state := by
  refine accounts.idle (Registry.heap_register ..) (fun other => ?_) (fun other there registered => ?_) rfl
  · rw [firstRegistered_concat, ← accounts.ids, Request.registered]
    unfold Registry.register
    cases taken : r.ids.get? id with
    | some there =>
      have has : r.has id = true := by rw [Registry.has, taken, Option.isSome_some]
      rw [if_pos has]
      by_cases same : id = other
      · rw [← same, taken, Option.some_or]
      · rw [if_neg same, Option.or_none]
    | none =>
      have free : ¬r.has id = true := by simp [Registry.has, taken]
      rw [if_neg free, Table.get?_put]
      by_cases same : id = other
      · rw [if_pos same.symm, if_pos same, ← same, taken, Option.none_or]
      · rw [if_neg (Ne.symm same), if_neg same, Option.or_none]
  · rw [Request.registered] at registered
    split at registered
    · cases registered; exact fresh
    · cases registered

/-- An operation that does not overflow has its effect. -/
theorem apply {operation : Operation} {labels : List String} (accounts : Accounts requests r)
    (made : ∀ fault, (r.apply id operation labels).result = .error fault → ¬fault.IsOverflow) :
    Accounts (requests ++ [.apply id operation labels]) (r.apply id operation labels).state := by
  have still : ∀ other, firstRegistered other (requests ++ [.apply id operation labels]) =
      firstRegistered other requests := by
    intro other
    rw [firstRegistered_concat]
    exact Option.or_none
  have outcome : ∀ handle, Fresh handle.made → r.ids.get? id = some handle →
      ((r.heap handle).apply operation labels).state.poisoned = false ∧
        ((r.heap handle).apply operation labels).result = .ok () := by
    intro handle fresh found
    rw [Registry.apply_of_found found] at made
    rcases Metric.apply_of_calm (accounts.calm handle fresh) operation labels with
      ⟨next, logs, done, calm⟩ | ⟨next, fault, done, -, overflow⟩
    · rw [done]
      exact ⟨calm, rfl⟩
    · exact absurd overflow (made fault (by rw [done]))
  refine ⟨fun other => ?_, fun other handle first => ?_, fun handle fresh => ?_, fun handle => ?_,
    fun handle fresh others => ?_⟩
  · rw [Registry.ids_apply, accounts.ids, still]
  · exact accounts.fresh other handle (still other ▸ first)
  · rw [Registry.heap_apply]
    split
    · exact (outcome handle fresh ‹_›).1
    · exact accounts.calm handle fresh
  · exact (accounts.alike handle).trans (Registry.alike_apply ..)
  · rw [worth_operationsOn_concat, Registry.heap_apply, Request.operationOn, Request.target, ← accounts.ids,
      Request.operation]
    by_cases found : r.ids.get? id = some handle
    · have effect := Metric.plain_of_apply (outcome handle fresh found).2 others
      rw [if_pos found, if_pos found, effect, accounts.plain handle fresh, accounts.plain handle fresh]
      by_cases same : others = labels
      · rw [if_pos same, if_pos same.symm, (accounts.alike handle).effect, same]
      · rw [if_neg same, if_neg (Ne.symm same)]
    · rw [if_neg found, if_neg found]
      exact accounts.plain handle fresh others

private theorem leaves (accounts : Accounts requests r) (fits : request.Fits r) :
    Accounts (requests ++ [request]) (request.leaves r) := by
  cases request with
  | register id handle => exact accounts.register fits.plain
  | apply id operation labels => exact accounts.apply fun fault => fits.made id operation labels rfl fault
  | has | snapshot | measure | reports =>
    refine accounts.idle rfl (fun id => ?_) nofun rfl
    rw [firstRegistered_concat, ← accounts.ids]
    exact Option.or_none.symm

/-- What a registry holds for a series is what the requests come to. -/
theorem tells (accounts : Accounts requests r) (id : String) (labels : List String) :
    (r.plain? id labels).map Int64.toInt = expected id labels requests := by
  rw [expected]
  cases first : firstRegistered id requests with
  | none => rw [Registry.plain?, Registry.get?_metrics, accounts.ids, first]; rfl
  | some handle =>
    rw [Registry.plain_of_found ((accounts.ids id).trans first), Option.bind_some]
    exact accounts.plain handle (accounts.fresh id handle first) labels

/-- What the snapshots of a registry say when it holds what the requests come to. -/
theorem snapshot (accounts : Accounts requests r) :
    ∃ snapshot, r.snapshot = .ok snapshot ∧
      ∀ id labels, (snapshot.value? id labels).map Int64.toInt = expected id labels requests := by
  have calm : r.Calm := by
    intro id metric found
    rw [Registry.get?_metrics] at found
    obtain ⟨handle, there, rfl⟩ := Option.map_eq_some_iff.mp found
    exact accounts.calm handle (accounts.fresh id handle (accounts.ids id ▸ there))
  obtain ⟨snapshot, taken, holds⟩ := Registry.snapshot_of_calm calm
  exact ⟨snapshot, taken, fun id labels => by rw [holds, accounts.tells]⟩

end Accounts

/-- Requests come by either route, one after the other; each is listed with its result. -/
def MeteredRegistry.heard (m : MeteredRegistry) (asked : Route × Request) :
    Option (MeteredRegistry × List (Request × Except Fault Answer)) :=
  (m.ask asked.1 asked.2).map fun reply => (reply.state, [(asked.2, reply.result)])

/-- No operation among these requests overflows. -/
def NoOverflow (answers : List (Request × Except Fault Answer)) : Prop :=
  ∀ id operation labels fault, (.apply id operation labels, .error fault) ∈ answers → ¬fault.IsOverflow

section runs

variable {m : MeteredRegistry} {asks : List (Route × Request)} {answers : List (Request × Except Fault Answer)}
  {route : Route} {request : Request} {reply : Reply MeteredRegistry Answer}

private theorem fits_of_ask (asked : m.ask route request = some reply) (plain : request.Plain)
    (fits : NoOverflow [(request, reply.result)]) : request.Fits m.registry := by
  refine ⟨plain, ?_⟩
  rintro id operation labels rfl fault faulted
  refine fits id operation labels fault ?_
  rw [result_of_ask asked, faulted]
  exact List.mem_singleton_self _

private theorem accounts_of_run (plain : ∀ asked ∈ asks, asked.2.Plain) (fits : NoOverflow answers)
    (ran : Runs.run MeteredRegistry.heard .empty asks = some (m, answers)) :
    Accounts (asks.map (·.2)) m.registry := by
  refine Runs.run_induction
    (motive := fun asks answers m =>
      (∀ asked ∈ asks, asked.2.Plain) → NoOverflow answers → Accounts (asks.map (·.2)) m.registry) ?_ ?_ ran plain fits
  · exact fun _ _ => .start
  · intro asks past t asked new u _ before last plain fits
    obtain ⟨reply, served, same⟩ := Option.map_eq_some_iff.mp last
    cases same
    have earlier := before (fun other listed => plain other (List.mem_append_left _ listed))
      fun id operation labels fault listed => fits id operation labels fault (List.mem_append_left _ listed)
    have here := fits_of_ask served (plain asked (List.mem_append_right _ (List.mem_singleton_self _)))
      fun id operation labels fault listed => fits id operation labels fault (List.mem_append_right _ listed)
    rw [List.map_append, List.map_singleton, registry_of_ask served]
    exact earlier.leaves here

/-- In every run of requests that come at once or through the meter, with measurements between them, of metrics that
    are made without series and registered under any ids, as long as no operation overflows: a snapshot by either route
    tells of every series what the requests come to, a counter is never below zero, and one more request changes no
    series but the one it is an operation on, and takes no counter down unless it removes it. -/
theorem values_of_run (plain : ∀ asked ∈ asks, asked.2.Plain) (fits : NoOverflow answers)
    (ran : Runs.run MeteredRegistry.heard .empty asks = some (m, answers)) :
    ∃ snapshot, (∀ route, m.ask route .snapshot = some ⟨m, [], .ok (.snapshot snapshot)⟩) ∧
      (∀ id labels, (snapshot.value? id labels).map Int64.toInt = expected id labels (asks.map (·.2))) ∧
      (∀ id handle labels value, firstRegistered id (asks.map (·.2)) = some handle →
        handle.made.cells.kind = .counter → snapshot.value? id labels = some value → 0 ≤ value.toInt) ∧
      ∀ route request reply, m.ask route request = some reply → request.Plain →
        NoOverflow [(request, reply.result)] →
        ∃ later, (∀ route, reply.state.ask route .snapshot = some ⟨reply.state, [], .ok (.snapshot later)⟩) ∧
          ∀ id handle labels, firstRegistered id (asks.map (·.2)) = some handle →
            (request.operationOn handle labels (asks.map (·.2)) = none →
              later.value? id labels = snapshot.value? id labels) ∧
            ∀ value, handle.made.cells.kind = .counter →
              request.operationOn handle labels (asks.map (·.2)) ≠ some .remove →
              snapshot.value? id labels = some value →
              ∃ next, later.value? id labels = some next ∧ value.toInt ≤ next.toInt := by
  have accounts := accounts_of_run plain fits ran
  obtain ⟨snapshot, taken, tells⟩ := accounts.snapshot
  refine ⟨snapshot, fun route => by rw [ask_snapshot, taken]; rfl, tells, ?_, ?_⟩
  · intro id handle labels value registered counts held
    have worth : expected id labels (asks.map (·.2)) = some value.toInt := by rw [← tells, held, Option.map_some]
    rw [expected, registered, Option.bind_some] at worth
    exact worth_nonneg counts worth
  · intro route request reply asked plain fits
    have next := accounts.leaves (fits_of_ask asked plain fits)
    rw [← registry_of_ask asked] at next
    obtain ⟨later, taken, tellsLater⟩ := next.snapshot
    refine ⟨later, fun route => by rw [ask_snapshot, taken]; rfl, fun id handle labels registered =>
      ⟨fun other => ?_, ?_⟩⟩
    · have same : (later.value? id labels).map Int64.toInt = (snapshot.value? id labels).map Int64.toInt := by
        rw [tellsLater, expected_concat registered, other, tells]
      exact Option.map_injective (fun _ _ => Int64.toInt_inj.mp) same
    · intro value counts keeps held
      have before : expected id labels (asks.map (·.2)) = some value.toInt := by rw [← tells, held, Option.map_some]
      have after := tellsLater id labels
      rw [expected_concat registered, before] at after
      cases operation : request.operationOn handle labels (asks.map (·.2)) with
      | none =>
        rw [operation] at after
        obtain ⟨next, is, same⟩ := Option.map_eq_some_iff.mp after
        exact ⟨next, is, same.ge⟩
      | some operation' =>
        rw [operation] at after
        have stays : operation' ≠ .remove := by
          rintro rfl
          exact keeps operation
        obtain ⟨total, is, more⟩ := effect_of_counter counts stays labels value.toInt
        obtain ⟨next, held, same⟩ := Option.map_eq_some_iff.mp (after.trans is)
        exact ⟨next, held, same ▸ more⟩

/-- A gauge that stands under two ids. -/
def shared : Handle := ⟨0, Metric.newGauge ⟨"load", "", ["shard"]⟩⟩

/-- A gauge that is written and removed by both its ids and by both routes, and a counter that takes no step down,
    beside a measurement and a second registration. -/
def mixed : List (Route × Request) :=
  [(.direct, .register "load" shared), (.metered, .measure .run), (.metered, .apply "load" (.change .set 5) ["a"]),
    (.direct, .register "weight" shared), (.direct, .apply "weight" (.change .add 3) ["b"]),
    (.metered, .register "load" (Metric.newCounter ⟨"other", "", []⟩)), (.direct, .apply "load" .remove ["b"]),
    (.metered, .measure (.toc "db" 4)), (.direct, .apply "weight" (.change .subtract 7) ["a"]),
    (.direct, .apply "load" (.change .add 1) []), (.metered, .apply "weight" (.change .add 8) ["c"]),
    (.direct, .register "served" (Metric.newCounter ⟨"served", "", ["shard"]⟩)),
    (.metered, .apply "served" (.change .add 4) ["a"]), (.direct, .apply "served" (.change .add (-1)) ["a"]),
    (.direct, .apply "served" (.change .add 2) ["a"])]

theorem mixed_values :
    (expected "load" ["a"] (mixed.map (·.2)) = some (-2) ∧ expected "weight" ["a"] (mixed.map (·.2)) = some (-2) ∧
      expected "weight" ["b"] (mixed.map (·.2)) = none ∧ expected "load" ["c"] (mixed.map (·.2)) = some 8 ∧
      expected "served" ["a"] (mixed.map (·.2)) = some 6) ∧
    ∃ snapshot, (∀ route, (Runs.after MeteredRegistry.heard .empty mixed).1.ask route .snapshot =
        some ⟨(Runs.after MeteredRegistry.heard .empty mixed).1, [], .ok (.snapshot snapshot)⟩) ∧
      ∀ id labels, (snapshot.value? id labels).map Int64.toInt = expected id labels (mixed.map (·.2)) := by
  have ran : Runs.run MeteredRegistry.heard .empty mixed = some (Runs.after MeteredRegistry.heard .empty mixed) :=
    Runs.run_after rfl
  have plain : ∀ asked ∈ mixed, asked.2.Plain := by
    simp only [mixed, List.forall_mem_cons]
    exact ⟨⟨_, .inl rfl⟩, trivial, trivial, ⟨_, .inl rfl⟩, trivial, ⟨_, .inr (.inl rfl)⟩, trivial, trivial, trivial,
      trivial, trivial, ⟨_, .inr (.inl rfl)⟩, trivial, trivial, trivial, nofun⟩
  have made : ((Runs.after MeteredRegistry.heard .empty mixed).2.all fun answer => answer.2.isOk) = true := rfl
  have fits : NoOverflow (Runs.after MeteredRegistry.heard .empty mixed).2 := by
    intro id operation labels fault listed
    cases List.all_eq_true.mp made _ listed
  obtain ⟨snapshot, shown, tells, -⟩ := values_of_run plain fits ran
  exact ⟨⟨by decide +kernel, by decide +kernel, by decide +kernel, by decide +kernel, by decide +kernel⟩, snapshot,
    shown, tells⟩

end runs

end JobPool.Latency
