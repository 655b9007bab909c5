import JobPool.Latency.Access
import JobPool.Proofs.Metric.Reading
import JobPool.Proofs.Runs

/-!
A shared registry keeps its metrics apart. Nothing that is asked faults while it holds the lock as a writer, so the
lock is never poisoned and the registry behind it does what it would do on its own (`throughLock_new`). What is said
about an id that has a metric of its own depends on what was asked about that id and on nothing else, and a snapshot
faults as soon as a registered metric has overflowed (`isolation_of_ids`).
-/

namespace JobPool.Latency

open JobPool.Metric (Registry SharedRegistry Handle Operation)

/-- A request with the metric that it reached, the lines that it logged and how it ended. -/
structure Heard where
  request : Request
  reached : Option Handle
  logs : List Record
  result : Except Fault Answer

/-- A shared registry serves a request, and what is heard of it is noted. -/
def hear (s : SharedRegistry) (request : Request) : Option (SharedRegistry × List Heard) :=
  (request.throughLock s).map fun reply =>
    (reply.state, [⟨request, request.reached s.registry, reply.logs, reply.result⟩])

/-- The request is about metrics, and not about measurements. -/
def Request.ofMetrics : Request → Bool
  | .register .. | .has _ | .apply .. | .snapshot => true
  | .measure _ | .reports => false

/-- The request is about this id. -/
def Request.about (id : String) : Request → Bool
  | .register other _ | .has other | .apply other _ _ => other = id
  | .snapshot | .measure _ | .reports => false

/-- An operation on this metric overflows. -/
def Heard.Overflows (heard : Heard) (handle : Handle) : Prop :=
  heard.reached = some handle ∧ ∃ fault, heard.result = .error fault ∧ fault.IsOverflow

/-- A metric has overflowed: before the run, or in it. -/
def HasOverflowed (r : Registry) (heard : List Heard) (handle : Handle) : Prop :=
  (r.heap handle).poisoned = true ∨ ∃ h ∈ heard, h.Overflows handle

variable {r : Registry} {s t u : SharedRegistry} {request : Request} {requests : List Request}
  {heard : List Heard} {id : String}

private theorem apply_new (r : Registry) (id : String) (operation : Operation) (labels : List String) :
    (SharedRegistry.new r).apply id operation labels =
      ⟨.new (r.apply id operation labels).state, (r.apply id operation labels).logs,
        (r.apply id operation labels).result⟩ := by
  have found : (SharedRegistry.new r).read (fun r => .ok (r.ids.get? id)) = .ok (r.ids.get? id) := rfl
  rw [SharedRegistry.apply, found, Registry.apply]
  cases r.ids.get? id <;> rfl

/-- Nobody who writes faults, so the lock lets everybody through. -/
theorem throughLock_new (request : Request) (r : Registry) :
    request.throughLock (.new r) = (request.atOnce r).map fun reply =>
      ⟨.new reply.state, reply.logs, reply.result⟩ := by
  cases request with
  | register id metric =>
    have written : (SharedRegistry.new r).register id metric =
        ⟨.new (r.register id metric).state, (r.register id metric).logs, (r.register id metric).result⟩ := by
      have made : (r.register id metric).result.isOk = true := by
        unfold Registry.register
        cases r.has id <;> rfl
      have opened : (SharedRegistry.new r).register id metric =
          ⟨⟨(r.register id metric).state, !(r.register id metric).result.isOk⟩, (r.register id metric).logs,
            (r.register id metric).result⟩ := rfl
      rw [opened, made]
      rfl
    simp only [Request.throughLock, Request.atOnce, written, Option.map_some]
  | apply id operation labels => simp only [Request.throughLock, Request.atOnce, apply_new, Option.map_some]
  | has | snapshot | measure | reports => rfl

/-- A step of a shared registry is a step of the registry behind the lock. -/
theorem hear_new (heardNow : hear (.new r) request = some (t, heard)) :
    ∃ reply, request.atOnce r = some reply ∧ t = .new reply.state ∧
      heard = [⟨request, request.reached r, reply.logs, reply.result⟩] := by
  rw [hear, throughLock_new, Option.map_map] at heardNow
  obtain ⟨reply, served, same⟩ := Option.map_eq_some_iff.mp heardNow
  cases same
  exact ⟨reply, served, rfl, rfl⟩

/-- Requests about metrics can always be served. -/
theorem run_of_metrics (ofMetrics : ∀ request ∈ requests, request.ofMetrics = true) (s : SharedRegistry) :
    ∃ t heard, Runs.run hear s requests = some (t, heard) := by
  induction requests generalizing s with
  | nil => exact ⟨s, [], rfl⟩
  | cons request rest ih =>
    have served : ∃ t first, hear s request = some (t, first) := by
      have kind := ofMetrics request List.mem_cons_self
      cases request with
      | register | has | apply | snapshot => exact ⟨_, _, rfl⟩
      | measure | reports => cases kind
    obtain ⟨t, first, served⟩ := served
    obtain ⟨u, later, ran⟩ := ih (fun other listed => ofMetrics other (List.mem_cons_of_mem _ listed)) t
    exact ⟨u, first ++ later, Runs.run_cons.mpr ⟨t, first, later, served, ran, rfl⟩⟩

/-- In every run the registry is behind a lock that is not poisoned. -/
theorem unpoisoned_of_run (ran : Runs.run hear (.new r) requests = some (t, heard)) : t = .new t.registry := by
  refine Runs.run_induction (motive := fun _ _ t => t = .new t.registry) rfl ?_ ran
  intro requests past t request new u _ before step
  rw [before] at step
  obtain ⟨reply, -, rfl, -⟩ := hear_new step
  rfl

section steps

variable {reply other : Reply Registry Answer} {q : Registry} {own : Handle → Prop}

/-- An id that is taken keeps its metric. -/
theorem ids_of_atOnce (served : request.atOnce r = some reply) {other : String} {handle : Handle}
    (taken : r.ids.get? other = some handle) : reply.state.ids.get? other = some handle := by
  cases request with
  | register id fresh =>
    cases served
    unfold Registry.register
    cases free : r.has id with
    | true => exact taken
    | false =>
      have differs : ¬other = id := by
        rintro rfl
        simp [Registry.has, taken] at free
      simp only [Bool.false_eq_true, ↓reduceIte, Table.get?_put, if_neg differs]
      exact taken
  | apply id operation labels =>
    cases served
    rw [Registry.ids_apply]
    exact taken
  | has id | snapshot => cases served; exact taken
  | measure | reports => cases served

/-- These are metrics that no other id has than this one, and its own is among them. -/
def Apart (id : String) (own : Handle → Prop) (r : Registry) : Prop :=
  ∀ other handle, r.ids.get? other = some handle → (own handle ↔ other = id)

/-- The id has the same metric in both registries, and these metrics are in the same state. -/
structure Agree (id : String) (own : Handle → Prop) (q r : Registry) : Prop where
  found : q.ids.get? id = r.ids.get? id
  state : ∀ handle, own handle → q.heap handle = r.heap handle

/-- An id and its own metric decide what is said about the id and what becomes of the metric. -/
theorem atOnce_of_about (about : request.about id = true) (apart : Apart id own r) (agree : Agree id own q r)
    (served : request.atOnce r = some reply) :
    ∃ other, request.atOnce q = some other ∧ other.logs = reply.logs ∧ other.result = reply.result ∧
      request.reached q = request.reached r ∧ Agree id own other.state reply.state := by
  obtain ⟨same, state⟩ := agree
  cases request with
  | register other handle =>
    obtain rfl : other = id := by simpa [Request.about] using about
    have taken : q.has other = r.has other := by rw [Registry.has, Registry.has, same]
    cases served
    refine ⟨_, rfl, ?_⟩
    unfold Registry.register
    rw [taken]
    cases r.has other with
    | true => exact ⟨rfl, rfl, rfl, same, state⟩
    | false =>
      refine ⟨rfl, rfl, rfl, ?_, state⟩
      simp only [Bool.false_eq_true, ↓reduceIte, Table.get?_put]
  | has other =>
    obtain rfl : other = id := by simpa [Request.about] using about
    cases served
    refine ⟨_, rfl, rfl, ?_, rfl, same, state⟩
    rw [Registry.has, Registry.has, same]
  | apply other operation labels =>
    obtain rfl : other = id := by simpa [Request.about] using about
    cases served
    refine ⟨_, rfl, ?_, ?_, same, ?_⟩
    · cases found : r.ids.get? other with
      | none => simp only [Registry.apply, same, found]
      | some handle => simp only [Registry.apply, same, found, state handle ((apart other handle found).mpr rfl)]
    · cases found : r.ids.get? other with
      | none => simp only [Registry.apply, same, found]
      | some handle => simp only [Registry.apply, same, found, state handle ((apart other handle found).mpr rfl)]
    · refine ⟨by rw [Registry.ids_apply, Registry.ids_apply, same], fun handle mine => ?_⟩
      rw [Registry.heap_apply, Registry.heap_apply, same, state handle mine]
  | snapshot | measure | reports => cases about

/-- What is not about an id leaves the id and its own metric alone. -/
theorem agree_of_not_about (elsewhere : request.about id = false) (apart : Apart id own r)
    (served : request.atOnce r = some reply) : Agree id own r reply.state := by
  cases request with
  | register other handle =>
    have differs : ¬other = id := by simpa [Request.about] using elsewhere
    cases served
    unfold Registry.register
    split
    · exact ⟨rfl, fun _ _ => rfl⟩
    · exact ⟨by simp only [Table.get?_put, if_neg (Ne.symm differs)], fun _ _ => rfl⟩
  | apply other operation labels =>
    have differs : ¬other = id := by simpa [Request.about] using elsewhere
    cases served
    refine ⟨by rw [Registry.ids_apply], fun handle mine => ?_⟩
    rw [Registry.heap_apply, if_neg fun found => differs ((apart other handle found).mp mine)]
  | has other | snapshot => cases served; exact ⟨rfl, fun _ _ => rfl⟩
  | measure | reports => cases served

/-- An operation leaves a lock poisoned if it was so before, or if the operation overflows. -/
theorem poisoned_apply (m : Metric) (operation : Operation) (labels : List String) :
    (m.apply operation labels).state.poisoned = true ↔
      m.poisoned = true ∨ ∃ fault, (m.apply operation labels).result = .error fault ∧ fault.IsOverflow := by
  cases poisoned : m.poisoned with
  | true => simp [Metric.poisoned_of_apply poisoned]
  | false =>
    rcases Metric.apply_of_calm poisoned operation labels with ⟨n, logs, made, calm⟩ | ⟨n, fault, made, left, overflow⟩
    · simp [made, calm]
    · simp [made, left, overflow]

/-- A metric is poisoned after a request if it was so before or if it overflows. -/
theorem poisoned_atOnce (served : request.atOnce r = some reply) (handle : Handle) :
    (reply.state.heap handle).poisoned = true ↔ (r.heap handle).poisoned = true ∨
      (Heard.mk request (request.reached r) reply.logs reply.result).Overflows handle := by
  unfold Heard.Overflows
  cases request with
  | register id fresh =>
    cases served
    unfold Registry.register
    cases r.has id <;> simp [Request.reached]
  | apply id operation labels =>
    cases served
    rw [Registry.heap_apply, Request.reached]
    by_cases found : r.ids.get? id = some handle
    · rw [if_pos found, poisoned_apply, Registry.apply_of_found found]
      refine or_congr_right ⟨?_, ?_⟩
      · rintro ⟨fault, faulted, overflow⟩
        exact ⟨found, fault, by rw [faulted]; rfl, overflow⟩
      · rintro ⟨-, fault, faulted, overflow⟩
        refine ⟨fault, ?_, overflow⟩
        cases result : ((r.heap handle).apply operation labels).result with
        | ok done => rw [result] at faulted; cases faulted
        | error other => rw [result] at faulted; cases faulted; rfl
    · simp [found]
  | has | snapshot => cases served; simp [Request.reached]
  | measure | reports => cases served

end steps

/-- What was said before about an id with a metric of its own, and what became of the metric, are as in the run with
    the requests about this id alone. -/
theorem alone_of_run {own : Handle → Prop} (ran : Runs.run hear (.new r) requests = some (t, heard))
    (apart : Apart id own t.registry) :
    ∃ u, Runs.run hear (.new r) (requests.filter (Request.about id)) =
        some (u, heard.filter fun h => h.request.about id) ∧ Agree id own u.registry t.registry := by
  refine Runs.run_induction
    (motive := fun requests heard t => Apart id own t.registry →
      ∃ u, Runs.run hear (.new r) (requests.filter (Request.about id)) =
          some (u, heard.filter fun h => h.request.about id) ∧ Agree id own u.registry t.registry)
    (fun _ => ⟨_, rfl, rfl, fun _ _ => rfl⟩) ?_ ran apart
  intro requests past t request new v before alone step apart
  rw [unpoisoned_of_run before] at step
  obtain ⟨reply, served, rfl, rfl⟩ := hear_new step
  have earlier : Apart id own t.registry := fun other handle taken => apart other handle (ids_of_atOnce served taken)
  obtain ⟨u, alone, agree⟩ := alone earlier
  rw [List.filter_append, List.filter_append]
  cases about : request.about id with
  | false =>
    have same := agree_of_not_about about earlier served
    refine ⟨u, by simpa [about] using alone, agree.found.trans same.found, fun handle mine => ?_⟩
    exact (agree.state handle mine).trans (same.state handle mine)
  | true =>
    obtain ⟨other, answered, logs, result, reached, agree⟩ := atOnce_of_about about earlier agree served
    have last : hear u request =
        some (.new other.state, [⟨request, request.reached t.registry, reply.logs, reply.result⟩]) := by
      rw [unpoisoned_of_run alone, hear, throughLock_new, answered, ← logs, ← result, ← reached]
      rfl
    refine ⟨.new other.state, ?_, agree⟩
    have kept : [request].filter (Request.about id) = [request] := by simp [about]
    rw [kept]
    refine Runs.run_concat.mpr ⟨u, _, _, alone, last, ?_⟩
    simp [about]

/-- After a run the metrics that have overflowed are those whose locks are poisoned. -/
theorem poisoned_of_run (ran : Runs.run hear (.new r) requests = some (t, heard)) (handle : Handle) :
    (t.registry.heap handle).poisoned = true ↔ HasOverflowed r heard handle := by
  refine Runs.run_induction
    (motive := fun _ heard t => (t.registry.heap handle).poisoned = true ↔ HasOverflowed r heard handle) ?_ ?_ ran
  · simp [HasOverflowed, SharedRegistry.new]
  · intro requests past t request new u before earlier step
    rw [unpoisoned_of_run before] at step
    obtain ⟨reply, served, rfl, rfl⟩ := hear_new step
    have now := poisoned_atOnce served handle
    unfold HasOverflowed at earlier ⊢
    simp only [List.mem_append, List.mem_singleton, or_and_right, exists_or, exists_eq_left]
    rw [← or_assoc, ← earlier]
    exact now

private theorem snapshot_faults (r : Registry) :
    (∃ fault, r.snapshot = .error fault) ↔
      ∃ id handle, r.ids.get? id = some handle ∧ (r.heap handle).poisoned = true := by
  constructor
  · rintro ⟨fault, faulted⟩
    by_contra none
    have calm : r.Calm := by
      intro id metric found
      rw [Registry.get?_metrics] at found
      obtain ⟨handle, there, rfl⟩ := Option.map_eq_some_iff.mp found
      cases poisoned : (r.heap handle).poisoned with
      | false => rfl
      | true => exact absurd ⟨id, handle, there, poisoned⟩ none
    obtain ⟨snapshot, taken, -⟩ := Registry.snapshot_of_calm calm
    rw [taken] at faulted
    cases faulted
  · rintro ⟨id, handle, found, poisoned⟩
    cases taken : r.snapshot with
    | error fault => exact ⟨fault, rfl⟩
    | ok snapshot =>
      have there : r.metrics.get? id = some (r.heap handle) := by rw [Registry.get?_metrics, found, Option.map_some]
      have calm := (Registry.value_of_snapshot taken).1 id _ there
      rw [calm] at poisoned
      cases poisoned

/-- Requests about metrics are all served by a shared registry, one after the other, and then: what is logged and
    answered about an id with a metric of its own is what is logged and answered when nothing but the requests about
    that id is asked; the lock of the registry is not poisoned; and a snapshot faults if a metric in the registry has
    overflowed, and only then. -/
theorem isolation_of_ids (r : Registry) (ofMetrics : ∀ request ∈ requests, request.ofMetrics = true) :
    ∃ t heard, Runs.run hear (.new r) requests = some (t, heard) ∧
      (∀ id, t.registry.Own id → ∃ u, Runs.run hear (.new r) (requests.filter (Request.about id)) =
        some (u, heard.filter fun h => h.request.about id)) ∧
      t.poisoned = false ∧
      ((∃ fault, t.snapshot.result = .error fault) ↔
        ∃ id handle, t.registry.ids.get? id = some handle ∧ HasOverflowed r heard handle) := by
  obtain ⟨t, heard, ran⟩ := run_of_metrics ofMetrics (.new r)
  have unpoisoned := unpoisoned_of_run ran
  refine ⟨t, heard, ran, fun id own => ?_, ?_, ?_⟩
  · have apart : Apart id (fun handle => ∀ other, t.registry.ids.get? other = some handle → other = id) t.registry := by
      intro other handle found
      refine ⟨fun only => only other found, ?_⟩
      rintro rfl
      exact own handle found
    obtain ⟨u, alone, -⟩ := alone_of_run ran apart
    exact ⟨u, alone⟩
  · rw [unpoisoned]
    rfl
  · have looked : t.snapshot.result = t.registry.snapshot := by
      rw [unpoisoned]
      rfl
    rw [looked, snapshot_faults]
    exact exists_congr fun id => exists_congr fun handle => and_congr_right fun _ => poisoned_of_run ran handle

/-- A counter that overflows between requests about a gauge, and snapshots before and after that. -/
def clamour : List Request :=
  [.register "load" (Metric.newGauge ⟨"load", "", ["shard"]⟩), .register "total" (Metric.newCounter ⟨"total", "", []⟩),
    .apply "total" (.change .add Int64.maxValue) [], .apply "load" (.change .set 5) ["a"], .snapshot,
    .apply "total" (.change .add 1) [], .apply "load" (.change .subtract 7) ["a"], .snapshot,
    .apply "total" (.change .add 1) [], .has "total", .apply "load" .remove ["b"], .apply "other" .remove []]

theorem clamour_isolated :
    (∀ request ∈ clamour, request.ofMetrics = true) ∧
    ∃ t heard, Runs.run hear (.new .empty) clamour = some (t, heard) ∧
      (∀ id, t.registry.Own id ∧ ∃ u, Runs.run hear (.new .empty) (clamour.filter (Request.about id)) =
        some (u, heard.filter fun h => h.request.about id)) ∧
      t.poisoned = false ∧ ∃ fault, t.snapshot.result = .error fault := by
  have ofMetrics : ∀ request ∈ clamour, request.ofMetrics = true := List.all_eq_true.mp rfl
  obtain ⟨t, heard, ran, alone, unpoisoned, faults⟩ := isolation_of_ids .empty ofMetrics
  obtain rfl : (Runs.after hear (.new .empty) clamour).1 = t :=
    congrArg Prod.fst (Option.some.inj ((Runs.run_after rfl).symm.trans ran))
  have own : ∀ id, (Runs.after hear (.new .empty) clamour).1.registry.Own id :=
    Registry.own_of_nodup (by decide +kernel)
  refine ⟨ofMetrics, _, heard, ran, fun id => ⟨own id, alone id (own id)⟩, unpoisoned, faults.mpr ?_⟩
  exact ⟨"total", Metric.newCounter ⟨"total", "", []⟩, rfl, (poisoned_of_run ran _).mp rfl⟩

end JobPool.Latency
