import Mathlib.Algebra.Order.BigOperators.Group.List
import Mathlib.Algebra.Order.Ring.Nat
import Mathlib.Data.List.TakeWhile
import JobPool.Proofs.Json.Writing
import JobPool.Proofs.Latency.Moves
import JobPool.Proofs.Runs

/-!
No measurement is lost and none is reported twice. A measurement that was sent is in the channel, in the hand of the
task, in the aggregate of its module, or in a line that was pushed, and every move keeps the account of every module
(`Move.balance`). A push logs what `reports` says at that moment and leaves aggregates without requests.
-/

namespace JobPool.Latency

/-- The line tells a report: at INFO level, a JSON object without blanks of the module, which is a string, and four
    numbers in decimals. -/
def Report.Line (r : Report) (line : Record) : Prop :=
  line.level = .info ∧ ∃ name, Json.TextWritten r.module.toList name [] ∧
    line.text = "\x7b\"module\":\"" ++ String.ofList name ++ ",\"requestRate\":" ++ toString r.requestRate.toNat ++
      ",\"meanLatency\":" ++ toString r.meanLatency.toInt ++ ",\"maxLatency\":" ++ toString r.maxLatency.toInt ++
      ",\"minLatency\":" ++ toString r.minLatency.toInt ++ "\x7d"

private theorem Report.line_of_meter (r : Report) : r.Line (Meter.line r) := by
  refine ⟨rfl, _, Json.textWritten_escaped r.module.toList [], String.toList_inj.mp ?_⟩
  have count : toString (r.requestRate.toNat : Int) = toString r.requestRate.toNat := rfl
  rw [Meter.line, Record.info, Json.Value.write, String.toList_ofList]
  simp [Report.toJson, Json.Value.chars, Json.membersChars, Json.textChars, Json.Value.ofWord, Json.Value.ofSigned,
    Json.Number.chars, Json.escapeChar, -Int.toString_eq_repr, count]

private theorem lines_of_meter (reports : List Report) : List.Forall₂ Report.Line reports (reports.map Meter.line) :=
  List.forall₂_map_right_iff.mpr (List.forall₂_same.mpr fun r _ => r.line_of_meter)

/-- The measurement in the hand of the task. -/
def Task.held : Task → List Packet
  | .holding packet => [packet]
  | _ => []

/-- How many requests of a module are in these reports. -/
def rateIn (module : String) (reports : List Report) : Nat :=
  ((reports.filter fun r => r.module = module).map fun r => r.requestRate.toNat).sum

theorem rateIn_append (module : String) (reports more : List Report) :
    rateIn module (reports ++ more) = rateIn module reports + rateIn module more := by
  simp [rateIn]

/-- A report has all requests of its aggregate, and there is none only if there are no requests. -/
theorem Aggregate.rateIn_report {a : Aggregate} (tells : a.report.isOk = true) (module : String) :
    rateIn module a.report.toOption.join.toList = if a.module = module then a.requests.toNat else 0 := by
  unfold report at tells ⊢
  split
  · rename_i none
    simp [rateIn, none, Except.toOption]
  · rename_i some
    rw [if_neg some] at tells
    cases quotient : divChecked a.total a.requests.toInt64 with
    | error fault => rw [quotient] at tells; cases tells
    | ok mean => by_cases same : a.module = module <;> simp [rateIn, same, Except.map, Except.toOption]

namespace Meter

/-- A measurement of this module is sent. -/
def Action.isTocOf (module : String) : Action → Bool
  | .toc other _ => other = module
  | _ => false

/-- How many measurements of a module are sent after the task is started. -/
def measured (module : String) (actions : List Action) : Nat :=
  (actions.dropWhile fun action => action ≠ .run).countP (Action.isTocOf module)

/-- Measurements are counted from the start of the task on. -/
theorem measured_concat (module : String) (actions : List Action) (action : Action) :
    measured module (actions ++ [action]) =
      measured module actions + if action.isTocOf module = true ∧ .run ∈ actions then 1 else 0 := by
  unfold measured
  rw [List.dropWhile_append]
  by_cases started : .run ∈ actions
  · have kept : (actions.dropWhile fun action => action ≠ .run).isEmpty = false := by
      simpa [List.isEmpty_eq_false_iff] using started
    rw [kept]
    simp [started, List.countP_cons]
  · have before : (actions.dropWhile fun action => action ≠ .run) = [] := by
      rw [List.dropWhile_eq_nil_iff]
      intro earlier listed
      have differs : earlier ≠ .run := fun same => started (same ▸ listed)
      simpa using differs
    rw [before]
    cases action <;> simp [started, Action.isTocOf]

/-- The requests of a module since the last reset. -/
def requests (module : String) (m : Meter) : Nat := (m.aggregate module).requests.toNat

/-- How many measurements of a module are in the channel or in the hand of the task. -/
def pending (module : String) (m : Meter) : Nat :=
  (m.task.held ++ m.channel).countP fun packet => packet.module = module

/-- Every aggregate bears the name of its module. -/
def Named (m : Meter) : Prop := ∀ module a, m.aggregates.get? module = some a → a.module = module

variable {m t : Meter} {action : Action} {reports : List Report} {result : Except Fault Unit} {module : String}
  {a : Aggregate}

private theorem Named.aggregate (named : m.Named) (module : String) : (m.aggregate module).module = module := by
  unfold Meter.aggregate
  cases found : m.aggregates.get? module with
  | none => rfl
  | some a => exact named module a found

private theorem Named.put (named : m.Named) (own : a.module = module)
    (written : t.aggregates = m.aggregates.put module a) :
    t.Named := by
  intro key b found
  rw [written, Table.get?_put] at found
  split at found
  · rename_i same
    cases found
    rw [own, same]
  · exact named key b found

private theorem Named.cleared (named : m.Named) : m.cleared.Named := by
  intro key b found
  rw [Meter.cleared, Table.get?_mapValues] at found
  obtain ⟨a, before, rfl⟩ := Option.map_eq_some_iff.mp found
  exact named key a before

/-- The entries of a table report the requests of a module once, since they have distinct keys. -/
theorem rateIn_entries {entries : List (String × Aggregate)} (distinct : (entries.map (·.1)).Nodup)
    (named : ∀ module a, entries.lookup module = some a → a.module = module)
    (telling : ∀ entry ∈ entries, entry.2.report.isOk = true) (module : String) :
    rateIn module (entries.filterMap fun entry => entry.2.report.toOption.join) =
      ((entries.lookup module).getD (.new module)).requests.toNat := by
  induction entries with
  | nil => rfl
  | cons entry rest ih =>
    obtain ⟨other, distinct⟩ := List.nodup_cons.mp (List.map_cons ▸ distinct)
    -- the module has its entry here or later, never twice
    have missing : rest.lookup entry.1 = none := by
      rw [List.lookup_eq_none_iff]
      intro more listed
      have differs : entry.1 ≠ more.1 := fun equal => other (equal ▸ List.mem_map_of_mem listed)
      simpa using differs
    have here : entry.2.module = entry.1 := named entry.1 entry.2 (by simp [lookup_entry])
    have named' : ∀ key a, rest.lookup key = some a → a.module = key := fun key a found => named key a <| by
      have differs : key ≠ entry.1 := by
        rintro rfl
        simp [missing] at found
      simp [lookup_entry, differs, found]
    have later := ih distinct named' fun more listed => telling more (List.mem_cons_of_mem _ listed)
    have tells := telling entry List.mem_cons_self
    rw [List.filterMap_eq_flatMap_toList] at later ⊢
    rw [List.flatMap_cons, rateIn_append, later, Aggregate.rateIn_report tells, here, lookup_entry]
    by_cases same : module = entry.1
    · simp [same, missing, Aggregate.new]
    · simp [same, Ne.symm same]

private theorem rateIn_due (named : m.Named) (telling : m.Telling) (module : String) :
    rateIn module m.due = m.requests module :=
  rateIn_entries m.aggregates.distinct named telling module

private theorem requests_of_put (written : t.aggregates = m.aggregates.put module a) (other : String) :
    t.requests other = if other = module then a.requests.toNat else m.requests other := by
  rw [requests, aggregate, written, Table.get?_put]
  split
  · rfl
  · rfl

theorem requests_cleared (m : Meter) (module : String) : m.cleared.requests module = 0 := by
  rw [requests, aggregate, cleared, Table.get?_mapValues]
  cases m.aggregates.get? module with
  | none => rfl
  | some a => rfl

private theorem pending_cleared (m : Meter) (module : String) : m.cleared.pending module = m.pending module := rfl

namespace Move

theorem named (named : m.Named) (moved : Move m action reports result t) (calm : t.poisoned = false) : t.Named := by
  cases moved with
  | known | ignore | rerun | begin | send | take => exact named
  | @enlist module missing =>
    have empty : (Aggregate.new module).module = module := rfl
    exact named.put empty rfl
  | push | tick => exact named.cleared
  | @apply packet a holds updated => exact named.put ((Aggregate.of_update updated).1.trans (named.aggregate _)) rfl
  | overflow => cases calm
  | breakPush _ poisoned | breakTick _ _ poisoned => rw [poisoned] at calm; cases calm

theorem started (moved : Move m action reports result t) (calm : t.poisoned = false) :
    t.task ≠ .absent ↔ m.task ≠ .absent ∨ action = .run := by
  cases moved with
  | known | enlist | ignore | send | push | tick => simp [cleared]
  | begin absent => simp
  | rerun present => simp [present]
  | take waits => simp [waits]
  | apply holds => simp [holds]
  | overflow => cases calm
  | breakPush _ poisoned | breakTick _ _ poisoned => rw [poisoned] at calm; cases calm

/-- What a move pushes, and what it leaves, is what was there and what it sends. -/
theorem balance (named : m.Named) (moved : Move m action reports result t) (calm : t.poisoned = false)
    (module : String) :
    rateIn module reports + t.requests module + t.pending module =
      m.requests module + m.pending module + if action.isTocOf module = true ∧ m.task ≠ .absent then 1 else 0 := by
  have silent : rateIn module [] = 0 := rfl
  cases moved with
  | known | rerun => simp [Action.isTocOf, silent]
  | begin absent => simp [Action.isTocOf, silent, requests, pending, aggregate, absent, Task.held]
  | ignore absent => simp [silent, absent]
  | @send other latency present room =>
    simp [Action.isTocOf, silent, requests, pending, aggregate, present, List.countP_append,
      List.countP_cons,
      Nat.add_assoc]
  | take waits first =>
    simp [Action.isTocOf, silent, requests, pending, aggregate, waits, first, Task.held]
  | @enlist key missing =>
    have same : requests module { m with aggregates := m.aggregates.put key (.new key) } = m.requests module := by
      rw [requests_of_put rfl]
      split
      · rename_i here
        rw [requests, aggregate, here, missing]
        rfl
      · rfl
    simp [Action.isTocOf, silent, same, pending]
  | push telling | tick waits telling =>
    simp [Action.isTocOf, rateIn_due named telling, requests_cleared, pending_cleared]
  | @apply packet a holds updated =>
    have counted : a.requests.toNat = m.requests packet.module + 1 := (Aggregate.of_update updated).2
    have written : requests module { m with aggregates := m.aggregates.put packet.module a, task := .waiting } =
        m.requests module + if packet.module = module then 1 else 0 := by
      rw [requests_of_put rfl]
      by_cases same : module = packet.module
      · simp [same, counted]
      · simp [same, Ne.symm same]
    have taken : m.pending module =
        pending module { m with aggregates := m.aggregates.put packet.module a, task := .waiting } +
          if packet.module = module then 1 else 0 := by
      simp [pending, holds, Task.held, List.countP_cons]
    simp only [silent, Action.isTocOf, Bool.false_eq_true, false_and, if_false]
    omega
  | overflow => cases calm
  | breakPush _ poisoned | breakTick _ _ poisoned => rw [poisoned] at calm; cases calm

end Move

/-- No module has as many requests as a word can count: the least total has no mean over these. -/
def Few (m : Meter) : Prop := ∀ module, m.requests module < 18446744073709551615

/-- The account of a run: what was pushed, what is in the aggregates and what is on its way was measured. -/
structure Conserved (actions : List Action) (pushed : List Report) (m : Meter) : Prop where
  started : m.task ≠ .absent ↔ .run ∈ actions
  named : m.Named
  balance : ∀ module, rateIn module pushed + m.requests module + m.pending module = measured module actions

private theorem conserved_new : Conserved [] [] .new := by
  refine ⟨by simp [new], ?_, fun module => rfl⟩
  intro module a found
  cases found

variable {actions : List Action} {pushed : List Report}

private theorem Conserved.move (conserved : Conserved actions pushed m) (moved : Move m action reports result t)
    (calm : t.poisoned = false) : Conserved (actions ++ [action]) (pushed ++ reports) t := by
  refine ⟨?_, moved.named conserved.named calm, ?_⟩
  · rw [moved.started calm, conserved.started]
    simp [eq_comm]
  · intro module
    have before := conserved.balance module
    have step := moved.balance conserved.named calm module
    rw [rateIn_append, measured_concat, ← before]
    simp only [conserved.started] at step
    omega

private theorem Few.telling (few : m.Few) : m.Telling := by
  rintro ⟨module, a⟩ listed
  have found : m.aggregates.get? module = some a := (lookup_eq_some_iff_mem m.aggregates.distinct).mpr listed
  have counted := few module
  rw [requests, aggregate, found, Option.getD_some] at counted
  rw [Aggregate.report_of_few counted]
  rfl

/-- The task can add the measurement in its hand: the sum of the latencies stays in its word, and the count below the
    greatest one. -/
def Fits (m : Meter) : Prop :=
  ∀ packet, m.task = .holding packet →
    FitsSigned ((m.aggregate packet.module).total.toInt + packet.latency.toInt) ∧
      m.requests packet.module + 1 < 18446744073709551615

/-- Where the measurements fit, the lock is not poisoned and there are few requests. -/
theorem Move.calm (moved : Move m action reports result t) (calm : m.poisoned = false) (few : m.Few)
    (fits : action = .apply → m.Fits) : t.poisoned = false ∧ t.Few := by
  cases moved with
  | known | ignore | send | begin | rerun | take => exact ⟨calm, few⟩
  | @enlist key missing =>
    refine ⟨calm, fun module => ?_⟩
    rw [requests_of_put rfl]
    split
    · exact (by decide : 0 < 18446744073709551615)
    · exact few module
  | push | tick =>
    refine ⟨calm, fun module => ?_⟩
    rw [requests_cleared]
    decide
  | breakPush _ _ untold | breakTick _ _ _ untold => exact absurd few.telling untold
  | @apply packet a holds updated =>
    refine ⟨calm, fun module => ?_⟩
    rw [requests_of_put rfl]
    split
    · rw [(Aggregate.of_update updated).2]
      exact (fits rfl packet holds).2
    · exact few module
  | @overflow packet a fault holds updated =>
    obtain ⟨total, count⟩ := fits rfl packet holds
    have room : (m.aggregate packet.module).requests.toNat + 1 < UInt64.size := Nat.lt_succ_of_lt count
    rw [Aggregate.update, succChecked, if_pos room, addChecked, if_pos total] at updated
    cases updated

/-- Where no aggregate faults, the reports are those of all that have requests. -/
theorem mapM_report {entries : List (String × Aggregate)} (telling : ∀ entry ∈ entries, entry.2.report.isOk = true) :
    ∃ told, entries.mapM (fun entry => entry.2.report) = .ok told ∧
      told.filterMap id = entries.filterMap fun entry => entry.2.report.toOption.join := by
  induction entries with
  | nil => exact ⟨[], rfl, rfl⟩
  | cons entry rest ih =>
    obtain ⟨told, later, same⟩ := ih fun other listed => telling other (List.mem_cons_of_mem _ listed)
    have here := telling entry List.mem_cons_self
    cases report : entry.2.report with
    | error fault => rw [report] at here; cases here
    | ok report? =>
      refine ⟨report? :: told, by rw [List.mapM_cons, report, later]; rfl, ?_⟩
      rw [List.filterMap_cons, List.filterMap_cons, report, same]
      rfl

/-- Who looks is told the reports that a push would log now. -/
theorem reports_of_telling (calm : m.poisoned = false) (telling : m.Telling) :
    ∃ told, m.reports = (m, .ok told) ∧ m.due.Perm told := by
  have perm : (m.aggregates.sorted textLe).Perm m.aggregates.entries := List.mergeSort_perm _ _
  obtain ⟨told, made, same⟩ := mapM_report fun entry listed => telling entry (perm.mem_iff.mp listed)
  refine ⟨told.filterMap id, ?_, ?_⟩
  · rw [Meter.reports, lock_of_calm calm]
    simp only [made]
  · rw [same]
    exact (perm.filterMap _).symm

private theorem reports_cleared (calm : m.poisoned = false) : m.cleared.reports = (m.cleared, .ok []) := by
  have few : m.cleared.Few := by
    intro module
    rw [requests_cleared]
    decide
  obtain ⟨told, made, due⟩ := reports_of_telling (m := m.cleared) calm few.telling
  have none : m.cleared.due = [] := by
    simp [Meter.due, cleared, Table.mapValues, Aggregate.reset, Aggregate.new, Aggregate.report, Except.toOption]
  rw [none, List.nil_perm] at due
  rw [made, due]

end Meter

/-- What a request asks of the meter. -/
def Request.action? : Request → Option Meter.Action
  | .measure action => some action
  | _ => none

namespace MeteredRegistry

open Meter (Conserved measured)

/-- A request is served, and the meter logs. -/
def observe (m : MeteredRegistry) (request : Request) : Option (MeteredRegistry × List Record) :=
  (m.serve request).map fun reply => (reply.state, if request.action?.isSome then reply.logs else [])

/-- Every measurement that the task adds fits. -/
def Fits (registry : Metric.Registry) (requests : List Request) : Prop :=
  Runs.Throughout (fun past request => request = .measure .apply →
    ∀ m lines, Runs.run observe ⟨registry, .new⟩ past = some (m, lines) → m.meter.Fits) requests

variable {registry : Metric.Registry} {m t : MeteredRegistry} {request : Request} {action : Meter.Action}
  {requests : List Request} {reports : List Report} {lines : List Record}

private theorem observe_measure (observed : m.observe (.measure action) = some (t, lines)) :
    ∃ reports result, m.meter.step action = some (t.meter, reports, result) ∧ lines = reports.map Meter.line := by
  obtain ⟨reply, served, same⟩ := Option.map_eq_some_iff.mp observed
  obtain ⟨⟨meter, reports, result⟩, stepped, made⟩ := Option.map_eq_some_iff.mp served
  cases made
  cases same
  exact ⟨reports, result, stepped, rfl⟩

/-- Other requests leave the meter alone. -/
theorem observe_other (calm : m.meter.poisoned = false) (few : m.meter.Few) (other : request.action? = none)
    (observed : m.observe request = some (t, lines)) : t.meter = m.meter ∧ lines = [] := by
  obtain ⟨reply, served, same⟩ := Option.map_eq_some_iff.mp observed
  rw [other] at same
  cases same
  refine ⟨?_, rfl⟩
  cases request with
  | register | has | apply | snapshot => cases served; rfl
  | measure action => cases other
  | reports =>
    obtain ⟨told, made, -⟩ := Meter.reports_of_telling calm few.telling
    rw [serve, made] at served
    cases served
    rfl

/-- The lines of the meter tell reports that keep the account, its lock is not poisoned and it has few requests. -/
structure Keeps (requests : List Request) (lines : List Record) (m : Meter) : Prop where
  account : ∃ reports, List.Forall₂ Report.Line reports lines ∧ Conserved (requests.filterMap Request.action?) reports m
  calm : m.poisoned = false
  few : m.Few

private theorem Keeps.observe (keeps : Keeps requests lines m.meter) (fits : request = .measure .apply → m.meter.Fits)
    {more : List Record} (observed : m.observe request = some (t, more)) :
    Keeps (requests ++ [request]) (lines ++ more) t.meter := by
  obtain ⟨⟨reports, told, conserved⟩, calm, few⟩ := keeps
  have extended : (requests ++ [request]).filterMap Request.action? =
      requests.filterMap Request.action? ++ request.action?.toList := by
    cases asked : request.action? <;> simp [List.filterMap_append, asked]
  cases asked : request.action? with
  | none =>
    obtain ⟨same, rfl⟩ := observe_other calm few asked observed
    rw [asked, Option.toList_none, List.append_nil] at extended
    rw [same, List.append_nil]
    exact ⟨⟨reports, told, extended ▸ conserved⟩, calm, few⟩
  | some action =>
    obtain rfl : request = .measure action := by
      cases request <;> cases asked
      rfl
    obtain ⟨pushed, result, stepped, rfl⟩ := observe_measure observed
    have moved := Meter.move_of_step calm stepped
    obtain ⟨still, fewer⟩ := moved.calm calm few fun adds => fits (by rw [adds])
    refine ⟨⟨reports ++ pushed, List.rel_append told (lines_of_meter pushed), ?_⟩, still, fewer⟩
    rw [extended]
    exact conserved.move moved still

private theorem keeps_of_run (fits : Fits registry requests)
    (ran : Runs.run observe ⟨registry, .new⟩ requests = some (m, lines)) : Keeps requests lines m.meter := by
  -- the lock is calm and the counts are small as long as the measurements fit; the account needs both
  have begun : Keeps [] [] Meter.new :=
    ⟨⟨[], .nil, Meter.conserved_new⟩, rfl, fun module => (by decide : 0 < 18446744073709551615)⟩
  refine Runs.run_induction (motive := fun requests lines m => Fits registry requests → Keeps requests lines m.meter)
    (fun _ => begun) ?_ ran fits
  intro requests past t request new u first before last fits
  obtain ⟨shorter, here⟩ := Runs.throughout_append.mp fits
  refine (before shorter).observe (fun adds => ?_) last
  exact (Runs.throughout_cons.mp here).1 adds t past (by simpa using first)

/-- In every run of a meter over a registry in which the measurements fit, with any number of callers who ask for
    anything and with the task taking its turns as it likes: the lines that the meter has logged tell reports such that
    of every module the requests in these, those since the last push, and the measurements in the channel or in the
    hand of the task are together those that were sent after the task was started. Who looks at the reports is told
    those that a push, by whomever, logs at that moment, in some order, and after the push no aggregate has
    requests. -/
theorem conservation_of_run (fits : Fits registry requests)
    (ran : Runs.run observe ⟨registry, .new⟩ requests = some (m, lines)) :
    (∃ reports, List.Forall₂ Report.Line reports lines ∧ ∀ module,
      rateIn module reports + m.meter.requests module + m.meter.pending module =
        measured module (requests.filterMap Request.action?)) ∧
    ∃ told, m.serve .reports = some ⟨m, [], .ok (.reports told)⟩ ∧
      ∀ action, action = .push ∨ action = .tick ∧ m.meter.task = .waiting →
        ∃ u logs, m.serve (.measure action) = some ⟨u, logs, .ok .nothing⟩ ∧
          (∃ reports, List.Forall₂ Report.Line reports logs ∧ reports.Perm told) ∧
          (∀ module, u.meter.requests module = 0) ∧ u.serve .reports = some ⟨u, [], .ok (.reports [])⟩ := by
  obtain ⟨⟨reports, tells, conserved⟩, calm, few⟩ := keeps_of_run fits ran
  obtain ⟨told, made, due⟩ := Meter.reports_of_telling calm few.telling
  refine ⟨⟨reports, tells, conserved.balance⟩, told, by rw [serve, made]; rfl, fun action pushes => ?_⟩
  have stepped : m.meter.step action = some (m.meter.cleared, m.meter.due, .ok ()) := by
    rcases pushes with rfl | ⟨rfl, waits⟩
    · simp [Meter.step, Meter.pushed_of_telling calm few.telling]
    · simp [Meter.step, Meter.pushed_of_telling calm few.telling, waits]
  refine ⟨{ m with meter := m.meter.cleared }, m.meter.due.map Meter.line, by rw [serve, stepped]; rfl,
    ⟨_, lines_of_meter _, due⟩, Meter.requests_cleared m.meter, ?_⟩
  rw [serve, Meter.reports_cleared calm]
  rfl

/-- A measurement that comes too early, two that are pushed or wait for the next push, and one in the hand of the
    task; a snapshot is asked for in between. -/
def rush : List Request :=
  [.measure (.tic "a"), .measure (.toc "a" 4), .measure .run, .measure (.toc "a" 7), .snapshot,
    .measure (.toc "b" 2), .measure .take, .measure .apply, .measure .push, .measure (.toc "a" 9),
    .measure .take, .measure .apply, .measure .take]

/-- The state after the rush and what is logged in it. -/
def rushed : MeteredRegistry × List Record := Runs.after observe ⟨.empty, .new⟩ rush

theorem rush_conserved :
    rushed.2 =
      [⟨.info, "\x7b\"module\":\"a\",\"requestRate\":1,\"meanLatency\":7,\"maxLatency\":7,\"minLatency\":7\x7d"⟩] ∧
    rushed.1.meter.requests "b" = 1 ∧ rushed.1.meter.pending "a" = 1 ∧
    measured "a" (rush.filterMap Request.action?) = 2 ∧
    ∃ reports, List.Forall₂ Report.Line reports rushed.2 ∧ ∀ module,
      rateIn module reports + rushed.1.meter.requests module + rushed.1.meter.pending module =
        measured module (rush.filterMap Request.action?) := by
  have ran : Runs.run observe ⟨.empty, .new⟩ rush = some rushed := Runs.run_after rfl
  have fits : Fits .empty rush := by
    simp only [Fits, rush, Runs.throughout_cons, Runs.throughout_nil]
    simp only [Request.measure.injEq, reduceCtorEq, false_implies, true_implies, true_and, and_true]
    constructor
    · rintro m lines ⟨⟩ packet ⟨⟩
      decide
    · rintro m lines ⟨⟩ packet ⟨⟩
      decide
  exact ⟨by decide +kernel, rfl, rfl, rfl, (conservation_of_run fits ran).1⟩

end MeteredRegistry

end JobPool.Latency
