import JobPool.Proofs.Latency.Isolation
import JobPool.Proofs.Metric.Gathering

/-!
Reporting in any order. Counters that are added to and histograms that observe take the same values whichever of
several reporters comes first: one order of the requests overflows if and only if every order does, and the snapshot
afterwards is the same (`reports_commute`). Whether there is an overflow is decided by the values that each series is
to take (`Roomy`), of which the order has no part.
-/

namespace JobPool.Latency

open JobPool.Metric (Registry SharedRegistry Handle Operation Change Grown Room)

/-- The lock is not poisoned, and no counter has counted and no histogram has observed. -/
def Unobserved (m : Metric) : Prop :=
  m.poisoned = false ∧
    match m.cells with
    | .gauge _ => True
    | .counter g => ∀ labels, g.table.get? labels = none
    | .histogram _ g => ∀ labels, g.table.get? labels = none

/-- The request adds to a counter, or observes a time that is not negative in a histogram. -/
def Request.Reports (r : Registry) (request : Request) : Prop :=
  ∃ id labels change value handle, request = .apply id (.change change value) labels ∧
    r.ids.get? id = some handle ∧ (r.heap handle).cells.kind.gathers = some change ∧
      (change = .observe → 0 ≤ value.toInt)

/-- The value that a metric takes for a series, by whichever of its ids. -/
def Request.value? (r : Registry) (handle : Handle) (labels : List String) : Request → Option Int64
  | .apply id (.change change value) others =>
    if r.ids.get? id = some handle ∧ others = labels ∧ (r.heap handle).takes labels change value = true then some value
    else none
  | _ => none

/-- The values that a metric takes for its series. -/
def valuesOf (r : Registry) (handle : Handle) (requests : List Request) (labels : List String) : List Int64 :=
  requests.filterMap fun request => request.value? r handle labels

/-- There is room for the values of every series. -/
def Roomy (r : Registry) (requests : List Request) : Prop :=
  ∀ handle labels, Room (r.heap handle).cells.kind (valuesOf r handle requests labels)

/-- Some operation overflows. -/
def Overflowing (heard : List Heard) : Prop := ∃ h ∈ heard, ∃ fault, h.result = .error fault ∧ fault.IsOverflow

/-- Every metric has gathered the values that the requests bring it. -/
structure Gathered (r : Registry) (requests : List Request) (now : Registry) : Prop where
  ids : now.ids = r.ids
  grown : ∀ id handle, r.ids.get? id = some handle →
    Grown (r.heap handle) (now.heap handle) (valuesOf r handle requests)

variable {r now : Registry} {requests others : List Request} {request : Request} {heard : List Heard}
  {handle : Handle}

private theorem Unobserved.grown {m : Metric} (unobserved : Unobserved m) : Grown m m fun _ => [] := by
  obtain ⟨calm, empty⟩ := unobserved
  refine ⟨rfl, calm, ?_⟩
  cases start : m.cells with
  | gauge g => rfl
  | counter g =>
    rw [start] at empty
    exact empty
  | histogram bounds g =>
    rw [start] at empty
    exact ⟨rfl, empty⟩

private theorem valuesOf_concat (r : Registry) (handle : Handle) (requests : List Request) (request : Request)
    (labels : List String) :
    valuesOf r handle (requests ++ [request]) labels =
      valuesOf r handle requests labels ++ (request.value? r handle labels).toList := by
  rw [valuesOf, List.filterMap_append]
  cases taken : request.value? r handle labels <;> simp [valuesOf, taken]

/-- Values that are reported are not negative. -/
theorem value_nonneg {labels : List String} {value : Int64} (reports : request.Reports r)
    (taken : request.value? r handle labels = some value) : 0 ≤ value.toInt := by
  obtain ⟨id, labels', change, value', there, rfl, found, gathers, positive⟩ := reports
  simp only [Request.value?] at taken
  split at taken
  · rename_i fits
    obtain ⟨found', rfl, takes⟩ := fits
    cases taken
    rw [found] at found'
    cases found'
    cases kind : (r.heap handle).cells.kind with
    | gauge => rw [kind] at gathers; cases gathers
    | counter =>
      simp only [Metric.takes_eq, kind, Bool.and_eq_true, Bool.not_eq_true', decide_true, Bool.true_and,
        decide_eq_false_iff_not] at takes
      exact Int.not_lt.mp takes.1.2
    | histogram =>
      rw [kind] at gathers
      cases gathers
      exact positive rfl
  · cases taken

private theorem values_nonneg (handle : Handle) (labels : List String)
    (reports : ∀ request ∈ requests, request.Reports r) :
    ∀ value ∈ valuesOf r handle requests labels, 0 ≤ value.toInt := by
  intro value listed
  obtain ⟨request, asked, taken⟩ := List.mem_filterMap.mp listed
  exact value_nonneg (reports request asked) taken

/-- What had room with more requests had it before. -/
theorem Roomy.of_concat (roomy : Roomy r (requests ++ [request])) (reports : request.Reports r) : Roomy r requests := by
  intro handle labels
  have room := roomy handle labels
  rw [valuesOf_concat] at room
  cases taken : request.value? r handle labels with
  | none => simpa [taken] using room
  | some value =>
    rw [taken] at room
    exact room.of_concat (value_nonneg reports taken)

/-- The order of the requests decides nothing about room. -/
theorem Roomy.perm (roomy : Roomy r requests) (perm : requests.Perm others) : Roomy r others := by
  intro handle labels
  obtain ⟨sum, length⟩ := roomy handle labels
  have values : (valuesOf r handle requests labels).Perm (valuesOf r handle others labels) := perm.filterMap _
  exact ⟨(values.map Int64.toInt).sum_eq ▸ sum, values.length_eq ▸ length⟩

section steps

variable {id : String} {labels : List String} {change : Change} {value : Int64}

/-- A request brings no value to series other than its own. -/
theorem valuesOf_elsewhere {other : Handle} {others : List String}
    (differs : ¬(r.ids.get? id = some other ∧ labels = others)) :
    valuesOf r other (requests ++ [.apply id (.change change value) labels]) others =
      valuesOf r other requests others := by
  have untaken : Request.value? r other others (.apply id (.change change value) labels) = none :=
    if_neg fun fits => differs ⟨fits.1, fits.2.1⟩
  rw [valuesOf_concat, untaken, Option.toList_none, List.append_nil]

private theorem valuesOf_here (found : r.ids.get? id = some handle)
    (takes : (r.heap handle).takes labels change value = true) :
    valuesOf r handle (requests ++ [.apply id (.change change value) labels]) labels =
      valuesOf r handle requests labels ++ [value] := by
  have taken : Request.value? r handle labels (.apply id (.change change value) labels) = some value :=
    if_pos ⟨found, rfl, takes⟩
  rw [valuesOf_concat, taken, Option.toList_some]

/-- A value that the metric does not take is not gathered. -/
theorem valuesOf_refused (refused : (r.heap handle).takes labels change value = false) (others : List String) :
    valuesOf r handle (requests ++ [.apply id (.change change value) labels]) others =
      valuesOf r handle requests others := by
  have untaken : Request.value? r handle others (.apply id (.change change value) labels) = none := by
    refine if_neg ?_
    rintro ⟨-, rfl, takes⟩
    rw [refused] at takes
    cases takes
  rw [valuesOf_concat, untaken, Option.toList_none, List.append_nil]

/-- With one more value that has room, there is room for all. -/
theorem Roomy.concat (roomy : Roomy r requests) (found : r.ids.get? id = some handle)
    (room : Room (r.heap handle).cells.kind
      (valuesOf r handle (requests ++ [.apply id (.change change value) labels]) labels)) :
    Roomy r (requests ++ [.apply id (.change change value) labels]) := by
  intro other others
  by_cases same : r.ids.get? id = some other ∧ labels = others
  · obtain ⟨there, rfl⟩ := same
    rw [found] at there
    cases there
    exact room
  · rw [valuesOf_elsewhere same]
    exact roomy other others

/-- What a metric has gathered of a request stands in the registry. -/
theorem Gathered.concat (gathered : Gathered r requests now) (found : r.ids.get? id = some handle)
    (grown : Grown (r.heap handle) ((now.heap handle).apply (.change change value) labels).state
      (valuesOf r handle (requests ++ [.apply id (.change change value) labels]))) :
    Gathered r (requests ++ [.apply id (.change change value) labels])
      (now.apply id (.change change value) labels).state := by
  refine ⟨(Registry.ids_apply ..).trans gathered.ids, fun other there taken => ?_⟩
  rw [Registry.heap_apply, gathered.ids, found]
  by_cases same : handle = there
  · subst same
    rw [if_pos rfl]
    exact grown
  · have differs : ¬some handle = some there := fun equal => same (Option.some.inj equal)
    have untouched : valuesOf r there (requests ++ [.apply id (.change change value) labels]) =
        valuesOf r there requests := funext fun others => valuesOf_elsewhere fun both => differs (found ▸ both.1)
    rw [if_neg differs, untouched]
    exact gathered.grown other there taken

private theorem Gathered.result (gathered : Gathered r requests now) (found : r.ids.get? id = some handle) :
    (now.apply id (.change change value) labels).result =
      ((now.heap handle).apply (.change change value) labels).result := by
  rw [Registry.apply_of_found (gathered.ids ▸ found)]

/-- A report that its metric refuses changes nothing. -/
theorem Gathered.refused (gathered : Gathered r requests now) (roomy : Roomy r requests)
    (found : r.ids.get? id = some handle) (refused : (r.heap handle).takes labels change value = false) :
    Roomy r (requests ++ [.apply id (.change change value) labels]) ∧
      (now.apply id (.change change value) labels).result = .ok () ∧
      Gathered r (requests ++ [.apply id (.change change value) labels])
        (now.apply id (.change change value) labels).state := by
  have grown := gathered.grown id handle found
  have alike : Metric.Alike (r.heap handle) (now.heap handle) := ⟨grown.description, grown.kind⟩
  obtain ⟨warning, refusal⟩ : ∃ warning, (now.heap handle).refusal labels change value = some warning := by
    rw [← Option.ne_none_iff_exists', Ne, Metric.refusal_eq_none, alike.takes, refused]
    exact Bool.false_ne_true
  have made : (now.heap handle).apply (.change change value) labels = ⟨now.heap handle, [warning], .ok ()⟩ := by
    simp only [Metric.apply, refusal]
  refine ⟨roomy.concat found ?_, by rw [gathered.result found, made], gathered.concat found ?_⟩
  · rw [valuesOf_refused refused]
    exact roomy handle labels
  · rw [made, show valuesOf r handle (requests ++ [.apply id (.change change value) labels]) = _ from
      funext (valuesOf_refused refused)]
    exact grown

/-- A report that its metric takes is gathered if there is room for it, and otherwise overflows. -/
theorem Gathered.taken (gathered : Gathered r requests now) (roomy : Roomy r requests)
    (found : r.ids.get? id = some handle) (gathers : (r.heap handle).cells.kind.gathers = some change)
    (takes : (r.heap handle).takes labels change value = true)
    (positive : ∀ v ∈ valuesOf r handle requests labels, 0 ≤ v.toInt) (notNegative : 0 ≤ value.toInt) :
    (Roomy r (requests ++ [.apply id (.change change value) labels]) ∧
        (now.apply id (.change change value) labels).result = .ok () ∧
        Gathered r (requests ++ [.apply id (.change change value) labels])
          (now.apply id (.change change value) labels).state) ∨
      (¬Roomy r (requests ++ [.apply id (.change change value) labels]) ∧
        (now.apply id (.change change value) labels).result = .error .addOverflow) := by
  have grown := gathered.grown id handle found
  have alike : Metric.Alike (r.heap handle) (now.heap handle) := ⟨grown.description, grown.kind⟩
  have accepted : (now.heap handle).refusal labels change value = none := by
    rw [Metric.refusal_eq_none, alike.takes]
    exact takes
  have made : (now.heap handle).apply (.change change value) labels =
      ⟨{ now.heap handle with cells := ((now.heap handle).cells.change labels change value).1 }, [],
        ((now.heap handle).cells.change labels change value).2⟩ := by
    simp only [Metric.apply, accepted]
  rw [gathered.result found, made]
  rcases grown.changed gathers (roomy handle labels) positive notNegative with
    ⟨room, cells, done, grown⟩ | ⟨full, overflow⟩
  · left
    rw [← valuesOf_here found takes] at room
    refine ⟨roomy.concat found room, by rw [done], gathered.concat found ?_⟩
    have values : valuesOf r handle (requests ++ [.apply id (.change change value) labels]) = fun other =>
        if other = labels then valuesOf r handle requests labels ++ [value] else valuesOf r handle requests other := by
      funext other
      by_cases same : other = labels
      · subst same
        rw [if_pos rfl, valuesOf_here found takes]
      · rw [if_neg same, valuesOf_elsewhere fun both => same both.2.symm]
    rw [made, values, done]
    exact grown
  · right
    refine ⟨fun all => full ?_, overflow⟩
    have room := all handle labels
    rw [valuesOf_here found takes] at room
    exact room

/-- A report is gathered if there is room for it, and otherwise overflows. -/
theorem Gathered.step (gathered : Gathered r requests now) (roomy : Roomy r requests)
    (reports : ∀ request ∈ requests ++ [.apply id (.change change value) labels], request.Reports r) :
    (Roomy r (requests ++ [.apply id (.change change value) labels]) ∧
        (now.apply id (.change change value) labels).result = .ok () ∧
        Gathered r (requests ++ [.apply id (.change change value) labels])
          (now.apply id (.change change value) labels).state) ∨
      (¬Roomy r (requests ++ [.apply id (.change change value) labels]) ∧
        (now.apply id (.change change value) labels).result = .error .addOverflow) := by
  have last := reports _ (List.mem_append_right _ (List.mem_singleton_self _))
  have addressed := last
  obtain ⟨_, _, _, _, handle, same, found, gathers, -⟩ := addressed
  cases same
  cases takes : (r.heap handle).takes labels change value with
  | false => exact .inl (gathered.refused roomy found takes)
  | true =>
    have positive := values_nonneg handle labels fun request listed => reports request (List.mem_append_left _ listed)
    exact gathered.taken roomy found gathers takes positive (value_nonneg last (if_pos ⟨found, rfl, takes⟩))

end steps

/-- In every run of reports: every value so far had room and is gathered, or some operation has overflowed and there is
    no room for all values. -/
theorem gathered_of_run {t : SharedRegistry} (unobserved : ∀ id m, r.metrics.get? id = some m → Unobserved m)
    (reports : ∀ request ∈ requests, request.Reports r) (ran : Runs.run hear (.new r) requests = some (t, heard)) :
    (¬Overflowing heard ∧ Roomy r requests ∧ Gathered r requests t.registry) ∨
      (Overflowing heard ∧ ¬Roomy r requests) := by
  refine Runs.run_induction
    (motive := fun requests heard t => (∀ request ∈ requests, request.Reports r) →
      (¬Overflowing heard ∧ Roomy r requests ∧ Gathered r requests t.registry) ∨
        (Overflowing heard ∧ ¬Roomy r requests)) ?_ ?_ ran reports
  · intro _
    left
    refine ⟨?_, fun handle labels => ?_, rfl, fun id handle found => ?_⟩
    · rintro ⟨h, listed, -⟩
      cases listed
    · constructor <;> simp [valuesOf]
    · refine (unobserved id (r.heap handle) ?_).grown
      rw [Registry.get?_metrics, found, Option.map_some]
  · intro requests past t request new u before earlier step reports
    have last := reports request (List.mem_append_right _ (List.mem_singleton_self _))
    rcases earlier fun other listed => reports other (List.mem_append_left _ listed) with
      ⟨calm, roomy, gathered⟩ | ⟨overflowing, full⟩
    · rw [unpoisoned_of_run before] at step
      obtain ⟨reply, served, rfl, rfl⟩ := hear_new step
      obtain ⟨id, labels, change, value, -, rfl, -⟩ := last
      cases served
      rcases gathered.step roomy reports with ⟨roomy, done, gathered⟩ | ⟨full, overflow⟩
      · left
        refine ⟨?_, roomy, gathered⟩
        rintro ⟨h, listed, fault, faulted, overflow⟩
        rcases List.mem_append.mp listed with earlier | now
        · exact calm ⟨h, earlier, fault, faulted, overflow⟩
        · rw [List.mem_singleton] at now
          subst now
          rw [done] at faulted
          cases faulted
      · right
        refine ⟨⟨_, List.mem_append_right _ (List.mem_singleton_self _), .addOverflow, ?_, .inl rfl⟩, full⟩
        rw [overflow]
        rfl
    · right
      obtain ⟨h, listed, overflow⟩ := overflowing
      exact ⟨⟨h, List.mem_append_left _ listed, overflow⟩, fun roomy => full (roomy.of_concat last)⟩

/-- What was gathered in two orders matches, metric by metric. -/
theorem Gathered.matches {later : Registry} (here : Gathered r requests now) (there : Gathered r others later)
    (perm : requests.Perm others) (id : String) :
    Option.Rel Metric.Matches (now.metrics.get? id) (later.metrics.get? id) := by
  rw [Registry.get?_metrics, Registry.get?_metrics, here.ids, there.ids]
  cases start : r.ids.get? id with
  | none => exact .none
  | some handle =>
    exact .some ((here.grown id handle start).matches (there.grown id handle start) fun labels => perm.filterMap _)

/-- From a registry in which nothing is poisoned or observed, requests that add to counters and observe times that are
    not negative in histograms can be made in any order: there is an overflow in one order if and only if there is one
    in the other, and if there is none the snapshot is the same. -/
theorem reports_commute (unobserved : ∀ id m, r.metrics.get? id = some m → Unobserved m)
    (reports : ∀ request ∈ requests, request.Reports r) (perm : requests.Perm others) :
    ∃ s said t heard, Runs.run hear (.new r) requests = some (s, said) ∧ Runs.run hear (.new r) others =
      some (t, heard) ∧
      (Overflowing said ↔ Overflowing heard) ∧
      (¬Overflowing said → ∃ snapshot, s.snapshot.result = .ok snapshot ∧ t.snapshot.result = .ok snapshot) := by
  have reports' : ∀ request ∈ others, request.Reports r := fun request listed =>
    reports request (perm.mem_iff.mpr listed)
  have ofMetrics : ∀ {request : Request}, request.Reports r → request.ofMetrics = true := by
    rintro request ⟨id, labels, change, value, handle, rfl, -⟩
    rfl
  obtain ⟨s, said, ran⟩ := run_of_metrics (fun request listed => ofMetrics (reports request listed)) (.new r)
  obtain ⟨t, heard, ran'⟩ := run_of_metrics (fun request listed => ofMetrics (reports' request listed)) (.new r)
  have here := gathered_of_run unobserved reports ran
  have there := gathered_of_run unobserved reports' ran'
  refine ⟨s, said, t, heard, ran, ran', ⟨fun overflowing => ?_, fun overflowing => ?_⟩, fun calm => ?_⟩
  · have full := (here.resolve_left fun none => none.1 overflowing).2
    exact (there.resolve_left fun none => full (none.2.1.perm perm.symm)).1
  · have full := (there.resolve_left fun none => none.1 overflowing).2
    exact (here.resolve_left fun none => full (none.2.1.perm perm)).1
  · obtain ⟨-, roomy, gathered⟩ := here.resolve_right fun some => calm some.1
    obtain ⟨-, -, gathered'⟩ := there.resolve_right fun some => some.2 (roomy.perm perm)
    have unpoisoned : s.registry.Calm := by
      intro id metric found
      rw [Registry.get?_metrics, gathered.ids] at found
      obtain ⟨handle, there, rfl⟩ := Option.map_eq_some_iff.mp found
      exact (gathered.grown id handle there).calm
    obtain ⟨snapshot, taken, -⟩ := Registry.snapshot_of_calm unpoisoned
    have same := Registry.snapshot_congr (gathered.matches gathered' perm)
    refine ⟨snapshot, ?_, ?_⟩
    · rw [unpoisoned_of_run ran]
      exact taken
    · rw [unpoisoned_of_run ran']
      exact same.symm.trans taken

/-- A counter and a histogram that nobody has reported to. -/
def desk : Registry :=
  ((Registry.empty.register "jobs" ⟨0, Metric.newCounter ⟨"jobs", "", ["queue"]⟩⟩).state.register "times"
    ⟨1, Metric.newHistogram ⟨"times", "", ["queue"]⟩ []⟩).state

/-- Reports of several workers, some of which are ignored: one would take a counter down, one lacks a label. -/
def shift : List Request :=
  [.apply "jobs" (.change .add 5) ["mail"], .apply "times" (.change .observe 700) ["mail"],
    .apply "jobs" (.change .add (-3)) ["mail"], .apply "times" (.change .observe 20) ["mail"],
    .apply "jobs" (.change .add Int64.maxValue) ["post"], .apply "times" (.change .observe 4) [],
    .apply "times" (.change .observe 9000) ["post"], .apply "jobs" (.change .add 8) ["mail"]]

theorem shift_commutes :
    (∀ id m, desk.metrics.get? id = some m → Unobserved m) ∧ (∀ request ∈ shift, request.Reports desk) ∧
    ∃ s said t heard, Runs.run hear (.new desk) shift = some (s, said) ∧
      Runs.run hear (.new desk) shift.reverse = some (t, heard) ∧ (Overflowing said ↔ Overflowing heard) ∧
      ∃ snapshot, s.snapshot.result = .ok snapshot ∧ t.snapshot.result = .ok snapshot := by
  have unobserved : ∀ id m, desk.metrics.get? id = some m → Unobserved m := by
    intro id m found
    have listed := (lookup_eq_some_iff_mem desk.metrics.distinct).mp found
    rcases List.mem_cons.mp listed with same | listed
    · cases same
      exact ⟨rfl, fun _ => rfl⟩
    · cases List.mem_singleton.mp listed
      exact ⟨rfl, fun _ => rfl⟩
  have reports : ∀ request ∈ shift, request.Reports desk := by
    simp only [shift, List.forall_mem_cons]
    refine ⟨?_, ?_, ?_, ?_, ?_, ?_, ?_, ?_, nofun⟩
    all_goals exact ⟨_, _, _, _, _, rfl, rfl, rfl, by decide⟩
  obtain ⟨s, said, t, heard, ran, ran', both, same⟩ := reports_commute unobserved reports (List.reverse_perm shift).symm
  have made : ((Runs.after hear (.new desk) shift).2.all fun h => h.result.isOk) = true := by decide +kernel
  have calm : ¬Overflowing said := by
    rw [Runs.after, ran, Option.getD_some] at made
    rintro ⟨h, listed, fault, faulted, -⟩
    have fine := List.all_eq_true.mp made h listed
    rw [faulted] at fine
    cases fine
  exact ⟨unobserved, reports, s, said, t, heard, ran, ran', both, same calm⟩

end JobPool.Latency
