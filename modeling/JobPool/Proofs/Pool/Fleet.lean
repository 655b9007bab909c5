import JobPool.Pool.Fleet
import JobPool.Proofs.Pool.Gauge
import JobPool.Proofs.Pool.Over
import JobPool.Proofs.Pool.Run
import JobPool.Proofs.Tracker.Law

/-!
Pools that share a registry do not get into each other's way: the series of a name holds what the tracker of this
pool wrote last, and a tracker that has nothing to write stands where its series stands, unless it was told to
forget (`isolation_of_run`).
-/

namespace JobPool.Pool

open Latency (MeteredRegistry Route Request Answer)
open JobPool.Metric (Registry Handle)

variable {J : Type}

namespace Fleet

/-- What an event says was written to the series of a name. -/
def Event.writtenTo (name : String) : Event J → Option UInt64
  | .wrote other greatest => if other = name then some greatest else none
  | _ => none

/-- The value that the gauge took last for the series of a name. -/
def lastWritten (events : List (Event J)) (name : String) : Option UInt64 :=
  (events.filterMap (Event.writtenTo name)).getLast?

/-- Nothing that others asked of the registry concerns the series of these names in this gauge: see
    `Gauge.Considerate`. -/
structure Considerate (gauge : Handle) (reserved : String → Prop) (events : List (Event J)) : Prop where
  apart : ∀ request result, .answered request (some gauge) result ∈ events →
    ∀ name, reserved name → request.operation [name] = none
  made : ∀ request fault, .answered request (some gauge) (.error fault) ∈ events → ¬fault.IsOverflow

private theorem lastWritten_append (events more : List (Event J)) (name : String) :
    lastWritten (events ++ more) name = (lastWritten more name).or (lastWritten events name) := by
  rw [lastWritten, List.filterMap_append, List.getLast?_append]
  rfl

private theorem lastWritten_wrote (name other : String) (greatest : UInt64) :
    lastWritten [(.wrote name greatest : Event J)] other = if other = name then some greatest else none := by
  by_cases same : other = name
  · simp [lastWritten, Event.writtenTo, same]
  · simp [lastWritten, Event.writtenTo, same, Ne.symm same]

private theorem lastWritten_quiet {events : List (Event J)} (quiet : ∀ name greatest, .wrote name greatest ∉ events)
    (name : String) : lastWritten events name = none := by
  rw [lastWritten, List.getLast?_eq_none_iff, List.filterMap_eq_nil_iff]
  intro event listed
  cases event with
  | wrote other greatest => exact absurd listed (quiet other greatest)
  | _ => rfl

private theorem lastWritten_append_quiet {new : List (Event J)} (quiet : ∀ name greatest, .wrote name greatest ∉ new)
    (events : List (Event J)) : lastWritten (events ++ new) = lastWritten events := by
  funext name
  rw [lastWritten_append, lastWritten_quiet quiet, Option.none_or]

/-- Where a tracker stands that wrote `last` to its series. -/
structure Standing (last : Option UInt64) (site : Site J) : Prop where
  undied : site.state.tracker.status ≠ .died
  pending : ∀ greatest, site.pending = some greatest → site.state.tracker.greatest = greatest
  settled : site.pending = none → 0 < site.state.tracker.greatest → last = some site.state.tracker.greatest

/-- The pools have names of their own, their gauge is there, and each stands where its series stands. -/
structure Apart (gauge : Handle) (reserved : String → Prop) (events : List (Event J)) (f : Fleet J) : Prop where
  held : Gauge.Held gauge reserved (lastWritten events) f.registry.registry
  there : f.sites ≠ [] → f.registry.registry.ids.get? Gauge.id = some gauge
  distinct : f.names.Nodup
  reserved : ∀ name ∈ f.names, reserved name
  unbuilt : ∀ name, name ∉ f.names → lastWritten events name = none
  standing : ∀ (number : Nat) (site : Site J), f.sites[number]? = some site →
    Standing (lastWritten events site.config.name) site

variable {gauge : Handle} {reserved : String → Prop} {events new : List (Event J)} {f g : Fleet J} {number : Nat}
  {site : Site J}

private theorem mem_names (found : f.sites[number]? = some site) : site.config.name ∈ f.names :=
  List.mem_map_of_mem (List.mem_of_getElem? found)

private theorem sites_of_found (found : f.sites[number]? = some site) : f.sites ≠ [] := by
  rintro empty
  simp [empty] at found

private theorem names_set (found : f.sites[number]? = some site) (site' : Site J) (same : site'.config = site.config)
    (registry : MeteredRegistry) : names ⟨registry, f.sites.set number site'⟩ = f.names := by
  have named : f.names[number]? = some site.config.name := by simp [names, found]
  obtain ⟨inside, here⟩ := List.getElem?_eq_some_iff.mp named
  rw [names, List.map_set, same, ← here]
  exact List.set_getElem_self inside

/-- What everybody else stands on does not change with one pool. -/
theorem Apart.move (apart : Apart gauge reserved events f) (found : f.sites[number]? = some site) {site' : Site J}
    (same : site'.config = site.config) (stands : Standing (lastWritten events site.config.name) site')
    (quiet : ∀ name greatest, .wrote name greatest ∉ new) :
    Apart gauge reserved (events ++ new) { f with sites := f.sites.set number site' } := by
  have last := lastWritten_append_quiet quiet events
  have names := names_set found site' same f.registry
  refine ⟨last ▸ apart.held, fun _ => apart.there (sites_of_found found), names ▸ apart.distinct,
    names ▸ apart.reserved, ?_, ?_⟩
  · rw [names, last]
    exact apart.unbuilt
  · intro other there at_other
    rw [last]
    rw [List.getElem?_set] at at_other
    split at at_other
    · split at at_other
      · cases at_other
        rw [same]
        exact stands
      · cases at_other
    · exact apart.standing other there at_other

/-- What is asked of the registry leaves the pools where they stand. -/
theorem Apart.ask (apart : Apart gauge reserved events f) {route : Route} {request : Request}
    {reply : Reply MeteredRegistry Answer} (asked : f.registry.ask route request = some reply)
    (considerate : Gauge.Considerate gauge reserved f.registry.registry request)
    (only : ∀ other, reply.state.registry.ids.get? Gauge.id = some other → other = gauge)
    (quiet : ∀ name greatest, .wrote name greatest ∉ new) :
    Apart gauge reserved (events ++ new) { f with registry := reply.state } := by
  have last := lastWritten_append_quiet quiet events
  have left := Latency.registry_of_ask asked
  rw [left] at only
  have held := apart.held.leaves considerate only
  refine ⟨?_, fun some => ?_, apart.distinct, apart.reserved, last ▸ apart.unbuilt, last ▸ apart.standing⟩
  · rw [last, left]
    exact held
  · rw [left]
    exact Latency.ids_leaves (apart.there some) request

private theorem considerate_registration (gauge : Handle) (reserved : String → Prop) (r : Registry) (number : Nat) :
    Gauge.Considerate gauge reserved r (registration number) :=
  ⟨fun reached => (nomatch reached), fun _ _ _ same => (nomatch same)⟩

/-- A request is considerate if its answer looks so. -/
theorem considerate_of_asked {route : Route} {request : Request} {reply : Reply MeteredRegistry Answer}
    {m : MeteredRegistry} (asked : m.ask route request = some reply)
    (considerate : Considerate (J := J) gauge reserved [.answered request (request.reached m.registry) reply.result]) :
    Gauge.Considerate gauge reserved m.registry request := by
  refine ⟨fun reached => considerate.apart request reply.result ?_, ?_⟩
  · rw [reached]
    exact List.mem_singleton_self _
  · rintro other operation labels rfl found fault faulted
    refine considerate.made (.apply other operation labels) fault ?_
    rw [Latency.result_of_ask asked, Registry.apply_of_found found, faulted, Request.reached, found]
    exact List.mem_singleton_self _

/-- Once a pool has registered its gauge, there is one. -/
theorem gauge_of_registration {m : MeteredRegistry} {route : Route} {fresh : Nat} {reply : Reply MeteredRegistry Answer}
    (asked : m.ask route (registration fresh) = some reply) :
    ∃ there, reply.state.registry.ids.get? Gauge.id = some there := by
  rw [Latency.registry_of_ask asked]
  cases before : m.registry.ids.get? Gauge.id with
  | none => exact ⟨_, Latency.ids_registered before _⟩
  | some there => exact ⟨there, Latency.ids_leaves before _⟩

private theorem Apart.build (apart : Apart gauge reserved events f) {config : Config} {kinds : List Kind}
    {route : Route} {fresh : Nat} {reply : Reply MeteredRegistry Answer} (other : config.name ∉ f.names) (own : reserved config.name)
    (only : ∀ other, reply.state.registry.ids.get? Gauge.id = some other → other = gauge)
    (asked : f.registry.ask route (registration fresh) = some reply) :
    Apart gauge reserved events ⟨reply.state, f.sites ++ [⟨config, route, .new config kinds, none⟩]⟩ := by
  have registered : Apart gauge reserved (events ++ []) { f with registry := reply.state } :=
    apart.ask asked (considerate_registration gauge reserved _ fresh) only (by simp)
  rw [List.append_nil] at registered
  have named : names ⟨reply.state, f.sites ++ [(⟨config, route, .new config kinds, none⟩ : Site J)]⟩ =
      f.names ++ [config.name] := by simp [names]
  refine ⟨registered.held, fun _ => ?_, ?_, ?_, ?_, ?_⟩
  · obtain ⟨there, found⟩ := gauge_of_registration asked
    rw [found, only there found]
  · rw [named, List.nodup_append]
    refine ⟨apart.distinct, by simp, ?_⟩
    rintro name listed _ here rfl
    rw [List.mem_singleton] at here
    exact other (here ▸ listed)
  · rw [named]
    intro name listed
    rcases List.mem_append.mp listed with old | here
    · exact apart.reserved name old
    · rw [List.mem_singleton] at here
      exact here ▸ own
  · rw [named]
    intro name unlisted
    exact apart.unbuilt name fun old => unlisted (List.mem_append_left _ old)
  · intro number site found
    rw [List.getElem?_append] at found
    split at found
    · exact apart.standing number site found
    · obtain rfl := List.mem_singleton.mp (List.mem_of_getElem? found)
      refine ⟨by simp [State.new, Tracker.new], nofun, fun _ some => ?_⟩
      simp [State.new, Tracker.new] at some

/-- A write puts the series where the tracker stands, and no other series anywhere else. -/
theorem Apart.write (apart : Apart gauge reserved events f) (found : f.sites[number]? = some site) {greatest : UInt64}
    (pending : site.pending = some greatest) {reply : Reply MeteredRegistry Answer}
    (asked : f.registry.ask site.route (writing site.config.name greatest) = some reply) :
    reply.result.isOk = true ∧
      Apart gauge reserved (events ++ [.wrote site.config.name greatest])
        ⟨reply.state, f.sites.set number (written site true)⟩ := by
  have there := apart.there (sites_of_found found)
  obtain ⟨taken, held⟩ := apart.held.write there site.config.name greatest
  have result := Latency.result_of_ask asked
  have left := Latency.registry_of_ask asked
  have last : lastWritten (events ++ [.wrote site.config.name greatest]) =
      fun other => if other = site.config.name then .some greatest else lastWritten events other := by
    funext other
    rw [lastWritten_append, lastWritten_wrote]
    by_cases same : other = site.config.name <;> simp [same]
  have names := names_set found (written site true) rfl reply.state
  refine ⟨?_, ?_, fun _ => ?_, names ▸ apart.distinct, names ▸ apart.reserved, ?_, ?_⟩
  · rw [result]
    have fine : (f.registry.registry.apply Gauge.id (.change .set greatest.toInt64) [site.config.name]).result =
      .ok () :=
      taken
    exact congrArg (fun result => (Except.map (fun _ => Answer.nothing) result).isOk) fine
  · rw [last, left]
    exact held
  · rw [left]
    exact Latency.ids_leaves there _
  · rw [names, last]
    intro name unbuilt
    have differs : name ≠ site.config.name := by
      rintro rfl
      exact unbuilt (mem_names found)
    simp only [if_neg differs]
    exact apart.unbuilt name unbuilt
  · intro other there at_other
    rw [List.getElem?_set] at at_other
    by_cases same : number = other
    · rw [if_pos same] at at_other
      split at at_other
      · cases at_other
        rw [last]
        have stands := apart.standing number site found
        have recorded : (written site true).state.tracker.greatest = greatest := stands.pending greatest pending
        refine ⟨stands.undied, nofun, fun _ _ => ?_⟩
        rw [recorded]
        exact if_pos rfl
      · cases at_other
    · rw [if_neg same] at at_other
      have differs : there.config.name ≠ site.config.name := by
        intro equal
        have here : f.names[number]? = .some site.config.name := by simp [Fleet.names, found]
        have inside : number < f.names.length := (List.getElem?_eq_some_iff.mp here).1
        refine same ((List.getElem?_inj inside apart.distinct).mp ?_)
        rw [here, ← equal]
        simp [Fleet.names, at_other]
      rw [last]
      simp only [if_neg differs]
      exact apart.standing other there at_other

end Fleet

variable [Job J]

/-- Only its own moves change what a tracker knows and whether it lives. -/
theorem steady_of_step {config : Config} {s t : State J} {action : Action J} {events : List (Event J)}
    (moved : step config s action = some (t, events)) (other : ∀ accepts, action ≠ .tracker accepts) :
    t.tracker.status = s.tracker.status ∧ t.tracker.greatest = s.tracker.greatest := by
  have sent : ∀ {event tracker}, s.tracker.send event = some tracker →
      tracker.status = s.tracker.status ∧ tracker.greatest = s.tracker.greatest := by
    intro event tracker sent
    rcases Tracker.send_eq_some.mp sent with ⟨-, rfl⟩ | ⟨-, -, rfl⟩ <;> exact ⟨rfl, rfl⟩
  have released : s.tracker.release.status = s.tracker.status ∧ s.tracker.release.greatest = s.tracker.greatest := by
    unfold Tracker.release
    simp only
    split <;> exact ⟨rfl, rfl⟩
  cases move_of_step moved with
  | client moved outside =>
    cases moved with
    | reset holds entered => exact sent entered
    | ask holds alive entered => exact sent entered
    | letGo => exact released
    | _ => exact ⟨rfl, rfl⟩
  | owner moved =>
    cases moved with
    | joinLoop => exact released
    | joinTracker => exact ⟨rfl, rfl⟩
  | loop moved =>
    cases moved with
    | sample loop entered => exact sent entered
    | retire | stopFaulty => exact released
    | _ => exact ⟨rfl, rfl⟩
  | worker | closeSink => exact ⟨rfl, rfl⟩
  | custom found custom moved =>
    obtain ⟨-, idle, m, rfl, -⟩ := of_moveCustom found moved
    exact ⟨rfl, rfl⟩
  | tracker moved => exact absurd rfl (other _)

/-- A tracker takes an event: what it gives the gauge is its new greatest sample, and otherwise it knows no more than
    before. -/
theorem given_of_take {config : Config} {s t : State J} {events : List (Event J)}
    (moved : step config s (.tracker true) = some (t, events)) :
    t.tracker.status ≠ .died ∧
      (Fleet.given events = some t.tracker.greatest ∨
        Fleet.given events = none ∧ (t.tracker.greatest = 0 ∨ t.tracker.greatest = s.tracker.greatest)) := by
  obtain ⟨⟨tracker, effects⟩, advanced, same⟩ := Option.map_eq_some_iff.mp moved
  cases same
  refine ⟨Tracker.undied_of_advance advanced, ?_⟩
  cases Tracker.move_of_advance advanced with
  | reset => exact .inr ⟨rfl, .inl rfl⟩
  | answer | skip | retire => exact .inr ⟨rfl, .inr rfl⟩
  | raise | die => exact .inl rfl

namespace Fleet

variable {gauge : Handle} {reserved : String → Prop} {events new : List (Event J)} {f g : Fleet J}
  {actions : List (Action J)}

/-- What a move does, and to which pool. -/
inductive Move (f : Fleet J) : Action J → List (Event J) → Fleet J → Prop
  | build {config : Config} {kinds : List Kind} {route : Route} {number : Nat} {reply : Reply MeteredRegistry Answer}
      (fresh : config.name ∉ f.names) (asked : f.registry.ask route (registration number) = some reply) :
      Move f (.build config kinds route number) []
        ⟨reply.state, f.sites ++ [⟨config, route, .new config kinds, none⟩]⟩
  | pool {number : Nat} {site : Site J} {action : Pool.Action J} {state : State J} {told : List (Pool.Event J)}
      (found : f.sites[number]? = some site) (other : ∀ accepts, action ≠ .tracker accepts)
      (stepped : Pool.step site.config site.state action = some (state, told)) :
      Move f (.pool number action) (told.map (.pool number))
        { f with sites := f.sites.set number { site with state := state } }
  | take {number : Nat} {site : Site J} {state : State J} {told : List (Pool.Event J)}
      (found : f.sites[number]? = some site) (idle : site.pending = none)
      (stepped : Pool.step site.config site.state (.tracker true) = some (state, told)) :
      Move f (.take number) (told.map (.pool number))
        { f with sites := f.sites.set number { site with state := state, pending := given told } }
  | write {number : Nat} {site : Site J} {greatest : UInt64} {reply : Reply MeteredRegistry Answer}
      (found : f.sites[number]? = some site) (pending : site.pending = some greatest)
      (asked : f.registry.ask site.route (writing site.config.name greatest) = some reply) :
      Move f (.write number) (if reply.result.isOk then [.wrote site.config.name greatest] else [])
        ⟨reply.state, f.sites.set number (written site reply.result.isOk)⟩
  | ask {route : Route} {request : Request} {reply : Reply MeteredRegistry Answer}
      (asked : f.registry.ask route request = some reply) :
      Move f (.ask route request) [.answered request (request.reached f.registry.registry) reply.result]
        { f with registry := reply.state }

theorem move_of_step {action : Action J} (moved : step f action = some (g, new)) : Move f action new g := by
  cases action with
  | build config kinds route number =>
    simp only [step] at moved
    split at moved
    · cases moved
    · obtain ⟨reply, asked, same⟩ := Option.map_eq_some_iff.mp moved
      cases same
      exact .build (by assumption) asked
  | pool number action =>
    cases found : f.sites[number]? with
    | none => simp [step, found] at moved
    | some site =>
      have other : ∀ accepts, action ≠ .tracker accepts := by
        rintro accepts rfl
        simp [step, found] at moved
      have made : step f (.pool number action) = (Pool.step site.config site.state action).map fun moved =>
          ({ f with sites := f.sites.set number { site with state := moved.1 } }, moved.2.map (.pool number)) := by
        cases action with
        | tracker accepts => exact absurd rfl (other accepts)
        | _ => simp only [step, found]
      rw [made] at moved
      obtain ⟨_, stepped, same⟩ := Option.map_eq_some_iff.mp moved
      cases same
      exact .pool found other stepped
  | take number =>
    cases found : f.sites[number]? with
    | none => simp [step, found] at moved
    | some site =>
      cases idle : site.pending with
      | some greatest => simp [step, found, idle] at moved
      | none =>
        simp only [step, found, idle, Option.isSome_none, Bool.false_eq_true, ↓reduceIte] at moved
        obtain ⟨_, stepped, same⟩ := Option.map_eq_some_iff.mp moved
        cases same
        exact .take found idle stepped
  | write number =>
    cases found : f.sites[number]? with
    | none => simp [step, found] at moved
    | some site =>
      cases pending : site.pending with
      | none => simp [step, found, pending] at moved
      | some greatest =>
        simp only [step, found, pending] at moved
        obtain ⟨reply, asked, same⟩ := Option.map_eq_some_iff.mp moved
        cases same
        exact .write found pending asked
  | ask route request =>
    obtain ⟨reply, asked, same⟩ := Option.map_eq_some_iff.mp moved
    cases same
    exact .ask asked

/-- A move leaves the registry as some request leaves it; if that registers the gauge, a pool was built, or it was
    asked for. -/
theorem Move.leaves {action : Action J} (moved : Move f action new g) :
    ∃ request : Request, g.registry.registry = request.leaves f.registry.registry ∧
      ∀ handle, request = .register Gauge.id handle → f.registry.registry.ids.get? Gauge.id = none →
        (∃ config kinds route number, action = .build config kinds route number ∧ handle = Gauge.handle number) ∨
          .answered request none (.ok (.flag true)) ∈ new := by
  cases moved with
  | @build config kinds route number reply fresh asked =>
    refine ⟨registration number, Latency.registry_of_ask asked, fun handle same _ => .inl ⟨_, _, _, number, rfl, ?_⟩⟩
    cases same
    rfl
  | pool | take => exact ⟨.snapshot, rfl, nofun⟩
  | @write number site greatest reply found pending asked =>
    exact ⟨writing site.config.name greatest, Latency.registry_of_ask asked, nofun⟩
  | @ask route request reply asked =>
    refine ⟨request, Latency.registry_of_ask asked, ?_⟩
    rintro handle rfl free
    right
    rw [Latency.result_of_register asked, Registry.has, free]
    exact List.mem_singleton_self _

/-- What stands under the id of the gauge in the end was there before, was made by a pool, or was brought by others. -/
theorem usable_of_run {sink : MeteredRegistry}
    (there : ∀ handle, sink.registry.ids.get? Gauge.id = some handle →
      Gauge.Usable reserved (sink.registry.heap handle))
    (new : ∀ config kinds route number, .build config kinds route number ∈ actions →
      sink.registry.heap (Gauge.handle number) = .newGauge Gauge.description)
    (brought : ∀ handle, .answered (.register Gauge.id handle) none (.ok (.flag true)) ∈ events →
      Gauge.Usable reserved (sink.registry.heap handle))
    (ran : Runs.run step ⟨sink, []⟩ actions = some (f, events)) (handle : Handle)
    (found : f.registry.registry.ids.get? Gauge.id = some handle) :
    Gauge.Usable reserved (sink.registry.heap handle) := by
  refine Runs.run_induction (motive := fun actions events f =>
    (∀ config kinds route number, .build config kinds route number ∈ actions →
      sink.registry.heap (Gauge.handle number) = .newGauge Gauge.description) →
    (∀ handle, .answered (.register Gauge.id handle) none (.ok (.flag true)) ∈ events →
      Gauge.Usable reserved (sink.registry.heap handle)) →
    ∀ handle, f.registry.registry.ids.get? Gauge.id = some handle →
      Gauge.Usable reserved (sink.registry.heap handle)) ?_ ?_ ran new brought handle found
  · exact fun _ _ => there
  · intro actions past t action more u _ before moved new brought handle found
    obtain ⟨request, left, registers⟩ := (move_of_step moved).leaves
    rw [left] at found
    cases earlier : t.registry.registry.ids.get? Gauge.id with
    | some other =>
      have same : other = handle := Option.some.inj ((Latency.ids_leaves earlier request).symm.trans found)
      rw [← same]
      exact before
        (fun config kinds route number listed => new config kinds route number (List.mem_append_left _ listed))
        (fun handle listed => brought handle (List.mem_append_left _ listed)) other earlier
    | none =>
      obtain rfl := Latency.register_of_ids_leaves earlier found
      rcases registers handle rfl earlier with ⟨config, kinds, route, number, rfl, rfl⟩ | asked
      · rw [new config kinds route number (List.mem_append_right _ (List.mem_singleton_self _))]
        exact ⟨Gauge.isGauge_new, fun _ _ => rfl⟩
      · exact brought handle (List.mem_append_right _ asked)

/-- The pools stay apart, whoever moves. -/
theorem Apart.moved {action : Action J} (apart : Apart gauge reserved events f) (moved : Move f action new g)
    (own : ∀ config kinds route number, action = .build config kinds route number → reserved config.name)
    (considerate : Considerate gauge reserved new)
    (only : ∀ other, g.registry.registry.ids.get? Gauge.id = some other → other = gauge) :
    Apart gauge reserved (events ++ new) g := by
  cases moved with
  | @build config kinds route number reply fresh asked =>
    rw [List.append_nil]
    exact apart.build fresh (own config kinds route number rfl) only asked
  | @pool number site action state told found other stepped =>
    have stands := apart.standing number site found
    obtain ⟨status, greatest⟩ := steady_of_step stepped other
    refine apart.move found rfl ⟨?_, ?_, ?_⟩ (by simp)
    · rw [status]
      exact stands.undied
    · rw [greatest]
      exact stands.pending
    · rw [greatest]
      exact stands.settled
  | @take number site state told found idle stepped =>
    have stands := apart.standing number site found
    obtain ⟨undied, known⟩ := given_of_take stepped
    refine apart.move found rfl ⟨undied, ?_, ?_⟩ (by simp)
    · intro greatest gives
      rcases known with given | ⟨nothing, -⟩
      · exact Option.some.inj (given.symm.trans gives)
      · cases nothing.symm.trans gives
    · intro nothing some
      rcases known with given | ⟨-, forgot | same⟩
      · cases given.symm.trans nothing
      · rw [forgot] at some
        cases some
      · rw [same] at some ⊢
        exact stands.settled idle some
  | write found pending asked =>
    obtain ⟨taken, wrote⟩ := apart.write found pending asked
    rw [taken, if_pos rfl]
    exact wrote
  | ask asked => exact apart.ask asked (considerate_of_asked asked considerate) only (by simp)

omit [Job J] in
private theorem apart_start {sink : MeteredRegistry} (usable : Gauge.Usable reserved (sink.registry.heap gauge))
    (only : ∀ other, sink.registry.ids.get? Gauge.id = some other → other = gauge) :
    Apart gauge reserved [] (⟨sink, []⟩ : Fleet J) where
  held := ⟨only, usable.gauge, usable.unused⟩
  there := fun some => absurd rfl some
  distinct := List.nodup_nil
  reserved := fun name listed => absurd listed List.not_mem_nil
  unbuilt := fun _ _ => rfl
  standing := fun number site found => by cases found

private theorem apart_of_run {sink : MeteredRegistry} (usable : Gauge.Usable reserved (sink.registry.heap gauge))
    (own : ∀ config kinds route number, .build config kinds route number ∈ actions → reserved config.name)
    (considerate : Considerate gauge reserved events)
    (only : ∀ other, f.registry.registry.ids.get? Gauge.id = some other → other = gauge)
    (ran : Runs.run step ⟨sink, []⟩ actions = some (f, events)) : Apart gauge reserved events f := by
  refine Runs.run_induction (motive := fun actions events f =>
    (∀ config kinds route number, .build config kinds route number ∈ actions → reserved config.name) →
      Considerate gauge reserved events →
      (∀ other, f.registry.registry.ids.get? Gauge.id = some other → other = gauge) →
      Apart gauge reserved events f) ?_ ?_ ran own considerate only
  · exact fun _ _ only => apart_start usable only
  · intro actions past t action new u _ before moved own considerate only
    obtain ⟨request, left, -⟩ := (move_of_step moved).leaves
    have earlier := before
      (fun config kinds route number listed => own config kinds route number (List.mem_append_left _ listed))
      ⟨fun request result listed => considerate.apart request result (List.mem_append_left _ listed),
        fun request fault listed => considerate.made request fault (List.mem_append_left _ listed)⟩
      fun other taken => only other (left ▸ Latency.ids_leaves taken request)
    refine earlier.moved (move_of_step moved) ?_ ?_ only
    · rintro config kinds route number rfl
      exact own config kinds route number (List.mem_append_right _ (List.mem_singleton_self _))
    · exact ⟨fun request result listed => considerate.apart request result (List.mem_append_right _ listed),
        fun request fault listed => considerate.made request fault (List.mem_append_right _ listed)⟩

/-- Where there are pools there is a gauge. -/
theorem gauge_of_sites {sink : MeteredRegistry} (ran : Runs.run step ⟨sink, []⟩ actions = some (f, events))
    (some : f.sites ≠ []) : ∃ gauge, f.registry.registry.ids.get? Gauge.id = .some gauge := by
  refine Runs.run_induction (motive := fun _ _ f => f.sites ≠ [] →
    ∃ gauge, f.registry.registry.ids.get? Gauge.id = .some gauge) (fun some => absurd rfl some) ?_ ran some
  intro actions past t action new u _ before moved some
  by_cases empty : t.sites = []
  · cases move_of_step moved with
    | build fresh asked => exact gauge_of_registration asked
    | pool found | take found | write found =>
      rw [empty] at found
      cases found
    | ask asked => exact absurd empty some
  · obtain ⟨gauge, there⟩ := before empty
    obtain ⟨request, left, -⟩ := (move_of_step moved).leaves
    exact ⟨gauge, left ▸ Latency.ids_leaves there request⟩

omit [Job J] in
private theorem mem_of_lastWritten {name : String} {greatest : UInt64}
    (last : lastWritten events name = some greatest) :
    .wrote name greatest ∈ events := by
  obtain ⟨event, listed, wrote⟩ := List.mem_filterMap.mp (List.mem_of_getLast? last)
  cases event with
  | wrote other value =>
    rw [Event.writtenTo] at wrote
    split at wrote
    · rename_i same
      cases wrote
      exact same ▸ listed
    · cases wrote
  | _ => cases wrote

omit [Job J] in
private theorem toInt_lastWritten (small : ∀ name greatest, .wrote name greatest ∈ events → greatest.toNat < 2 ^ 63)
    (name : String) : ((lastWritten events name).map UInt64.toInt64).map Int64.toInt =
      (lastWritten events name).map (fun greatest => (greatest.toNat : Int)) := by
  cases last : lastWritten events name with
  | none => rfl
  | some greatest => exact congrArg some (Gauge.toInt_toInt64 (small _ _ (mem_of_lastWritten last)))

private theorem value_of_shown {m : MeteredRegistry} {route : Route} {snapshot : JobPool.Metric.RegistrySnapshot}
    (shown : m.ask route .snapshot = some ⟨m, [], .ok (.snapshot snapshot)⟩) (id : String) (labels : List String) :
    snapshot.value? id labels = m.registry.plain? id labels := by
  rw [Latency.ask_snapshot] at shown
  cases taken : m.registry.snapshot with
  | error fault => rw [taken] at shown; cases shown
  | ok other =>
    rw [taken] at shown
    cases shown
    exact (Registry.value_of_snapshot taken).2 id labels

private theorem register_again {m : MeteredRegistry} {id : String} {there : Handle}
    (found : m.registry.ids.get? id = some there) (route : Route) (other : Handle) :
    m.ask route (.register id other) = some ⟨m, [Registry.alreadyRegistered id], .ok (.flag false)⟩ := by
  have again : m.registry.register id other = ⟨m.registry, [Registry.alreadyRegistered id], .ok false⟩ := by
    rw [Registry.register, if_pos (by rw [Registry.has, found, Option.isSome_some])]
  cases route with
  | direct => simp only [MeteredRegistry.ask, Request.atOnce, again]; rfl
  | metered => simp only [MeteredRegistry.ask, MeteredRegistry.serve, again]; rfl

/-- Pools over one registry, built at any time under names of their own, where the id of the gauge is free or has a gauge
    with one label, where what they write is below `2 ^ 63`, and where nobody else writes their series, by whatever id.
    In every state that they get into, by whatever moves of theirs and of others: the series of a name holds what the
    tracker of this pool wrote last, and is not there if it wrote nothing; a tracker between two events that knows of
    busy workers knows of as many as its series says; and registering the gauge once more changes nothing. -/
theorem isolation_of_run {sink : MeteredRegistry}
    (there : ∀ gauge, sink.registry.ids.get? "MAX-WORKERS" = some gauge →
      Gauge.Usable reserved (sink.registry.heap gauge))
    (own : ∀ config kinds route number, .build config kinds route number ∈ actions →
      reserved config.name ∧ sink.registry.heap (Gauge.handle number) = .newGauge Gauge.description)
    (brought : ∀ gauge, .answered (.register "MAX-WORKERS" gauge) none (.ok (.flag true)) ∈ events →
      Gauge.Usable reserved (sink.registry.heap gauge))
    (considerate : ∀ gauge, f.registry.registry.ids.get? "MAX-WORKERS" = some gauge → Considerate gauge reserved events)
    (small : ∀ name greatest, .wrote name greatest ∈ events → greatest.toNat < 2 ^ 63)
    (ran : Runs.run step ⟨sink, []⟩ actions = some (f, events)) :
    f.names.Nodup ∧
    (∀ site ∈ f.sites, ∃ value : Option Int64,
      f.registry.registry.plain? "MAX-WORKERS" [site.config.name] = value ∧
      (∀ route snapshot, f.registry.ask route .snapshot = some ⟨f.registry, [], .ok (.snapshot snapshot)⟩ →
        snapshot.value? "MAX-WORKERS" [site.config.name] = value) ∧
      value.map Int64.toInt = (lastWritten events site.config.name).map (fun greatest => (greatest.toNat : Int)) ∧
      (site.pending = none → 0 < site.state.tracker.greatest →
        value.map Int64.toInt = some (site.state.tracker.greatest.toNat : Int))) ∧
    (f.sites ≠ [] → ∃ m, f.registry.registry.metrics.get? "MAX-WORKERS" = some m ∧ Gauge.IsGauge m ∧
      ∀ route other, f.registry.ask route (.register "MAX-WORKERS" other) =
        some ⟨f.registry, [Registry.alreadyRegistered "MAX-WORKERS"], .ok (.flag false)⟩) := by
  have named : "MAX-WORKERS" = Gauge.id := rfl
  rw [named] at there brought considerate ⊢
  cases free : f.registry.registry.ids.get? Gauge.id with
  | none =>
    have empty : f.sites = [] := by
      by_contra some
      obtain ⟨gauge, found⟩ := gauge_of_sites ran some
      rw [free] at found
      cases found
    refine ⟨by simp [names, empty], by simp [empty], fun some => absurd empty some⟩
  | some gauge =>
  have usable := usable_of_run there (fun config kinds route number listed => (own config kinds route number listed).2)
    brought ran gauge free
  have apart := apart_of_run usable (fun config kinds route number listed => (own config kinds route number listed).1)
    (considerate gauge free) (fun other found => Option.some.inj (found.symm.trans free)) ran
  refine ⟨apart.distinct, ?_, ?_⟩
  · intro site listed
    obtain ⟨number, found⟩ := List.getElem?_of_mem listed
    have stands := apart.standing number site found
    have holds := apart.held.series site.config.name (apart.reserved _ (mem_names found))
    rw [← Registry.plain_of_found free] at holds
    have reads := toInt_lastWritten small site.config.name
    refine ⟨_, holds, fun route snapshot shown => (value_of_shown shown _ _).trans holds, reads, ?_⟩
    intro pending some
    rw [reads, stands.settled pending some]
    rfl
  · intro some
    have found : f.registry.registry.metrics.get? Gauge.id = .some (f.registry.registry.heap gauge) := by
      rw [Registry.get?_metrics, free, Option.map_some]
    exact ⟨_, found, apart.held.isGauge, register_again free⟩

/-- A pool with one worker gets a job and samples. -/
def busy (number : Nat) : List (Action Load.LoadJob) :=
  ([.worker 0, .submit (.new 0 false) false, .loop, .loop, .loop, .loop] : List (Pool.Action Load.LoadJob)).map
    (.pool number)

/-- Two pools that reach one registry by different routes. The gauge of the first also stands under another id, by
    which somebody writes a series of another name; and the first pool is told to forget. -/
def harbour : List (Action Load.LoadJob) :=
  .build { smallest with name := "east" } [.standard] .direct 0 :: busy 0 ++ [.take 0] ++
    .ask .direct (.register "BERTHS" (Gauge.handle 0)) ::
    .build { smallest with name := "west" } [.standard] .metered 1 :: busy 1 ++
      [.ask .metered (.apply "BERTHS" (.change .set 7) ["south"]), .take 1, .write 1, .write 0,
      .pool 0 .resetTracker, .take 0]

/-- The fleet when these moves were made, and what happened. -/
def moored : Fleet Load.LoadJob × List (Event Load.LoadJob) := Runs.after step ⟨.empty, []⟩ harbour

/-- The request is about another id than that of the gauge, or writes the one series that no pool has. -/
private def spares : Request → Bool
  | .apply _ _ labels => labels = ["south"]
  | .register id _ => id ≠ Gauge.id
  | _ => false

/-- The event is no write that has no room, and no request that faults or that writes the series of a pool. -/
private def isTame : Event Load.LoadJob → Bool
  | .pool .. => true
  | .wrote _ greatest => greatest.toNat < 2 ^ 63
  | .answered request _ result => result.isOk && spares request

/-- The move builds no pool under the name that is left to others. -/
private def leavesName : Action Load.LoadJob → Bool
  | .build config .. => config.name ≠ "south"
  | _ => true

theorem harbour_isolated :
    (moored.1.names = ["east", "west"] ∧ lastWritten moored.2 "east" = some 1 ∧ lastWritten moored.2 "west" = some 1) ∧
      ∀ site ∈ moored.1.sites, ∃ value, moored.1.registry.registry.plain? "MAX-WORKERS" [site.config.name] = value ∧
        value.map Int64.toInt = (lastWritten moored.2 site.config.name).map
          (fun greatest => (greatest.toNat : Int)) := by
  have ran : Runs.run step ⟨.empty, []⟩ harbour = some moored := Runs.run_after (by decide +kernel)
  have tame : ∀ event ∈ moored.2, isTame event = true := List.all_eq_true.mp (by decide +kernel)
  have answered : ∀ request gauge result, .answered request gauge result ∈ moored.2 →
      result.isOk = true ∧ spares request = true := by
    intro request gauge result listed
    simpa [isTame] using tame _ listed
  have considerate : ∀ gauge, Considerate gauge (· ≠ "south") moored.2 := by
    refine fun gauge => ⟨fun request result listed name apart => ?_, fun request fault listed => ?_⟩
    · have fine := (answered _ _ _ listed).2
      cases request with
      | apply id operation labels =>
        have labelled : labels = ["south"] := of_decide_eq_true fine
        rw [Request.operation, labelled, if_neg (by simpa using Ne.symm apart)]
      | _ => rfl
    · cases (answered _ _ _ listed).1
  have small : ∀ name greatest, .wrote name greatest ∈ moored.2 → greatest.toNat < 2 ^ 63 := by
    intro name greatest listed
    exact of_decide_eq_true (tame _ listed)
  have built : ∀ action ∈ harbour, leavesName action = true := List.all_eq_true.mp (by decide +kernel)
  have named : ∀ config kinds route number, .build config kinds route number ∈ harbour → config.name ≠ "south" ∧
      MeteredRegistry.empty.registry.heap (Gauge.handle number) = .newGauge Gauge.description :=
    fun config kinds route number listed => ⟨of_decide_eq_true (built _ listed), rfl⟩
  have unbrought : ∀ gauge, .answered (.register Gauge.id gauge) none (.ok (.flag true)) ∉ moored.2 := by
    intro gauge listed
    simpa [spares] using (answered _ _ _ listed).2
  obtain ⟨-, series, -⟩ := isolation_of_run (fun _ found => by cases found) named
    (fun gauge listed => absurd listed (unbrought gauge)) (fun gauge _ => considerate gauge) small ran
  refine ⟨⟨by decide +kernel, by decide +kernel, by decide +kernel⟩, fun site listed => ?_⟩
  obtain ⟨value, holds, -, reads, -⟩ := series site listed
  exact ⟨value, holds, reads⟩

end Fleet

end JobPool.Pool
