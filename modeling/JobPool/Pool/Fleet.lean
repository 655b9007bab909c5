import JobPool.Latency.Access
import JobPool.Pool.Gauged

/-!
Pools that share one registry. They are built one after the other, each under a name of its own and with a way of its
own to the registry, and each moves by itself; others ask of the registry what they like. A tracker with a new greatest
sample has two moves to make: it takes the sample, and it writes it to the gauge. Everybody else may move in between.
-/

namespace JobPool.Pool

open Latency (MeteredRegistry Route Request Answer)
open JobPool.Metric (Handle)

/-- A pool over a registry that it shares. -/
structure Site (J : Type) where
  config : Config
  /-- How its calls get to the registry. -/
  route : Route
  state : State J
  /-- A new greatest sample that the tracker took and has yet to write. -/
  pending : Option UInt64

/-- Pools over one registry, the first built first. -/
structure Fleet (J : Type) where
  registry : MeteredRegistry
  sites : List (Site J)

namespace Fleet

variable {J : Type}

/-- What is done in a fleet. -/
inductive Action (J : Type) where
  /-- A pool is built from workers of these kinds, and makes a gauge with this number. -/
  | build (config : Config) (kinds : List Kind) (route : Route) (gauge : Nat)
  /-- A pool makes a move, other than its tracker. -/
  | pool (number : Nat) (action : Pool.Action J)
  /-- The tracker of a pool takes an event, or ends. -/
  | take (number : Nat)
  /-- The tracker of a pool writes what it took. -/
  | write (number : Nat)
  /-- Somebody else asks something of the registry. -/
  | ask (route : Route) (request : Request)

/-- What happens in a fleet. -/
inductive Event (J : Type) where
  | pool (number : Nat) (event : Pool.Event J)
  /-- The gauge took a value for the series of this name. -/
  | wrote (name : String) (greatest : UInt64)
  /-- Somebody else was answered; an operation reached this metric. -/
  | answered (request : Request) (reached : Option Handle) (result : Except Fault Answer)

/-- The registration of the gauge by a pool that is built. -/
def registration (gauge : Nat) : Request := .register Gauge.id (Gauge.handle gauge)

/-- The call with which a pool writes to the gauge. -/
def writing (name : String) (greatest : UInt64) : Request :=
  let c := Gauge.call name greatest
  .apply c.id (.change .set c.value) c.labels

/-- The value that is given to the gauge. -/
def given (events : List (Pool.Event J)) : Option UInt64 :=
  events.findSome? fun
    | .tracker (.gauge greatest) => some greatest
    | _ => none

/-- The names of the pools. -/
def names (f : Fleet J) : List String := f.sites.map fun site => site.config.name

/-- The pool after its tracker wrote; a tracker whose value was refused dies. -/
def written (site : Site J) (taken : Bool) : Site J :=
  let tracker := site.state.tracker
  let died : Tracker := { tracker with status := .died, channel := tracker.channel.close }
  { site with pending := none, state := if taken then site.state else { site.state with tracker := died } }

variable [Job J]

/-- What a move does, if it can be made now. -/
def step (f : Fleet J) : Action J → Option (Fleet J × List (Event J))
  | .build config kinds route gauge =>
    if config.name ∈ f.names then none
    else
      (f.registry.ask route (registration gauge)).map fun reply =>
        (⟨reply.state, f.sites ++ [⟨config, route, .new config kinds, none⟩]⟩, [])
  | .pool number action =>
    match f.sites[number]?, action with
    | none, _ => none
    | some _, .tracker _ => none
    | some site, action =>
      (Pool.step site.config site.state action).map fun (state, events) =>
        ({ f with sites := f.sites.set number { site with state := state } }, events.map (.pool number))
  | .take number =>
    match f.sites[number]? with
    | none => none
    | some site =>
      if site.pending.isSome then none
      else
        (Pool.step site.config site.state (.tracker true)).map fun (state, events) =>
          ({ f with sites := f.sites.set number { site with state := state, pending := given events } },
            events.map (.pool number))
  | .write number =>
    match f.sites[number]? with
    | none => none
    | some site =>
      match site.pending with
      | none => none
      | some greatest =>
        (f.registry.ask site.route (writing site.config.name greatest)).map fun reply =>
          (⟨reply.state, f.sites.set number (written site reply.result.isOk)⟩,
            if reply.result.isOk then [.wrote site.config.name greatest] else [])
  | .ask route request =>
    (f.registry.ask route request).map fun reply =>
      ({ f with registry := reply.state },
        [.answered request (request.reached f.registry.registry) reply.result])

end Fleet

end JobPool.Pool
