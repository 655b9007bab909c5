import JobPool.Builder
import JobPool.Settings.File

/-!
What a load run is asked to do: how many jobs of which length, how many of them fail, and the pool
that runs them, which is either described by arguments or by a settings file.
-/

namespace JobPool.Load

/-- The arguments of a load run. -/
structure Arguments where
  name : String
  workers : Option UInt64
  queueCapacity : Option UInt64
  jobs : UInt64
  jobMillis : UInt64
  /-- Every job whose number this divides fails; zero lets none fail. -/
  failEvery : UInt64
  retries : UInt64
  /-- The path of a settings file. -/
  config : Option String
  reportMillis : UInt64
  deriving DecidableEq, Repr

/-- What is wrong with arguments. -/
inductive Objection where
  | noJobs
  | noReportInterval
  /-- A settings file excludes the arguments that say the same. -/
  | configExcludesSizes
  deriving DecidableEq, Repr

/-- The text that reports an objection. -/
def Objection.message : Objection → String
  | noJobs => "--jobs must be at least 1"
  | noReportInterval => "--report-interval-ms must be at least 1"
  | configExcludesSizes =>
      "--config must not be used in combination with --workers, --queue-capacity or --retries"

/-- Settings that could not be loaded. -/
structure ConfigError where
  path : String
  cause : Settings.LoadError

/-- The report of an error and of its causes. -/
def ConfigError.chain (e : ConfigError) : String :=
  "loading dispatcher config " ++ e.path ++ ": " ++ e.cause.chain

namespace Arguments

/-- The arguments where none is given. -/
def default : Arguments :=
  { name := "demo"
    workers := none
    queueCapacity := none
    jobs := 100
    jobMillis := 10
    failEvery := 0
    retries := 0
    config := none
    reportMillis := 500 }

/-- The first objection to arguments. -/
def objection? (a : Arguments) : Option Objection :=
  if a.jobs = 0 then some .noJobs
  else if a.reportMillis = 0 then some .noReportInterval
  else if a.config.isSome ∧ (a.workers.isSome ∨ a.queueCapacity.isSome ∨ 0 < a.retries) then
    some .configExcludesSizes
  else none

/-- The policy that the number of retries asks for: without retries the default stays. -/
def retryPolicySet {Q : Type} (b : Builder Q) (retries : UInt64) : Builder Q :=
  if 0 < retries then b.policySet (.retry retries) else b

/-- The pool that arguments without a settings file describe. -/
def describedPool {Q : Type} (a : Arguments) : Builder Q :=
  retryPolicySet (((Builder.new a.name).maxWorkersSet? a.workers).queueCapacitySet? a.queueCapacity)
    a.retries

/-- The pool that the arguments ask for, `load` giving the settings in a file. -/
def builder {Q : Type} (load : String → Except Settings.LoadError Settings) (a : Arguments) :
    Except ConfigError (Builder Q) :=
  match a.config with
  | none => .ok a.describedPool
  | some path =>
    match load path with
    | .ok settings => .ok (.ofSettings settings)
    | .error cause => .error ⟨path, cause⟩

/-- Whether job number `n` fails. -/
def fails (a : Arguments) (n : Nat) : Bool := 0 < a.failEvery && n % a.failEvery.toNat = 0

end Arguments

end JobPool.Load
