import JobPool.Fault

/-!
Log records, a level and a line of text, and the replies of whatever logs what it does.
-/

namespace JobPool

/-- The level of a log record. -/
inductive Level where
  | error
  | warn
  | info
  | debug
  deriving DecidableEq, Repr

/-- The name of a level as it stands in a log. -/
def Level.name : Level → String
  | error => "ERROR"
  | warn => "WARN"
  | info => "INFO"
  | debug => "DEBUG"

/-- One line of a log. -/
structure Record where
  level : Level
  text : String
  deriving DecidableEq, Repr

namespace Record

/-- An error line. -/
def error (text : String) : Record := ⟨.error, text⟩
/-- A warning line. -/
def warn (text : String) : Record := ⟨.warn, text⟩
/-- An information line. -/
def info (text : String) : Record := ⟨.info, text⟩
/-- A debugging line. -/
def debug (text : String) : Record := ⟨.debug, text⟩

end Record

/-- What an operation leaves: the new state, its log, and its result. -/
structure Reply (σ α : Type) where
  state : σ
  logs : List Record
  result : Except Fault α

/-- What a list of operations leaves, one after the other. -/
def Reply.inTurn {σ ι α : Type} (step : σ → ι → Reply σ α) : σ → List ι → List (Reply σ α)
  | _, [] => []
  | state, input :: rest =>
    let reply := step state input
    reply :: inTurn step reply.state rest

end JobPool
