import JobPool.Worker
import JobPool.Scenario.ScriptedJob

/-!
The stage on which scripted jobs run: which gates are open, which attempts wait at a gate, and what
was seen since the last look.
-/

namespace JobPool.Scenario

/-- The part of a pool that a record comes from. -/
inductive Source where
  | dispatcher
  | tracker
  | policy
  | worker
  | metrics
  deriving DecidableEq, Repr

/-- An attempt that was seen to begin. -/
structure Seen where
  id : String
  call : Nat
  thread : String
  deriving DecidableEq, Repr

/-- Gates, attempts that wait, and what was seen since the last look. -/
structure Stage where
  openGates : List String
  /-- The jobs whose attempts wait at a gate, in the order in which these began. -/
  waiting : List String
  seen : List Seen
  letters : List (Letter ScriptedJob)
  logs : List (Source × Record)

namespace Stage

/-- No gate is open and nothing was seen. -/
def empty : Stage := ⟨[], [], [], [], []⟩

/-- An attempt at this job waits at its gate. -/
def holds (s : Stage) (job : ScriptedJob) : Bool := job.gated && !s.openGates.contains job.id

/-- Opens a gate for good. -/
def openGate (s : Stage) (id : String) : Stage :=
  { s with openGates := id :: s.openGates, waiting := s.waiting.filter (· ≠ id) }

/-- Notes a record. -/
def note (s : Stage) (source : Source) (record : Record) : Stage :=
  { s with logs := s.logs ++ [(source, record)] }

/-- Notes records. -/
def noteAll (s : Stage) (source : Source) (records : List Record) : Stage :=
  { s with logs := s.logs ++ records.map fun record => (source, record) }

/-- Notes what a worker did on its thread. -/
def watch (s : Stage) (thread : String) : Worker.Event ScriptedJob → Stage
  | .attempted job _ =>
    { s with
        seen := s.seen ++ [⟨job.id, job.calls + 1, thread⟩]
        waiting := if s.holds job then s.waiting ++ [job.id] else s.waiting }
  | .sent letter => { s with letters := s.letters ++ [letter] }
  | .judged record => s.note .policy record
  | .log record => s.note .worker record
  | _ => s

/-- Forgets what was seen. -/
def look (s : Stage) : Stage := { s with seen := [], letters := [], logs := [] }

/-- Without the records that come once nobody owns the pool: those about its gauge. -/
def forOutsiders (s : Stage) : Stage :=
  { s with logs := s.logs.filter fun entry => entry.1 ≠ .tracker ∧ entry.1 ≠ .metrics }

/-- Whether a worker stands at a closed gate; `job` reads the job of what it works on. -/
def stops {T : Type} (s : Stage) (job : T → ScriptedJob) (w : Worker T) : Bool :=
  match w.phase with
  | .working task _ _ _ => s.holds (job task)
  | _ => false

end Stage

/-- Repeats a move while there is one, at most `fuel` times. -/
def exhaust {σ : Type} (move : σ → Option σ) : (fuel : Nat) → σ → σ
  | 0, s => s
  | fuel + 1, s =>
    match move s with
    | none => s
    | some s => exhaust move fuel s

/-- More moves than any script needs between two looks. -/
def settleFuel : Nat := 10000000

end JobPool.Scenario
