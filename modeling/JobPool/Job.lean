import JobPool.Text.Quoted

/-!
Jobs: blocking work that may be attempted more than once. An attempt succeeds, fails with an error
or panics, and leaves the job in the state in which the next attempt finds it.
-/

namespace JobPool

/-- An error: its root and what was added to it on the way, the latest last. -/
structure JobError where
  root : String
  contexts : List String
  deriving DecidableEq, Repr

namespace JobError

/-- An error without context. -/
def plain (root : String) : JobError := ⟨root, []⟩

/-- The latest message. -/
def message (e : JobError) : String := e.contexts.getLast?.getD e.root

/-- All messages, the latest first. -/
def chain (e : JobError) : String := ": ".intercalate (e.contexts.reverse ++ [e.root])

end JobError

/-- What a panic carries. -/
inductive Payload where
  | text (message : String)
  | other
  deriving DecidableEq, Repr

/-- The text that stands for a payload. -/
def Payload.message : Payload → String
  | text message => message
  | other => "unknown panic payload"

/-- How an attempt ends. -/
inductive Attempt where
  | succeeded
  | failed (error : JobError)
  | panicked (payload : Payload)
  deriving DecidableEq, Repr

/-- The error of an attempt; a panic counts as one. -/
def Attempt.error? : Attempt → Option JobError
  | succeeded => none
  | failed e => some e
  | panicked p => some (.plain ("job panicked: " ++ p.message))

/-- What can be attempted: it has a description, and an attempt ends somehow and leaves a job. -/
class Job (J : Type) where
  describe : J → String
  attempt : J → Attempt × J

/-- The written form of a job. -/
def jobText {J : Type} [Job J] (job : J) : String :=
  Text.record "Job" [("desc", Text.quoted (Job.describe job))]

end JobPool
