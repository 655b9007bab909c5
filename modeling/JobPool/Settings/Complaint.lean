import JobPool.Json.Outline
import JobPool.Text.Quoted

/-!
Complaints about a text that is meant to hold settings: it is not JSON, or a value is not of the
kind that its place asks for, or a field is unknown, missing or given twice.
-/

namespace JobPool.Settings

/-- What stands at a place. -/
inductive Found where
  | null
  | bool (value : Bool)
  | integer (value : Int)
  | real (value : Binary64)
  | text (value : String)
  | sequence
  | map
  deriving DecidableEq, Repr

/-- What a place asks for. -/
inductive Expected where
  | size
  | text
  | settings
  | policy
  | kind
  /-- Settings written as an array. -/
  | fourElements
  /-- The retries of a policy written as an array. -/
  | retries
  /-- So many items and no more. -/
  | items (count : Nat)
  deriving DecidableEq, Repr

/-- The fields of settings and of a policy. -/
inductive Field where
  | name
  | maxWorkers
  | queueCapacity
  | policy
  | kind
  | retries
  deriving DecidableEq, Repr

/-- Why a text does not hold settings. -/
inductive Complaint where
  | malformed (cause : Json.SyntaxError)
  | wrongType (found : Found) (expected : Expected)
  | negative (value : Int)
  | wrongLength (count : Nat) (expected : Expected)
  | unknownField (name : String)
  | missingField (field : Field)
  | repeatedField (field : Field)
  | unknownKind (name : String)
  deriving DecidableEq, Repr

/-- A word between grave accents. -/
def marked (word : String) : String := "`" ++ word ++ "`"

/-- How a found value is reported. -/
def Found.message : Found → String
  | null => "null"
  | bool b => "boolean " ++ marked (if b then "true" else "false")
  | integer n => "integer " ++ marked (toString n)
  | real x => "floating point " ++ marked x.text
  | text s => "string " ++ Text.quoted s
  | sequence => "sequence"
  | map => "map"

/-- How an expectation is reported. -/
def Expected.message : Expected → String
  | size => "usize"
  | text => "a string"
  | settings => "struct DispatcherConfig"
  | policy => "internally tagged enum FailurePolicyConfig"
  | kind => "variant identifier"
  | fourElements => "struct DispatcherConfig with 4 elements"
  | retries => "struct variant FailurePolicyConfig::Retry with 1 element"
  | items 1 => "1 element in sequence"
  | items n => toString n ++ " elements in sequence"

/-- The name of a field in a text. -/
def Field.key : Field → String
  | name => "name"
  | maxWorkers => "max_workers"
  | queueCapacity => "queue_capacity"
  | policy => "failure_policy"
  | kind => "kind"
  | retries => "retries"

/-- The text that reports a complaint, without its place. -/
def Complaint.message : Complaint → String
  | malformed cause => cause.message
  | wrongType found expected =>
      "invalid type: " ++ found.message ++ ", expected " ++ expected.message
  | negative n => "invalid value: " ++ (Found.integer n).message ++ ", expected usize"
  | wrongLength n expected =>
      "invalid length " ++ toString n ++ ", expected " ++ expected.message
  | unknownField name =>
      "unknown field " ++ marked name ++ ", expected one of " ++
        ", ".intercalate ([Field.name, .maxWorkers, .queueCapacity, .policy].map (marked ·.key))
  | missingField field => "missing field " ++ marked field.key
  | repeatedField field => "duplicate field " ++ marked field.key
  | unknownKind name =>
      "unknown variant " ++ marked name ++ ", expected one of "
        ++ ", ".intercalate (["discard", "log", "retry"].map marked)

end JobPool.Settings
