import JobPool.Log
import JobPool.Text.Quoted

/-!
What a metric is called and how its series are labelled, and the warnings about operations that do
not fit.
-/

namespace JobPool.Metric

/-- The kind of a metric. -/
inductive Kind where
  | gauge
  | counter
  | histogram
  deriving DecidableEq, Repr

/-- The kind in a snapshot. -/
def Kind.word : Kind → String
  | gauge => "gauge"
  | counter => "counter"
  | histogram => "histogram"

/-- The kind in a warning. -/
def Kind.title : Kind → String
  | gauge => "Gauge"
  | counter => "Counter"
  | histogram => "Histogram"

/-- Name, help text and label names of a metric. -/
structure Description where
  name : String
  help : String
  labelNames : List String
  deriving DecidableEq, Repr

/-- The changes of a series by a number. -/
inductive Change where
  /-- Observes an elapsed time in microseconds. -/
  | observe
  | add
  | subtract
  | set
  deriving DecidableEq, Repr

/-- The name of a change in a warning. -/
def Change.word : Change → String
  | observe => "update_time"
  | add => "add_value"
  | subtract => "sub_value"
  | set => "set_value"

namespace Description

/-- One label value for each label name. -/
def fits (d : Description) (labels : List String) : Bool := labels.length = d.labelNames.length

theorem fits_iff {d : Description} {labels : List String} :
    d.fits labels = true ↔ labels.length = d.labelNames.length := decide_eq_true_iff

/-- The warning about a wrong number of labels. -/
def arityWarning (d : Description) (labels : List String) : Record :=
  .warn <| s!"metric {d.name} expects {d.labelNames.length} label values "
    ++ s!"({Text.quotedList d.labelNames}), got {Text.quotedList labels}"

/-- The warning about a change that the kind does not have. -/
def unsupported (d : Description) (kind : Kind) (change : Change) : Record :=
  .warn s!"cannot use {change.word} for {kind.title} metric {d.name}"

/-- The warning about a counter that is asked to go down. -/
def cannotDecrease (d : Description) (value : Int64) : Record :=
  .warn s!"counter {d.name} cannot decrease, ignoring add of {value.toInt}"

/-- The report of a series that is not there to be removed. -/
def notRemoved (d : Description) (labels : List String) : Record :=
  .error s!"could not delete metric {d.name} with labels {Text.quotedList labels}"

end Description

end JobPool.Metric
