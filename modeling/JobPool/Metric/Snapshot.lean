import JobPool.Json.Writer
import JobPool.Metric.Description

/-!
Snapshots of metrics: copies that no later operation changes, with a JSON form.
-/

namespace JobPool.Metric

/-- What a histogram says about one series. -/
structure Summary where
  count : UInt64
  sum : Int64
  min : Int64
  max : Int64
  /-- Bounds and cumulative counts. -/
  buckets : List (Binary64 × UInt64)
  deriving DecidableEq, Repr

/-- What a metric says about one series. -/
inductive Reading where
  | value (value : Int64)
  | summary (summary : Summary)
  deriving DecidableEq, Repr

/-- The plain value of a gauge or counter. -/
def Reading.value? : Reading → Option Int64
  | value v => some v
  | summary _ => none

/-- One series of a snapshot. -/
structure Series where
  labels : List String
  reading : Reading
  deriving DecidableEq, Repr

/-- A metric at one moment, its series in the order of their labels. -/
structure Snapshot where
  description : Description
  kind : Kind
  series : List Series
  deriving DecidableEq, Repr

/-- The series with exactly these labels. -/
def Snapshot.find? (s : Snapshot) (labels : List String) : Option Series :=
  s.series.find? fun series => series.labels = labels

/-- The members that a reading adds to its series. -/
def Reading.members : Reading → List (String × Json.Value)
  | value v => [("value", .ofSigned v)]
  | summary s =>
    [("count", .ofWord s.count), ("sum", .ofSigned s.sum), ("min", .ofSigned s.min),
      ("max", .ofSigned s.max),
      ("buckets", .array (s.buckets.map fun b => .array [.number (.real b.1), .ofWord b.2]))]

/-- The JSON form of a series, its reading written by `members`. -/
def Series.toJsonBy (members : Reading → List (String × Json.Value)) (s : Series) : Json.Value :=
  .object (("labels", .ofTexts s.labels) :: members s.reading)

/-- The JSON form of a series. -/
def Series.toJson (s : Series) : Json.Value := s.toJsonBy Reading.members

/-- The JSON form of a snapshot, the readings written by `members`. -/
def Snapshot.toJsonBy (members : Reading → List (String × Json.Value)) (s : Snapshot) :
    Json.Value :=
  .object [("name", .text s.description.name), ("help", .text s.description.help),
    ("kind", .text s.kind.word), ("label_names", .ofTexts s.description.labelNames),
    ("series", .array (s.series.map (·.toJsonBy members)))]

/-- The JSON form of a snapshot. -/
def Snapshot.toJson (s : Snapshot) : Json.Value := s.toJsonBy Reading.members

end JobPool.Metric
