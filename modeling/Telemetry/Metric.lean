import Telemetry.Attribute
import Telemetry.ExportError
import Telemetry.Instant
import Telemetry.Scope

/-! Metrics and their points. A histogram point has one bucket more than it has bounds: the last bucket
counts the values above every bound. -/
namespace Telemetry

inductive MetricKind where
  | longSum
  | doubleSum
  | longGauge
  | doubleGauge
  | histogram
  deriving DecidableEq

def MetricKind.name : MetricKind → String
  | .longSum => "LongSum"
  | .doubleSum => "DoubleSum"
  | .longGauge => "LongGauge"
  | .doubleGauge => "DoubleGauge"
  | .histogram => "Histogram"

structure ScalarPoint (α : Type) where
  start : Instant
  time : Instant
  attributes : List Attribute
  value : α
  deriving BEq

structure HistogramPoint where
  start : Instant
  time : Instant
  attributes : List Attribute
  count : UInt64
  sum : Float
  buckets : List UInt64
  bounds : List Float
  length_buckets : buckets.length = bounds.length + 1

namespace HistogramPoint

instance : BEq HistogramPoint where
  beq a b := a.start == b.start && a.time == b.time && a.attributes == b.attributes &&
    a.count == b.count && a.sum == b.sum && a.buckets == b.buckets && a.bounds == b.bounds

def make (start time : Instant) (attributes : List Attribute) (count : UInt64) (sum : Float)
    (buckets : List UInt64) (bounds : List Float) : Except ExportError HistogramPoint :=
  if fits : buckets.length = bounds.length + 1 then
    .ok ⟨start, time, attributes, count, sum, buckets, bounds, fits⟩
  else .error (.invalidHistogram bounds.length buckets.length)

end HistogramPoint

inductive MetricData where
  | longSum (points : List (ScalarPoint Int64))
  | doubleSum (points : List (ScalarPoint Float))
  | longGauge (points : List (ScalarPoint Int64))
  | doubleGauge (points : List (ScalarPoint Float))
  | histogram (points : List HistogramPoint)
  deriving BEq

def MetricData.kind : MetricData → MetricKind
  | .longSum _ => .longSum
  | .doubleSum _ => .doubleSum
  | .longGauge _ => .longGauge
  | .doubleGauge _ => .doubleGauge
  | .histogram _ => .histogram

structure Metric where
  name : String
  description : String
  unit : String
  scope : Scope
  data : MetricData
  deriving BEq

end Telemetry
