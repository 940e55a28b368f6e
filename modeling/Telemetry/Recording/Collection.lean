import Telemetry.Diagnostic
import Telemetry.Metric
import Telemetry.Recording.Resource

/-! Metrics as a reader collects them, and their conversion. Sums, gauges and explicit histograms of three
number types are converted; an exponential histogram has no encoding, and its metric is skipped with
a diagnostic. Histogram points whose buckets do not fit their bounds are left out. -/
namespace Telemetry

-- Powers are those of the core library, also where Mathlib brings its own.
attribute [local instance (high)] instPowNat

structure CollectedPoint (α : Type) where
  attributes : StandardAttributes
  value : α

structure CollectedHistogramPoint (α : Type) where
  attributes : StandardAttributes
  count : UInt64
  sum : α
  buckets : List UInt64
  bounds : List Float

structure CollectedExponentialPoint (α : Type) where
  attributes : StandardAttributes
  count : UInt64
  sum : α

inductive Temporality where
  | cumulative
  | delta

def Temporality.name : Temporality → String
  | .cumulative => "Cumulative"
  | .delta => "Delta"

/-- The temporality that metrics must be collected with, the only one that documents can state. -/
def requiredTemporality : Temporality :=
  .cumulative

inductive Aggregation (α : Type) where
  | sum (start time : Instant) (points : List (CollectedPoint α))
  | gauge (start : Option Instant) (time : Instant) (points : List (CollectedPoint α))
  | histogram (start time : Instant) (points : List (CollectedHistogramPoint α))
  | exponentialHistogram (start time : Instant) (points : List (CollectedExponentialPoint α))

inductive CollectedData where
  | signed (data : Aggregation Int64)
  | unsigned (data : Aggregation UInt64)
  | double (data : Aggregation Float)

structure CollectedMetric where
  name : String
  description : String
  unit : String
  data : CollectedData

structure CollectedScope where
  scope : Scope
  metrics : List CollectedMetric

structure Collection where
  resource : RecordedResource
  scopes : List CollectedScope

class CollectedNumber (α : Type) where
  sumData : List (ScalarPoint α) → MetricData
  gaugeData : List (ScalarPoint α) → MetricData
  toDouble : α → Float

def saturated (n : UInt64) : Int64 :=
  Int64.ofInt (min n.toNat (2 ^ (63 : Nat) - 1 : Nat))

def ScalarPoint.map {α β : Type} (f : α → β) (point : ScalarPoint α) : ScalarPoint β :=
  ⟨point.start, point.time, point.attributes, f point.value⟩

instance : CollectedNumber Int64 :=
  ⟨.longSum, .longGauge, Int64.toFloat⟩

instance : CollectedNumber UInt64 :=
  ⟨fun points => .longSum (points.map (·.map saturated)),
    fun points => .longGauge (points.map (·.map saturated)), UInt64.toFloat⟩

instance : CollectedNumber Float :=
  ⟨.doubleSum, .doubleGauge, id⟩

def CollectedPoint.toPoint {α : Type} (start time : Instant) (point : CollectedPoint α) : ScalarPoint α :=
  ⟨start, time, point.attributes.map Attribute.ofStandard, point.value⟩

def CollectedHistogramPoint.toPoint? {α : Type} [CollectedNumber α] (start time : Instant)
    (point : CollectedHistogramPoint α) : Option HistogramPoint :=
  (HistogramPoint.make start time (point.attributes.map Attribute.ofStandard) point.count
    (CollectedNumber.toDouble point.sum) point.buckets point.bounds).toOption

def Aggregation.toData? {α : Type} [CollectedNumber α] : Aggregation α → Option MetricData
  | .sum start time points => some (CollectedNumber.sumData (points.map (·.toPoint start time)))
  | .gauge start time points =>
    some (CollectedNumber.gaugeData (points.map (·.toPoint (start.getD time) time)))
  | .histogram start time points => some (.histogram (points.filterMap (·.toPoint? start time)))
  | .exponentialHistogram .. => none

def CollectedData.toData? : CollectedData → Option MetricData
  | .signed data => data.toData?
  | .unsigned data => data.toData?
  | .double data => data.toData?

def CollectedMetric.toMetric? (scope : Scope) (metric : CollectedMetric) : Option Metric :=
  metric.data.toData?.map fun data => ⟨metric.name, metric.description, metric.unit, scope, data⟩

def CollectedMetric.skipped? (metric : CollectedMetric) : Option Diagnostic :=
  if metric.data.toData?.isNone then some (.metricSkipped metric.name) else none

namespace Collection

def empty : Collection :=
  ⟨.empty, []⟩

def metrics (collection : Collection) : List Metric :=
  collection.scopes.flatMap fun scope => scope.metrics.filterMap (·.toMetric? scope.scope)

def diagnostics (collection : Collection) : List Diagnostic :=
  collection.scopes.flatMap fun scope => scope.metrics.filterMap (·.skipped?)

end Collection

end Telemetry
