import Telemetry.Document
import Telemetry.Metric

/-! The document for a batch of metrics, grouped by runs of one scope and followed by a line feed. Sums
are written as monotonic and everything as cumulative. No limit applies, and every point has its
attributes, even when there are none. -/
namespace Telemetry

class ScalarNumber (α : Type) where
  valueMember : α → String × Json

instance : ScalarNumber Int64 :=
  ⟨fun i => ("asInt", .integer i.toInt)⟩

instance : ScalarNumber Float :=
  ⟨fun x => ("asDouble", .double x)⟩

def ScalarPoint.toJson {α : Type} [ScalarNumber α] (point : ScalarPoint α) : Json :=
  .object [("startTimeUnixNano", .natural point.start.unixNanoseconds),
    ("timeUnixNano", .natural point.time.unixNanoseconds),
    ScalarNumber.valueMember point.value,
    ("attributes", Attribute.listJson none point.attributes)]

def HistogramPoint.toJson (point : HistogramPoint) : Json :=
  .object [("startTimeUnixNano", .natural point.start.unixNanoseconds),
    ("timeUnixNano", .natural point.time.unixNanoseconds),
    ("count", .natural point.count.toNat),
    ("sum", .double point.sum),
    ("bucketCounts", .array (point.buckets.map (.natural ·.toNat))),
    ("explicitBounds", .array (point.bounds.map .double)),
    ("attributes", Attribute.listJson none point.attributes)]

namespace MetricData

def cumulative : String × Json :=
  ("aggregationTemporality", .string "CUMULATIVE")

def sumMembers {α : Type} [ScalarNumber α] (points : List (ScalarPoint α)) : List (String × Json) :=
  [("type", .string "sum"),
    ("sum", .object [("monotonic", .bool true), cumulative, ("dataPoints", .array (points.map (·.toJson)))])]

def gaugeMembers {α : Type} [ScalarNumber α] (points : List (ScalarPoint α)) : List (String × Json) :=
  [("type", .string "gauge"), ("gauge", .object [("dataPoints", .array (points.map (·.toJson)))])]

def histogramMembers (points : List HistogramPoint) : List (String × Json) :=
  [("type", .string "histogram"),
    ("histogram", .object [cumulative, ("dataPoints", .array (points.map (·.toJson)))])]

def members : MetricData → List (String × Json)
  | .longSum points => sumMembers points
  | .doubleSum points => sumMembers points
  | .longGauge points => gaugeMembers points
  | .doubleGauge points => gaugeMembers points
  | .histogram points => histogramMembers points

end MetricData

namespace Metric

def toJson (metric : Metric) : Json :=
  .object ([("name", .string metric.name), ("description", .string metric.description),
    ("unit", .string metric.unit)] ++ metric.data.members)

def groupJson (group : ScopeGroup Metric) : Json :=
  .object [("scope", group.scope.toJson), ("metrics", .array (group.items.map (·.toJson)))]

end Metric

structure MetricsDocument where
  resource : Resource
  metrics : List Metric

namespace MetricsDocument

def groups (document : MetricsDocument) : List (ScopeGroup Metric) :=
  ScopeGroup.runs (·.scope) document.metrics

def body (document : MetricsDocument) : Json :=
  .object [("resourceMetrics", .array [.object
    [("resource", document.resource.toJson),
      ("scopeMetrics", .array (document.groups.map Metric.groupJson))]])]

def toDocument (document : MetricsDocument) : Document :=
  ⟨document.body, true⟩

end MetricsDocument

end Telemetry
