import Telemetry.Proofs.Metric.Regular
import Telemetry.Proofs.Scope
import Telemetry.Proofs.Value.Unsupported

/-! The values of a metric: those of the attributes of its points, in the order of the points. The numbers
of a point hold no gap, so these values tell the gaps of what is written for the metric, whatever the
shape of its data. -/
namespace Telemetry

variable {substitute : String → Value} {patch : String → Json}

namespace ScalarPoint

variable {α : Type}

def values (point : ScalarPoint α) : List Value :=
  Attribute.values point.attributes

def mapValues (change : Value → Value) (point : ScalarPoint α) : ScalarPoint α :=
  { point with attributes := point.attributes.map (Attribute.mapValue change) }

variable [ScalarNumber α] [LawfulScalar α]

theorem gaps_toJson (point : ScalarPoint α) : point.toJson.gaps = Value.gapsOf point.values := by
  rw [toJson, Json.gaps_object, values, ← Attribute.gaps_listJson none]
  simp only [List.flatMap_cons, List.flatMap_nil, LawfulScalar.gapless, Json.natural, Json.gaps,
    List.nil_append, List.append_nil]

theorem fill_toJson (patches : Value.Patches substitute patch) (point : ScalarPoint α) :
    point.toJson.fill patch = (point.mapValues (Value.mend substitute)).toJson := by
  have number := Json.fill_of_gapless patch (LawfulScalar.gapless point.value)
  rw [toJson, Json.fill_object, toJson, mapValues, ← Attribute.fill_listJson none _ patches]
  simp only [List.map_cons, List.map_nil, number, Json.natural, Json.fill]

end ScalarPoint

namespace HistogramPoint

def values (point : HistogramPoint) : List Value :=
  Attribute.values point.attributes

def mapValues (change : Value → Value) (point : HistogramPoint) : HistogramPoint :=
  { point with attributes := point.attributes.map (Attribute.mapValue change) }

private theorem gapless_numbers {α : Type} {number : α → Json} (gapless : ∀ a, (number a).gaps = [])
    (numbers : List α) : (Json.array (numbers.map number)).gaps = [] := by
  rw [Json.gaps_array, List.flatMap_map, List.flatMap_eq_nil_iff]
  exact fun a _ => gapless a

private def numbers (point : HistogramPoint) : List (String × Json) :=
  [("startTimeUnixNano", .natural point.start.unixNanoseconds),
    ("timeUnixNano", .natural point.time.unixNanoseconds),
    ("count", .natural point.count.toNat),
    ("sum", .double point.sum),
    ("bucketCounts", .array (point.buckets.map (.natural ·.toNat))),
    ("explicitBounds", .array (point.bounds.map .double))]

private theorem toJson_eq (point : HistogramPoint) : point.toJson =
    .object (point.numbers ++ [("attributes", Attribute.listJson none point.attributes)]) := rfl

private theorem gaps_numbers (point : HistogramPoint) : ∀ member ∈ point.numbers, member.2.gaps = [] := by
  simp only [numbers, List.forall_mem_cons]
  refine ⟨rfl, rfl, rfl, Json.gaps_double point.sum, ?buckets, ?bounds, List.forall_mem_nil _⟩
  case buckets => exact gapless_numbers (fun _ => rfl) point.buckets
  case bounds => exact gapless_numbers Json.gaps_double point.bounds

theorem gaps_toJson (point : HistogramPoint) : point.toJson.gaps = Value.gapsOf point.values := by
  have numbers := List.flatMap_eq_nil_iff.mpr point.gaps_numbers
  rw [toJson_eq, Json.gaps_object, List.flatMap_append, numbers, List.nil_append, List.flatMap_singleton,
    Attribute.gaps_listJson, values]

theorem fill_toJson (patches : Value.Patches substitute patch) (point : HistogramPoint) :
    point.toJson.fill patch = (point.mapValues (Value.mend substitute)).toJson := by
  have numbers : point.numbers.map (fun member => (member.1, member.2.fill patch)) = point.numbers := by
    refine (List.map_congr_left ?_).trans (List.map_id' _)
    exact fun member among => Prod.ext rfl (Json.fill_of_gapless patch (point.gaps_numbers member among))
  rw [toJson_eq, Json.fill_object, List.map_append, numbers, List.map_singleton,
    Attribute.fill_listJson none _ patches]
  rfl

end HistogramPoint

namespace MetricData

def values : MetricData → List Value
  | .longSum points => points.flatMap (·.values)
  | .doubleSum points => points.flatMap (·.values)
  | .longGauge points => points.flatMap (·.values)
  | .doubleGauge points => points.flatMap (·.values)
  | .histogram points => points.flatMap (·.values)

def mapValues (change : Value → Value) : MetricData → MetricData
  | .longSum points => .longSum (points.map (·.mapValues change))
  | .doubleSum points => .doubleSum (points.map (·.mapValues change))
  | .longGauge points => .longGauge (points.map (·.mapValues change))
  | .doubleGauge points => .doubleGauge (points.map (·.mapValues change))
  | .histogram points => .histogram (points.map (·.mapValues change))

section Shapes

variable {α : Type} [ScalarNumber α] [LawfulScalar α] (points : List (ScalarPoint α))

theorem gaps_sumMembers :
    (sumMembers points).flatMap (·.2.gaps) = Value.gapsOf (points.flatMap (·.values)) := by
  rw [Value.gapsOf_flatMap, ← Json.gaps_array_map ScalarPoint.gaps_toJson]
  simp only [sumMembers, cumulative, List.flatMap_cons, List.flatMap_nil, Json.gaps, Json.memberGaps,
    List.nil_append, List.append_nil]

theorem gaps_gaugeMembers :
    (gaugeMembers points).flatMap (·.2.gaps) = Value.gapsOf (points.flatMap (·.values)) := by
  rw [Value.gapsOf_flatMap, ← Json.gaps_array_map ScalarPoint.gaps_toJson]
  simp only [gaugeMembers, List.flatMap_cons, List.flatMap_nil, Json.gaps, Json.memberGaps,
    List.nil_append, List.append_nil]

variable (patches : Value.Patches substitute patch)

include patches

theorem fill_sumMembers : (sumMembers points).map (fun member => (member.1, member.2.fill patch)) =
    sumMembers (points.map (·.mapValues (Value.mend substitute))) := by
  have filled := Json.fill_array_map patch (ScalarPoint.fill_toJson patches) points
  simp only [sumMembers, cumulative, Json.fill_object, List.map_cons, List.map_nil, filled]
  rfl

theorem fill_gaugeMembers : (gaugeMembers points).map (fun member => (member.1, member.2.fill patch)) =
    gaugeMembers (points.map (·.mapValues (Value.mend substitute))) := by
  have filled := Json.fill_array_map patch (ScalarPoint.fill_toJson patches) points
  simp only [gaugeMembers, Json.fill_object, List.map_cons, List.map_nil, filled]
  rfl

end Shapes

theorem gaps_members (data : MetricData) : data.members.flatMap (·.2.gaps) = Value.gapsOf data.values := by
  cases data with
  | longSum points => exact gaps_sumMembers points
  | doubleSum points => exact gaps_sumMembers points
  | longGauge points => exact gaps_gaugeMembers points
  | doubleGauge points => exact gaps_gaugeMembers points
  | histogram points =>
    rw [values, Value.gapsOf_flatMap, ← Json.gaps_array_map HistogramPoint.gaps_toJson]
    simp only [members, histogramMembers, cumulative, List.flatMap_cons, List.flatMap_nil, Json.gaps,
      Json.memberGaps, List.nil_append, List.append_nil]

theorem fill_members (patches : Value.Patches substitute patch) (data : MetricData) :
    data.members.map (fun member => (member.1, member.2.fill patch)) =
      (data.mapValues (Value.mend substitute)).members := by
  cases data with
  | longSum points => exact fill_sumMembers points patches
  | doubleSum points => exact fill_sumMembers points patches
  | longGauge points => exact fill_gaugeMembers points patches
  | doubleGauge points => exact fill_gaugeMembers points patches
  | histogram points =>
    have filled := Json.fill_array_map patch (HistogramPoint.fill_toJson patches) points
    simp only [members, histogramMembers, cumulative, Json.fill_object, List.map_cons, List.map_nil, filled]
    rfl

end MetricData

namespace Metric

def values (metric : Metric) : List Value :=
  metric.data.values

def mapValues (change : Value → Value) (metric : Metric) : Metric :=
  { metric with data := metric.data.mapValues change }

theorem gaps_toJson (metric : Metric) : metric.toJson.gaps = Value.gapsOf metric.values := by
  rw [toJson, Json.gaps_object, List.flatMap_append, MetricData.gaps_members, values]
  rfl

theorem fill_toJson (patches : Value.Patches substitute patch) (metric : Metric) :
    metric.toJson.fill patch = (metric.mapValues (Value.mend substitute)).toJson := by
  rw [toJson, Json.fill_object, List.map_append, MetricData.fill_members patches]
  rfl

theorem gaps_groupJson (group : ScopeGroup Metric) :
    (groupJson group).gaps = group.items.flatMap fun metric => Value.gapsOf metric.values := by
  rw [groupJson, Json.gaps_object, List.flatMap_cons, Scope.gaps_toJson, List.nil_append,
    List.flatMap_singleton, Json.gaps_array_map gaps_toJson]

theorem fill_groupJson (patches : Value.Patches substitute patch) (group : ScopeGroup Metric) :
    (groupJson group).fill patch =
      groupJson ⟨group.scope, group.items.map (·.mapValues (Value.mend substitute))⟩ := by
  have items := Json.fill_array_map patch (fill_toJson patches) group.items
  rw [groupJson, Json.fill_object, List.map_cons, List.map_singleton, items,
    Json.fill_of_gapless patch (Scope.gaps_toJson _), groupJson]

end Metric

end Telemetry
