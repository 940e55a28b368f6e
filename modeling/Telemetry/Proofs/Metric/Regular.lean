import Telemetry.Metric.Document
import Telemetry.Proofs.Json.Gap
import Telemetry.Proofs.Scope
import Telemetry.Proofs.Value.View

/-! Metrics documents are regular: every number in them is a number token, and no object in them has two
members of one name, whatever the shape of the data and the type of its points. -/
namespace Telemetry

/-- The member for a value has a name that no other member of a point has, and it holds no gap. -/
class LawfulScalar (α : Type) [ScalarNumber α] : Prop where
  named : ∀ a : α, (ScalarNumber.valueMember a).1 = "asInt" ∨ (ScalarNumber.valueMember a).1 = "asDouble"
  regular : ∀ a : α, (ScalarNumber.valueMember a).2.Every Json.Regular
  gapless : ∀ a : α, (ScalarNumber.valueMember a).2.gaps = []

instance : LawfulScalar Int64 :=
  ⟨fun _ => .inl rfl, fun i => Json.regular_integer i.toInt, fun _ => rfl⟩

instance : LawfulScalar Float :=
  ⟨fun _ => .inr rfl, fun x => Json.regular_double x, fun x => Json.gaps_double x⟩

theorem ScalarPoint.regular_toJson {α : Type} [ScalarNumber α] [LawfulScalar α] (point : ScalarPoint α) :
    point.toJson.Every Json.Regular := by
  apply Json.regular_object
  · rcases LawfulScalar.named point.value with name | name
    · simp [name]
    · simp [name]
  · simp only [List.forall_mem_cons]
    refine ⟨?start, ?time, ?value, ?attributes, ?rest⟩
    case start => exact Json.regular_natural _
    case time => exact Json.regular_natural _
    case value => exact LawfulScalar.regular point.value
    case attributes => exact Attribute.regular_listJson none point.attributes
    case rest => exact List.forall_mem_nil _

theorem HistogramPoint.regular_toJson (point : HistogramPoint) : point.toJson.Every Json.Regular := by
  apply Json.regular_object (by simp)
  simp only [List.forall_mem_cons]
  refine ⟨?start, ?time, ?count, ?sum, ?buckets, ?bounds, ?attributes, ?rest⟩
  case start => exact Json.regular_natural _
  case time => exact Json.regular_natural _
  case count => exact Json.regular_natural _
  case sum => exact Json.regular_double point.sum
  case buckets => exact Json.regular_map fun _ => Json.regular_natural _
  case bounds => exact Json.regular_map Json.regular_double
  case attributes => exact Attribute.regular_listJson none point.attributes
  case rest => exact List.forall_mem_nil _

namespace MetricData

structure Written (members : List (String × Json)) : Prop where
  names : ∃ shape ∈ ["sum", "gauge", "histogram"], members.map (·.1) = ["type", shape]
  regular : ∀ member ∈ members, member.2.Every Json.Regular

theorem Written.of_shape {shape : String} (known : shape ∈ ["sum", "gauge", "histogram"]) {data : Json}
    (regular : data.Every Json.Regular) : Written [("type", .string shape), (shape, data)] := by
  refine ⟨⟨shape, known, rfl⟩, ?_⟩
  simp only [List.forall_mem_cons]
  exact ⟨Json.regular_string shape, regular, List.forall_mem_nil _⟩

private theorem regular_cumulative : cumulative.2.Every Json.Regular :=
  Json.regular_string "CUMULATIVE"

section Shapes

variable {α : Type} [ScalarNumber α] [LawfulScalar α] (points : List (ScalarPoint α))

theorem written_sum : Written (sumMembers points) := by
  apply Written.of_shape (by simp)
  apply Json.regular_object (by simp [cumulative])
  simp only [List.forall_mem_cons]
  refine ⟨Json.regular_bool true, regular_cumulative, ?_, List.forall_mem_nil _⟩
  exact Json.regular_map ScalarPoint.regular_toJson

theorem written_gauge : Written (gaugeMembers points) := by
  apply Written.of_shape (by simp)
  exact Json.regular_single (Json.regular_map ScalarPoint.regular_toJson)

end Shapes

theorem written_histogram (points : List HistogramPoint) : Written (histogramMembers points) := by
  apply Written.of_shape (by simp)
  exact Json.regular_pair (by decide) regular_cumulative (Json.regular_map HistogramPoint.regular_toJson)

theorem written_members (data : MetricData) : Written data.members := by
  cases data with
  | longSum points => exact written_sum points
  | doubleSum points => exact written_sum points
  | longGauge points => exact written_gauge points
  | doubleGauge points => exact written_gauge points
  | histogram points => exact written_histogram points

end MetricData

theorem Metric.regular_toJson (metric : Metric) : metric.toJson.Every Json.Regular := by
  obtain ⟨⟨shape, known, names⟩, regular⟩ := metric.data.written_members
  apply Json.regular_object
  · rw [List.map_append, names]
    rcases List.mem_cons.mp known with rfl | known
    · simp
    rcases List.mem_cons.mp known with rfl | known
    · simp
    rw [List.mem_singleton.mp known]
    simp
  · simp only [List.forall_mem_append, List.forall_mem_cons]
    refine ⟨⟨?name, ?description, ?unit, ?rest⟩, regular⟩
    case name => exact Json.regular_string metric.name
    case description => exact Json.regular_string metric.description
    case unit => exact Json.regular_string metric.unit
    case rest => exact List.forall_mem_nil _

theorem Metric.regular_groupJson (group : ScopeGroup Metric) : (groupJson group).Every Json.Regular := by
  have scope := group.scope.view.regular_toJson
  rw [Scope.toJson_view] at scope
  exact Json.regular_pair (by decide) scope (Json.regular_map Metric.regular_toJson)

theorem MetricsDocument.regular_body (document : MetricsDocument) : document.body.Every Json.Regular := by
  have groups : (Json.array (document.groups.map Metric.groupJson)).Every Json.Regular :=
    Json.regular_map Metric.regular_groupJson
  have root := Json.regular_pair (by decide : "resource" ≠ "scopeMetrics") document.resource.regular_toJson groups
  exact Json.regular_single (Json.regular_element root)

end Telemetry
