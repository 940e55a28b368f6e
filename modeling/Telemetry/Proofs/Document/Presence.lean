import Telemetry.Proofs.Document.Items
import Telemetry.Proofs.Log.View
import Telemetry.Proofs.Span.Lists
import Telemetry.Proofs.Span.Presence

/-! What is absent and what is empty. In traces whatever would be empty is absent. Every point of a metric
has its attributes, even where there are none to show, and a log record has them when it has any at all,
even if they are all null. -/
namespace Telemetry

def Json.points (metric : Json) : List Json :=
  (["sum", "gauge", "histogram"].flatMap fun shape => metric.membersNamed shape).flatMap (reached ["dataPoints"])

namespace MetricData

def pointAttributes : MetricData → List (List Attribute)
  | .longSum points => points.map (·.attributes)
  | .doubleSum points => points.map (·.attributes)
  | .longGauge points => points.map (·.attributes)
  | .doubleGauge points => points.map (·.attributes)
  | .histogram points => points.map (·.attributes)

end MetricData

def Attribute.AlwaysShownIn (attributes : List Attribute) (point : Json) : Prop :=
  point.membersNamed "attributes" = [.array ((present attributes).map (entryJson none))]

theorem ScalarPoint.alwaysShownIn {α : Type} [ScalarNumber α] [LawfulScalar α] (point : ScalarPoint α) :
    Attribute.AlwaysShownIn point.attributes point.toJson := by
  have apart : (ScalarNumber.valueMember point.value).1 ≠ "attributes" := by
    rcases LawfulScalar.named point.value with name | name <;> simp [name]
  rw [Attribute.AlwaysShownIn, ← Attribute.listJson_eq_entries]
  simp [toJson, Json.membersNamed, apart]

theorem HistogramPoint.alwaysShownIn (point : HistogramPoint) :
    Attribute.AlwaysShownIn point.attributes point.toJson := by
  rw [Attribute.AlwaysShownIn, ← Attribute.listJson_eq_entries]
  rfl

structure Metric.ShownBy (metric : Metric) (node : Json) : Prop where
  name : node.membersNamed "name" = [.string metric.name]
  points : List.Forall₂ Attribute.AlwaysShownIn metric.data.pointAttributes node.points

namespace MetricData

private theorem points_of_shape {α : Type} {points : List α} {attributesOf : α → List Attribute}
    {toJson : α → Json} {node : Json} (each : ∀ point, Attribute.AlwaysShownIn (attributesOf point) (toJson point))
    (found : node.points = points.map toJson) :
    List.Forall₂ Attribute.AlwaysShownIn (points.map attributesOf) node.points := by
  rw [found, List.forall₂_map_left_iff, List.forall₂_map_right_iff, List.forall₂_same]
  exact fun point _ => each point

end MetricData

theorem Metric.shownBy (metric : Metric) : metric.ShownBy metric.toJson := by
  have named : metric.toJson.membersNamed "name" = [.string metric.name] := by
    rw [toJson]
    cases metric.data <;> rfl
  refine ⟨named, ?_⟩
  obtain ⟨name, description, unit, scope, data⟩ := metric
  cases data with
  | longSum points | doubleSum points =>
    apply MetricData.points_of_shape ScalarPoint.alwaysShownIn
    simp [toJson, MetricData.members, MetricData.sumMembers, MetricData.cumulative, Json.points, Json.membersNamed,
      Json.reached, Json.elements]
  | longGauge points | doubleGauge points =>
    apply MetricData.points_of_shape ScalarPoint.alwaysShownIn
    simp [toJson, MetricData.members, MetricData.gaugeMembers, Json.points, Json.membersNamed, Json.reached,
      Json.elements]
  | histogram points =>
    apply MetricData.points_of_shape HistogramPoint.alwaysShownIn
    simp [toJson, MetricData.members, MetricData.histogramMembers, MetricData.cumulative, Json.points,
      Json.membersNamed, Json.reached, Json.elements]

structure LogRecord.ShownBy (limit : Option Nat) (record : LogRecord) (node : Json) : Prop where
  attributes : node.MemberIff "attributes" (record.attributes ≠ []) fun value =>
    value = .array ((Attribute.present record.contentView.2).map (Attribute.entryJson limit))

theorem LogRecord.shownBy (limit : Option Nat) (record : LogRecord) :
    record.ShownBy limit (record.toJson limit) := by
  have member := record.membersNamed_attributes limit
  have written : record.contentView.2 = record.writtenAttributes := congrArg Prod.snd record.contentView_eq
  constructor
  rw [written]
  by_cases none : record.attributes = []
  · rw [if_pos none] at member
    exact .of_none member (not_not_intro none)
  · rw [if_neg none] at member
    exact .of_some member none rfl

theorem presence_follows_content (resource : Resource) (limits : AttributeLimits) :
    (∀ spans : List Span, (Signal.traces.document resource limits spans).failure? = none →
      let nodes := Signal.traces.itemsRead (Text.utf8 (Signal.traces.document resource limits spans).text)
      List.Forall₂ (Span.ShownBy limits.valueLength) spans nodes ∧ ∀ node ∈ nodes, node.Every Json.ListsFilled) ∧
    (∀ metrics : List Metric, (Signal.metrics.document resource limits metrics).failure? = none →
      List.Forall₂ Metric.ShownBy metrics
        (Signal.metrics.itemsRead (Text.utf8 (Signal.metrics.document resource limits metrics).text))) ∧
    (∀ records : List LogRecord, (Signal.logs.document resource limits records).failure? = none →
      List.Forall₂ (LogRecord.ShownBy limits.valueLength) records
        (Signal.logs.itemsRead (Text.utf8 (Signal.logs.document resource limits records).text))) := by
  refine ⟨?traces, ?metrics, ?logs⟩
  case traces =>
    intro spans encodable
    refine ⟨Signal.traces.forall₂_itemsRead resource limits spans (Span.shownBy limits.valueLength) encodable, ?_⟩
    rw [Signal.itemsRead_document _ _ _ _ encodable, List.forall_mem_map]
    intro span _
    rw [Signal.itemJson, ← Span.toJson_view]
    exact SpanView.listsFilled _
  case metrics =>
    intro metrics encodable
    exact Signal.metrics.forall₂_itemsRead resource limits metrics Metric.shownBy encodable
  case logs =>
    intro records encodable
    exact Signal.logs.forall₂_itemsRead resource limits records (LogRecord.shownBy limits.valueLength) encodable

def Span.sparse : Span :=
  ⟨⟨1⟩, ⟨2⟩, .invalid, "compact", .internal, .epoch, .zero, .error "", [⟨"host", none⟩],
    [⟨"start", .epoch, [⟨"host", none⟩, ⟨"task", some (.int 7)⟩]⟩], [], ⟨"store", none, none, []⟩⟩

def Metric.sparse : Metric :=
  ⟨"jobs", "", "1", ⟨"worker", none, none, []⟩, .longSum [⟨.epoch, .epoch, [⟨"host", none⟩], 1⟩]⟩

def LogRecord.sparse : LogRecord :=
  ⟨.epoch, none, none, none, [⟨"host", none⟩], none, .invalid, .invalid⟩

theorem presence_follows_content_sparse :
    (Signal.traces.document .empty .unlimited [.sparse]).failure? = none ∧
      List.Forall₂ (Span.ShownBy none) [.sparse]
        (Signal.traces.itemsRead (Text.utf8 (Signal.traces.document .empty .unlimited [.sparse]).text)) ∧
      (Signal.metrics.document .empty .unlimited [.sparse]).failure? = none ∧
      List.Forall₂ Metric.ShownBy [.sparse]
        (Signal.metrics.itemsRead (Text.utf8 (Signal.metrics.document .empty .unlimited [.sparse]).text)) ∧
      (Signal.logs.document .empty .unlimited [.sparse]).failure? = none ∧
      List.Forall₂ (LogRecord.ShownBy none) [.sparse]
        (Signal.logs.itemsRead (Text.utf8 (Signal.logs.document .empty .unlimited [.sparse]).text)) := by
  obtain ⟨traces, metrics, logs⟩ := presence_follows_content .empty .unlimited
  have spans : (Signal.traces.document .empty .unlimited [.sparse]).failure? = none := by decide
  have points : (Signal.metrics.document .empty .unlimited [.sparse]).failure? = none := by decide
  have records : (Signal.logs.document .empty .unlimited [.sparse]).failure? = none := by decide
  exact ⟨spans, (traces _ spans).1, points, metrics _ points, records, logs _ records⟩

end Telemetry
