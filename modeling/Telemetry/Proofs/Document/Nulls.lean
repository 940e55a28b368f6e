import Telemetry.Proofs.Document.Items
import Telemetry.Proofs.Log.Nulls

/-! Null attributes in documents. Those of resources, of the points of metrics and of spans with their events
and links leave no trace, whatever else a document holds and whether or not it can be written in full. Those
of log records leave one in the records that have nothing but nulls or hide a template behind a null. -/
namespace Telemetry

def Resource.dropNulls (resource : Resource) : Resource :=
  ⟨Attribute.dropNulls resource.attributes⟩

theorem Resource.toJson_dropNulls (resource : Resource) : resource.dropNulls.toJson = resource.toJson := by
  rw [toJson, dropNulls, Attribute.listJson_dropNulls, toJson]

def ScalarPoint.dropNulls {α : Type} (point : ScalarPoint α) : ScalarPoint α :=
  { point with attributes := Attribute.dropNulls point.attributes }

theorem ScalarPoint.toJson_dropNulls {α : Type} [ScalarNumber α] (point : ScalarPoint α) :
    point.dropNulls.toJson = point.toJson := by
  rw [toJson, dropNulls, Attribute.listJson_dropNulls, toJson]

def HistogramPoint.dropNulls (point : HistogramPoint) : HistogramPoint :=
  { point with attributes := Attribute.dropNulls point.attributes }

theorem HistogramPoint.toJson_dropNulls (point : HistogramPoint) : point.dropNulls.toJson = point.toJson := by
  rw [toJson, dropNulls, Attribute.listJson_dropNulls, toJson]

namespace MetricData

def dropNulls : MetricData → MetricData
  | .longSum points => .longSum (points.map (·.dropNulls))
  | .doubleSum points => .doubleSum (points.map (·.dropNulls))
  | .longGauge points => .longGauge (points.map (·.dropNulls))
  | .doubleGauge points => .doubleGauge (points.map (·.dropNulls))
  | .histogram points => .histogram (points.map (·.dropNulls))

theorem members_dropNulls (data : MetricData) : data.dropNulls.members = data.members := by
  cases data <;>
    simp only [dropNulls, members, sumMembers, gaugeMembers, histogramMembers, List.map_map, Function.comp_def,
      ScalarPoint.toJson_dropNulls, HistogramPoint.toJson_dropNulls]

end MetricData

def Metric.dropNulls (metric : Metric) : Metric :=
  { metric with data := metric.data.dropNulls }

theorem Metric.toJson_dropNulls (metric : Metric) : metric.dropNulls.toJson = metric.toJson := by
  rw [toJson, dropNulls, MetricData.members_dropNulls, toJson]

def SpanEvent.dropNulls (event : SpanEvent) : SpanEvent :=
  { event with attributes := Attribute.dropNulls event.attributes }

theorem SpanEvent.toJson_dropNulls (limit : Option Nat) (event : SpanEvent) :
    event.dropNulls.toJson limit = event.toJson limit := by
  rw [toJson, dropNulls, Attribute.member?_dropNulls, toJson]

def SpanLink.dropNulls (link : SpanLink) : SpanLink :=
  { link with attributes := Attribute.dropNulls link.attributes }

theorem SpanLink.toJson_dropNulls (limit : Option Nat) (link : SpanLink) :
    link.dropNulls.toJson limit = link.toJson limit := by
  rw [toJson, dropNulls, Attribute.member?_dropNulls, toJson]

def Span.dropNulls (span : Span) : Span :=
  { span with
    attributes := Attribute.dropNulls span.attributes
    events := span.events.map (·.dropNulls)
    links := span.links.map (·.dropNulls) }

theorem Span.toJson_dropNulls (limit : Option Nat) (span : Span) :
    span.dropNulls.toJson limit = span.toJson limit := by
  rw [toJson, toJson]
  simp only [dropNulls, Attribute.member?_dropNulls, List.isEmpty_map, List.map_map, Function.comp_def,
    SpanEvent.toJson_dropNulls, SpanLink.toJson_dropNulls]
  rfl

/-- Groups are written alike when their items are and keep their scopes. -/
theorem ScopeGroup.map_runs_of_written {α : Type} {scopeOf : α → Scope} {groupJson : ScopeGroup α → Json}
    {change : α → α} (keeps : ∀ item, scopeOf (change item) = scopeOf item)
    (written : ∀ group, groupJson ⟨group.scope, group.items.map change⟩ = groupJson group) (items : List α) :
    (runs scopeOf (items.map change)).map groupJson = (runs scopeOf items).map groupJson := by
  rw [runs_map scopeOf keeps, List.map_map]
  exact List.map_congr_left fun group _ => written group

namespace Signal

variable (resource : Resource) (limits : AttributeLimits)

theorem document_dropNulls_resource (signal : Signal) (items : List signal.Item) :
    signal.document resource.dropNulls limits items = signal.document resource limits items := by
  have same := resource.toJson_dropNulls
  cases signal with
  | logs => simp only [document, LogsDocument.toDocument, LogsDocument.body, same]
  | metrics => simp only [document, MetricsDocument.toDocument, MetricsDocument.body, MetricsDocument.groups, same]
  | traces => simp only [document, TracesDocument.toDocument, TracesDocument.body, TracesDocument.groups, same]

theorem document_dropNulls_metrics (items : List Metric) :
    metrics.document resource limits (items.map (·.dropNulls)) = metrics.document resource limits items := by
  have keeps : ∀ metric : Metric, metric.dropNulls.scope = metric.scope := fun _ => rfl
  have groups : ∀ group : ScopeGroup Metric,
      Metric.groupJson ⟨group.scope, group.items.map (·.dropNulls)⟩ = Metric.groupJson group := by
    intro group
    simp only [Metric.groupJson, List.map_map, Function.comp_def, Metric.toJson_dropNulls]
  have same := ScopeGroup.map_runs_of_written keeps groups items
  simp only [document, MetricsDocument.toDocument, MetricsDocument.body, MetricsDocument.groups, same]

theorem document_dropNulls_traces (items : List Span) :
    traces.document resource limits (items.map (·.dropNulls)) = traces.document resource limits items := by
  have keeps : ∀ span : Span, span.dropNulls.scope = span.scope := fun _ => rfl
  have groups : ∀ group : ScopeGroup Span,
      Span.groupJson limits.valueLength ⟨group.scope, group.items.map (·.dropNulls)⟩ =
        Span.groupJson limits.valueLength group := by
    intro group
    simp only [Span.groupJson, List.map_map, Function.comp_def, Span.toJson_dropNulls]
  have same := ScopeGroup.map_runs_of_written keeps groups items
  simp only [document, TracesDocument.toDocument, TracesDocument.body, TracesDocument.groups, same]

end Signal

section Logs

variable {resource : Resource} {limits : AttributeLimits}

theorem Signal.encodable_iff {signal : Signal} {items : List signal.Item} :
    (signal.document resource limits items).failure? = none ↔
      Value.unsupportedIn resource.values = [] ∧ ∀ item ∈ items, Value.unsupportedIn (signal.values item) = [] := by
  rw [failure?_document, Option.map_eq_none_iff, List.head?_eq_none_iff, documentValues, Value.unsupportedIn_append,
    List.append_eq_nil_iff, Value.unsupportedIn_flatMap, List.flatMap_eq_nil_iff]

namespace LogRecord

variable {records : List LogRecord} (encodable : (Signal.logs.document resource limits records).failure? = none)

include encodable

theorem encodable_dropNulls :
    (Signal.logs.document resource limits (records.map (·.dropNulls))).failure? = none := by
  obtain ⟨clean, supported⟩ := Signal.encodable_iff.mp encodable
  refine Signal.encodable_iff.mpr ⟨clean, List.forall_mem_map.mpr ?_⟩
  exact fun record member => supported_dropNulls (supported record member)

theorem printable_toJson {record : LogRecord} (member : record ∈ records) :
    (record.toJson limits.valueLength).Printable := by
  have regular : (record.toJson limits.valueLength).Every Json.Regular := by
    rw [← toJson_view]
    exact (record.view limits.valueLength).regular_toJson
  exact ((Signal.filled_of_encodable encodable).2 record member).and regular

theorem itemText_dropNulls_iff {record : LogRecord} (member : record ∈ records) :
    Signal.logs.itemText limits record.dropNulls = Signal.logs.itemText limits record ↔
      ¬record.OnlyNulls ∧ ¬record.HiddenTemplate := by
  have printable := printable_toJson encodable member
  have also := printable_toJson (encodable_dropNulls encodable) (List.mem_map_of_mem member)
  rw [← record.toJson_dropNulls_iff limits.valueLength]
  exact ⟨Json.render_injective also printable, congrArg Json.render⟩

theorem bytes_dropNulls_iff :
    Text.utf8 (Signal.logs.document resource limits (records.map (·.dropNulls))).text =
        Text.utf8 (Signal.logs.document resource limits records).text ↔
      ∀ record ∈ records, ¬record.OnlyNulls ∧ ¬record.HiddenTemplate := by
  have regular := Signal.logs.regular_document resource limits
  have bodies : ∀ items others : List LogRecord,
      (Signal.logs.document resource limits items).body = (Signal.logs.document resource limits others).body ↔
        items.map (·.toJson limits.valueLength) = others.map (·.toJson limits.valueLength) := by
    intro items others
    constructor
    · intro same
      have read := congrArg (Json.reached Signal.logs.itemPath) same
      rwa [Signal.reached_document, Signal.reached_document] at read
    · intro same
      simp only [Signal.document, LogsDocument.toDocument, LogsDocument.body, same]
  rw [Document.bytes_eq_iff (encodable_dropNulls encodable) encodable (regular _) (regular _) rfl, bodies,
    List.map_map, List.map_inj_left]
  exact forall₂_congr fun record _ => record.toJson_dropNulls_iff limits.valueLength

end LogRecord

end Logs

/-- However a sink takes it, a document is delivered alike without the nulls of its resource, of its metrics
and of its spans. Log records keep their text without their nulls, unless a list of nothing but nulls goes
with them or a hidden template comes to light. -/
theorem nulls_are_transparent :
    (∀ (σ : Type) (sink : Sink σ) (state : σ) (resource : Resource) (limits : AttributeLimits),
      (∀ (signal : Signal) (items : List signal.Item),
        sink.deliver state (signal.document resource.dropNulls limits items) =
          sink.deliver state (signal.document resource limits items)) ∧
      (∀ metrics : List Metric,
        sink.deliver state (Signal.metrics.document resource limits (metrics.map (·.dropNulls))) =
          sink.deliver state (Signal.metrics.document resource limits metrics)) ∧
      (∀ spans : List Span,
        sink.deliver state (Signal.traces.document resource limits (spans.map (·.dropNulls))) =
          sink.deliver state (Signal.traces.document resource limits spans))) ∧
    (∀ (resource : Resource) (limits : AttributeLimits) (records : List LogRecord),
      (Signal.logs.document resource limits records).failure? = none →
        (Signal.logs.document resource limits (records.map (·.dropNulls))).failure? = none ∧
        (∀ record ∈ records,
          Signal.logs.itemText limits record.dropNulls = Signal.logs.itemText limits record ↔
            ¬record.OnlyNulls ∧ ¬record.HiddenTemplate) ∧
        (Text.utf8 (Signal.logs.document resource limits (records.map (·.dropNulls))).text =
            Text.utf8 (Signal.logs.document resource limits records).text ↔
          ∀ record ∈ records, ¬record.OnlyNulls ∧ ¬record.HiddenTemplate)) := by
  refine ⟨?deliveries, ?records⟩
  case deliveries =>
    intro σ sink state resource limits
    refine ⟨?resources, ?metrics, ?spans⟩
    case resources =>
      intro signal items
      rw [Signal.document_dropNulls_resource]
    case metrics =>
      intro metrics
      rw [Signal.document_dropNulls_metrics]
    case spans =>
      intro spans
      rw [Signal.document_dropNulls_traces]
  case records =>
    intro resource limits records encodable
    exact ⟨LogRecord.encodable_dropNulls encodable, fun _ => LogRecord.itemText_dropNulls_iff encodable,
      LogRecord.bytes_dropNulls_iff encodable⟩

def LogRecord.withAttributes (attributes : List Attribute) : LogRecord :=
  ⟨.epoch, none, none, none, attributes, some (.text "started"), .invalid, .invalid⟩

def LogRecord.partlyNull : LogRecord :=
  .withAttributes [⟨"host", none⟩, ⟨"task", some (.text "compaction")⟩]

def LogRecord.hiding : LogRecord :=
  .withAttributes [⟨"\x7bOriginalFormat\x7d", none⟩, ⟨"\x7bOriginalFormat\x7d", some (.text "started")⟩]

theorem nulls_are_transparent_hiding :
    (Signal.logs.document .empty .unlimited [.partlyNull, .hiding]).failure? = none ∧
      Signal.logs.itemText .unlimited LogRecord.partlyNull.dropNulls =
        Signal.logs.itemText .unlimited .partlyNull ∧
      Signal.logs.itemText .unlimited LogRecord.hiding.dropNulls ≠ Signal.logs.itemText .unlimited .hiding ∧
      Text.utf8 (Signal.logs.document .empty .unlimited
          [LogRecord.partlyNull.dropNulls, LogRecord.hiding.dropNulls]).text ≠
        Text.utf8 (Signal.logs.document .empty .unlimited [.partlyNull, .hiding]).text := by
  have encodable : (Signal.logs.document .empty .unlimited [.partlyNull, .hiding]).failure? = none := by decide
  obtain ⟨_, records⟩ := nulls_are_transparent
  obtain ⟨_, texts, bytes⟩ := records .empty .unlimited [.partlyNull, .hiding] encodable
  have plain : ¬LogRecord.partlyNull.OnlyNulls ∧ ¬LogRecord.partlyNull.HiddenTemplate := by
    constructor
    · intro only
      have task := only.null ⟨"task", some (.text "compaction")⟩ (by
        simp [LogRecord.partlyNull, LogRecord.withAttributes])
      contradiction
    · intro hidden
      obtain ⟨before, after, first⟩ := hidden.null
      have member : (⟨"\x7bOriginalFormat\x7d", none⟩ : Attribute) ∈ LogRecord.partlyNull.attributes := by
        rw [first.whole]
        exact List.mem_append_cons_self
      simp [LogRecord.partlyNull, LogRecord.withAttributes] at member
  have hidden : LogRecord.hiding.HiddenTemplate := by
    refine ⟨rfl, ⟨[], [⟨"\x7bOriginalFormat\x7d", some (.text "started")⟩], rfl, List.forall_mem_nil _⟩, ?_⟩
    exact ⟨[⟨"\x7bOriginalFormat\x7d", none⟩], .text "started", [], "started", rfl, by simp, .inl rfl⟩
  refine ⟨encodable, (texts .partlyNull (by simp)).mpr plain, ?_, ?_⟩
  · exact fun same => ((texts .hiding (by simp)).mp same).2 hidden
  · exact fun same => (bytes.mp same .hiding (by simp)).2 hidden

end Telemetry
