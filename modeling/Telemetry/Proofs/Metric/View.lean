import Telemetry.Metric.Document
import Telemetry.Proofs.Document
import Telemetry.Proofs.Instant.Reading
import Telemetry.Proofs.Metric.Regular
import Telemetry.Proofs.Scope
import Telemetry.Proofs.Value.View

/-! What a metrics document tells. The view of a batch of metrics holds all that the bytes of its document
depend on and all that can be recovered from them. Every scalar point tells whether its number is an
integer, and nothing else tells it, so the types of two metrics without points are not told apart. -/
namespace Telemetry

inductive NumberView where
  | int (i : Int64)
  | double (x : Option FiniteDouble)

structure ScalarPointView where
  start : Nat
  time : Nat
  value : NumberView
  attributes : List AttributeView

structure HistogramPointView where
  start : Nat
  time : Nat
  count : UInt64
  sum : Option FiniteDouble
  buckets : List UInt64
  bounds : List (Option FiniteDouble)
  attributes : List AttributeView
  length_buckets : buckets.length = bounds.length + 1

inductive MetricDataView where
  | sum (points : List ScalarPointView)
  | gauge (points : List ScalarPointView)
  | histogram (points : List HistogramPointView)

structure MetricView where
  name : String
  description : String
  unit : String
  data : MetricDataView

structure MetricGroupView where
  scope : ScopeView
  metrics : List MetricView

structure MetricsView where
  resource : List AttributeView
  groups : List MetricGroupView

namespace NumberView

def member : NumberView → String × Json
  | .int i => ("asInt", .integer i.toInt)
  | .double x => ("asDouble", FiniteDouble.toJson x)

theorem member_injective : Function.Injective member := by
  intro number other same
  cases number with
  | int i =>
    cases other with
    | int j => rw [Int64.toInt_inj.mp (Decimal.integer_injective (Json.number.inj (Prod.mk.inj same).2))]
    | double y => exact absurd (Prod.mk.inj same).1 (by decide)
  | double x =>
    cases other with
    | int j => exact absurd (Prod.mk.inj same).1 (by decide)
    | double y => rw [FiniteDouble.toJson_injective (Prod.mk.inj same).2]

end NumberView

namespace ScalarPointView

def toJson (point : ScalarPointView) : Json :=
  .object [("startTimeUnixNano", .natural point.start), ("timeUnixNano", .natural point.time),
    point.value.member, ("attributes", .array (point.attributes.map AttributeView.toJson))]

theorem toJson_injective : Function.Injective toJson := by
  intro point other same
  simp only [toJson, Json.object.injEq, List.cons.injEq, Prod.mk.injEq, true_and, and_true] at same
  obtain ⟨starts, times, members, attributes⟩ := same
  have start := Decimal.natural_injective (Json.number.inj starts)
  have time := Decimal.natural_injective (Json.number.inj times)
  have value := NumberView.member_injective members
  have entries := Json.array_map_injective AttributeView.toJson_injective attributes
  cases point
  cases other
  simp only at start time value entries
  rw [start, time, value, entries]

end ScalarPointView

namespace HistogramPointView

def toJson (point : HistogramPointView) : Json :=
  .object [("startTimeUnixNano", .natural point.start), ("timeUnixNano", .natural point.time),
    ("count", .natural point.count.toNat), ("sum", FiniteDouble.toJson point.sum),
    ("bucketCounts", .array (point.buckets.map (.natural ·.toNat))),
    ("explicitBounds", .array (point.bounds.map FiniteDouble.toJson)),
    ("attributes", .array (point.attributes.map AttributeView.toJson))]

private theorem natural_toNat_injective : Function.Injective fun n : UInt64 => Json.natural n.toNat :=
  fun _ _ same => UInt64.toNat_inj.mp (Decimal.natural_injective (Json.number.inj same))

theorem toJson_injective : Function.Injective toJson := by
  intro point other same
  simp only [toJson, Json.object.injEq, List.cons.injEq, Prod.mk.injEq, true_and, and_true] at same
  obtain ⟨starts, times, counts, sums, rows, limits, attributes⟩ := same
  have start := Decimal.natural_injective (Json.number.inj starts)
  have time := Decimal.natural_injective (Json.number.inj times)
  have count := natural_toNat_injective counts
  have sum := FiniteDouble.toJson_injective sums
  have buckets := Json.array_map_injective natural_toNat_injective rows
  have bounds := Json.array_map_injective FiniteDouble.toJson_injective limits
  have entries := Json.array_map_injective AttributeView.toJson_injective attributes
  cases point
  cases other
  simp only at start time count sum buckets bounds entries
  subst start time count sum buckets bounds entries
  rfl

end HistogramPointView

namespace MetricDataView

def members : MetricDataView → List (String × Json)
  | .sum points => [("type", .string "sum"), ("sum", .object [("monotonic", .bool true), MetricData.cumulative,
      ("dataPoints", .array (points.map ScalarPointView.toJson))])]
  | .gauge points => [("type", .string "gauge"),
      ("gauge", .object [("dataPoints", .array (points.map ScalarPointView.toJson))])]
  | .histogram points => [("type", .string "histogram"), ("histogram", .object [MetricData.cumulative,
      ("dataPoints", .array (points.map HistogramPointView.toJson))])]

theorem members_injective : Function.Injective members := by
  intro data other same
  cases data <;> cases other <;> simp [members] at same
  case sum.sum => rw [List.map_injective_iff.mpr ScalarPointView.toJson_injective same]
  case gauge.gauge => rw [List.map_injective_iff.mpr ScalarPointView.toJson_injective same]
  case histogram.histogram => rw [List.map_injective_iff.mpr HistogramPointView.toJson_injective same]

end MetricDataView

namespace MetricView

def toJson (metric : MetricView) : Json :=
  .object ([("name", .string metric.name), ("description", .string metric.description),
    ("unit", .string metric.unit)] ++ metric.data.members)

theorem toJson_injective : Function.Injective toJson := by
  rintro ⟨name, description, unit, data⟩ ⟨name', description', unit', data'⟩ same
  simp only [toJson, Json.object.injEq, List.cons_append, List.nil_append, List.cons.injEq, Prod.mk.injEq,
    Json.string.injEq, true_and] at same
  obtain ⟨rfl, rfl, rfl, members⟩ := same
  rw [MetricDataView.members_injective members]

end MetricView

namespace MetricGroupView

def toJson (group : MetricGroupView) : Json :=
  .object [("scope", group.scope.toJson), ("metrics", .array (group.metrics.map MetricView.toJson))]

theorem toJson_injective : Function.Injective toJson := by
  rintro ⟨scope, metrics⟩ ⟨scope', metrics'⟩ same
  simp only [toJson, Json.object.injEq, Json.array.injEq, List.cons.injEq, Prod.mk.injEq, and_true,
    true_and] at same
  obtain ⟨scopes, batches⟩ := same
  rw [ScopeView.toJson_injective scopes, List.map_injective_iff.mpr MetricView.toJson_injective batches]

end MetricGroupView

namespace MetricsView

def toJson (view : MetricsView) : Json :=
  .object [("resourceMetrics", .array [.object
    [("resource", .object [("attributes", .array (view.resource.map AttributeView.toJson))]),
      ("scopeMetrics", .array (view.groups.map MetricGroupView.toJson))]])]

theorem toJson_injective : Function.Injective toJson := by
  rintro ⟨resource, groups⟩ ⟨resource', groups'⟩ same
  simp only [toJson, Json.object.injEq, Json.array.injEq, List.cons.injEq, Prod.mk.injEq, and_true,
    true_and] at same
  obtain ⟨resources, batches⟩ := same
  rw [List.map_injective_iff.mpr AttributeView.toJson_injective resources,
    List.map_injective_iff.mpr MetricGroupView.toJson_injective batches]

end MetricsView

section Points

variable {α : Type}

def ScalarPoint.view (number : α → NumberView) (point : ScalarPoint α) : ScalarPointView where
  start := Instant.clamped point.start.nanoseconds
  time := Instant.clamped point.time.nanoseconds
  value := number point.value
  attributes := Attribute.views none point.attributes

variable [ScalarNumber α] {number : α → NumberView}

theorem ScalarPoint.toJson_view (tells : ∀ a, (number a).member = ScalarNumber.valueMember a)
    (point : ScalarPoint α) : (point.view number).toJson = point.toJson := by
  rw [ScalarPointView.toJson, view, toJson, Attribute.listJson_eq, tells, Instant.unixNanoseconds_eq_clamped,
    Instant.unixNanoseconds_eq_clamped]

theorem ScalarPoint.map_toJson_view (tells : ∀ a, (number a).member = ScalarNumber.valueMember a)
    (points : List (ScalarPoint α)) :
    (points.map (·.view number)).map ScalarPointView.toJson = points.map (·.toJson) := by
  rw [List.map_map]
  exact List.map_congr_left fun point _ => point.toJson_view tells

end Points

def NumberView.ofDouble (x : Float) : NumberView :=
  .double (FiniteDouble.ofFloat? x)

theorem NumberView.member_ofDouble (x : Float) : (ofDouble x).member = ScalarNumber.valueMember x := by
  rw [ofDouble, member, FiniteDouble.toJson_ofFloat?]
  rfl

def HistogramPoint.view (point : HistogramPoint) : HistogramPointView where
  start := Instant.clamped point.start.nanoseconds
  time := Instant.clamped point.time.nanoseconds
  count := point.count
  sum := FiniteDouble.ofFloat? point.sum
  buckets := point.buckets
  bounds := point.bounds.map FiniteDouble.ofFloat?
  attributes := Attribute.views none point.attributes
  length_buckets := by rw [List.length_map, point.length_buckets]

theorem HistogramPoint.toJson_view (point : HistogramPoint) : point.view.toJson = point.toJson := by
  have bounds : (point.bounds.map FiniteDouble.ofFloat?).map FiniteDouble.toJson = point.bounds.map .double := by
    rw [List.map_map]
    exact List.map_congr_left fun bound _ => FiniteDouble.toJson_ofFloat? bound
  rw [HistogramPointView.toJson, toJson, Attribute.listJson_eq]
  simp only [view, bounds, FiniteDouble.toJson_ofFloat?, Instant.unixNanoseconds_eq_clamped]

namespace MetricData

def view : MetricData → MetricDataView
  | .longSum points => .sum (points.map (·.view .int))
  | .doubleSum points => .sum (points.map (·.view .ofDouble))
  | .longGauge points => .gauge (points.map (·.view .int))
  | .doubleGauge points => .gauge (points.map (·.view .ofDouble))
  | .histogram points => .histogram (points.map (·.view))

theorem members_view (data : MetricData) : data.view.members = data.members := by
  have integers : ∀ points : List (ScalarPoint Int64),
      (points.map (·.view .int)).map ScalarPointView.toJson = points.map (·.toJson) :=
    ScalarPoint.map_toJson_view fun _ => rfl
  have doubles := ScalarPoint.map_toJson_view NumberView.member_ofDouble
  have rows : ∀ points : List HistogramPoint,
      (points.map (·.view)).map HistogramPointView.toJson = points.map (·.toJson) := by
    intro points
    rw [List.map_map]
    exact List.map_congr_left fun point _ => point.toJson_view
  cases data with
  | longSum points => rw [view, MetricDataView.members, integers]; rfl
  | doubleSum points => rw [view, MetricDataView.members, doubles]; rfl
  | longGauge points => rw [view, MetricDataView.members, integers]; rfl
  | doubleGauge points => rw [view, MetricDataView.members, doubles]; rfl
  | histogram points => rw [view, MetricDataView.members, rows]; rfl

/-- Points of integers and points of doubles look the same only where there are none. -/
theorem views_eq_iff (long : List (ScalarPoint Int64)) (double : List (ScalarPoint Float)) :
    long.map (·.view .int) = double.map (·.view .ofDouble) ↔ long = [] ∧ double = [] := by
  constructor
  · intro same
    cases long with
    | nil => exact ⟨rfl, List.map_eq_nil_iff.mp same.symm⟩
    | cons point long =>
      cases double with
      | nil => contradiction
      | cons other double => exact nomatch congrArg ScalarPointView.value (List.cons.inj same).1
  · rintro ⟨rfl, rfl⟩
    rfl

end MetricData

def Metric.view (metric : Metric) : MetricView where
  name := metric.name
  description := metric.description
  unit := metric.unit
  data := metric.data.view

theorem Metric.toJson_view (metric : Metric) : metric.view.toJson = metric.toJson := by
  rw [MetricView.toJson, view, toJson, MetricData.members_view]

def Metric.groupView? (metrics : List Metric) : Option MetricGroupView :=
  metrics.head?.map fun first => ⟨first.scope.view, metrics.map (·.view)⟩

theorem Metric.toJson_groupView (metrics : List Metric) :
    (groupView? metrics).map MetricGroupView.toJson =
      metrics.head?.map fun first => groupJson ⟨first.scope, metrics⟩ := by
  have items : (metrics.map (·.view)).map MetricView.toJson = metrics.map (·.toJson) := by
    rw [List.map_map]
    exact List.map_congr_left fun metric _ => metric.toJson_view
  rw [groupView?, Option.map_map]
  congr 1
  funext first
  rw [Function.comp, MetricGroupView.toJson, items, Scope.toJson_view, groupJson]

namespace MetricsDocument

def view (document : MetricsDocument) : MetricsView where
  resource := Attribute.views none document.resource.attributes
  groups := (document.metrics.splitBy fun metric next =>
      metric.scope.name = next.scope.name ∧ metric.scope.version = next.scope.version).filterMap
    Metric.groupView?

theorem toJson_view (document : MetricsDocument) : document.view.toJson = document.body := by
  have groups : document.view.groups.map MetricGroupView.toJson = document.groups.map Metric.groupJson :=
    ScopeGroup.map_views (·.scope) Metric.toJson_groupView document.metrics
  rw [MetricsView.toJson, groups, body, Resource.toJson, Attribute.listJson_eq]
  rfl

def bare (document : MetricsDocument) : MetricsDocument :=
  { document with metrics := document.metrics.map fun metric => { metric with scope := metric.scope.bare } }

theorem view_bare (document : MetricsDocument) : document.bare.view = document.view := by
  have hidden : ∀ run : List Metric, Metric.groupView?
      (run.map fun metric => { metric with scope := metric.scope.bare }) = Metric.groupView? run := by
    intro run
    rw [Metric.groupView?, Metric.groupView?, List.head?_map, Option.map_map, List.map_map]
    rfl
  exact congrArg (MetricsView.mk _) (ScopeGroup.filterMap_views hidden _ document.metrics)

/-- Documents of metrics have the same bytes just when their views agree. No schema and no attribute of a
scope leaves a trace, and the types of numbers show in the points alone. -/
theorem metrics_bytes_eq_iff {first second : MetricsDocument} (encodable : first.toDocument.failure? = none)
    (also : second.toDocument.failure? = none) :
    (Text.utf8 first.toDocument.text = Text.utf8 second.toDocument.text ↔ first.view = second.view) ∧
      Text.utf8 first.bare.toDocument.text = Text.utf8 first.toDocument.text ∧
      (∀ long double, (MetricData.longSum long).view = (MetricData.doubleSum double).view ↔
        long = [] ∧ double = []) ∧
      (∀ long double, (MetricData.longGauge long).view = (MetricData.doubleGauge double).view ↔
        long = [] ∧ double = []) := by
  have bodies : ∀ document other : MetricsDocument, document.body = other.body ↔ document.view = other.view := by
    intro document other
    rw [← toJson_view, ← toJson_view]
    exact MetricsView.toJson_injective.eq_iff
  refine ⟨?bytes, ?scopes, ?sums, ?gauges⟩
  case bytes =>
    rw [Document.bytes_eq_iff encodable also (regular_body first) (regular_body second) rfl]
    exact bodies first second
  case scopes =>
    have same := (bodies first.bare first).mpr (view_bare first)
    rw [toDocument, toDocument, same]
  case sums =>
    intro long double
    rw [← MetricData.views_eq_iff]
    exact ⟨MetricDataView.sum.inj, congrArg MetricDataView.sum⟩
  case gauges =>
    intro long double
    rw [← MetricData.views_eq_iff]
    exact ⟨MetricDataView.gauge.inj, congrArg MetricDataView.gauge⟩

def single (data : MetricData) : MetricsDocument :=
  ⟨.empty, [⟨"jobs", "", "1", ⟨"worker", none, none, []⟩, data⟩]⟩

theorem data_of_view_single {data other : MetricData} (same : (single data).view = (single other).view) :
    data.view = other.view := by
  have groups := congrArg (fun view : MetricsView => view.groups.map fun group => group.metrics.map (·.data)) same
  have shown : [[data.view]] = [[other.view]] := groups
  exact (List.cons.inj (List.cons.inj shown).1).1

def oneAt {α : Type} (time : Instant) (value : α) : ScalarPoint α :=
  ⟨.epoch, time, [⟨"queue", some (.text "mail")⟩, ⟨"host", none⟩], value⟩

/-- Sums without points are alike, and an integer is told from a double of the same value. A point from before the
epoch has the bytes of one at the epoch, and a later point has others. -/
theorem metrics_bytes_eq_iff_numbers :
    (single (.longSum [])).toDocument.failure? = none ∧
      (single (.doubleSum [])).toDocument.failure? = none ∧
      (single (.longSum [oneAt .epoch 1])).toDocument.failure? = none ∧
      (single (.doubleSum [oneAt .epoch 1.0])).toDocument.failure? = none ∧
      Text.utf8 (single (.longSum [])).toDocument.text = Text.utf8 (single (.doubleSum [])).toDocument.text ∧
      Text.utf8 (single (.longSum [oneAt .epoch 1])).toDocument.text ≠
        Text.utf8 (single (.doubleSum [oneAt .epoch 1.0])).toDocument.text ∧
      Text.utf8 (single (.longSum [oneAt .beforeEpoch 1])).toDocument.text =
        Text.utf8 (single (.longSum [oneAt .epoch 1])).toDocument.text ∧
      Text.utf8 (single (.longSum [oneAt .afterEpoch 1])).toDocument.text ≠
        Text.utf8 (single (.longSum [oneAt .epoch 1])).toDocument.text := by
  have long : (single (.longSum [])).toDocument.failure? = none := by decide
  have double : (single (.doubleSum [])).toDocument.failure? = none := by decide
  have integer : (single (.longSum [oneAt .epoch 1])).toDocument.failure? = none := by decide
  have number : (single (.doubleSum [oneAt .epoch 1.0])).toDocument.failure? = none := by decide
  have early : (single (.longSum [oneAt .beforeEpoch 1])).toDocument.failure? = none := by decide
  have late : (single (.longSum [oneAt .afterEpoch 1])).toDocument.failure? = none := by decide
  refine ⟨long, double, integer, number, (metrics_bytes_eq_iff long double).1.mpr rfl, ?numbers,
    (metrics_bytes_eq_iff early integer).1.mpr rfl, ?times⟩
  case numbers =>
    intro same
    have data := data_of_view_single ((metrics_bytes_eq_iff integer number).1.mp same)
    have points := ((metrics_bytes_eq_iff integer number).2.2.1 _ _).mp data
    exact absurd points.1 (List.cons_ne_nil _ _)
  case times =>
    intro same
    have data := data_of_view_single ((metrics_bytes_eq_iff late integer).1.mp same)
    have points := List.cons.inj (MetricDataView.sum.inj data)
    have times : 1 = 0 := congrArg ScalarPointView.time points.1
    exact absurd times one_ne_zero

end MetricsDocument

end Telemetry
