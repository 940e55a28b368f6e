import Telemetry.Proofs.Recording.Unsupported
import Telemetry.Proofs.Value.Standard

/-! What becomes of collected metrics. Sums, gauges and explicit histograms are converted one by one and in
order, and every other metric is reported as skipped. Points keep their times, their attributes and
their numbers, except that an unsigned number too large for a signed one becomes the largest of these.
The histogram points that are left out are those whose buckets do not fit their bounds. -/
namespace Telemetry

-- Powers are those of the core library, also where Mathlib brings its own.
attribute [local instance (high)] instPowNat

theorem toInt_saturated (n : UInt64) : (saturated n).toInt = min (n.toNat : Int) (2 ^ 63 - 1) := by
  have low : -2 ^ 63 ≤ min (n.toNat : Int) (2 ^ 63 - 1) := by omega
  have high : min (n.toNat : Int) (2 ^ 63 - 1) < 2 ^ 63 := by omega
  exact Int64.toInt_ofInt_of_le low high

structure NumberRule (α β : Type) where
  value : α → β → Prop
  toDouble : α → Float
  sum : List (ScalarPoint β) → MetricData
  gauge : List (ScalarPoint β) → MetricData

namespace NumberRule

def signed : NumberRule Int64 Int64 :=
  ⟨Eq, Int64.toFloat, .longSum, .longGauge⟩

def unsigned : NumberRule UInt64 Int64 :=
  ⟨fun n i => i.toInt = min (n.toNat : Int) (2 ^ 63 - 1), UInt64.toFloat, .longSum, .longGauge⟩

def double : NumberRule Float Float :=
  ⟨Eq, id, .doubleSum, .doubleGauge⟩

structure Point {α β : Type} (rule : NumberRule α β) (start time : Instant) (point : CollectedPoint α)
    (converted : ScalarPoint β) : Prop where
  start : converted.start = start
  time : converted.time = time
  attributes : point.attributes.Become converted.attributes
  value : rule.value point.value converted.value

structure Histogram {α β : Type} (rule : NumberRule α β) (start time : Instant) (point : CollectedHistogramPoint α)
    (converted : HistogramPoint) : Prop where
  start : converted.start = start
  time : converted.time = time
  attributes : point.attributes.Become converted.attributes
  count : converted.count = point.count
  sum : converted.sum = rule.toDouble point.sum
  buckets : converted.buckets = point.buckets
  bounds : converted.bounds = point.bounds

inductive Data {α β : Type} (rule : NumberRule α β) : Aggregation α → MetricData → Prop
  | sum {start time : Instant} {points : List (CollectedPoint α)} {converted : List (ScalarPoint β)}
    (each : List.Forall₂ (rule.Point start time) points converted) :
    Data rule (.sum start time points) (rule.sum converted)
  | gauge {start : Option Instant} {time : Instant} {points : List (CollectedPoint α)}
    {converted : List (ScalarPoint β)} (each : List.Forall₂ (rule.Point (start.getD time) time) points converted) :
    Data rule (.gauge start time points) (rule.gauge converted)
  | histogram {start time : Instant} {points : List (CollectedHistogramPoint α)} {converted : List HistogramPoint}
    (each : List.Forall₂ (rule.Histogram start time)
      (points.filter fun point => point.buckets.length = point.bounds.length + 1) converted) :
    Data rule (.histogram start time points) (.histogram converted)

structure Kept {α β : Type} [CollectedNumber α] (rule : NumberRule α β) : Prop where
  toDouble : ∀ a : α, CollectedNumber.toDouble a = rule.toDouble a
  scalars : ∀ points : List (ScalarPoint α), ∃ converted : List (ScalarPoint β),
    List.Forall₂ (fun point other => other.start = point.start ∧ other.time = point.time ∧
      other.attributes = point.attributes ∧ rule.value point.value other.value) points converted ∧
    CollectedNumber.sumData points = rule.sum converted ∧ CollectedNumber.gaugeData points = rule.gauge converted

/-- A rule that may leave numbers as they are is kept where points become data as they are. -/
theorem kept_of_same {α : Type} [CollectedNumber α] {rule : NumberRule α α} (same : ∀ a, rule.value a a)
    (doubles : ∀ a : α, CollectedNumber.toDouble a = rule.toDouble a) (sums : CollectedNumber.sumData = rule.sum)
    (gauges : CollectedNumber.gaugeData = rule.gauge) : rule.Kept := by
  refine ⟨doubles, ?_⟩
  intro points
  refine ⟨points, List.forall₂_same.mpr ?_, congrFun sums points, congrFun gauges points⟩
  exact fun point _ => ⟨rfl, rfl, rfl, same point.value⟩

theorem signed_kept : signed.Kept :=
  kept_of_same (fun _ => rfl) (fun _ => rfl) rfl rfl

theorem double_kept : double.Kept :=
  kept_of_same (fun _ => rfl) (fun _ => rfl) rfl rfl

theorem unsigned_kept : unsigned.Kept := by
  refine ⟨fun _ => rfl, fun points => ⟨points.map (·.map saturated), ?_, rfl, rfl⟩⟩
  rw [List.forall₂_map_right_iff, List.forall₂_same]
  exact fun point _ => ⟨rfl, rfl, rfl, toInt_saturated point.value⟩

end NumberRule

def Aggregation.kind? {α : Type} (sum gauge : MetricKind) : Aggregation α → Option MetricKind
  | .sum .. => some sum
  | .gauge .. => some gauge
  | .histogram .. => some .histogram
  | .exponentialHistogram .. => none

/-- What is kept by a partial conversion is converted one by one and in order. -/
theorem forall₂_filterMap {α β : Type} {convert? : α → Option β} {keeps : α → Bool} {becomes : α → β → Prop}
    (kept : ∀ a b, convert? a = some b → keeps a = true ∧ becomes a b)
    (left : ∀ a, convert? a = none → keeps a = false) (items : List α) :
    List.Forall₂ becomes (items.filter keeps) (items.filterMap convert?) := by
  induction items with
  | nil => exact .nil
  | cons item items ih =>
    cases converted : convert? item with
    | none =>
      rw [List.filter_cons_of_neg (Bool.eq_false_iff.mp (left item converted)), List.filterMap_cons_none converted]
      exact ih
    | some other =>
      obtain ⟨here, related⟩ := kept item other converted
      rw [List.filter_cons_of_pos here, List.filterMap_cons_some converted]
      exact .cons related ih

section Points

variable {α β : Type} [CollectedNumber α] {rule : NumberRule α β} (follows : rule.Kept) (start time : Instant)

include follows

theorem CollectedPoint.exists_converted (points : List (CollectedPoint α)) : ∃ converted : List (ScalarPoint β),
    List.Forall₂ (rule.Point start time) points converted ∧
      CollectedNumber.sumData (points.map (·.toPoint start time)) = rule.sum converted ∧
      CollectedNumber.gaugeData (points.map (·.toPoint start time)) = rule.gauge converted := by
  obtain ⟨converted, each, sum, gauge⟩ := follows.scalars (points.map (·.toPoint start time))
  refine ⟨converted, ?_, sum, gauge⟩
  rw [List.forall₂_map_left_iff] at each
  apply each.imp
  rintro point _ ⟨starts, times, attributes, value⟩
  exact ⟨starts, times, attributes ▸ point.attributes.become_ofStandard, value⟩

theorem CollectedHistogramPoint.forall₂_toPoint? (points : List (CollectedHistogramPoint α)) :
    List.Forall₂ (rule.Histogram start time)
      (points.filter fun point => point.buckets.length = point.bounds.length + 1)
      (points.filterMap (·.toPoint? start time)) := by
  apply forall₂_filterMap
  case kept =>
    intro point converted same
    rw [toPoint?, HistogramPoint.make] at same
    split at same
    · rename_i fits
      cases same
      refine ⟨decide_eq_true fits, rfl, rfl, ?_, rfl, follows.toDouble point.sum, rfl, rfl⟩
      exact point.attributes.become_ofStandard
    · contradiction
  case left =>
    intro point same
    rw [toPoint?, HistogramPoint.make] at same
    split at same
    · contradiction
    · rename_i misfit
      exact decide_eq_false misfit

theorem Aggregation.toData?_becomes (aggregation : Aggregation α) (sum gauge : MetricKind)
    (sums : ∀ points, (rule.sum points).kind = sum) (gauges : ∀ points, (rule.gauge points).kind = gauge) :
    (∃ data, aggregation.toData? = some data ∧ rule.Data aggregation data ∧
        aggregation.kind? sum gauge = some data.kind) ∨
      aggregation.toData? = none ∧ aggregation.kind? sum gauge = none := by
  cases aggregation with
  | sum start time points =>
    obtain ⟨converted, each, same, _⟩ := CollectedPoint.exists_converted follows start time points
    exact .inl ⟨rule.sum converted, congrArg some same, .sum each, congrArg some (sums converted).symm⟩
  | gauge start time points =>
    obtain ⟨converted, each, _, same⟩ := CollectedPoint.exists_converted follows (start.getD time) time points
    exact .inl ⟨rule.gauge converted, congrArg some same, .gauge each, congrArg some (gauges converted).symm⟩
  | histogram start time points =>
    exact .inl ⟨_, rfl, .histogram (CollectedHistogramPoint.forall₂_toPoint? follows start time points), rfl⟩
  | exponentialHistogram => exact .inr ⟨rfl, rfl⟩

end Points

namespace CollectedData

def kind? : CollectedData → Option MetricKind
  | .signed aggregation => aggregation.kind? .longSum .longGauge
  | .unsigned aggregation => aggregation.kind? .longSum .longGauge
  | .double aggregation => aggregation.kind? .doubleSum .doubleGauge

def Becomes : CollectedData → MetricData → Prop
  | .signed aggregation, data => NumberRule.signed.Data aggregation data
  | .unsigned aggregation, data => NumberRule.unsigned.Data aggregation data
  | .double aggregation, data => NumberRule.double.Data aggregation data

theorem toData?_becomes (collected : CollectedData) :
    (∃ data, collected.toData? = some data ∧ collected.Becomes data ∧ collected.kind? = some data.kind) ∨
      collected.toData? = none ∧ collected.kind? = none := by
  cases collected with
  | signed aggregation =>
    exact aggregation.toData?_becomes NumberRule.signed_kept .longSum .longGauge (fun _ => rfl) fun _ => rfl
  | unsigned aggregation =>
    exact aggregation.toData?_becomes NumberRule.unsigned_kept .longSum .longGauge (fun _ => rfl) fun _ => rfl
  | double aggregation =>
    exact aggregation.toData?_becomes NumberRule.double_kept .doubleSum .doubleGauge (fun _ => rfl) fun _ => rfl

theorem isNone_toData? (collected : CollectedData) : collected.toData?.isNone = collected.kind?.isNone := by
  obtain ⟨data, converted, _, kind⟩ | ⟨skipped, kind⟩ := collected.toData?_becomes
  · rw [converted, kind]
    rfl
  · rw [skipped, kind]
    rfl

end CollectedData

structure CollectedMetric.Becomes (scope : Scope) (collected : CollectedMetric) (metric : Metric) : Prop where
  name : metric.name = collected.name
  description : metric.description = collected.description
  unit : metric.unit = collected.unit
  scope : metric.scope = scope
  kind : collected.data.kind? = some metric.data.kind
  data : collected.data.Becomes metric.data

theorem CollectedMetric.toMetric?_becomes {scope : Scope} {collected : CollectedMetric} {metric : Metric}
    (converted : collected.toMetric? scope = some metric) : collected.Becomes scope metric := by
  obtain ⟨data, same, rfl⟩ := Option.map_eq_some_iff.mp converted
  obtain ⟨_, found, becomes, kind⟩ | ⟨skipped, _⟩ := collected.data.toData?_becomes
  · obtain rfl := Option.some.inj (same.symm.trans found)
    exact ⟨rfl, rfl, rfl, rfl, kind, becomes⟩
  · exact nomatch same.symm.trans skipped

namespace Collection

def collected (collection : Collection) : List (Scope × CollectedMetric) :=
  collection.scopes.flatMap fun scope => scope.metrics.map (scope.scope, ·)

theorem filterMap_collected {α : Type} (f : Scope → CollectedMetric → Option α) (collection : Collection) :
    (collection.scopes.flatMap fun scope => scope.metrics.filterMap (f scope.scope)) =
      collection.collected.filterMap fun entry => f entry.1 entry.2 := by
  rw [collected, List.filterMap_flatMap]
  simp only [List.filterMap_map]
  rfl

theorem forall₂_metrics (collection : Collection) :
    List.Forall₂ (fun entry metric => entry.2.Becomes entry.1 metric)
      (collection.collected.filter fun entry => entry.2.data.kind?.isSome) collection.metrics := by
  rw [metrics, filterMap_collected fun scope metric => metric.toMetric? scope]
  apply forall₂_filterMap
  case kept =>
    intro entry metric converted
    have becomes := CollectedMetric.toMetric?_becomes converted
    exact ⟨by rw [becomes.kind]; rfl, becomes⟩
  case left =>
    intro entry skipped
    rw [← Option.not_isNone, Bool.not_eq_false', ← entry.2.data.isNone_toData?]
    exact Option.isNone_iff_eq_none.mpr (Option.map_eq_none_iff.mp skipped)

theorem diagnostics_eq (collection : Collection) : collection.diagnostics =
    (collection.collected.filter fun entry => entry.2.data.kind?.isNone).map fun entry =>
      .metricSkipped entry.2.name := by
  rw [diagnostics, filterMap_collected fun _ metric => metric.skipped?, ← List.filterMap_eq_map, List.filterMap_filter]
  apply List.filterMap_congr
  intro entry _
  rw [CollectedMetric.skipped?, CollectedData.isNone_toData?]
  rfl

/-- Every metric whose kind can be written becomes one metric with all that it held, in the order in which they
were collected, and one diagnostic is left for each of the others. -/
theorem collection_is_converted (collection : Collection) :
    List.Forall₂ (fun entry metric => entry.2.Becomes entry.1 metric)
        (collection.collected.filter fun entry => entry.2.data.kind?.isSome) collection.metrics ∧
      collection.diagnostics = (collection.collected.filter fun entry => entry.2.data.kind?.isNone).map fun entry =>
        .metricSkipped entry.2.name :=
  ⟨collection.forall₂_metrics, collection.diagnostics_eq⟩

end Collection

end Telemetry
