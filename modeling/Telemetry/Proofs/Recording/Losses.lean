import Telemetry.Recording.Instrument
import Telemetry.Proofs.Recording.Collection

/-! Which collected points are lost. A stream is collected with a point for each of its series. If it is an
exponential histogram, its metric is reported as skipped. All other streams are converted with as many
points as they have, but for histograms without bounds: these are collected without buckets, so their
buckets do not fit their bounds, and each of their points is left out without a report. -/
namespace Telemetry

/-- What is true of a new item and is kept by joining is true of all items after the new one is joined in. -/
theorem forall_joinInto {α : Type} {join? : α → α → Option α} {holds : α → Prop} {new : α} {items : List α}
    (joins : ∀ item both, holds item → join? item new = some both → holds both) (given : holds new)
    (all : ∀ item ∈ items, holds item) : ∀ item ∈ joinInto join? new items, holds item := by
  induction items with
  | nil => exact List.forall_mem_singleton.mpr given
  | cons first rest ih =>
    obtain ⟨here, later⟩ := List.forall_mem_cons.mp all
    unfold joinInto
    split
    case h_1 both taken => exact List.forall_mem_cons.mpr ⟨joins first both here taken, later⟩
    case h_2 => exact List.forall_mem_cons.mpr ⟨here, ih later⟩

namespace Series

variable {α : Type}

def Filled (series : Series α) : Prop :=
  series.values ≠ []

theorem Filled.join {series new both : Series α} (filled : series.Filled) (joined : join? series new = some both) :
    both.Filled := by
  obtain ⟨_, same⟩ := Option.ite_none_right_eq_some.mp joined
  rw [← Option.some.inj same]
  exact List.append_ne_nil_of_left_ne_nil filled new.values

theorem Filled.parts {series : Series α} (filled : series.Filled) : ∀ part ∈ series.parts, part.Filled := by
  intro part member
  unfold Series.parts at member
  split at member
  · rwa [List.mem_singleton.mp member]
  · obtain ⟨value, _, rfl⟩ := List.mem_map.mp member
    exact List.cons_ne_nil value []

theorem addTo_filled {stream : List (Series α)} {new : Series α} (all : ∀ series ∈ stream, series.Filled)
    (filled : new.Filled) : ∀ series ∈ addTo stream new, series.Filled := by
  unfold addTo
  simp only
  split
  · exact forall_joinInto (fun _ _ => Filled.join) filled all
  · exact forall_joinInto (fun _ _ => Filled.join) filled all

theorem foldl_addTo_filled {added met : List (Series α)} (new : ∀ series ∈ added, series.Filled)
    (all : ∀ series ∈ met, series.Filled) : ∀ series ∈ added.foldl addTo met, series.Filled := by
  induction added generalizing met with
  | nil => exact all
  | cons first added ih =>
    obtain ⟨here, later⟩ := List.forall_mem_cons.mp new
    exact ih later (addTo_filled all here)

theorem stream_filled (measured : List (Series α)) : ∀ series ∈ stream measured, series.Filled := by
  refine foldl_addTo_filled ?_ (List.forall_mem_nil _)
  intro part member
  obtain ⟨series, kept, among⟩ := List.mem_flatMap.mp member
  have filled : series.Filled := by simpa [Filled] using (List.mem_filter.mp kept).2
  exact filled.parts part among

/-- Every series has a last value, so a gauge has a point for each of them. -/
theorem length_gaugePoints {stream : List (Series α)} (all : ∀ series ∈ stream, series.Filled) :
    (stream.filterMap (·.gaugePoint?)).length = stream.length := by
  induction stream with
  | nil => rfl
  | cons first stream ih =>
    obtain ⟨here, later⟩ := List.forall_mem_cons.mp all
    have last : first.gaugePoint? = some ⟨first.attributes, first.values.getLast here⟩ := by
      rw [Series.gaugePoint?, List.getLast?_eq_some_getLast here]
      rfl
    rw [List.filterMap_cons_some last, List.length_cons, List.length_cons, ih later]

end Series

theorem length_bucketCounts {bounds : List Float} (bounded : bounds ≠ []) (values : List Float) :
    (bucketCounts bounds values).length = bounds.length + 1 := by
  rw [bucketCounts, if_neg (mt List.isEmpty_iff.mp bounded), List.length_map, List.length_range]

def MetricData.size : MetricData → Nat
  | .longSum points => points.length
  | .doubleSum points => points.length
  | .longGauge points => points.length
  | .doubleGauge points => points.length
  | .histogram points => points.length

def Aggregation.size {α : Type} : Aggregation α → Nat
  | .sum _ _ points => points.length
  | .gauge _ _ points => points.length
  | .histogram _ _ points => points.length
  | .exponentialHistogram _ _ points => points.length

def CollectedData.size : CollectedData → Nat
  | .signed data => data.size
  | .unsigned data => data.size
  | .double data => data.size

class LawfulCollectedNumber (α : Type) [CollectedNumber α] : Prop where
  size_sumData : ∀ points : List (ScalarPoint α), (CollectedNumber.sumData points).size = points.length
  size_gaugeData : ∀ points : List (ScalarPoint α), (CollectedNumber.gaugeData points).size = points.length

instance : LawfulCollectedNumber Int64 :=
  ⟨fun _ => rfl, fun _ => rfl⟩

instance : LawfulCollectedNumber UInt64 :=
  ⟨fun _ => List.length_map _, fun _ => List.length_map _⟩

instance : LawfulCollectedNumber Float :=
  ⟨fun _ => rfl, fun _ => rfl⟩

namespace InstrumentShape

/-- What the collected points of a stream are converted to. They are reported together, or kept one by one, or
lost together. -/
inductive Fate (shape : InstrumentShape) (size : Nat) : Option MetricData → Prop
  | reported {bounds : List Float} (exponential : shape = .exponentialHistogram bounds) : Fate shape size none
  | kept {data : MetricData} (bounded : shape ≠ .histogram []) (same : data.size = size) :
    Fate shape size (some data)
  | lost (unbounded : shape = .histogram []) : Fate shape size (some (.histogram []))

/-- Points are missing without a report exactly where a histogram has no bounds. -/
theorem Fate.whole_iff {shape : InstrumentShape} {size : Nat} {converted : Option MetricData}
    (fate : shape.Fate size converted) (points : 0 < size) :
    (∀ data, converted = some data → data.size = size) ↔ shape ≠ .histogram [] := by
  cases fate with
  | reported exponential =>
    rw [exponential]
    exact iff_of_true nofun nofun
  | kept bounded same =>
    refine iff_of_true ?_ bounded
    rintro _ ⟨⟩
    exact same
  | lost unbounded =>
    refine iff_of_false ?_ (not_not_intro unbounded)
    intro whole
    exact absurd (whole _ rfl) points.ne

section Shapes

variable {α : Type} [Add α] [OfNat α 0] [CollectedNumber α]

theorem length_histogramPoints (start time : Instant) {bounds : List Float} (bounded : bounds ≠ [])
    (stream : List (Series α)) :
    ((stream.map (·.histogramPoint bounds)).filterMap (·.toPoint? start time)).length = stream.length := by
  induction stream with
  | nil => rfl
  | cons first stream ih =>
    have fits : (first.histogramPoint bounds).buckets.length = (first.histogramPoint bounds).bounds.length + 1 :=
      length_bucketCounts bounded _
    obtain ⟨point, converted⟩ : ∃ point, (first.histogramPoint bounds).toPoint? start time = some point := by
      rw [CollectedHistogramPoint.toPoint?, HistogramPoint.make, dif_pos fits]
      exact ⟨_, rfl⟩
    rw [List.map_cons, List.filterMap_cons_some converted, List.length_cons, List.length_cons, ih]

/-- Without bounds there are no buckets, and so no point can be made. -/
theorem histogramPoints_unbounded (start time : Instant) (stream : List (Series α)) :
    (stream.map (·.histogramPoint [])).filterMap (·.toPoint? start time) = [] := by
  rw [List.filterMap_eq_nil_iff]
  intro point member
  obtain ⟨series, _, rfl⟩ := List.mem_map.mp member
  rfl

def aggregate (start time : Instant) (stream : List (Series α)) : InstrumentShape → Aggregation α
  | .counter => .sum start time (stream.map (·.sumPoint))
  | .upDownCounter => .sum start time (stream.map (·.sumPoint))
  | .gauge => .gauge (some start) time (stream.filterMap (·.gaugePoint?))
  | .histogram bounds => .histogram start time (stream.map (·.histogramPoint bounds))
  | .exponentialHistogram _ => .exponentialHistogram start time (stream.map (·.exponentialPoint))

theorem exists_aggregate {start time : Instant} {measured : List (Series α)} {shape : InstrumentShape}
    {aggregation : Aggregation α} (collected : shape.collect? start time measured = some aggregation) :
    ∃ stream : List (Series α), stream ≠ [] ∧ (∀ series ∈ stream, series.Filled) ∧
      shape.aggregate start time stream = aggregation := by
  simp only [collect?] at collected
  split at collected
  case h_1 => contradiction
  case h_2 present =>
    refine ⟨_, present, Series.stream_filled _, ?_⟩
    rw [← Option.some.inj collected]
    cases shape <;> rfl

theorem size_aggregate (start time : Instant) {stream : List (Series α)}
    (filled : ∀ series ∈ stream, series.Filled) (shape : InstrumentShape) :
    (shape.aggregate start time stream).size = stream.length := by
  cases shape with
  | gauge => exact Series.length_gaugePoints filled
  | _ => exact List.length_map _

theorem aggregate_fate [LawfulCollectedNumber α] (start time : Instant) {stream : List (Series α)}
    (filled : ∀ series ∈ stream, series.Filled) (shape : InstrumentShape) :
    shape.Fate stream.length (shape.aggregate start time stream).toData? := by
  cases shape with
  | counter =>
    refine .kept nofun ?_
    rw [LawfulCollectedNumber.size_sumData, List.length_map, List.length_map]
  | upDownCounter =>
    refine .kept nofun ?_
    rw [LawfulCollectedNumber.size_sumData, List.length_map, List.length_map]
  | gauge =>
    refine .kept nofun ?_
    rw [LawfulCollectedNumber.size_gaugeData, List.length_map, Series.length_gaugePoints filled]
  | histogram bounds =>
    by_cases bounded : bounds = []
    · rw [bounded, aggregate, Aggregation.toData?, histogramPoints_unbounded]
      exact .lost rfl
    · exact .kept (mt InstrumentShape.histogram.inj bounded) (length_histogramPoints start time bounded stream)
  | exponentialHistogram => exact .reported rfl

theorem collect?_fate [LawfulCollectedNumber α] {start time : Instant} {measured : List (Series α)}
    {shape : InstrumentShape} {aggregation : Aggregation α}
    (collected : shape.collect? start time measured = some aggregation) :
    0 < aggregation.size ∧ shape.Fate aggregation.size aggregation.toData? := by
  obtain ⟨stream, present, filled, rfl⟩ := exists_aggregate collected
  rw [size_aggregate start time filled]
  exact ⟨List.length_pos_iff.mpr present, aggregate_fate start time filled shape⟩

end Shapes

end InstrumentShape

theorem Measurements.collect?_fate {start time : Instant} {shape : InstrumentShape} {measurements : Measurements}
    {data : CollectedData} (collected : measurements.collect? start time shape = some data) :
    0 < data.size ∧ shape.Fate data.size data.toData? := by
  cases measurements with
  | signed series =>
    obtain ⟨aggregation, shaped, rfl⟩ := Option.map_eq_some_iff.mp collected
    exact InstrumentShape.collect?_fate shaped
  | unsigned series =>
    obtain ⟨aggregation, shaped, rfl⟩ := Option.map_eq_some_iff.mp collected
    exact InstrumentShape.collect?_fate shaped
  | double series =>
    obtain ⟨aggregation, shaped, rfl⟩ := Option.map_eq_some_iff.mp collected
    exact InstrumentShape.collect?_fate shaped

theorem Instrument.collect?_fate {start time : Instant} {instrument : Instrument} {metric : CollectedMetric}
    (collected : instrument.collect? start time = some metric) :
    0 < metric.data.size ∧ instrument.shape.Fate metric.data.size metric.data.toData? := by
  obtain ⟨data, measured, rfl⟩ := Option.map_eq_some_iff.mp collected
  exact Measurements.collect?_fate measured

namespace Collection

def Accounted (collection : Collection) : Prop :=
  ∀ entry ∈ collection.collected, entry.2.skipped? = some (.metricSkipped entry.2.name) ∨
    ∃ metric, entry.2.toMetric? entry.1 = some metric ∧ metric.data.size = entry.2.data.size

theorem metrics_eq_filterMap (collection : Collection) :
    collection.metrics = collection.collected.filterMap fun entry => entry.2.toMetric? entry.1 :=
  filterMap_collected (fun scope metric => metric.toMetric? scope) collection

theorem diagnostics_eq_filterMap (collection : Collection) :
    collection.diagnostics = collection.collected.filterMap fun entry => entry.2.skipped? :=
  filterMap_collected (fun _ metric => metric.skipped?) collection

theorem accounted_entry_iff (scope : Scope) (metric : CollectedMetric) :
    (metric.skipped? = some (.metricSkipped metric.name) ∨
      ∃ converted, metric.toMetric? scope = some converted ∧ converted.data.size = metric.data.size) ↔
      ∀ data, metric.data.toData? = some data → data.size = metric.data.size := by
  unfold CollectedMetric.skipped? CollectedMetric.toMetric?
  cases metric.data.toData? <;> simp

/-- A meter of which nothing is collected adds nothing, so it does not matter that it is left out. -/
theorem flatMap_collect? (start time : Instant) (meters : List Meter) :
    ((meters.filterMap (·.collect? start time)).flatMap fun scope => scope.metrics.map (scope.scope, ·)) =
      meters.flatMap fun meter => (meter.streams.filterMap (·.collect? start time)).map (meter.scope, ·) := by
  induction meters with
  | nil => rfl
  | cons meter meters ih =>
    rw [List.filterMap_cons, List.flatMap_cons, Meter.collect?, ← ih]
    cases meter.streams.filterMap (·.collect? start time) <;> rfl

theorem collected_ofMeters (start time : Instant) (resource : RecordedResource) (meters : List Meter) :
    (ofMeters start time resource meters).collected = (joined Meter.join? meters).flatMap fun meter =>
      (meter.streams.filterMap (·.collect? start time)).map (meter.scope, ·) := by
  unfold ofMeters
  split
  case isTrue without =>
    rw [List.isEmpty_iff.mp without]
    rfl
  case isFalse => exact flatMap_collect? start time (joined Meter.join? meters)

theorem mem_collected_ofMeters {start time : Instant} {resource : RecordedResource} {meters : List Meter}
    {scope : Scope} {metric : CollectedMetric} : (scope, metric) ∈ (ofMeters start time resource meters).collected ↔
      ∃ meter ∈ joined Meter.join? meters, meter.scope = scope ∧
        ∃ instrument ∈ meter.streams, instrument.collect? start time = some metric := by
  rw [collected_ofMeters]
  simp only [List.mem_flatMap, List.mem_map, List.mem_filterMap, Prod.mk.injEq]
  constructor
  · rintro ⟨meter, met, _, ⟨instrument, among, collected⟩, rfl, rfl⟩
    exact ⟨meter, met, rfl, instrument, among, collected⟩
  · rintro ⟨meter, met, rfl, instrument, among, collected⟩
    exact ⟨meter, met, metric, ⟨instrument, among, collected⟩, rfl, rfl⟩

theorem accounted_iff (start time : Instant) (resource : RecordedResource) (meters : List Meter) :
    (ofMeters start time resource meters).Accounted ↔
      ∀ meter ∈ joined Meter.join? meters, ∀ instrument ∈ meter.streams,
        instrument.shape = .histogram [] → instrument.collect? start time = none := by
  constructor
  · intro accounted meter met instrument among unbounded
    cases collected : instrument.collect? start time with
    | none => rfl
    | some metric =>
      have entry : (meter.scope, metric) ∈ (ofMeters start time resource meters).collected :=
        mem_collected_ofMeters.mpr ⟨meter, met, rfl, instrument, among, collected⟩
      have whole := (accounted_entry_iff meter.scope metric).mp (accounted _ entry)
      obtain ⟨points, fate⟩ := instrument.collect?_fate collected
      exact absurd unbounded ((fate.whole_iff points).mp whole)
  · rintro bounded ⟨scope, metric⟩ entry
    obtain ⟨meter, met, rfl, instrument, among, collected⟩ := mem_collected_ofMeters.mp entry
    obtain ⟨points, fate⟩ := instrument.collect?_fate collected
    rw [accounted_entry_iff, fate.whole_iff points]
    intro unbounded
    rw [bounded meter met instrument among unbounded] at collected
    contradiction

/-- What becomes of every point that is collected of some meters. Each collected metric has points, and it is
that of a stream, whose shape tells their fate: the points of an exponential histogram are reported,
those of a histogram without bounds are lost, and all others are kept. So all points are accounted for
exactly when nothing is collected of a histogram without bounds. -/
theorem points_lost_without_bounds (start time : Instant) (resource : RecordedResource) (meters : List Meter) :
    (∀ entry ∈ (ofMeters start time resource meters).collected, 0 < entry.2.data.size ∧
      ∃ meter ∈ joined Meter.join? meters, meter.scope = entry.1 ∧
        ∃ instrument ∈ meter.streams, instrument.collect? start time = some entry.2 ∧
          instrument.shape.Fate entry.2.data.size entry.2.data.toData?) ∧
      (ofMeters start time resource meters).metrics =
        (ofMeters start time resource meters).collected.filterMap (fun entry => entry.2.toMetric? entry.1) ∧
      (ofMeters start time resource meters).diagnostics =
        (ofMeters start time resource meters).collected.filterMap (fun entry => entry.2.skipped?) ∧
      ((ofMeters start time resource meters).Accounted ↔
        ∀ meter ∈ joined Meter.join? meters, ∀ instrument ∈ meter.streams,
          instrument.shape = .histogram [] → instrument.collect? start time = none) := by
  refine ⟨?_, metrics_eq_filterMap _, diagnostics_eq_filterMap _, accounted_iff start time resource meters⟩
  rintro ⟨scope, metric⟩ entry
  obtain ⟨meter, met, same, instrument, among, collected⟩ := mem_collected_ofMeters.mp entry
  obtain ⟨points, fate⟩ := instrument.collect?_fate collected
  exact ⟨points, meter, met, same, instrument, among, collected, fate⟩

def served : Instrument :=
  ⟨"served", "", "", .counter, .unsigned [⟨[], [3, 7]⟩]⟩

def unused : Instrument :=
  ⟨"latency", "", "", .histogram [], .unsigned [⟨[], []⟩]⟩

def partlyUsed : Meter :=
  ⟨⟨"m", none, none, []⟩, [served, unused]⟩

/-- A histogram without bounds does no harm as long as it records nothing. -/
theorem points_lost_without_bounds_unused :
    (ofMeters .epoch .epoch .empty [partlyUsed]).collected.map (·.2.name) = ["served"] ∧
      unused.shape = .histogram [] ∧ unused.collect? .epoch .epoch = none ∧
      (ofMeters .epoch .epoch .empty [partlyUsed]).Accounted := by
  have collected : (ofMeters .epoch .epoch .empty [partlyUsed]).collected.map (·.2.name) = ["served"] := by
    decide +kernel
  have silent : ∀ instrument ∈ partlyUsed.streams, instrument.shape.kind = .histogram →
      (instrument.collect? .epoch .epoch).isNone := by decide +kernel
  refine ⟨collected, rfl, rfl, (points_lost_without_bounds .epoch .epoch .empty [partlyUsed]).2.2.2.mpr ?_⟩
  intro meter met instrument among unbounded
  rw [List.mem_singleton.mp met] at among
  exact Option.isNone_iff_eq_none.mp (silent instrument among (congrArg InstrumentShape.kind unbounded))

def boundless : Collection :=
  ofMeters .epoch .epoch .empty
    [⟨⟨"m", none, none, []⟩, [⟨"latency", "", "", .histogram [], .unsigned [⟨[], [3, 7]⟩]⟩]⟩]

/-- One point was collected. The metric that it became has no points, and nothing was reported. -/
theorem boundless_not_accounted :
    boundless.collected.map (·.2.data.size) = [1] ∧ boundless.metrics.map (·.data.size) = [0] ∧
      boundless.diagnostics = [] ∧ ¬ boundless.Accounted := by
  have collected : boundless.collected.map (·.2.data.size) = [1] := by decide +kernel
  have converted : boundless.metrics.map (·.data.size) = [0] := by decide +kernel
  have silent : boundless.diagnostics = [] := by decide +kernel
  refine ⟨collected, converted, silent, ?_⟩
  intro accounted
  obtain ⟨entry, only, size⟩ := List.map_eq_singleton_iff.mp collected
  rw [metrics_eq_filterMap, only] at converted
  rw [diagnostics_eq_filterMap, only] at silent
  rcases accounted entry (by rw [only]; exact List.mem_singleton_self entry) with reported | ⟨metric, same, whole⟩
  · simp [reported] at silent
  · simp [same, whole, size] at converted

end Collection

end Telemetry
