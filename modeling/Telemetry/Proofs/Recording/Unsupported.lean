import Telemetry.Proofs.Log.Unsupported
import Telemetry.Proofs.Metric.Unsupported
import Telemetry.Proofs.Span.Unsupported
import Telemetry.Recording.Collection
import Telemetry.Recording.Log
import Telemetry.Recording.Span

/-! What recordings hold that has no encoding. The values of spans, of metrics and of resources all have one.
The values of logs include raw bytes and maps, which become unsupported values one by one and in order,
so a log record is encodable unless one of them is in its attributes or in the body that is written. -/
namespace Telemetry

namespace LogValue

/-- Raw bytes or a map, in lists of any depth. What is in a map makes no difference. -/
inductive Raw : LogValue → Prop
  | bytes (content : List UInt8) : Raw (.bytes content)
  | map (entries : List (String × LogValue)) : Raw (.map entries)
  | list {items : List LogValue} {item : LogValue} (member : item ∈ items) (raw : Raw item) : Raw (.list items)

mutual

def rawKinds : LogValue → List String
  | .list items => rawKindsIn items
  | .bytes _ => ["bytes"]
  | .map _ => ["kvlist"]
  | .int _ => []
  | .double _ => []
  | .text _ => []
  | .bool _ => []
termination_by structural value => value

def rawKindsIn : List LogValue → List String
  | [] => []
  | item :: items => rawKinds item ++ rawKindsIn items
termination_by structural items => items

end

theorem rawKindsIn_eq_nil {items : List LogValue} :
    rawKindsIn items = [] ↔ ∀ item ∈ items, item.rawKinds = [] := by
  induction items with
  | nil => exact iff_of_true rfl (List.forall_mem_nil _)
  | cons item items ih => rw [rawKindsIn, List.append_eq_nil_iff, ih, List.forall_mem_cons]

theorem raw_list {items : List LogValue} : Raw (.list items) ↔ ∃ item ∈ items, item.Raw := by
  constructor
  · rintro (_ | _ | ⟨member, raw⟩)
    exact ⟨_, member, raw⟩
  · rintro ⟨item, member, raw⟩
    exact .list member raw

/-- Every value is induced over by the members of its lists. What is in a map makes no difference. -/
theorem induction_on_lists {motive : LogValue → Prop} (value : LogValue) (int : ∀ i, motive (.int i))
    (double : ∀ x, motive (.double x)) (text : ∀ s, motive (.text s)) (bool : ∀ b, motive (.bool b))
    (list : ∀ items, (∀ item ∈ items, motive item) → motive (.list items))
    (bytes : ∀ content, motive (.bytes content)) (map : ∀ entries, motive (.map entries)) : motive value :=
  @LogValue.rec motive (fun items => ∀ item ∈ items, motive item) (fun _ => True) (fun _ => True)
    int double text bool list bytes (fun entries _ => map entries) (List.forall_mem_nil _)
    (fun _ _ here below => List.forall_mem_cons.mpr ⟨here, below⟩) trivial (fun _ _ _ _ => trivial)
    (fun _ _ _ => trivial) value

theorem rawKinds_ne_nil (value : LogValue) : value.rawKinds ≠ [] ↔ value.Raw := by
  induction value using induction_on_lists with
  | int | double | text | bool => exact iff_of_false (fun some => some rfl) fun raw => nomatch raw
  | bytes content => exact iff_of_true (List.cons_ne_nil _ _) (.bytes content)
  | map entries => exact iff_of_true (List.cons_ne_nil _ _) (.map entries)
  | list items inside =>
    rw [rawKinds, ne_eq, rawKindsIn_eq_nil, raw_list]
    push Not
    exact exists_congr fun item => and_congr_right fun member => inside item member

theorem mem_rawKinds {value : LogValue} {kind : String} (member : kind ∈ value.rawKinds) :
    kind = "bytes" ∨ kind = "kvlist" := by
  induction value using induction_on_lists with
  | int | double | text | bool => exact absurd member List.not_mem_nil
  | bytes => exact .inl (List.mem_singleton.mp member)
  | map => exact .inr (List.mem_singleton.mp member)
  | list items inside =>
    rw [rawKinds] at member
    induction items with
    | nil => exact absurd member List.not_mem_nil
    | cons item items ih =>
      obtain ⟨first, later⟩ := List.forall_mem_cons.mp inside
      exact (List.mem_append.mp member).elim first (ih later)

/-- Raw values are what becomes unsupported, and they keep their order. -/
theorem unsupportedKinds_toValue (value : LogValue) : value.toValue.unsupportedKinds = value.rawKinds := by
  induction value using induction_on_lists with
  | int | double | text | bool | bytes | map => rfl
  | list items inside =>
    rw [toValue, Value.unsupportedKinds, rawKinds]
    induction items with
    | nil => rfl
    | cons item items ih =>
      obtain ⟨first, later⟩ := List.forall_mem_cons.mp inside
      rw [toValues, Value.unsupportedIn, first, ih later, rawKindsIn]

end LogValue

section Standard

theorem StandardValue.unsupportedKinds_toValue (value : StandardValue) : value.toValue.unsupportedKinds = [] := by
  have plain : ∀ {α : Type} (ofItem : α → Value), (∀ a, (ofItem a).unsupportedKinds = []) →
      ∀ items : List α, (Value.array (items.map ofItem)).unsupportedKinds = [] := by
    intro α ofItem each items
    rw [Value.unsupportedKinds, Value.unsupportedIn_eq_flatMap, List.flatMap_map, List.flatMap_eq_nil_iff]
    exact fun a _ => each a
  cases value with
  | text | bool | int | double => rfl
  | texts items => exact plain Value.text (fun _ => rfl) items
  | bools items => exact plain Value.bool (fun _ => rfl) items
  | ints items => exact plain Value.int (fun _ => rfl) items
  | doubles items => exact plain Value.double (fun _ => rfl) items

theorem Attribute.unsupportedIn_ofStandard (attributes : StandardAttributes) :
    Value.unsupportedIn (Attribute.values (attributes.map Attribute.ofStandard)) = [] := by
  rw [Attribute.values, List.filterMap_map, Value.unsupportedIn_eq_flatMap, List.flatMap_eq_nil_iff]
  intro value member
  obtain ⟨entry, _, same⟩ := List.mem_filterMap.mp member
  rw [← Option.some.inj same]
  exact entry.2.unsupportedKinds_toValue

theorem RecordedResource.unsupportedIn_toResource (resource : RecordedResource) :
    Value.unsupportedIn resource.toResource.values = [] :=
  Attribute.unsupportedIn_ofStandard resource.entries.byKey

theorem RecordedSpan.unsupportedIn_toSpan (span : RecordedSpan) : Value.unsupportedIn span.toSpan.values = [] := by
  have events : Value.unsupportedIn (span.toSpan.events.flatMap (·.values)) = [] := by
    rw [toSpan, List.flatMap_map, Value.unsupportedIn_flatMap, List.flatMap_eq_nil_iff]
    exact fun event _ => Attribute.unsupportedIn_ofStandard event.attributes
  have links : Value.unsupportedIn (span.toSpan.links.flatMap (·.values)) = [] := by
    rw [toSpan, List.flatMap_map, Value.unsupportedIn_flatMap, List.flatMap_eq_nil_iff]
    exact fun link _ => Attribute.unsupportedIn_ofStandard link.attributes
  rw [Span.values, Value.unsupportedIn_append, Value.unsupportedIn_append, events, links, List.append_nil,
    List.append_nil]
  exact Attribute.unsupportedIn_ofStandard span.attributes

end Standard

class KeepsValues (α : Type) [CollectedNumber α] : Prop where
  values_sumData (points : List (ScalarPoint α)) :
    (CollectedNumber.sumData points).values = points.flatMap (·.values)
  values_gaugeData (points : List (ScalarPoint α)) :
    (CollectedNumber.gaugeData points).values = points.flatMap (·.values)

instance : KeepsValues Int64 :=
  ⟨fun _ => rfl, fun _ => rfl⟩

instance : KeepsValues UInt64 :=
  ⟨fun _ => List.flatMap_map .., fun _ => List.flatMap_map ..⟩

instance : KeepsValues Float :=
  ⟨fun _ => rfl, fun _ => rfl⟩

section Collected

variable {α : Type}

theorem CollectedPoint.unsupportedIn_toPoints (points : List (CollectedPoint α)) (start time : Instant) :
    Value.unsupportedIn ((points.map (·.toPoint start time)).flatMap (·.values)) = [] := by
  rw [List.flatMap_map, Value.unsupportedIn_flatMap, List.flatMap_eq_nil_iff]
  exact fun point _ => Attribute.unsupportedIn_ofStandard point.attributes

variable [CollectedNumber α]

theorem CollectedHistogramPoint.attributes_toPoint? {start time : Instant} {point : CollectedHistogramPoint α}
    {converted : HistogramPoint} (same : point.toPoint? start time = some converted) :
    converted.attributes = point.attributes.map Attribute.ofStandard := by
  rw [toPoint?, HistogramPoint.make] at same
  split at same
  · rw [← Option.some.inj same]
  · contradiction

theorem CollectedHistogramPoint.unsupportedIn_toPoints (points : List (CollectedHistogramPoint α))
    (start time : Instant) :
    Value.unsupportedIn ((points.filterMap (·.toPoint? start time)).flatMap (·.values)) = [] := by
  rw [Value.unsupportedIn_flatMap, List.flatMap_eq_nil_iff]
  intro converted member
  obtain ⟨point, _, same⟩ := List.mem_filterMap.mp member
  rw [HistogramPoint.values, attributes_toPoint? same]
  exact Attribute.unsupportedIn_ofStandard point.attributes

variable [KeepsValues α]

theorem Aggregation.unsupportedIn_toData? {aggregation : Aggregation α} {data : MetricData}
    (converted : aggregation.toData? = some data) : Value.unsupportedIn data.values = [] := by
  cases aggregation with
  | sum start time points =>
    rw [← Option.some.inj converted, KeepsValues.values_sumData]
    exact CollectedPoint.unsupportedIn_toPoints points start time
  | gauge start time points =>
    rw [← Option.some.inj converted, KeepsValues.values_gaugeData]
    exact CollectedPoint.unsupportedIn_toPoints points (start.getD time) time
  | histogram start time points =>
    rw [← Option.some.inj converted]
    exact CollectedHistogramPoint.unsupportedIn_toPoints points start time
  | exponentialHistogram => contradiction

end Collected

theorem Collection.unsupportedIn_metrics {collection : Collection} {metric : Metric}
    (member : metric ∈ collection.metrics) : Value.unsupportedIn metric.values = [] := by
  obtain ⟨scope, _, among⟩ := List.mem_flatMap.mp member
  obtain ⟨collected, _, same⟩ := List.mem_filterMap.mp among
  obtain ⟨data, converted, rfl⟩ := Option.map_eq_some_iff.mp same
  cases kind : collected.data with
  | signed aggregation | unsigned aggregation | double aggregation =>
    rw [kind] at converted
    exact Aggregation.unsupportedIn_toData? converted

namespace RecordedLog

def Untemplated (record : RecordedLog) : Prop :=
  ∀ key template, record.attributes.find? (·.1 = "\x7bOriginalFormat\x7d") ≠ some (key, .text template)

/-- A record with raw bytes or a map in an attribute, or in a body that no template stands for. -/
inductive Raw (record : RecordedLog) : Prop
  | attribute {key : String} {value : LogValue} (member : (key, value) ∈ record.attributes) (raw : value.Raw)
  | body {value : LogValue} (set : record.body = some value) (untemplated : record.Untemplated) (raw : value.Raw)

def templated (record : RecordedLog) : Bool :=
  match record.attributes.find? (·.1 = "\x7bOriginalFormat\x7d") with
  | some (_, .text _) => true
  | _ => false

def rawKinds (record : RecordedLog) : List String :=
  record.attributes.flatMap (·.2.rawKinds) ++
    if record.templated then [] else (record.body.map (·.rawKinds)).getD []

theorem templated_eq_false {record : RecordedLog} : record.templated = false ↔ record.Untemplated := by
  unfold templated Untemplated
  split
  · rename_i key template found
    exact iff_of_false (fun same => nomatch same) fun none => none key template found
  · rename_i other
    exact iff_of_true rfl fun key template found => other key template found

theorem rawKinds_ne_nil (record : RecordedLog) : record.rawKinds ≠ [] ↔ record.Raw := by
  rw [rawKinds, ne_eq, List.append_eq_nil_iff, List.flatMap_eq_nil_iff, not_and_or]
  push Not
  constructor
  · rintro (⟨entry, member, some⟩ | some)
    · exact .attribute member (entry.2.rawKinds_ne_nil.mp some)
    · cases untemplated : record.templated with
      | true =>
        rw [untemplated] at some
        contradiction
      | false =>
        cases body : record.body with
        | none =>
          rw [untemplated, body] at some
          contradiction
        | some value =>
          rw [untemplated, body] at some
          exact .body body (templated_eq_false.mp untemplated) (value.rawKinds_ne_nil.mp some)
  · rintro (⟨member, raw⟩ | ⟨set, untemplated, raw⟩)
    · exact .inl ⟨_, member, (LogValue.rawKinds_ne_nil _).mpr raw⟩
    · refine .inr ?_
      rw [templated_eq_false.mpr untemplated, set]
      exact (LogValue.rawKinds_ne_nil _).mpr raw

theorem mem_rawKinds {record : RecordedLog} {kind : String} (member : kind ∈ record.rawKinds) :
    kind = "bytes" ∨ kind = "kvlist" := by
  rcases List.mem_append.mp member with inside | last
  · obtain ⟨entry, _, among⟩ := List.mem_flatMap.mp inside
    exact LogValue.mem_rawKinds among
  · split at last
    · exact absurd last List.not_mem_nil
    · cases set : record.body with
      | none =>
        rw [set] at last
        exact absurd last List.not_mem_nil
      | some value =>
        rw [set] at last
        exact LogValue.mem_rawKinds last

theorem templated_toLogRecord (record : RecordedLog) : record.toLogRecord.templated = record.templated := by
  rw [LogRecord.templated, toLogRecord, List.find?_map, templated, Function.comp_def]
  simp only
  cases record.attributes.find? (·.1 = "\x7bOriginalFormat\x7d") with
  | none => rfl
  | some entry =>
    obtain ⟨key, value⟩ := entry
    cases value <;> rfl

theorem values_toLogRecord (record : RecordedLog) :
    Attribute.values record.toLogRecord.attributes = record.attributes.map (·.2.toValue) := by
  have present : record.toLogRecord.attributes =
    record.attributes.map fun entry => ⟨entry.1, some entry.2.toValue⟩ := rfl
  rw [Attribute.values, present, List.filterMap_map]
  exact congrFun List.filterMap_eq_map' record.attributes

theorem unsupportedIn_toLogRecord (record : RecordedLog) :
    Value.unsupportedIn record.toLogRecord.values = record.rawKinds := by
  have attributes : Value.unsupportedIn (Attribute.values record.toLogRecord.attributes) =
      record.attributes.flatMap (·.2.rawKinds) := by
    rw [values_toLogRecord, Value.unsupportedIn_eq_flatMap, List.flatMap_map]
    simp only [LogValue.unsupportedKinds_toValue]
  have body : Value.unsupportedIn record.toLogRecord.selectedBody?.toList =
      if record.templated then [] else (record.body.map (·.rawKinds)).getD [] := by
    have silent : record.toLogRecord.message = none := rfl
    have converted : record.toLogRecord.body = record.body.map (·.toValue) := rfl
    rw [LogRecord.selectedBody?, templated_toLogRecord, silent, converted]
    cases record.templated with
    | true => rfl
    | false =>
      cases record.body with
      | none => rfl
      | some value =>
        calc Value.unsupportedIn [value.toValue]
            = value.toValue.unsupportedKinds := by rw [Value.unsupportedIn, Value.unsupportedIn, List.append_nil]
          _ = value.rawKinds := value.unsupportedKinds_toValue
  rw [LogRecord.values, Value.unsupportedIn_append, attributes, body, rawKinds]

end RecordedLog

end Telemetry
