import Telemetry.Proofs.Document.WellFormed
import Telemetry.Proofs.Log.Unsupported
import Telemetry.Proofs.Metric.Unsupported
import Telemetry.Proofs.Span.Unsupported

/-! Unsupported values in documents. The values of a document are those of its resource and then those of
its items. Written to a sink that takes everything, a document fails just when one of its values is
unsupported, and it fails at the first of them: what is written is what any mended document has
before the substitute of that value. -/
namespace Telemetry

namespace Signal

def values : (signal : Signal) → signal.Item → List Value
  | .logs, record => record.values
  | .metrics, metric => metric.values
  | .traces, span => span.values

def mapValues (change : Value → Value) : (signal : Signal) → signal.Item → signal.Item
  | .logs, record => record.mapValues change
  | .metrics, metric => metric.mapValues change
  | .traces, span => span.mapValues change

variable (signal : Signal) (resource : Resource) (limits : AttributeLimits) (items : List signal.Item)

def documentValues : List Value :=
  resource.values ++ items.flatMap signal.values

def mendedDocument (substitute : String → Value) : Document :=
  signal.document (resource.mapValues (Value.mend substitute)) limits
    (items.map (signal.mapValues (Value.mend substitute)))

end Signal

section Root

variable (patch : String → Json) (name groups : String) (resource rest : Json)

private theorem gaps_root : (Json.object [(name, .array [.object [("resource", resource), (groups, rest)]])]).gaps =
    resource.gaps ++ rest.gaps := by
  simp only [Json.gaps_object, Json.gaps_array, List.flatMap_cons, List.flatMap_nil, List.append_nil]

private theorem fill_root :
    (Json.object [(name, .array [.object [("resource", resource), (groups, rest)]])]).fill patch =
      .object [(name, .array [.object [("resource", resource.fill patch), (groups, rest.fill patch)]])] := by
  simp only [Json.fill_object, Json.fill_array, List.map_cons, List.map_nil]

end Root

namespace LogsDocument

variable (document : LogsDocument)

theorem gaps_body : document.body.gaps =
    document.resource.toJson.gaps ++ document.records.flatMap fun record => Value.gapsOf record.values := by
  have records := Json.gaps_array_map (LogRecord.gaps_toJson document.limits.valueLength) document.records
  rw [body, gaps_root, Json.gaps_array, List.flatMap_singleton, Json.gaps_object, List.flatMap_cons,
    List.flatMap_singleton, records]
  rfl

theorem fill_body {substitute : String → Value} {patch : String → Json}
    (plain : ∀ kind, (substitute kind).Plain) (patches : Value.Patches substitute patch) :
    document.body.fill patch = (LogsDocument.mk (document.resource.mapValues (Value.mend substitute))
      (document.records.map (·.mapValues (Value.mend substitute))) document.limits).body := by
  have records := Json.fill_array_map patch
    (LogRecord.fill_toJson plain patches document.limits.valueLength) document.records
  rw [body, fill_root, Resource.fill_toJson patches, Json.fill_array, List.map_singleton, Json.fill_object,
    List.map_cons, List.map_singleton, records]
  rfl

end LogsDocument

namespace MetricsDocument

variable (document : MetricsDocument)

theorem gaps_body : document.body.gaps =
    document.resource.toJson.gaps ++ document.metrics.flatMap fun metric => Value.gapsOf metric.values := by
  rw [body, gaps_root, groups, ScopeGroup.gaps_groups _ Metric.gaps_groupJson]

theorem fill_body {substitute : String → Value} {patch : String → Json}
    (patches : Value.Patches substitute patch) :
    document.body.fill patch = (MetricsDocument.mk (document.resource.mapValues (Value.mend substitute))
      (document.metrics.map (·.mapValues (Value.mend substitute)))).body := by
  have keeps : ∀ metric : Metric, (metric.mapValues (Value.mend substitute)).scope = metric.scope := fun _ => rfl
  have groups := ScopeGroup.fill_groups _ patch keeps (Metric.fill_groupJson patches) document.metrics
  rw [body, fill_root, Resource.fill_toJson patches, MetricsDocument.groups, groups]
  rfl

end MetricsDocument

namespace TracesDocument

variable (document : TracesDocument)

theorem gaps_body : document.body.gaps =
    document.resource.toJson.gaps ++ document.spans.flatMap fun span => Value.gapsOf span.values := by
  rw [body, gaps_root, groups, ScopeGroup.gaps_groups _ (Span.gaps_groupJson document.limits.valueLength)]

theorem fill_body {substitute : String → Value} {patch : String → Json}
    (patches : Value.Patches substitute patch) :
    document.body.fill patch = (TracesDocument.mk (document.resource.mapValues (Value.mend substitute))
      (document.spans.map (·.mapValues (Value.mend substitute))) document.limits).body := by
  have keeps : ∀ span : Span, (span.mapValues (Value.mend substitute)).scope = span.scope := fun _ => rfl
  have groups := ScopeGroup.fill_groups _ patch keeps
    (Span.fill_groupJson patches document.limits.valueLength) document.spans
  rw [body, fill_root, Resource.fill_toJson patches, TracesDocument.groups, groups]
  rfl

end TracesDocument

namespace Signal

variable (signal : Signal) (resource : Resource) (limits : AttributeLimits) (items : List signal.Item)

theorem gaps_document :
    (signal.document resource limits items).body.gaps = Value.gapsOf (signal.documentValues resource items) := by
  rw [documentValues, Value.gapsOf_append, Value.gapsOf_flatMap, ← Resource.gaps_toJson]
  cases signal with
  | logs => exact LogsDocument.gaps_body _
  | metrics => exact MetricsDocument.gaps_body _
  | traces => exact TracesDocument.gaps_body _

theorem fill_document {substitute : String → Value} {patch : String → Json}
    (plain : ∀ kind, (substitute kind).Plain) (patches : Value.Patches substitute patch) :
    (signal.document resource limits items).body.fill patch =
      (signal.mendedDocument resource limits items substitute).body := by
  cases signal with
  | logs => exact LogsDocument.fill_body _ plain patches
  | metrics => exact MetricsDocument.fill_body _ patches
  | traces => exact TracesDocument.fill_body _ patches

theorem failure?_document : (signal.document resource limits items).failure? =
    (Value.unsupportedIn (signal.documentValues resource items)).head?.map fun kind =>
      .unsupportedValue (Value.noEncoding kind) := by
  rw [Document.failure?_eq, gaps_document, Value.gapsOf, List.head?_map, Option.map_map]
  rfl

section Mending

variable {substitute : String → Value} (plain : ∀ kind, (substitute kind).Plain)

include plain

theorem failure?_mendedDocument : (signal.mendedDocument resource limits items substitute).failure? = none := by
  obtain ⟨patch, patches, filled⟩ := Value.exists_patches plain
  rw [Document.failure?_eq_none, ← fill_document signal resource limits items plain patches]
  exact Json.filled_fill filled _

/-- A document is written as far as its first unsupported value, where the mended document goes on with the
substitute of that value. -/
theorem text_mendedDocument {kind : String} {rest : List String}
    (kinds : Value.unsupportedIn (signal.documentValues resource items) = kind :: rest) :
    ∃ after, Text.utf8 (signal.mendedDocument resource limits items substitute).text =
      Text.utf8 (signal.document resource limits items).text ++
        (Text.utf8 ((substitute kind).toJson none).render ++ after) := by
  obtain ⟨patch, patches, filled⟩ := Value.exists_patches plain
  have first : (signal.document resource limits items).body.gaps.head? = some (Value.noEncoding kind) := by
    rw [gaps_document, Value.gapsOf, kinds]
    rfl
  have terminated : (signal.document resource limits items).terminated =
      (signal.mendedDocument resource limits items substitute).terminated := by cases signal <;> rfl
  obtain ⟨after, same⟩ := Document.text_filled first
    (fill_document signal resource limits items plain patches) terminated (filled _)
  rw [patches kind none] at same
  refine ⟨Text.utf8 after, ?_⟩
  rw [same, Text.utf8_append, Text.utf8_append]

end Mending

end Signal

/-- Written to a sink that takes everything, a document fails just when something unsupported is in it. It
fails at the first such value, with what comes before it written and without a flush. -/
theorem unsupported_values_break_off {σ : Type} {sink : Sink σ} (accepting : sink.Accepting) (state : σ)
    (signal : Signal) (resource : Resource) (limits : AttributeLimits) (items : List signal.Item) :
    ((sink.deliver state (signal.document resource limits items)).outcome = .delivered ↔
      Value.unsupportedIn (signal.documentValues resource items) = []) ∧
    ∀ kind rest, Value.unsupportedIn (signal.documentValues resource items) = kind :: rest →
      (sink.deliver state (signal.document resource limits items)).outcome =
          .failed (.unsupportedValue (Value.noEncoding kind)) ∧
        (∀ reply, .flush reply ∉ sink.calls state (signal.document resource limits items)) ∧
        ∀ substitute : String → Value, (∀ kind, (substitute kind).Plain) →
          (signal.mendedDocument resource limits items substitute).failure? = none ∧
            ∃ after, Text.utf8 (signal.mendedDocument resource limits items substitute).text =
              (sink.deliver state (signal.document resource limits items)).accepted ++
                (Text.utf8 ((substitute kind).toJson none).render ++ after) := by
  have outcome := accepting.outcome_eq state (signal.document resource limits items)
  have failure := signal.failure?_document resource limits items
  rw [outcome, accepting.accepted_eq, failure]
  refine ⟨?succeeds, ?fails⟩
  case succeeds =>
    cases Value.unsupportedIn (signal.documentValues resource items) with
    | nil => exact iff_of_true rfl rfl
    | cons kind rest => exact iff_of_false (fun same => nomatch same) (List.cons_ne_nil _ _)
  case fails =>
    intro kind rest kinds
    rw [kinds] at failure ⊢
    refine ⟨rfl, ?unflushed, ?mended⟩
    case unflushed =>
      intro reply member
      obtain ⟨before, after, split⟩ := List.append_of_mem member
      have faithful := sink.deliver_faithful state (signal.document resource limits items)
      exact nomatch failure.symm.trans (faithful.flush_last before reply after split).1
    case mended =>
      intro substitute plain
      exact ⟨signal.failure?_mendedDocument resource limits items plain,
        signal.text_mendedDocument resource limits items plain kinds⟩

def LogRecord.unsupportedPair : List LogRecord :=
  [{ LogRecord.awkward with body := some (.unsupported "set") },
    { LogRecord.awkward with
      message := none
      attributes := [⟨"null", none⟩, ⟨"nested", some (.array [.int 1, .array [.unsupported "bytes"]])⟩]
      body := some (.array [.unsupported "map"]) }]

/-- The body under the message does no harm, and the value in the array comes before the one in the body. -/
theorem unsupported_values_break_off_nested :
    Sink.memory.Accepting ∧
      Value.unsupportedIn (Signal.logs.documentValues .empty LogRecord.unsupportedPair) = ["bytes", "map"] ∧
      (Sink.memory.deliver [] (Signal.logs.document .empty .unlimited LogRecord.unsupportedPair)).outcome =
        .failed (.unsupportedValue "bytes values have no OTLP/JSON encoding") ∧
      ∃ after, Text.utf8 (Signal.logs.mendedDocument .empty .unlimited LogRecord.unsupportedPair fun _ => .int 7).text =
        (Sink.memory.deliver [] (Signal.logs.document .empty .unlimited LogRecord.unsupportedPair)).accepted ++
          (Text.utf8 "\x7b\"intValue\":7\x7d" ++ after) := by
  have accepting := Sink.memory_welcoming.accepting
  have kinds : Value.unsupportedIn (Signal.logs.documentValues .empty LogRecord.unsupportedPair) =
      ["bytes", "map"] := by decide
  obtain ⟨_, fails⟩ := unsupported_values_break_off accepting [] .logs .empty .unlimited LogRecord.unsupportedPair
  obtain ⟨outcome, _, mended⟩ := fails "bytes" ["map"] kinds
  exact ⟨accepting, kinds, outcome, (mended (fun _ => .int 7) fun _ => trivial).2⟩

end Telemetry
