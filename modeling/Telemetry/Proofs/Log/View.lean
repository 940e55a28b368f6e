import Telemetry.Proofs.Document
import Telemetry.Proofs.Identifier
import Telemetry.Proofs.Instant.Reading
import Telemetry.Proofs.Log.Body
import Telemetry.Proofs.Text.Blank
import Telemetry.Proofs.Value.View
import Mathlib.Data.List.TakeWhile

/-! What a logs document tells. The view of a batch of records holds all that the bytes of its document
depend on and all that can be recovered from them, and it is made of the records alone, without anything that
writes them. Two documents without gaps have the same bytes just when their views agree. -/
namespace Telemetry

structure LogRecordView where
  time : Nat
  severityText : Option String
  severityNumber : Nat
  attributes : Option (List AttributeView)
  body : ValueView
  context : Option (TraceId × SpanId)

structure LogsView where
  resource : List AttributeView
  records : List LogRecordView

namespace LogRecordView

def fields (record : LogRecordView) : List (String × Option Json) :=
  [("timeUnixNano", some (.string (Decimal.natural record.time))),
    ("severityText", record.severityText.map .string),
    ("severityNumber", some (.natural record.severityNumber)),
    ("attributes", record.attributes.map fun entries => .array (entries.map AttributeView.toJson)),
    ("body", some record.body.toJson),
    ("traceId", record.context.map fun ids => .string ids.1.text),
    ("spanId", record.context.map fun ids => .string ids.2.text)]

def toJson (record : LogRecordView) : Json :=
  .ofFields record.fields

private theorem names_record (record : LogRecordView) : record.fields.map (·.1) =
    ["timeUnixNano", "severityText", "severityNumber", "attributes", "body", "traceId", "spanId"] := rfl

private theorem context_inj {context other : Option (TraceId × SpanId)}
    (traces : context.map (fun ids => Json.string ids.1.text) = other.map fun ids => .string ids.1.text)
    (spans : context.map (fun ids => Json.string ids.2.text) = other.map fun ids => .string ids.2.text) :
    context = other := by
  cases context with
  | none =>
    cases other with
    | none => rfl
    | some ids => exact nomatch traces
  | some ids =>
    cases other with
    | none => exact nomatch traces
    | some others =>
      have first := TraceId.text_injective (Json.string.inj (Option.some.inj traces))
      have second := SpanId.text_injective (Json.string.inj (Option.some.inj spans))
      rw [Prod.ext first second]

theorem toJson_injective : Function.Injective toJson := by
  intro record other same
  have values := Json.ofFields_injective names_record (by simp) same
  simp only [fields, List.map_cons, List.map_nil, List.cons.injEq, Option.some.injEq, and_true] at values
  obtain ⟨times, texts, numbers, attributes, bodies, traces, spans⟩ := values
  have time := Decimal.natural_injective (Json.string.inj times)
  have severityText := Option.map_injective (fun _ _ => Json.string.inj) texts
  have severityNumber := Decimal.natural_injective (Json.number.inj numbers)
  have entries := Option.map_injective (Json.array_map_injective AttributeView.toJson_injective) attributes
  have body := ValueView.toJson_injective bodies
  have context := context_inj traces spans
  cases record
  cases other
  simp only at time severityText severityNumber entries body context
  rw [time, severityText, severityNumber, entries, body, context]

theorem regular_toJson (record : LogRecordView) : record.toJson.Every Json.Regular := by
  apply Json.regular_ofFields (by simp [fields])
  simp only [fields, List.forall_mem_cons]
  refine ⟨?time, ?severityText, ?severityNumber, ?attributes, ?body, ?traceId, ?spanId, ?rest⟩
  case time => exact fun _ => Json.regular_of_mem_some (Json.regular_string _)
  case severityText => exact fun _ => Json.regular_of_mem_map Json.regular_string
  case severityNumber => exact fun _ => Json.regular_of_mem_some (Json.regular_natural _)
  case attributes =>
    exact fun _ => Json.regular_of_mem_map fun _ => Json.regular_map AttributeView.regular_toJson
  case body => exact fun _ => Json.regular_of_mem_some (ValueView.regular_toJson _)
  case traceId => exact fun _ => Json.regular_of_mem_map fun _ => Json.regular_string _
  case spanId => exact fun _ => Json.regular_of_mem_map fun _ => Json.regular_string _
  case rest => exact List.forall_mem_nil _

end LogRecordView

namespace Severity

def names : List String :=
  ["TRACE", "TRACE2", "TRACE3", "TRACE4", "DEBUG", "DEBUG2", "DEBUG3", "DEBUG4", "INFO", "INFO2", "INFO3", "INFO4",
    "WARN", "WARN2", "WARN3", "WARN4", "ERROR", "ERROR2", "ERROR3", "ERROR4", "FATAL", "FATAL2", "FATAL3", "FATAL4"]

def place (severity : Severity) : Nat :=
  severity.step + match severity.range with
    | .trace => 0
    | .debug => 4
    | .info => 8
    | .warn => 12
    | .error => 16
    | .fatal => 20

theorem number_eq (severity : Severity) : severity.number = severity.place + 1 := by
  obtain ⟨range, step⟩ := severity
  cases range <;> revert step <;> decide

theorem getElem?_names (severity : Severity) : names[severity.place]? = some severity.name := by
  obtain ⟨range, step⟩ := severity
  cases range <;> revert step <;> decide

end Severity

namespace LogRecord

def severityView (record : LogRecord) : Option String :=
  let named := record.severity.bind fun severity => Severity.names[severity.place]?
  match record.severityText with
  | some text => if text.toList.all (Text.WhiteSpace ·) then named else some text
  | none => named

def contentView (record : LogRecord) : ValueView × List Attribute :=
  let other (entry : Attribute) := entry.key ≠ "\x7bOriginalFormat\x7d"
  match record.message, record.attributes.dropWhile (other ·) with
  | some text, _ => (.text text, record.attributes)
  | none, ⟨_, some (.text s)⟩ :: after => (.text s, record.attributes.takeWhile (other ·) ++ after)
  | none, ⟨_, some (.rendered s)⟩ :: after => (.text s, record.attributes.takeWhile (other ·) ++ after)
  | none, _ => ((record.body.map (·.view none)).getD (.text ""), record.attributes)

/-- A record as it is written under a limit. Its attributes are told apart from no attributes at all, even
when none of them is left. -/
def view (limit : Option Nat) (record : LogRecord) : LogRecordView where
  time := Instant.clamped record.time.nanoseconds
  severityText := record.severityView
  severityNumber := (record.severity.map (·.place + 1)).getD 0
  attributes := if record.attributes = [] then none else some (Attribute.views limit record.contentView.2)
  body := record.contentView.1
  context := if record.traceId ≠ ⟨0⟩ ∧ record.spanId ≠ ⟨0⟩ then some (record.traceId, record.spanId) else none

theorem severityView_eq (record : LogRecord) : record.severityView = record.resolvedSeverityText := by
  have named : (record.severity.bind fun severity => Severity.names[severity.place]?) =
      record.severity.map (·.name) := by
    cases record.severity with
    | none => rfl
    | some severity => exact severity.getElem?_names
  rw [severityView, resolvedSeverityText, named]
  cases record.severityText with
  | none => rfl
  | some text =>
    simp only [← Text.allBlank_eq]
    by_cases blank : Text.allBlank text = true
    · simp [blank, Option.filter]
    · simp [blank, Option.filter]

def Body.view : Body → ValueView
  | .text s => .text s
  | .value content => content.view none

theorem Body.toJson_view (body : Body) : body.view.toJson = body.toJson := by
  cases body with
  | text s => rfl
  | value content => exact Value.toJson_view none content

/-- The first attribute under the key of templates stands where the attributes with other keys end. -/
theorem firstTemplate_of_dropWhile {record : LogRecord} {key : String} {value : Option Value} {after : List Attribute}
    (rest : record.attributes.dropWhile (·.key ≠ "\x7bOriginalFormat\x7d") = ⟨key, value⟩ :: after) :
    record.FirstTemplate (record.attributes.takeWhile (·.key ≠ "\x7bOriginalFormat\x7d")) value after := by
  obtain rfl : key = "\x7bOriginalFormat\x7d" := by
    have stopped := List.head?_dropWhile_not (fun entry : Attribute => decide (entry.key ≠ "\x7bOriginalFormat\x7d"))
      record.attributes
    rw [rest] at stopped
    simpa using stopped
  constructor
  · rw [← rest, List.takeWhile_append_dropWhile]
  · intro other among
    simpa using List.mem_takeWhile_imp among

section Written

variable {record : LogRecord} (silent : record.message = none)

include silent

theorem written_templated {before after : List Attribute} {value : Value} {text : String}
    (first : record.FirstTemplate before (some value) after) (textual : value.asText? = some text) :
    record.resolvedBody.view = .text text ∧ record.writtenAttributes = before ++ after := by
  rw [resolvedBody, writtenAttributes, silent, first.template?_eq textual]
  exact ⟨rfl, first.eraseIdx⟩

theorem written_untemplated (untold : record.template? = none) :
    record.resolvedBody.view = (record.body.map (·.view none)).getD (.text "") ∧
      record.writtenAttributes = record.attributes := by
  rw [resolvedBody, writtenAttributes, silent, untold]
  cases record.body <;> exact ⟨rfl, rfl⟩

end Written

theorem contentView_eq (record : LogRecord) :
    record.contentView = (record.resolvedBody.view, record.writtenAttributes) := by
  cases spoken : record.message with
  | some text =>
    rw [contentView, resolvedBody, writtenAttributes, spoken]
    rfl
  | none =>
    have own (untold : record.template? = none) : (record.resolvedBody.view, record.writtenAttributes) =
        ((record.body.map (·.view none)).getD (.text ""), record.attributes) :=
      Prod.ext_iff.mpr (written_untemplated spoken untold)
    cases rest : record.attributes.dropWhile (·.key ≠ "\x7bOriginalFormat\x7d") with
    | nil =>
      have untold : record.template? = none := by
        apply template?_eq_none
        intro before value after text first
        have other := List.dropWhile_eq_nil_iff.mp rest ⟨_, value⟩ (first.whole ▸ List.mem_append_cons_self)
        simp at other
      simp only [contentView, spoken, rest, own untold]
    | cons entry after =>
      obtain ⟨key, value⟩ := entry
      have first := firstTemplate_of_dropWhile rest
      cases value with
      | none =>
        have untold := first.template?_eq_none (by simp) (by simp)
        simp only [contentView, spoken, rest, own untold]
      | some value =>
        cases value with
        | text | rendered =>
          obtain ⟨body, attributes⟩ := written_templated spoken first rfl
          simp only [contentView, spoken, rest, body, attributes]
        | bool | int | double | array | unsupported =>
          have untold := first.template?_eq_none (by simp) (by simp)
          simp only [contentView, spoken, rest, own untold]

theorem toJson_view (limit : Option Nat) (record : LogRecord) :
    (record.view limit).toJson = record.toJson limit := by
  rw [LogRecordView.toJson, Json.ofFields_eq, LogRecordView.fields]
  simp only [view, toJson, contextMembers, severityView_eq, contentView_eq, Body.toJson_view, Attribute.listJson_eq,
    ← Instant.unixNanoseconds_eq_clamped, ← Severity.number_eq]
  have valid : (record.traceId ≠ ⟨0⟩ ∧ record.spanId ≠ ⟨0⟩) ↔
      ¬ (record.traceId = .invalid ∨ record.spanId = .invalid) := not_or.symm
  simp only [valid, List.isEmpty_iff]
  generalize record.resolvedSeverityText = text
  by_cases absent : record.traceId = .invalid ∨ record.spanId = .invalid
  · simp only [absent, not_true, if_true, if_false]
    cases text <;> split <;> rfl
  · simp only [absent, not_false_eq_true, if_true, if_false]
    cases text <;> split <;> rfl

end LogRecord

namespace LogsView

def toJson (view : LogsView) : Json :=
  .object [("resourceLogs", .array [.object
    [("resource", .object [("attributes", .array (view.resource.map AttributeView.toJson))]),
      ("scopeLogs", .array [.object
        [("scope", .object []), ("logRecords", .array (view.records.map LogRecordView.toJson))]])]])]

theorem toJson_injective : Function.Injective toJson := by
  rintro ⟨resource, records⟩ ⟨resource', records'⟩ same
  simp only [toJson, Json.object.injEq, Json.array.injEq, List.cons.injEq, Prod.mk.injEq, and_true,
    true_and] at same
  obtain ⟨resources, batches⟩ := same
  rw [List.map_injective_iff.mpr AttributeView.toJson_injective resources,
    List.map_injective_iff.mpr LogRecordView.toJson_injective batches]

theorem regular_toJson (view : LogsView) : view.toJson.Every Json.Regular := by
  have resource : (Json.object [("attributes", .array (view.resource.map AttributeView.toJson))]).Every
      Json.Regular := Json.regular_single (Json.regular_map AttributeView.regular_toJson)
  have records : (Json.array (view.records.map LogRecordView.toJson)).Every Json.Regular :=
    Json.regular_map LogRecordView.regular_toJson
  have scope : (Json.object []).Every Json.Regular :=
    .intro List.nodup_nil fun _ among => absurd among List.not_mem_nil
  have group := Json.regular_pair (by decide : "scope" ≠ "logRecords") scope records
  have root := Json.regular_pair (by decide : "resource" ≠ "scopeLogs") resource (Json.regular_element group)
  exact Json.regular_single (Json.regular_element root)

end LogsView

namespace LogsDocument

def view (document : LogsDocument) : LogsView where
  resource := Attribute.views none document.resource.attributes
  records := document.records.map (·.view document.limits.valueLength)

theorem toJson_view (document : LogsDocument) : document.view.toJson = document.body := by
  have records : document.view.records.map LogRecordView.toJson =
      document.records.map (·.toJson document.limits.valueLength) := by
    rw [view, List.map_map]
    exact List.map_congr_left fun record _ => record.toJson_view _
  rw [LogsView.toJson, records, body, Resource.toJson, Attribute.listJson_eq]
  rfl

theorem regular_body (document : LogsDocument) : document.body.Every Json.Regular := by
  rw [← toJson_view]
  exact document.view.regular_toJson

theorem logs_bytes_eq_iff {first second : LogsDocument} (encodable : first.toDocument.failure? = none)
    (also : second.toDocument.failure? = none) :
    Text.utf8 first.toDocument.text = Text.utf8 second.toDocument.text ↔ first.view = second.view := by
  have bodies : first.body = second.body ↔ first.view = second.view := by
    rw [← toJson_view, ← toJson_view]
    exact LogsView.toJson_injective.eq_iff
  rw [Document.bytes_eq_iff encodable also (regular_body first) (regular_body second) rfl]
  exact bodies

def single (entry : Value) (limit : Option Nat) : LogsDocument :=
  ⟨.empty, [⟨.epoch, none, none, some "started", [⟨"task", some entry⟩], none, .invalid, .invalid⟩],
    ⟨limit, none⟩⟩

def templated : LogsDocument :=
  ⟨.empty, [⟨.beforeEpoch, some "\u2003", Severity.ofNumber? 18, none,
    [⟨"\x7bOriginalFormat\x7d", some (.rendered "started")⟩, ⟨"task", none⟩], some (.int 7), ⟨1⟩, .invalid⟩],
    .unlimited⟩

def spelledOut (time : Instant) : LogsDocument :=
  ⟨.empty, [⟨time, some "ERROR2", Severity.ofNumber? 18, none, [⟨"task", none⟩], some (.text "started"),
    .invalid, ⟨2⟩⟩], .unlimited⟩

/-- A cut text and a rendered one have the same bytes, and a text that is not cut has others. A record from
before the epoch with a template and a blank severity text has the bytes of one with all of them spelled out. -/
theorem logs_bytes_eq_iff_cut :
    (single (.text "compaction") (some 7)).toDocument.failure? = none ∧
      (single (.rendered "compact") none).toDocument.failure? = none ∧
      (single (.text "compaction") none).toDocument.failure? = none ∧
      Text.utf8 (single (.text "compaction") (some 7)).toDocument.text =
        Text.utf8 (single (.rendered "compact") none).toDocument.text ∧
      Text.utf8 (single (.text "compaction") (some 7)).toDocument.text ≠
        Text.utf8 (single (.text "compaction") none).toDocument.text ∧
      Text.utf8 templated.toDocument.text = Text.utf8 (spelledOut .epoch).toDocument.text ∧
      Text.utf8 templated.toDocument.text ≠ Text.utf8 (spelledOut .afterEpoch).toDocument.text := by
  have cut : (single (.text "compaction") (some 7)).toDocument.failure? = none := by decide
  have rendered : (single (.rendered "compact") none).toDocument.failure? = none := by decide
  have whole : (single (.text "compaction") none).toDocument.failure? = none := by decide
  have implicit : templated.toDocument.failure? = none := by decide
  have explicit : (spelledOut .epoch).toDocument.failure? = none := by decide
  have later : (spelledOut .afterEpoch).toDocument.failure? = none := by decide
  refine ⟨cut, rendered, whole, (logs_bytes_eq_iff cut rendered).mpr rfl, ?shorter,
    (logs_bytes_eq_iff implicit explicit).mpr rfl, ?later⟩
  case shorter =>
    intro same
    have entries := congrArg (fun view => view.records.map fun record => record.attributes.map (·.map (·.value)))
      ((logs_bytes_eq_iff cut whole).mp same)
    have values : [some [ValueView.text "compact"]] = [some [ValueView.text "compaction"]] := entries
    simp at values
  case later =>
    intro same
    have times := congrArg (fun view => view.records.map (·.time)) ((logs_bytes_eq_iff implicit later).mp same)
    have clamped : [0] = [1] := times
    contradiction

end LogsDocument

end Telemetry
