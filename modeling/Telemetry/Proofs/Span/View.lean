import Telemetry.Proofs.Document
import Telemetry.Proofs.Identifier
import Telemetry.Proofs.Instant.Reading
import Telemetry.Proofs.Json.Members
import Telemetry.Proofs.Scope
import Telemetry.Proofs.Value.View
import Telemetry.Span.Document

/-! What a traces document tells. The view of a batch of spans holds all that the bytes of its document
depend on and all that can be recovered from them. Of a scope it holds the name and the version, so
schemas and attributes of scopes leave no trace. -/
namespace Telemetry

-- Powers are those of the core library, also where Mathlib brings its own.
attribute [local instance (high)] instPowNat

structure SpanEventView where
  name : String
  time : Nat
  attributes : List AttributeView

structure SpanLinkView where
  traceId : TraceId
  spanId : SpanId
  attributes : List AttributeView

structure SpanView where
  traceId : TraceId
  spanId : SpanId
  parent : Option SpanId
  name : String
  kind : SpanKind
  start : Nat
  finish : Nat
  status : SpanStatus
  attributes : List AttributeView
  events : List SpanEventView
  links : List SpanLinkView

structure SpanGroupView where
  scope : ScopeView
  spans : List SpanView

structure TracesView where
  resource : List AttributeView
  groups : List SpanGroupView

namespace SpanEventView

def fields (event : SpanEventView) : List (String × Option Json) :=
  [("name", some (.string event.name)),
    ("timeUnixNano", some (.natural event.time)),
    ("attributes", Json.nonempty? (event.attributes.map AttributeView.toJson))]

def toJson (event : SpanEventView) : Json :=
  .ofFields event.fields

private theorem names_event (event : SpanEventView) :
    event.fields.map (·.1) = ["name", "timeUnixNano", "attributes"] := rfl

theorem toJson_injective : Function.Injective toJson := by
  intro event other same
  have values := Json.ofFields_injective names_event (by simp) same
  simp only [fields, List.map_cons, List.map_nil, List.cons.injEq, Option.some.injEq, and_true] at values
  obtain ⟨names, times, attributes⟩ := values
  have name := Json.string.inj names
  have time := Decimal.natural_injective (Json.number.inj times)
  have entries := Json.nonempty?_map_injective AttributeView.toJson_injective attributes
  cases event
  cases other
  simp only at name time entries
  rw [name, time, entries]

theorem regular_toJson (event : SpanEventView) : event.toJson.Every Json.Regular := by
  apply Json.regular_ofFields (by simp [fields])
  simp only [fields, List.forall_mem_cons]
  refine ⟨?name, ?time, ?attributes, ?rest⟩
  case name => exact fun _ => Json.regular_of_mem_some (Json.regular_string _)
  case time => exact fun _ => Json.regular_of_mem_some (Json.regular_natural _)
  case attributes => exact fun _ => Json.regular_of_mem_nonempty? AttributeView.regular_toJson
  case rest => exact List.forall_mem_nil _

theorem membersNamed_toJson (event : SpanEventView) {name : String} {value : Option Json}
    (field : (name, value) ∈ event.fields) : event.toJson.membersNamed name = value.toList :=
  Json.membersNamed_ofFields (by simp [names_event]) field

end SpanEventView

namespace SpanLinkView

def fields (link : SpanLinkView) : List (String × Option Json) :=
  [("traceId", some (.string link.traceId.text)),
    ("spanId", some (.string link.spanId.text)),
    ("attributes", Json.nonempty? (link.attributes.map AttributeView.toJson))]

def toJson (link : SpanLinkView) : Json :=
  .ofFields link.fields

private theorem names_link (link : SpanLinkView) :
    link.fields.map (·.1) = ["traceId", "spanId", "attributes"] := rfl

theorem toJson_injective : Function.Injective toJson := by
  intro link other same
  have values := Json.ofFields_injective names_link (by simp) same
  simp only [fields, List.map_cons, List.map_nil, List.cons.injEq, Option.some.injEq, and_true] at values
  obtain ⟨traces, spans, attributes⟩ := values
  have traceId := TraceId.text_injective (Json.string.inj traces)
  have spanId := SpanId.text_injective (Json.string.inj spans)
  have entries := Json.nonempty?_map_injective AttributeView.toJson_injective attributes
  cases link
  cases other
  simp only at traceId spanId entries
  rw [traceId, spanId, entries]

theorem regular_toJson (link : SpanLinkView) : link.toJson.Every Json.Regular := by
  apply Json.regular_ofFields (by simp [fields])
  simp only [fields, List.forall_mem_cons]
  refine ⟨?traceId, ?spanId, ?attributes, ?rest⟩
  case traceId => exact fun _ => Json.regular_of_mem_some (Json.regular_string _)
  case spanId => exact fun _ => Json.regular_of_mem_some (Json.regular_string _)
  case attributes => exact fun _ => Json.regular_of_mem_nonempty? AttributeView.regular_toJson
  case rest => exact List.forall_mem_nil _

theorem membersNamed_toJson (link : SpanLinkView) {name : String} {value : Option Json}
    (field : (name, value) ∈ link.fields) : link.toJson.membersNamed name = value.toList :=
  Json.membersNamed_ofFields (by simp [names_link]) field

end SpanLinkView

namespace SpanStatus

def fields (code : String) (description : String) : List (String × Option Json) :=
  [("code", some (.string code)),
    ("message", if description = "" then none else some (.string description))]

private theorem toJson?_ok : SpanStatus.ok.toJson? = some (.ofFields (fields "STATUS_CODE_OK" "")) := rfl

private theorem toJson?_error (description : String) :
    (SpanStatus.error description).toJson? = some (.ofFields (fields "STATUS_CODE_ERROR" description)) := by
  rw [toJson?, Json.ofFields_eq, fields]
  split <;> rfl

private theorem fields_inj {code code' description description' : String}
    (same : Json.ofFields (fields code description) = .ofFields (fields code' description')) :
    code = code' ∧ description = description' := by
  have values := @Json.ofFields_injective (String × String) (fun pair => fields pair.1 pair.2) ["code", "message"]
    (fun _ => rfl) (by simp) (code, description) (code', description') same
  simp only [fields, List.map_cons, List.map_nil, List.cons.injEq, Option.some.injEq, and_true] at values
  refine ⟨Json.string.inj values.1, ?_⟩
  have messages := values.2
  split at messages <;> split at messages <;> simp_all

theorem toJson?_injective : Function.Injective toJson? := by
  intro status other same
  cases status with
  | unset =>
    cases other with
    | unset => rfl
    | ok => exact nomatch same
    | error description => exact nomatch same
  | ok =>
    cases other with
    | unset => exact nomatch same
    | ok => rfl
    | error description =>
      rw [toJson?_ok, toJson?_error] at same
      exact absurd (fields_inj (Option.some.inj same)).1 (by decide)
  | error description =>
    cases other with
    | unset => exact nomatch same
    | ok =>
      rw [toJson?_ok, toJson?_error] at same
      exact absurd (fields_inj (Option.some.inj same)).1 (by decide)
    | error description' =>
      rw [toJson?_error, toJson?_error] at same
      rw [(fields_inj (Option.some.inj same)).2]

theorem regular_of_mem_toJson? (status : SpanStatus) {value : Json} (member : value ∈ status.toJson?) :
    value.Every Json.Regular := by
  have written : ∀ code description, (Json.ofFields (fields code description)).Every Json.Regular := by
    intro code description
    apply Json.regular_ofFields (by simp [fields])
    simp only [fields, List.forall_mem_cons]
    refine ⟨fun _ => Json.regular_of_mem_some (Json.regular_string _), ?_,
      List.forall_mem_nil _⟩
    intro value member
    split at member
    · contradiction
    · exact Json.regular_of_mem_some (Json.regular_string _) member
  cases status with
  | unset => contradiction
  | ok => exact Json.regular_of_mem_some (written _ _) (toJson?_ok ▸ member)
  | error description => exact Json.regular_of_mem_some (written _ _) (toJson?_error description ▸ member)

end SpanStatus

theorem SpanKind.name_injective : Function.Injective SpanKind.name := by
  intro kind other same
  revert same
  cases kind <;> cases other <;> simp [name]

namespace SpanView

def fields (span : SpanView) : List (String × Option Json) :=
  [("traceId", some (.string span.traceId.text)),
    ("spanId", some (.string span.spanId.text)),
    ("parentSpanId", span.parent.map fun id => .string id.text),
    ("name", some (.string span.name)),
    ("kind", some (.string span.kind.name)),
    ("startTimeUnixNano", some (.natural span.start)),
    ("endTimeUnixNano", some (.natural span.finish)),
    ("status", span.status.toJson?),
    ("attributes", Json.nonempty? (span.attributes.map AttributeView.toJson)),
    ("events", Json.nonempty? (span.events.map SpanEventView.toJson)),
    ("links", Json.nonempty? (span.links.map SpanLinkView.toJson))]

def toJson (span : SpanView) : Json :=
  .ofFields span.fields

private theorem names_span (span : SpanView) : span.fields.map (·.1) =
    ["traceId", "spanId", "parentSpanId", "name", "kind", "startTimeUnixNano", "endTimeUnixNano", "status",
      "attributes", "events", "links"] := rfl

theorem toJson_injective : Function.Injective toJson := by
  intro span other same
  have values := Json.ofFields_injective names_span (by simp) same
  simp only [fields, List.map_cons, List.map_nil, List.cons.injEq, Option.some.injEq, and_true] at values
  obtain ⟨traces, spans, parents, names, kinds, starts, finishes, statuses, attributes, events, links⟩ := values
  have traceId := TraceId.text_injective (Json.string.inj traces)
  have spanId := SpanId.text_injective (Json.string.inj spans)
  have parent := Option.map_injective (fun _ _ same => SpanId.text_injective (Json.string.inj same)) parents
  have name := Json.string.inj names
  have kind := SpanKind.name_injective (Json.string.inj kinds)
  have start := Decimal.natural_injective (Json.number.inj starts)
  have finish := Decimal.natural_injective (Json.number.inj finishes)
  have status := SpanStatus.toJson?_injective statuses
  have entries := Json.nonempty?_map_injective AttributeView.toJson_injective attributes
  have happened := Json.nonempty?_map_injective SpanEventView.toJson_injective events
  have linked := Json.nonempty?_map_injective SpanLinkView.toJson_injective links
  cases span
  cases other
  simp only at traceId spanId parent name kind start finish status entries happened linked
  rw [traceId, spanId, parent, name, kind, start, finish, status, entries, happened, linked]

theorem regular_toJson (span : SpanView) : span.toJson.Every Json.Regular := by
  apply Json.regular_ofFields (by simp [names_span])
  simp only [fields, List.forall_mem_cons]
  refine ⟨?traceId, ?spanId, ?parent, ?name, ?kind, ?start, ?finish, ?status, ?attributes, ?events, ?links,
    ?rest⟩
  case traceId => exact fun _ => Json.regular_of_mem_some (Json.regular_string _)
  case spanId => exact fun _ => Json.regular_of_mem_some (Json.regular_string _)
  case parent => exact fun _ => Json.regular_of_mem_map fun _ => Json.regular_string _
  case name => exact fun _ => Json.regular_of_mem_some (Json.regular_string _)
  case kind => exact fun _ => Json.regular_of_mem_some (Json.regular_string _)
  case start => exact fun _ => Json.regular_of_mem_some (Json.regular_natural _)
  case finish => exact fun _ => Json.regular_of_mem_some (Json.regular_natural _)
  case status => exact fun _ => SpanStatus.regular_of_mem_toJson? _
  case attributes => exact fun _ => Json.regular_of_mem_nonempty? AttributeView.regular_toJson
  case events => exact fun _ => Json.regular_of_mem_nonempty? SpanEventView.regular_toJson
  case links => exact fun _ => Json.regular_of_mem_nonempty? SpanLinkView.regular_toJson
  case rest => exact List.forall_mem_nil _

theorem membersNamed_toJson (span : SpanView) {name : String} {value : Option Json}
    (field : (name, value) ∈ span.fields) : span.toJson.membersNamed name = value.toList :=
  Json.membersNamed_ofFields (by simp [names_span]) field

end SpanView

namespace SpanGroupView

def toJson (group : SpanGroupView) : Json :=
  .object [("scope", group.scope.toJson), ("spans", .array (group.spans.map SpanView.toJson))]

theorem toJson_injective : Function.Injective toJson := by
  rintro ⟨scope, spans⟩ ⟨scope', spans'⟩ same
  simp only [toJson, Json.object.injEq, Json.array.injEq, List.cons.injEq, Prod.mk.injEq, and_true,
    true_and] at same
  obtain ⟨scopes, batches⟩ := same
  rw [ScopeView.toJson_injective scopes, List.map_injective_iff.mpr SpanView.toJson_injective batches]

theorem regular_toJson (group : SpanGroupView) : group.toJson.Every Json.Regular :=
  Json.regular_pair (by decide) group.scope.regular_toJson (Json.regular_map SpanView.regular_toJson)

end SpanGroupView

namespace TracesView

def toJson (view : TracesView) : Json :=
  .object [("resourceSpans", .array [.object
    [("resource", .object [("attributes", .array (view.resource.map AttributeView.toJson))]),
      ("scopeSpans", .array (view.groups.map SpanGroupView.toJson))]])]

theorem toJson_injective : Function.Injective toJson := by
  rintro ⟨resource, groups⟩ ⟨resource', groups'⟩ same
  simp only [toJson, Json.object.injEq, Json.array.injEq, List.cons.injEq, Prod.mk.injEq, and_true,
    true_and] at same
  obtain ⟨resources, batches⟩ := same
  rw [List.map_injective_iff.mpr AttributeView.toJson_injective resources,
    List.map_injective_iff.mpr SpanGroupView.toJson_injective batches]

theorem regular_toJson (view : TracesView) : view.toJson.Every Json.Regular := by
  have resource : (Json.object [("attributes", .array (view.resource.map AttributeView.toJson))]).Every
      Json.Regular := Json.regular_single (Json.regular_map AttributeView.regular_toJson)
  have groups : (Json.array (view.groups.map SpanGroupView.toJson)).Every Json.Regular :=
    Json.regular_map SpanGroupView.regular_toJson
  have root := Json.regular_pair (by decide : "resource" ≠ "scopeSpans") resource groups
  exact Json.regular_single (Json.regular_element root)

end TracesView

def SpanEvent.view (limit : Option Nat) (event : SpanEvent) : SpanEventView where
  name := event.name
  time := Instant.clamped event.time.nanoseconds
  attributes := Attribute.views limit event.attributes

def SpanLink.view (limit : Option Nat) (link : SpanLink) : SpanLinkView where
  traceId := link.traceId
  spanId := link.spanId
  attributes := Attribute.views limit link.attributes

def Span.endNanoseconds (span : Span) : Int :=
  if span.start.nanoseconds + span.duration.nanoseconds < 2 ^ (63 : Nat) * 10 ^ (9 : Nat) then
    span.start.nanoseconds + span.duration.nanoseconds
  else span.start.nanoseconds

def Span.view (limit : Option Nat) (span : Span) : SpanView where
  traceId := span.traceId
  spanId := span.spanId
  parent := if span.parent = ⟨0⟩ then none else some span.parent
  name := span.name
  kind := span.kind
  start := Instant.clamped span.start.nanoseconds
  finish := Instant.clamped span.endNanoseconds
  status := span.status
  attributes := Attribute.views limit span.attributes
  events := span.events.map (·.view limit)
  links := span.links.map (·.view limit)

def Span.groupView? (limit : Option Nat) (spans : List Span) : Option SpanGroupView :=
  spans.head?.map fun first => ⟨first.scope.view, spans.map (·.view limit)⟩

def TracesDocument.view (document : TracesDocument) : TracesView where
  resource := Attribute.views none document.resource.attributes
  groups := (document.spans.splitBy fun span next =>
      span.scope.name = next.scope.name ∧ span.scope.version = next.scope.version).filterMap
    (Span.groupView? document.limits.valueLength)

theorem SpanEvent.toJson_view (limit : Option Nat) (event : SpanEvent) :
    (event.view limit).toJson = event.toJson limit := by
  rw [SpanEventView.toJson, Json.ofFields_eq, SpanEventView.fields, view, ← Instant.unixNanoseconds_eq_clamped, toJson,
    Attribute.member?_eq]
  rfl

theorem SpanLink.toJson_view (limit : Option Nat) (link : SpanLink) :
    (link.view limit).toJson = link.toJson limit := by
  rw [SpanLinkView.toJson, Json.ofFields_eq, SpanLinkView.fields, view, toJson, Attribute.member?_eq]
  rfl

private theorem map_nonempty?_views {α β : Type} (name : String) (items : List α) {view : α → β}
    {toJson : β → Json} {written : α → Json} (same : ∀ item, toJson (view item) = written item) :
    (Json.nonempty? ((items.map view).map toJson)).map (name, ·) =
      if items.isEmpty then none else some (name, .array (items.map written)) := by
  have forms : (items.map view).map toJson = items.map written := by
    rw [List.map_map]
    exact List.map_congr_left fun item _ => same item
  rw [forms]
  cases items <;> rfl

theorem Span.nanoseconds_finish (span : Span) : span.finish.nanoseconds = span.endNanoseconds := by
  have low := span.start.notBefore
  rw [endNanoseconds]
  split
  · rename_i inside
    have total : (Instant.mk (span.start.nanoseconds + span.duration.nanoseconds) (by omega) inside).nanoseconds =
        span.start.nanoseconds + span.duration.nanoseconds := rfl
    rw [finish, Instant.after?_eq_some total]
    exact total
  · rename_i beyond
    rw [finish, Instant.after?_eq_none (by omega)]
    rfl

theorem Span.toJson_view (limit : Option Nat) (span : Span) :
    (span.view limit).toJson = span.toJson limit := by
  have events := map_nonempty?_views "events" span.events (SpanEvent.toJson_view limit)
  have links := map_nonempty?_views "links" span.links (SpanLink.toJson_view limit)
  rw [SpanView.toJson, Json.ofFields_eq, SpanView.fields, view, ← span.nanoseconds_finish,
    ← Instant.unixNanoseconds_eq_clamped, ← Instant.unixNanoseconds_eq_clamped, toJson, Attribute.member?_eq]
  simp only [List.map_cons, List.map_nil, events, links, SpanId.invalid]
  by_cases absent : span.parent = ⟨0⟩
  · simp only [absent, if_true]
    rfl
  · simp only [absent, if_false]
    rfl

theorem Span.toJson_groupView (limit : Option Nat) (spans : List Span) :
    (groupView? limit spans).map SpanGroupView.toJson =
      spans.head?.map fun first => groupJson limit ⟨first.scope, spans⟩ := by
  have items : (spans.map (·.view limit)).map SpanView.toJson = spans.map (·.toJson limit) := by
    rw [List.map_map]
    exact List.map_congr_left fun span _ => span.toJson_view limit
  rw [groupView?, Option.map_map]
  congr 1
  funext first
  rw [Function.comp, SpanGroupView.toJson, items, Scope.toJson_view, groupJson]

namespace TracesDocument

theorem toJson_view (document : TracesDocument) : document.view.toJson = document.body := by
  have groups : document.view.groups.map SpanGroupView.toJson =
      document.groups.map (Span.groupJson document.limits.valueLength) :=
    ScopeGroup.map_views (·.scope) (Span.toJson_groupView document.limits.valueLength) document.spans
  rw [TracesView.toJson, groups, body, Resource.toJson, Attribute.listJson_eq]
  rfl

theorem regular_body (document : TracesDocument) : document.body.Every Json.Regular := by
  rw [← toJson_view]
  exact document.view.regular_toJson

def bare (document : TracesDocument) : TracesDocument :=
  { document with spans := document.spans.map fun span => { span with scope := span.scope.bare } }

theorem view_bare (document : TracesDocument) : document.bare.view = document.view := by
  have hidden : ∀ run : List Span, Span.groupView? document.limits.valueLength
      (run.map fun span => { span with scope := span.scope.bare }) =
        Span.groupView? document.limits.valueLength run := by
    intro run
    rw [Span.groupView?, Span.groupView?, List.head?_map, Option.map_map, List.map_map]
    rfl
  exact congrArg (TracesView.mk _) (ScopeGroup.filterMap_views hidden _ document.spans)

/-- Documents of spans have the same bytes just when their views agree, so nothing that is left out of
the view shows in the bytes: no schema and no attribute of a scope. -/
theorem traces_bytes_eq_iff {first second : TracesDocument} (encodable : first.toDocument.failure? = none)
    (also : second.toDocument.failure? = none) :
    (Text.utf8 first.toDocument.text = Text.utf8 second.toDocument.text ↔ first.view = second.view) ∧
      Text.utf8 first.bare.toDocument.text = Text.utf8 first.toDocument.text := by
  have bodies : ∀ document other : TracesDocument, document.body = other.body ↔ document.view = other.view := by
    intro document other
    rw [← toJson_view, ← toJson_view]
    exact TracesView.toJson_injective.eq_iff
  refine ⟨?_, ?_⟩
  · rw [Document.bytes_eq_iff encodable also (regular_body first) (regular_body second) rfl]
    exact bodies first second
  · have same := (bodies first.bare first).mpr (view_bare first)
    rw [toDocument, toDocument, same]

def ofVersions (versions : List (Option String)) : TracesDocument :=
  ⟨.empty, versions.map fun version =>
    ⟨⟨1⟩, ⟨2⟩, .invalid, "compact", .internal, .epoch, .zero, .unset, [], [], [], ⟨"store", version, none, []⟩⟩,
    .unlimited⟩

def lasting (duration : Duration) (entry : Value) : Span :=
  ⟨⟨1⟩, ⟨2⟩, .invalid, "compact", .internal, ⟨5, by decide, by decide⟩, duration, .unset,
    [⟨"task", some entry⟩, ⟨"host", none⟩], [], [], ⟨"store", none, none, []⟩⟩

def endless : Span :=
  lasting ⟨2 ^ (63 : Nat) * 10 ^ (9 : Nat), by decide⟩ (.text "compaction")

def instantaneous : Span :=
  lasting .zero (.rendered "compact")

def brief : Span :=
  lasting ⟨1, by decide⟩ (.rendered "compact")

def single (span : Span) (limit : Option Nat) : TracesDocument :=
  ⟨.empty, [span], ⟨limit, none⟩⟩

theorem view_single (span : Span) (limit : Option Nat) :
    (single span limit).view = ⟨[], [⟨span.scope.view, [span.view limit]⟩]⟩ :=
  rfl

/-- An absent and an empty version are written alike, and still the groups can be told apart. A span that lasts
beyond the clock has the bytes of one that takes no time, and a span that takes a nanosecond has others. -/
theorem traces_bytes_eq_iff_versions :
    (ofVersions [none, some ""]).toDocument.failure? = none ∧
      (ofVersions [some "", none]).toDocument.failure? = none ∧
      (ofVersions [none, none]).toDocument.failure? = none ∧
      Text.utf8 (ofVersions [none, some ""]).toDocument.text =
        Text.utf8 (ofVersions [some "", none]).toDocument.text ∧
      Text.utf8 (ofVersions [none, some ""]).toDocument.text ≠
        Text.utf8 (ofVersions [none, none]).toDocument.text ∧
      Text.utf8 (single endless (some 7)).toDocument.text = Text.utf8 (single instantaneous none).toDocument.text ∧
      Text.utf8 (single brief none).toDocument.text ≠ Text.utf8 (single instantaneous none).toDocument.text := by
  have apart : (ofVersions [none, some ""]).toDocument.failure? = none := by decide
  have swapped : (ofVersions [some "", none]).toDocument.failure? = none := by decide
  have together : (ofVersions [none, none]).toDocument.failure? = none := by decide
  have cut : (single endless (some 7)).toDocument.failure? = none := by decide
  have whole : (single instantaneous none).toDocument.failure? = none := by decide
  have longer : (single brief none).toDocument.failure? = none := by decide
  refine ⟨apart, swapped, together, (traces_bytes_eq_iff apart swapped).1.mpr rfl, ?groups,
    (traces_bytes_eq_iff cut whole).1.mpr ?beyond, ?longer⟩
  case groups =>
    intro same
    have views := (traces_bytes_eq_iff apart together).1.mp same
    have counts : 2 = 1 := congrArg (fun view : TracesView => view.groups.length) views
    exact absurd counts (by decide)
  case beyond =>
    have ends : endless.endNanoseconds = 5 := by decide
    have also : instantaneous.endNanoseconds = 5 := by decide
    rw [view_single, view_single, Span.view, Span.view, ends, also]
    rfl
  case longer =>
    intro same
    have views := (traces_bytes_eq_iff longer whole).1.mp same
    rw [view_single, view_single] at views
    have finishes := congrArg (fun view => view.groups.map fun group => group.spans.map (·.finish)) views
    have times : [[Instant.clamped brief.endNanoseconds]] = [[Instant.clamped instantaneous.endNanoseconds]] := finishes
    exact absurd times (by decide)

end TracesDocument

end Telemetry
