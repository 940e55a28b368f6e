import Telemetry.Document
import Telemetry.Limits
import Telemetry.Span

/-! The document for a batch of spans, grouped by runs of one scope and followed by a line feed. Parts of
a span that hold nothing are left out. The limit applies to the attributes of spans, events and links. -/
namespace Telemetry

def SpanStatus.toJson? : SpanStatus → Option Json
  | .unset => none
  | .ok => some (.object [("code", .string "STATUS_CODE_OK")])
  | .error description =>
    some (Json.objectOf [some ("code", .string "STATUS_CODE_ERROR"),
      if description = "" then none else some ("message", .string description)])

def SpanEvent.toJson (limit : Option Nat) (event : SpanEvent) : Json :=
  Json.objectOf [some ("name", .string event.name),
    some ("timeUnixNano", .natural event.time.unixNanoseconds),
    Attribute.member? limit event.attributes]

def SpanLink.toJson (limit : Option Nat) (link : SpanLink) : Json :=
  Json.objectOf [some ("traceId", .string link.traceId.text),
    some ("spanId", .string link.spanId.text),
    Attribute.member? limit link.attributes]

namespace Span

def toJson (limit : Option Nat) (span : Span) : Json :=
  Json.objectOf [some ("traceId", .string span.traceId.text),
    some ("spanId", .string span.spanId.text),
    if span.parent = .invalid then none else some ("parentSpanId", .string span.parent.text),
    some ("name", .string span.name),
    some ("kind", .string span.kind.name),
    some ("startTimeUnixNano", .natural span.start.unixNanoseconds),
    some ("endTimeUnixNano", .natural span.finish.unixNanoseconds),
    span.status.toJson?.map fun status => ("status", status),
    Attribute.member? limit span.attributes,
    if span.events.isEmpty then none else some ("events", .array (span.events.map (·.toJson limit))),
    if span.links.isEmpty then none else some ("links", .array (span.links.map (·.toJson limit)))]

def groupJson (limit : Option Nat) (group : ScopeGroup Span) : Json :=
  .object [("scope", group.scope.toJson), ("spans", .array (group.items.map (·.toJson limit)))]

end Span

structure TracesDocument where
  resource : Resource
  spans : List Span
  limits : AttributeLimits

namespace TracesDocument

def groups (document : TracesDocument) : List (ScopeGroup Span) :=
  ScopeGroup.runs (·.scope) document.spans

def body (document : TracesDocument) : Json :=
  .object [("resourceSpans", .array [.object
    [("resource", document.resource.toJson),
      ("scopeSpans", .array (document.groups.map (Span.groupJson document.limits.valueLength)))]])]

def toDocument (document : TracesDocument) : Document :=
  ⟨document.body, true⟩

end TracesDocument

end Telemetry
