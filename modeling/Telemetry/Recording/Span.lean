import Telemetry.Span

/-! Spans as an instrumented program ends them: with a start and an end, and with a kind that is always
given. -/
namespace Telemetry

inductive RecordedSpanKind where
  | internal
  | server
  | client
  | producer
  | consumer
  deriving DecidableEq

def RecordedSpanKind.toSpanKind : RecordedSpanKind → SpanKind
  | .internal => .internal
  | .server => .server
  | .client => .client
  | .producer => .producer
  | .consumer => .consumer

structure RecordedSpanEvent where
  name : String
  time : Instant
  attributes : StandardAttributes

structure RecordedSpanLink where
  traceId : TraceId
  spanId : SpanId
  attributes : StandardAttributes

structure RecordedSpan where
  traceId : TraceId
  spanId : SpanId
  parent : SpanId
  name : String
  kind : RecordedSpanKind
  start : Instant
  finish : Instant
  status : SpanStatus
  attributes : StandardAttributes
  events : List RecordedSpanEvent
  links : List RecordedSpanLink
  scope : Scope

def RecordedSpanEvent.toSpanEvent (event : RecordedSpanEvent) : SpanEvent :=
  ⟨event.name, event.time, event.attributes.map Attribute.ofStandard⟩

def RecordedSpanLink.toSpanLink (link : RecordedSpanLink) : SpanLink :=
  ⟨link.traceId, link.spanId, link.attributes.map Attribute.ofStandard⟩

def RecordedSpan.toSpan (span : RecordedSpan) : Span where
  traceId := span.traceId
  spanId := span.spanId
  parent := span.parent
  name := span.name
  kind := span.kind.toSpanKind
  start := span.start
  duration := span.start.elapsed span.finish
  status := span.status
  attributes := span.attributes.map Attribute.ofStandard
  events := span.events.map (·.toSpanEvent)
  links := span.links.map (·.toSpanLink)
  scope := span.scope

end Telemetry
