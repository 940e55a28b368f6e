import Telemetry.Attribute
import Telemetry.Identifier
import Telemetry.Instant
import Telemetry.Scope

/-! Finished spans with their events and links. A span keeps its start and its duration, and its end
follows from them. -/
namespace Telemetry

inductive SpanKind where
  | unspecified
  | internal
  | server
  | client
  | producer
  | consumer
  deriving DecidableEq

def SpanKind.name : SpanKind → String
  | .unspecified => "SPAN_KIND_UNSPECIFIED"
  | .internal => "SPAN_KIND_INTERNAL"
  | .server => "SPAN_KIND_SERVER"
  | .client => "SPAN_KIND_CLIENT"
  | .producer => "SPAN_KIND_PRODUCER"
  | .consumer => "SPAN_KIND_CONSUMER"

inductive SpanStatus where
  | unset
  | ok
  | error (description : String)
  deriving DecidableEq

structure SpanEvent where
  name : String
  time : Instant
  attributes : List Attribute
  deriving BEq

structure SpanLink where
  traceId : TraceId
  spanId : SpanId
  attributes : List Attribute
  deriving BEq

structure Span where
  traceId : TraceId
  spanId : SpanId
  parent : SpanId
  name : String
  kind : SpanKind
  start : Instant
  duration : Duration
  status : SpanStatus
  attributes : List Attribute
  events : List SpanEvent
  links : List SpanLink
  scope : Scope
  deriving BEq

def Span.finish (span : Span) : Instant :=
  (span.start.after? span.duration).getD span.start

end Telemetry
