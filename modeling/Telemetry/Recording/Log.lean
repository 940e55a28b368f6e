import Telemetry.Log
import Telemetry.Value.LogValue

/-! Log records as an instrumented program emits them. -/
namespace Telemetry

structure RecordedLog where
  time : Option Instant
  observed : Option Instant
  severityText : Option String
  severity : Option Severity
  body : Option LogValue
  attributes : List (String × LogValue)
  context : Option (TraceId × SpanId)

def RecordedLog.toLogRecord (record : RecordedLog) : LogRecord where
  time := (record.time.or record.observed).getD .epoch
  severityText := record.severityText
  severity := record.severity
  message := none
  attributes := record.attributes.map fun (key, value) => ⟨key, some value.toValue⟩
  body := record.body.map (·.toValue)
  traceId := (record.context.map (·.1)).getD .invalid
  spanId := (record.context.map (·.2)).getD .invalid

end Telemetry
