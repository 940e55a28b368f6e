import Telemetry.Decimal.Integer

/-! Events by which the library reports on its own work: the progress of exports, metrics that were left
out, and variables of the environment that set no limit. -/
namespace Telemetry

inductive Signal where
  | logs
  | metrics
  | traces
  deriving DecidableEq

inductive LimitVariable where
  | valueLength
  | count
  | logRecordValueLength
  | logRecordCount
  | spanValueLength
  | spanCount
  deriving DecidableEq

namespace LimitVariable

def name : LimitVariable → String
  | .valueLength => "OTEL_ATTRIBUTE_VALUE_LENGTH_LIMIT"
  | .count => "OTEL_ATTRIBUTE_COUNT_LIMIT"
  | .logRecordValueLength => "OTEL_LOGRECORD_ATTRIBUTE_VALUE_LENGTH_LIMIT"
  | .logRecordCount => "OTEL_LOGRECORD_ATTRIBUTE_COUNT_LIMIT"
  | .spanValueLength => "OTEL_SPAN_ATTRIBUTE_VALUE_LENGTH_LIMIT"
  | .spanCount => "OTEL_SPAN_ATTRIBUTE_COUNT_LIMIT"

/-- The variables in the order in which they are read. -/
def all : List LimitVariable :=
  [.valueLength, .count, .logRecordValueLength, .logRecordCount, .spanValueLength, .spanCount]

end LimitVariable

inductive Diagnostic where
  | exportStarted (signal : Signal) (items : Nat)
  | exportSucceeded (signal : Signal)
  | exportFailed (signal : Signal) (message : String)
  | shutdown (signal : Signal)
  | metricSkipped (metric : String)
  | invalidLimit (source : LimitVariable) (content : String)
  deriving DecidableEq

inductive DiagnosticLevel where
  | debug
  | warn
  deriving DecidableEq

namespace Signal

def exporterName : Signal → String
  | .logs => "LogExporter"
  | .metrics => "MetricExporter"
  | .traces => "SpanExporter"

def countField : Signal → String
  | .logs => "record_count"
  | .metrics => "metric_count"
  | .traces => "span_count"

end Signal

namespace Diagnostic

def level : Diagnostic → DiagnosticLevel
  | .invalidLimit .. => .warn
  | _ => .debug

private def exporterEvent (signal : Signal) (event : String) : String :=
  "OtlpJson" ++ signal.exporterName ++ "." ++ event

def name : Diagnostic → String
  | .exportStarted signal _ => exporterEvent signal "ExportStarted"
  | .exportSucceeded signal => exporterEvent signal "ExportSucceeded"
  | .exportFailed signal _ => exporterEvent signal "ExportFailed"
  | .shutdown signal => exporterEvent signal "Shutdown"
  | .metricSkipped _ => exporterEvent .metrics "MetricSkipped"
  | .invalidLimit .. => "OtlpJson.Config.InvalidLimit"

def fields : Diagnostic → List (String × String)
  | .exportStarted signal items => [(signal.countField, Decimal.natural items)]
  | .exportSucceeded _ => []
  | .exportFailed _ message => [("error", message)]
  | .shutdown _ => []
  | .metricSkipped metric => [("metric_name", metric)]
  | .invalidLimit source content =>
    [("message", "Ignoring attribute limit that is not a non-negative integer"), ("value", content),
      ("variable", source.name)]

end Diagnostic

end Telemetry
