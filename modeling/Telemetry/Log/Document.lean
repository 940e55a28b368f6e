import Telemetry.Document
import Telemetry.Limits
import Telemetry.Log

/-! The document for a batch of log records. All records stand under one scope without a name. The limit
applies to the attributes of records and to nothing else. -/
namespace Telemetry

namespace LogRecord

def Body.toJson : Body → Json
  | .text s => Value.textJson s
  | .value content => content.toJson none

def contextMembers (record : LogRecord) : List (Option (String × Json)) :=
  if record.traceId = .invalid ∨ record.spanId = .invalid then []
  else [some ("traceId", .string record.traceId.text), some ("spanId", .string record.spanId.text)]

/-- The attributes are written whenever the record has any, even if none of them is left. -/
def toJson (limit : Option Nat) (record : LogRecord) : Json :=
  Json.objectOf <|
    [some ("timeUnixNano", .string (Decimal.natural record.time.unixNanoseconds)),
      record.resolvedSeverityText.map fun text => ("severityText", .string text),
      some ("severityNumber", .natural ((record.severity.map (·.number)).getD 0)),
      if record.attributes.isEmpty then none
      else some ("attributes", Attribute.listJson limit record.writtenAttributes),
      some ("body", record.resolvedBody.toJson)] ++ record.contextMembers

end LogRecord

structure LogsDocument where
  resource : Resource
  records : List LogRecord
  limits : AttributeLimits

namespace LogsDocument

def body (document : LogsDocument) : Json :=
  .object [("resourceLogs", .array [.object
    [("resource", document.resource.toJson),
      ("scopeLogs", .array [.object
        [("scope", .object []),
          ("logRecords", .array (document.records.map (·.toJson document.limits.valueLength)))]])]])]

def toDocument (document : LogsDocument) : Document :=
  ⟨document.body, false⟩

end LogsDocument

end Telemetry
