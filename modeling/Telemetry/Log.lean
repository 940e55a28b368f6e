import Telemetry.Attribute
import Telemetry.Identifier
import Telemetry.Instant
import Telemetry.Severity
import Telemetry.Text.Blank

/-! Log records, and the two decisions that a record leaves open: where its body comes from and which
severity text stands for it. -/
namespace Telemetry

structure LogRecord where
  time : Instant
  severityText : Option String
  severity : Option Severity
  message : Option String
  attributes : List Attribute
  body : Option Value
  traceId : TraceId
  spanId : SpanId
  deriving BEq

namespace LogRecord

def templateKey : String :=
  "\x7bOriginalFormat\x7d"

inductive Body where
  | text (s : String)
  | value (content : Value)

def template? (record : LogRecord) : Option (Nat × String) := do
  let position ← record.attributes.findIdx? (·.key = templateKey)
  let entry ← record.attributes[position]?
  let text ← entry.value.bind Value.asText?
  return (position, text)

/-- A rendered message comes first, then a template, then the body set on the record. A record with none
of them has an empty text. -/
def resolvedBody (record : LogRecord) : Body :=
  match record.message, record.template?, record.body with
  | some message, _, _ => .text message
  | none, some (_, template), _ => .text template
  | none, none, some content => .value content
  | none, none, none => .text ""

def writtenAttributes (record : LogRecord) : List Attribute :=
  match record.message, record.template? with
  | none, some (position, _) => record.attributes.eraseIdx position
  | _, _ => record.attributes

def resolvedSeverityText (record : LogRecord) : Option String :=
  (record.severityText.filter fun text => !Text.allBlank text).or (record.severity.map (·.name))

end LogRecord

end Telemetry
