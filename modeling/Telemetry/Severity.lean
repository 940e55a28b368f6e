import Telemetry.Decimal.Integer

/-! The 24 severities of a log record: six ranges of four steps each. The first step of a range has
the bare name of the range, the others carry their number. -/
namespace Telemetry

inductive SeverityRange where
  | trace
  | debug
  | info
  | warn
  | error
  | fatal
  deriving DecidableEq

structure Severity where
  range : SeverityRange
  step : Fin 4
  deriving DecidableEq

namespace SeverityRange

def all : List SeverityRange :=
  [.trace, .debug, .info, .warn, .error, .fatal]

def index : SeverityRange → Nat
  | .trace => 0
  | .debug => 1
  | .info => 2
  | .warn => 3
  | .error => 4
  | .fatal => 5

def name : SeverityRange → String
  | .trace => "TRACE"
  | .debug => "DEBUG"
  | .info => "INFO"
  | .warn => "WARN"
  | .error => "ERROR"
  | .fatal => "FATAL"

end SeverityRange

namespace Severity

def number (severity : Severity) : Nat :=
  4 * severity.range.index + severity.step + 1

def name (severity : Severity) : String :=
  if severity.step = 0 then severity.range.name
  else severity.range.name ++ Decimal.natural (severity.step + 1)

def ofNumber? (n : Nat) : Option Severity :=
  if n = 0 then none
  else (SeverityRange.all[(n - 1) / 4]?).map fun range => ⟨range, Fin.ofNat 4 ((n - 1) % 4)⟩

theorem ofNumber?_number (severity : Severity) : ofNumber? severity.number = some severity := by
  obtain ⟨range, step⟩ := severity
  cases range <;> revert step <;> decide

end Severity

end Telemetry
