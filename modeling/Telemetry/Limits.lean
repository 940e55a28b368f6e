import Telemetry.Diagnostic
import Telemetry.Text.Blank

/-! Limits on attributes and how they are found. A limit on the length of values is applied where values
are written; a limit on their number is only carried along. Limits that are not set by hand come
from six variables of the environment: a variable of its own for each signal, and a general one that
stands in for it. -/
namespace Telemetry

-- Powers are those of the core library, also where Mathlib brings its own.
attribute [local instance (high)] instPowNat

structure AttributeLimits where
  valueLength : Option Nat
  count : Option Nat
  deriving DecidableEq

namespace AttributeLimits

def unlimited : AttributeLimits :=
  ⟨none, none⟩

def defaultCount : Nat :=
  128

def default : AttributeLimits :=
  ⟨none, some defaultCount⟩

end AttributeLimits

abbrev Environment := LimitVariable → Option ByteArray

namespace LimitVariable

def number? (s : List Char) : Option Nat :=
  let digits := match s with
    | '+' :: rest => rest
    | _ => s
  let n := digits.foldl (fun n c => 10 * n + (c.toNat - '0'.toNat)) 0
  if !digits.isEmpty && digits.all Char.isDigit && n < 2 ^ (64 : Nat) then some n else none

/-- The text of a variable; content that is not text counts as unset. -/
def text? (environment : Environment) (source : LimitVariable) : Option String :=
  (environment source).bind String.fromUTF8?

def read? (environment : Environment) (source : LimitVariable) : Option Nat :=
  (source.text? environment).bind fun text => number? (Text.trim text.toList)

def warning? (environment : Environment) (source : LimitVariable) : Option Diagnostic :=
  match source.text? environment, source.read? environment with
  | some text, none => some (.invalidLimit source text)
  | _, _ => none

end LimitVariable

structure SignalLimits where
  logRecord : AttributeLimits
  span : AttributeLimits
  deriving DecidableEq

namespace SignalLimits

def unlimited : SignalLimits :=
  ⟨.unlimited, .unlimited⟩

def ofEnvironment (environment : Environment) : SignalLimits :=
  let read (source : LimitVariable) := source.read? environment
  let valueLength := read .valueLength
  let count := (read .count).or (some AttributeLimits.defaultCount)
  ⟨⟨(read .logRecordValueLength).or valueLength, (read .logRecordCount).or count⟩,
    ⟨(read .spanValueLength).or valueLength, (read .spanCount).or count⟩⟩

def warnings (environment : Environment) : List Diagnostic :=
  LimitVariable.all.filterMap (·.warning? environment)

inductive Setting where
  | logRecordValueLength (limit : Nat)
  | logRecordCount (limit : Nat)
  | spanValueLength (limit : Nat)
  | spanCount (limit : Nat)

def set (limits : SignalLimits) : Setting → SignalLimits
  | .logRecordValueLength n => { limits with logRecord := { limits.logRecord with valueLength := some n } }
  | .logRecordCount n => { limits with logRecord := { limits.logRecord with count := some n } }
  | .spanValueLength n => { limits with span := { limits.span with valueLength := some n } }
  | .spanCount n => { limits with span := { limits.span with count := some n } }

def build (environment : Environment) (settings : List Setting) : SignalLimits :=
  settings.foldl set (ofEnvironment environment)

end SignalLimits

end Telemetry
