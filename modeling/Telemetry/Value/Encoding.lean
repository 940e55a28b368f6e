import Telemetry.Json
import Telemetry.Text.Truncation
import Telemetry.Value

/-! The JSON form of a value: an object with one member whose name tells the type. A limit cuts every
text in a value, at any depth. A value without an encoding becomes a gap. -/
namespace Telemetry.Value

def noEncoding (kind : String) : String :=
  kind ++ " values have no OTLP/JSON encoding"

def textJson (s : String) : Json :=
  .object [("stringValue", .string s)]

mutual

def toJson (limit : Option Nat) : Value → Json
  | .text s => textJson (Text.truncate limit s)
  | .rendered s => textJson (Text.truncate limit s)
  | .bool b => .object [("boolValue", .bool b)]
  | .int i => .object [("intValue", .integer i.toInt)]
  | .double x => .object [("doubleValue", .double x)]
  | .array items => .object [("arrayValue", .object [("values", .array (toJsons limit items))])]
  | .unsupported kind => .gap (noEncoding kind)
termination_by structural value => value

def toJsons (limit : Option Nat) : List Value → List Json
  | [] => []
  | item :: items => toJson limit item :: toJsons limit items
termination_by structural items => items

end

theorem toJsons_eq_map (limit : Option Nat) (items : List Value) :
    toJsons limit items = items.map (toJson limit) := by
  induction items with
  | nil => rfl
  | cons item items ih => simp [toJsons, ih]

end Telemetry.Value
