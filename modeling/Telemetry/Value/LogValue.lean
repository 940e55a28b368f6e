import Telemetry.Value

/-! Values as a logging front end records them. They nest, and they include raw bytes and maps, which
have no encoding. -/
namespace Telemetry

inductive LogValue where
  | int (i : Int64)
  | double (x : Float)
  | text (s : String)
  | bool (b : Bool)
  | list (items : List LogValue)
  | bytes (content : List UInt8)
  | map (entries : List (String × LogValue))
  deriving Inhabited

namespace LogValue

mutual

def toValue : LogValue → Value
  | .int i => .int i
  | .double x => .double x
  | .text s => .text s
  | .bool b => .bool b
  | .list items => .array (toValues items)
  | .bytes _ => .unsupported "bytes"
  | .map _ => .unsupported "kvlist"
termination_by structural value => value

def toValues : List LogValue → List Value
  | [] => []
  | item :: items => toValue item :: toValues items
termination_by structural items => items

end

end LogValue

end Telemetry
