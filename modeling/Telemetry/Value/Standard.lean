import Telemetry.Value

/-! Attribute values as instrumentation records them: a primitive, or an array of primitives of one
type. Each has a value of its own, and none of them is unsupported. Attributes can stand in any order,
and sorting them by key makes lists of the same attributes comparable. -/
namespace Telemetry

inductive StandardValue where
  | text (s : String)
  | bool (b : Bool)
  | int (i : Int64)
  | double (x : Float)
  | texts (items : List String)
  | bools (items : List Bool)
  | ints (items : List Int64)
  | doubles (items : List Float)
  deriving BEq

abbrev StandardAttributes := List (String × StandardValue)

def StandardAttributes.byKey (attributes : StandardAttributes) : StandardAttributes :=
  attributes.mergeSort fun a b => a.1 ≤ b.1

def StandardValue.doubleBits : StandardValue → List UInt64
  | .double x => [x.toBits]
  | .doubles items => items.map Float.toBits
  | _ => []

/-- Whether sorted attributes make one set: they are equal, also in the signs of zeros. NaN equals nothing. -/
def StandardAttributes.identical (a b : StandardAttributes) : Bool :=
  a == b && a.map (·.2.doubleBits) == b.map (·.2.doubleBits)

def StandardValue.toValue : StandardValue → Value
  | .text s => .text s
  | .bool b => .bool b
  | .int i => .int i
  | .double x => .double x
  | .texts items => .array (items.map .text)
  | .bools items => .array (items.map .bool)
  | .ints items => .array (items.map .int)
  | .doubles items => .array (items.map .double)

end Telemetry
