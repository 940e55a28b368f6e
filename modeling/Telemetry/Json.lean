import Telemetry.Decimal.Double

/-! JSON texts as trees. Members of an object keep their order and are not required to be distinct, and
a number is kept as its literal. A gap marks the place of a value that has no JSON form. -/
namespace Telemetry

inductive Json where
  | null
  | bool (b : Bool)
  | number (literal : String)
  | string (s : String)
  | array (items : List Json)
  | object (members : List (String × Json))
  | gap (kind : String)
  deriving Inhabited

namespace Json

def natural (n : Nat) : Json :=
  .number (Decimal.natural n)

def integer (i : Int) : Json :=
  .number (Decimal.integer i)

def numberStyle : Decimal.Style :=
  ⟨-5, 15⟩

/-- JSON has no form for the infinities and NaN, and null stands for them. -/
def double (x : Float) : Json :=
  match numberStyle.text? x with
  | some literal => .number literal
  | none => .null

def objectOf (members : List (Option (String × Json))) : Json :=
  .object (members.filterMap id)

end Json

end Telemetry
