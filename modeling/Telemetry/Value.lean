import Telemetry.Decimal.Integer

/-! Values of attributes and of log bodies. Text that was given as text and text that stands for a value
of some other type are told apart. A value of a shape that has no encoding is kept with the name of
its shape. Equality of doubles is numerical: NaN differs from itself and the zeros are equal. -/
namespace Telemetry

-- Powers are those of the core library, also where Mathlib brings its own.
attribute [local instance (high)] instPowNat

inductive Value where
  | text (s : String)
  | bool (b : Bool)
  | int (i : Int64)
  | double (x : Float)
  | array (items : List Value)
  | rendered (s : String)
  | unsupported (kind : String)
  deriving Inhabited

namespace Value

mutual

def same : Value → Value → Bool
  | .text s, .text t => s == t
  | .bool a, .bool b => a == b
  | .int i, .int j => i == j
  | .double x, .double y => x == y
  | .array xs, .array ys => sameItems xs ys
  | .rendered s, .rendered t => s == t
  | .unsupported k, .unsupported l => k == l
  | _, _ => false
termination_by structural value => value

def sameItems : List Value → List Value → Bool
  | [], [] => true
  | x :: xs, y :: ys => same x y && sameItems xs ys
  | _, _ => false
termination_by structural items => items

end

instance : BEq Value :=
  ⟨same⟩

def asText? : Value → Option String
  | .text s => some s
  | .rendered s => some s
  | _ => none

def ofInteger (i : Int) : Value :=
  if -2 ^ (63 : Nat) ≤ i ∧ i < 2 ^ (63 : Nat) then .int (Int64.ofInt i) else .rendered (Decimal.integer i)

def ofSingle (x : Float32) : Value :=
  .double x.toFloat

def ofList {α : Type} (ofItem : α → Value) (items : List α) : Value :=
  .array (items.map ofItem)

end Value

class Displayed (α : Type) where
  text : α → String

instance : Displayed String :=
  ⟨id⟩

instance : Displayed Bool :=
  ⟨fun b => if b then "true" else "false"⟩

instance : Displayed Int :=
  ⟨Decimal.integer⟩

def Value.display {α : Type} [Displayed α] (a : α) : Value :=
  .rendered (Displayed.text a)

end Telemetry
