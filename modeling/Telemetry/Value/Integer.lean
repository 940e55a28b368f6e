import Telemetry.Value

/-! Values made of machine integers, and of lists of them at any depth. An integer of a type in which every
number fits 64 signed bits is extended to them. Of the other types a number can be too large, or too
small, and is then kept by its text. -/
namespace Telemetry

inductive IntegerWidth where
  | bits8
  | bits16
  | bits32
  | bits64
  | bits128
  | address

/-- The number of bits; addresses have 64. -/
def IntegerWidth.bits : IntegerWidth → Nat
  | .bits8 => 8
  | .bits16 => 16
  | .bits32 => 32
  | .bits64 => 64
  | .bits128 => 128
  | .address => 64

structure IntegerType where
  signed : Bool
  width : IntegerWidth

namespace IntegerType

abbrev Carrier (type : IntegerType) : Type :=
  BitVec type.width.bits

variable (type : IntegerType)

def number (i : type.Carrier) : Int :=
  if type.signed then i.toInt else i.toNat

/-- Whether all numbers fit 64 signed bits wherever the type is used. That does not hold of addresses. -/
def narrow : Bool :=
  match type.width with
  | .bits8 => true
  | .bits16 => true
  | .bits32 => true
  | .bits64 => type.signed
  | .bits128 => false
  | .address => false

def extended (i : type.Carrier) : Int64 :=
  .ofBitVec (if type.signed then i.signExtend 64 else i.setWidth 64)

def toValue (i : type.Carrier) : Value :=
  if type.narrow then .int (type.extended i) else .ofInteger (type.number i)

end IntegerType

def Nested (α : Type) : Nat → Type
  | 0 => α
  | depth + 1 => List (Nested α depth)

def Value.ofNested {α : Type} (ofItem : α → Value) : (depth : Nat) → Nested α depth → Value
  | 0, item => ofItem item
  | depth + 1, items => .ofList (ofNested ofItem depth) items

end Telemetry
