import Telemetry.Value.Encoding
import Telemetry.Value.Standard

/-! Attributes and the resource that telemetry comes from. An attribute without a value is null. It is
kept, since it can matter where a record has attributes at all, and it is never written. -/
namespace Telemetry

structure Attribute where
  key : String
  value : Option Value
  deriving BEq

namespace Attribute

def ofStandard (entry : String × StandardValue) : Attribute :=
  ⟨entry.1, some entry.2.toValue⟩

def toJson? (limit : Option Nat) (entry : Attribute) : Option Json :=
  entry.value.map fun value =>
    .object [("key", .string entry.key), ("value", value.toJson limit)]

def listJson (limit : Option Nat) (attributes : List Attribute) : Json :=
  .array (attributes.filterMap (toJson? limit))

def member? (limit : Option Nat) (attributes : List Attribute) : Option (String × Json) :=
  if attributes.all (·.value.isNone) then none else some ("attributes", listJson limit attributes)

end Attribute

structure Resource where
  attributes : List Attribute
  deriving BEq

namespace Resource

def empty : Resource :=
  ⟨[]⟩

def toJson (resource : Resource) : Json :=
  .object [("attributes", Attribute.listJson none resource.attributes)]

end Resource

end Telemetry
