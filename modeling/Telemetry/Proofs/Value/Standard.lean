import Telemetry.Attribute
import Mathlib.Data.List.Forall2

/-! What recorded values and attributes become, by the kind of the value and without the conversion that is
meant to lead there. An array becomes an array of the same items, and every attribute keeps its key. -/
namespace Telemetry

inductive StandardValue.Becomes : StandardValue → Value → Prop
  | text (s : String) : Becomes (.text s) (.text s)
  | bool (b : Bool) : Becomes (.bool b) (.bool b)
  | int (i : Int64) : Becomes (.int i) (.int i)
  | double (x : Float) : Becomes (.double x) (.double x)
  | texts (items : List String) : Becomes (.texts items) (.array (items.map .text))
  | bools (items : List Bool) : Becomes (.bools items) (.array (items.map .bool))
  | ints (items : List Int64) : Becomes (.ints items) (.array (items.map .int))
  | doubles (items : List Float) : Becomes (.doubles items) (.array (items.map .double))

structure Attribute.Keeps (entry : String × StandardValue) (converted : Attribute) : Prop where
  key : converted.key = entry.1
  value : ∃ value, converted.value = some value ∧ entry.2.Becomes value

def StandardAttributes.Become (attributes : StandardAttributes) (converted : List Attribute) : Prop :=
  List.Forall₂ Attribute.Keeps attributes converted

theorem StandardValue.becomes_toValue (value : StandardValue) : value.Becomes value.toValue := by
  cases value <;> constructor

theorem StandardAttributes.become_ofStandard (attributes : StandardAttributes) :
    attributes.Become (attributes.map Attribute.ofStandard) := by
  apply List.forall₂_map_right_iff.mpr
  apply List.forall₂_same.mpr
  exact fun entry _ => ⟨rfl, _, rfl, entry.2.becomes_toValue⟩

end Telemetry
