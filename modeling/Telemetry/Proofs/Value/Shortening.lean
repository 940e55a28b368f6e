import Telemetry.Proofs.Value.Unsupported

/-! Values with shortened texts. Writing a value under a limit is writing the shortened value without one,
and so it is with every list of attributes. Keys stay whole, and an attribute that is null stays null. -/
namespace Telemetry

namespace Value

mutual

def shortened (length : Nat) : Value → Value
  | .text s => .text (String.ofList (s.toList.take length))
  | .rendered s => .rendered (String.ofList (s.toList.take length))
  | .array items => .array (shortenedItems length items)
  | .bool b => .bool b
  | .int i => .int i
  | .double x => .double x
  | .unsupported kind => .unsupported kind
termination_by structural value => value

def shortenedItems (length : Nat) : List Value → List Value
  | [] => []
  | item :: items => shortened length item :: shortenedItems length items
termination_by structural items => items

end

theorem toJson_shortened (length : Nat) (value : Value) :
    (value.shortened length).toJson none = value.toJson (some length) := by
  refine @Value.rec (fun value => (value.shortened length).toJson none = value.toJson (some length))
    (fun items => toJsons none (shortenedItems length items) = toJsons (some length) items)
    ?text ?bool ?int ?double ?array ?rendered ?unsupported ?nil ?cons value
  case text | bool | int | double | rendered | unsupported => exact fun _ => rfl
  case array =>
    intro items inside
    rw [shortened, toJson, inside, toJson]
  case nil => rfl
  case cons =>
    intro item items here below
    rw [shortenedItems, toJsons, here, below, toJsons]

/-- A shortened value is a text just when the value is one. -/
theorem isSome_asText?_shortened (length : Nat) (value : Value) :
    (value.shortened length).asText?.isSome = value.asText?.isSome := by
  cases value <;> rfl

end Value

namespace Attribute

def frame (entry : Attribute) : Attribute :=
  ⟨entry.key, entry.value.map fun _ => .text ""⟩

theorem frame_mapValue (change : Value → Value) (entry : Attribute) : (entry.mapValue change).frame = entry.frame := by
  rw [frame, mapValue, Option.map_map]
  rfl

variable (length : Nat) (attributes : List Attribute)

theorem listJson_shortened :
    listJson none (attributes.map (mapValue (Value.shortened length))) = listJson (some length) attributes := by
  rw [listJson, List.filterMap_map, listJson]
  congr 2
  funext entry
  obtain ⟨key, value⟩ := entry
  cases value with
  | none => rfl
  | some value =>
    have same := Value.toJson_shortened length value
    simp only [Function.comp, mapValue, toJson?, Option.map_some, same]

theorem member?_shortened :
    member? none (attributes.map (mapValue (Value.shortened length))) = member? (some length) attributes := by
  rw [member?, all_isNone_mapValue, listJson_shortened, member?]

end Attribute

end Telemetry
