import Telemetry.Attribute
import Telemetry.Proofs.Json.Gap
import Telemetry.Proofs.Value.View
import Mathlib.Logic.Function.Basic

/-! Unsupported values. They are found at any depth of a value, in the order in which they are met, and
each of them is a gap in the JSON form. A value is mended by putting a truth value or an integer in
the place of every unsupported one, and the form of the mended value fills the gaps. -/
namespace Telemetry

namespace Value

mutual

def unsupportedKinds : Value → List String
  | .array items => unsupportedIn items
  | .unsupported kind => [kind]
  | .text _ => []
  | .bool _ => []
  | .int _ => []
  | .double _ => []
  | .rendered _ => []
termination_by structural value => value

def unsupportedIn : List Value → List String
  | [] => []
  | item :: items => unsupportedKinds item ++ unsupportedIn items
termination_by structural items => items

end

theorem unsupportedIn_eq_flatMap (items : List Value) : unsupportedIn items = items.flatMap unsupportedKinds := by
  induction items with
  | nil => rfl
  | cons item items ih => rw [unsupportedIn, ih, List.flatMap_cons]

theorem unsupportedIn_append (items others : List Value) :
    unsupportedIn (items ++ others) = unsupportedIn items ++ unsupportedIn others := by
  simp only [unsupportedIn_eq_flatMap, List.flatMap_append]

theorem unsupportedIn_flatMap {α : Type} (items : List α) (values : α → List Value) :
    unsupportedIn (items.flatMap values) = items.flatMap fun item => unsupportedIn (values item) := by
  simp only [unsupportedIn_eq_flatMap, List.flatMap_assoc]

theorem unsupportedKinds_of_asText? {value : Value} {text : String} (textual : value.asText? = some text) :
    value.unsupportedKinds = [] := by
  cases value with
  | text | rendered => rfl
  | _ => contradiction

def gapsOf (values : List Value) : List String :=
  (unsupportedIn values).map noEncoding

theorem gapsOf_append (values others : List Value) : gapsOf (values ++ others) = gapsOf values ++ gapsOf others := by
  rw [gapsOf, unsupportedIn_append, List.map_append, gapsOf, gapsOf]

theorem gapsOf_flatMap {α : Type} (items : List α) (values : α → List Value) :
    gapsOf (items.flatMap values) = items.flatMap fun item => gapsOf (values item) := by
  simp only [gapsOf, unsupportedIn_flatMap, List.map_flatMap]

theorem gapsOf_singleton (value : Value) : gapsOf [value] = value.unsupportedKinds.map noEncoding := by
  rw [gapsOf, unsupportedIn, unsupportedIn, List.append_nil]

theorem gaps_toJson (limit : Option Nat) (value : Value) :
    (value.toJson limit).gaps = value.unsupportedKinds.map noEncoding := by
  refine @Value.rec (fun value => (value.toJson limit).gaps = value.unsupportedKinds.map noEncoding)
    (fun items => (toJsons limit items).flatMap Json.gaps = (unsupportedIn items).map noEncoding)
    ?text ?bool ?int ?double ?array ?rendered ?unsupported ?nil ?cons value
  case text | bool | int | rendered | unsupported => exact fun _ => rfl
  case double =>
    intro x
    rw [toJson, Json.gaps_object, Json.double]
    split <;> rfl
  case array =>
    intro items inside
    rw [toJson, Json.gaps_object, List.flatMap_singleton, Json.gaps_object, List.flatMap_singleton,
      Json.gaps_array, inside, unsupportedKinds]
  case nil => rfl
  case cons =>
    intro item items here below
    rw [toJsons, List.flatMap_cons, here, below, unsupportedIn, List.map_append]

mutual

def mend (substitute : String → Value) : Value → Value
  | .array items => .array (mendItems substitute items)
  | .unsupported kind => substitute kind
  | .text s => .text s
  | .bool b => .bool b
  | .int i => .int i
  | .double x => .double x
  | .rendered s => .rendered s
termination_by structural value => value

def mendItems (substitute : String → Value) : List Value → List Value
  | [] => []
  | item :: items => mend substitute item :: mendItems substitute items
termination_by structural items => items

end

def Plain : Value → Prop
  | .bool _ => True
  | .int _ => True
  | _ => False

theorem Plain.unsupportedKinds {value : Value} (plain : value.Plain) : value.unsupportedKinds = [] := by
  cases value with
  | bool | int => rfl
  | _ => exact plain.elim

theorem Plain.toJson_eq {value : Value} (plain : value.Plain) (limit : Option Nat) :
    value.toJson limit = value.toJson none := by
  cases value with
  | bool | int => rfl
  | _ => exact plain.elim

theorem Plain.asText? {value : Value} (plain : value.Plain) : value.asText? = none := by
  cases value with
  | bool | int => rfl
  | _ => exact plain.elim

theorem Plain.filled {value : Value} (plain : value.Plain) (limit : Option Nat) :
    (value.toJson limit).Every Json.Filled := by
  rw [← Json.gaps_eq_nil, gaps_toJson, plain.unsupportedKinds, List.map_nil]

section Mending

variable {substitute : String → Value} (plain : ∀ kind, (substitute kind).Plain)

include plain

/-- Mending makes no text and loses none. -/
theorem asText?_mend (value : Value) : (value.mend substitute).asText? = value.asText? := by
  cases value with
  | unsupported kind => exact (plain kind).asText?
  | _ => rfl

omit plain in
def Patches (substitute : String → Value) (patch : String → Json) : Prop :=
  ∀ kind limit, patch (noEncoding kind) = (substitute kind).toJson limit

theorem exists_patches : ∃ patch, Patches substitute patch ∧ ∀ reason, (patch reason).Every Json.Filled := by
  refine ⟨Function.extend noEncoding (fun kind => (substitute kind).toJson none) fun _ => .null, ?_, ?_⟩
  · intro kind limit
    rw [noEncoding_injective.extend_apply, (plain kind).toJson_eq limit]
  · intro reason
    by_cases known : ∃ kind, noEncoding kind = reason
    · obtain ⟨kind, rfl⟩ := known
      rw [noEncoding_injective.extend_apply]
      exact (plain kind).filled none
    · rw [Function.extend_apply' _ _ _ known]
      exact .leaf rfl trivial

end Mending

theorem fill_toJson {substitute : String → Value} {patch : String → Json} (patches : Patches substitute patch)
    (limit : Option Nat) (value : Value) :
    (value.toJson limit).fill patch = (value.mend substitute).toJson limit := by
  refine @Value.rec (fun value => (value.toJson limit).fill patch = (value.mend substitute).toJson limit)
    (fun items => (toJsons limit items).map (Json.fill patch) = toJsons limit (mendItems substitute items))
    ?text ?bool ?int ?double ?array ?rendered ?unsupported ?nil ?cons value
  case text | bool | int | rendered => exact fun _ => rfl
  case double =>
    intro x
    rw [toJson, Json.fill_object, mend, toJson, Json.double]
    split <;> rfl
  case array =>
    intro items inside
    rw [toJson, Json.fill_object, List.map_singleton, Json.fill_object, List.map_singleton, Json.fill_array,
      inside, mend, toJson]
  case unsupported => exact fun kind => patches kind limit
  case nil => rfl
  case cons =>
    intro item items here below
    rw [toJsons, List.map_cons, here, below, mendItems, toJsons]

end Value

namespace Attribute

def values (attributes : List Attribute) : List Value :=
  attributes.filterMap (·.value)

def mapValue (change : Value → Value) (entry : Attribute) : Attribute :=
  ⟨entry.key, entry.value.map change⟩

/-- A change of values makes no attribute null and gives none a value. -/
theorem all_isNone_mapValue (change : Value → Value) (attributes : List Attribute) :
    (attributes.map (mapValue change)).all (·.value.isNone) = attributes.all (·.value.isNone) := by
  rw [List.all_map]
  congr 1
  funext entry
  exact Option.isNone_map

variable (limit : Option Nat) (attributes : List Attribute)

theorem gaps_listJson : (listJson limit attributes).gaps = Value.gapsOf (values attributes) := by
  rw [listJson, Json.gaps_array]
  induction attributes with
  | nil => rfl
  | cons entry attributes ih =>
    obtain ⟨key, value⟩ := entry
    cases value with
    | none => exact ih
    | some value =>
      have first : (toJson? limit ⟨key, some value⟩) =
        some (.object [("key", .string key), ("value", value.toJson limit)]) := rfl
      have next : values (⟨key, some value⟩ :: attributes) = [value] ++ values attributes := rfl
      rw [List.filterMap_cons_some first, List.flatMap_cons, ih, next, Value.gapsOf_append,
        Value.gapsOf_singleton, Json.gaps_object, ← Value.gaps_toJson limit]
      simp only [List.flatMap_cons, List.flatMap_nil, Json.gaps, List.nil_append, List.append_nil]

theorem gaps_member? : (member? limit attributes).elim [] (·.2.gaps) = Value.gapsOf (values attributes) := by
  unfold member?
  split
  · rename_i absent
    have none : values attributes = [] := by
      rw [values, List.filterMap_eq_nil_iff]
      intro entry member
      exact Option.isNone_iff_eq_none.mp (List.all_eq_true.mp absent entry member)
    rw [none]
    rfl
  · exact gaps_listJson limit attributes

variable {substitute : String → Value} {patch : String → Json} (patches : Value.Patches substitute patch)

include patches

theorem fill_listJson : (listJson limit attributes).fill patch =
    listJson limit (attributes.map (mapValue (Value.mend substitute))) := by
  rw [listJson, Json.fill_array, List.map_filterMap, listJson, List.filterMap_map]
  congr 2
  funext entry
  obtain ⟨key, value⟩ := entry
  cases value with
  | none => rfl
  | some value =>
    have filled := Value.fill_toJson patches limit value
    simp only [toJson?, mapValue, Function.comp, Option.map_some, Json.fill_object, List.map_cons,
      List.map_nil, filled]
    rfl

theorem fill_member? :
    (member? limit attributes).map (fun member => (member.1, member.2.fill patch)) =
      member? limit (attributes.map (mapValue (Value.mend substitute))) := by
  unfold member?
  rw [all_isNone_mapValue]
  split
  · rfl
  · rw [Option.map_some, fill_listJson limit attributes patches]

end Attribute

namespace Resource

def values (resource : Resource) : List Value :=
  Attribute.values resource.attributes

def mapValues (change : Value → Value) (resource : Resource) : Resource :=
  ⟨resource.attributes.map (Attribute.mapValue change)⟩

theorem gaps_toJson (resource : Resource) : resource.toJson.gaps = Value.gapsOf resource.values := by
  rw [toJson, Json.gaps_object, List.flatMap_singleton, Attribute.gaps_listJson, values]

theorem fill_toJson {substitute : String → Value} {patch : String → Json}
    (patches : Value.Patches substitute patch) (resource : Resource) :
    resource.toJson.fill patch = (resource.mapValues (Value.mend substitute)).toJson := by
  rw [toJson, Json.fill_object, List.map_singleton, Attribute.fill_listJson none _ patches, toJson, mapValues]

end Resource

end Telemetry
