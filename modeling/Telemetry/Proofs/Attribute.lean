import Telemetry.Proofs.Value.View

/-! Lists of attributes without those that are null. -/
namespace Telemetry

namespace Attribute

def present (attributes : List Attribute) : List (String × Value) :=
  attributes.filterMap fun entry => entry.value.map (entry.key, ·)

def entryJson (limit : Option Nat) (entry : String × Value) : Json :=
  .object [("key", .string entry.1), ("value", (entry.2.view limit).toJson)]

theorem present_append (before after : List Attribute) :
    present (before ++ after) = present before ++ present after :=
  List.filterMap_append

theorem present_cons_some (key : String) (value : Value) (after : List Attribute) :
    present (⟨key, some value⟩ :: after) = (key, value) :: present after := rfl

theorem listJson_eq_entries (limit : Option Nat) (attributes : List Attribute) :
    listJson limit attributes = .array ((present attributes).map (entryJson limit)) := by
  rw [listJson, present, List.map_filterMap]
  congr 2
  funext entry
  rw [toJson?, Option.map_map]
  congr 1
  funext value
  rw [Function.comp, entryJson, Value.toJson_view]

def dropNulls (attributes : List Attribute) : List Attribute :=
  attributes.filter (·.value.isSome)

theorem dropNulls_append (before after : List Attribute) :
    dropNulls (before ++ after) = dropNulls before ++ dropNulls after :=
  List.filter_append ..

theorem dropNulls_cons_some (key : String) (value : Value) (after : List Attribute) :
    dropNulls (⟨key, some value⟩ :: after) = ⟨key, some value⟩ :: dropNulls after := rfl

theorem dropNulls_eq_nil {attributes : List Attribute} :
    dropNulls attributes = [] ↔ ∀ entry ∈ attributes, entry.value = none := by
  simp [dropNulls]

theorem filterMap_dropNulls {β : Type} {shows : Attribute → Option β} (silent : ∀ key, shows ⟨key, none⟩ = none)
    (attributes : List Attribute) : (dropNulls attributes).filterMap shows = attributes.filterMap shows := by
  rw [dropNulls, List.filterMap_filter]
  congr 1
  funext entry
  obtain ⟨key, value⟩ := entry
  cases value with
  | none => exact (silent key).symm
  | some value => rfl

theorem present_dropNulls (attributes : List Attribute) : present (dropNulls attributes) = present attributes :=
  filterMap_dropNulls (fun _ => rfl) attributes

theorem listJson_dropNulls (limit : Option Nat) (attributes : List Attribute) :
    listJson limit (dropNulls attributes) = listJson limit attributes := by
  rw [listJson, listJson, filterMap_dropNulls fun _ => rfl]

/-- Nulls do not count as attributes where an empty list is left out. -/
theorem member?_dropNulls (limit : Option Nat) (attributes : List Attribute) :
    member? limit (dropNulls attributes) = member? limit attributes := by
  have same : (dropNulls attributes).all (·.value.isNone) = attributes.all (·.value.isNone) := by
    rw [dropNulls, List.all_filter]
    congr 1
    funext entry
    cases entry.value <;> rfl
  rw [member?, member?, same, listJson_dropNulls]

end Attribute

end Telemetry
