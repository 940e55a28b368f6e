import Telemetry.Proofs.Json.Tree
import Mathlib.Data.List.Nodup

/-! Objects with fixed names, some of whose values may be absent. Which values are present can be read off
the object, and so can the values themselves. An object, an array or a number is regular when its parts
are and its names are distinct. -/
namespace Telemetry.Json

def present (fields : List (String × Option Json)) : List (String × Json) :=
  fields.filterMap fun field => field.2.map fun value => (field.1, value)

def ofFields (fields : List (String × Option Json)) : Json :=
  .object (present fields)

theorem ofFields_eq (fields : List (String × Option Json)) :
    ofFields fields = objectOf (fields.map fun field => field.2.map (field.1, ·)) := by
  rw [ofFields, present, objectOf, List.filterMap_map]
  rfl

def nonempty? (items : List Json) : Option Json :=
  if items = [] then none else some (.array items)

theorem nonempty?_injective : Function.Injective nonempty? := by
  intro items others same
  unfold nonempty? at same
  split at same <;> split at same
  · rw [‹items = []›, ‹others = []›]
  · contradiction
  · contradiction
  · exact array.inj (Option.some.inj same)

section Lists

variable {α : Type} {toJson : α → Json} (injective : Function.Injective toJson)

include injective

theorem array_map_injective : Function.Injective fun items : List α => array (items.map toJson) :=
  fun _ _ same => List.map_injective_iff.mpr injective (array.inj same)

theorem nonempty?_map_injective : Function.Injective fun items : List α => nonempty? (items.map toJson) :=
  fun _ _ same => List.map_injective_iff.mpr injective (nonempty?_injective same)

end Lists

theorem present_cons (name : String) (value : Option Json) (fields : List (String × Option Json)) :
    present ((name, value) :: fields) = (value.map (name, ·)).toList ++ present fields := by
  cases value <;> rfl

theorem names_present (fields : List (String × Option Json)) :
    ((present fields).map (·.1)).Sublist (fields.map (·.1)) := by
  induction fields with
  | nil => exact List.Sublist.slnil
  | cons field fields ih =>
    obtain ⟨name, value⟩ := field
    cases value with
    | none => exact ih.cons name
    | some value => exact ih.cons_cons name

private theorem not_mem_present {name : String} {fields : List (String × Option Json)}
    (absent : name ∉ fields.map (·.1)) (value : Json) : (name, value) ∉ present fields :=
  fun member => absent ((names_present fields).subset (List.mem_map_of_mem member))

/-- Fields with the same distinct names are told apart by what is present of them. -/
theorem present_injective {fields others : List (String × Option Json)}
    (names : fields.map (·.1) = others.map (·.1)) (distinct : (fields.map (·.1)).Nodup)
    (same : present fields = present others) : fields = others := by
  induction fields generalizing others with
  | nil => exact (List.map_eq_nil_iff.mp names.symm).symm
  | cons field fields ih =>
    obtain ⟨other, others, rfl⟩ := List.exists_cons_of_ne_nil (l := others) (by
      rintro rfl
      exact List.cons_ne_nil _ _ names)
    obtain ⟨name, value⟩ := field
    obtain ⟨name', value'⟩ := other
    obtain ⟨rfl : name = name', tails⟩ := List.cons.inj names
    obtain ⟨here, below⟩ := List.nodup_cons.mp distinct
    have there : name ∉ others.map (·.1) := tails ▸ here
    rw [present_cons, present_cons] at same
    cases value with
    | none =>
      cases value' with
      | none => rw [ih tails below same]
      | some other =>
        have start : present fields = (name, other) :: present others := same
        exact absurd (start ▸ List.mem_cons_self) (not_mem_present here other)
    | some value =>
      cases value' with
      | none =>
        have start : (name, value) :: present fields = present others := same
        exact absurd (start ▸ List.mem_cons_self) (not_mem_present there value)
      | some other =>
        obtain ⟨first, rest⟩ := List.cons.inj same
        rw [(Prod.mk.inj first).2, ih tails below rest]

/-- Objects of one kind are told apart by the values of their fields. -/
theorem ofFields_injective {α : Type} {fields : α → List (String × Option Json)} {names : List String}
    (named : ∀ a, (fields a).map (·.1) = names) (distinct : names.Nodup) {a b : α}
    (same : ofFields (fields a) = ofFields (fields b)) : (fields a).map (·.2) = (fields b).map (·.2) := by
  have known := (named a).trans (named b).symm
  rw [present_injective known (by rw [named]; exact distinct) (object.inj same)]

section Regularity

theorem regular_null : null.Every Regular :=
  .leaf rfl trivial

theorem regular_bool (b : Bool) : (bool b).Every Regular :=
  .leaf rfl trivial

theorem regular_string (s : String) : (string s).Every Regular :=
  .leaf rfl trivial

theorem regular_gap (kind : String) : (gap kind).Every Regular :=
  .leaf rfl trivial

theorem regular_number {literal : String} (token : NumberToken literal.toList) :
    (number literal).Every Regular :=
  .leaf rfl token

theorem regular_natural (n : Nat) : (natural n).Every Regular :=
  regular_number (numberToken_natural n)

theorem regular_integer (i : Int) : (integer i).Every Regular :=
  regular_number (numberToken_integer i)

theorem regular_array {items : List Json} (each : ∀ item ∈ items, item.Every Regular) :
    (array items).Every Regular :=
  .intro trivial each

theorem regular_map {α : Type} {items : List α} {toJson : α → Json}
    (each : ∀ item, (toJson item).Every Regular) : (array (items.map toJson)).Every Regular :=
  regular_array (List.forall_mem_map.mpr fun item _ => each item)

theorem regular_element {item : Json} (regular : item.Every Regular) : (array [item]).Every Regular := by
  apply regular_array
  intro other among
  rw [List.mem_singleton.mp among]
  exact regular

theorem regular_object {members : List (String × Json)} (distinct : (members.map (·.1)).Nodup)
    (each : ∀ member ∈ members, member.2.Every Regular) : (object members).Every Regular :=
  .intro distinct (forall_parts_object.mpr each)

theorem regular_single {name : String} {value : Json} (regular : value.Every Regular) :
    (object [(name, value)]).Every Regular := by
  apply regular_object
  · exact List.nodup_singleton name
  · intro member among
    rw [List.mem_singleton.mp among]
    exact regular

theorem regular_pair {name other : String} {value next : Json} (apart : name ≠ other)
    (first : value.Every Regular) (second : next.Every Regular) :
    (object [(name, value), (other, next)]).Every Regular := by
  apply regular_object
  · exact List.nodup_cons.mpr ⟨fun same => apart (List.mem_singleton.mp same), List.nodup_singleton other⟩
  · intro member among
    rcases List.mem_cons.mp among with rfl | last
    · exact first
    · rw [List.mem_singleton.mp last]
      exact second

theorem regular_ofFields {fields : List (String × Option Json)} (distinct : (fields.map (·.1)).Nodup)
    (each : ∀ field ∈ fields, ∀ value ∈ field.2, value.Every Regular) : (ofFields fields).Every Regular := by
  apply regular_object (distinct.sublist (names_present fields))
  intro member inside
  obtain ⟨field, among, shape⟩ := List.mem_filterMap.mp inside
  obtain ⟨value, there, rfl⟩ := Option.map_eq_some_iff.mp shape
  exact each field among value there

theorem regular_of_mem_some {value other : Json} (regular : value.Every Regular) (member : other ∈ some value) :
    other.Every Regular :=
  Option.some.inj member ▸ regular

theorem regular_of_mem_map {α : Type} {toJson : α → Json} (each : ∀ a, (toJson a).Every Regular)
    {source : Option α} {value : Json} (member : value ∈ source.map toJson) : value.Every Regular := by
  obtain ⟨a, _, rfl⟩ := Option.map_eq_some_iff.mp member
  exact each a

theorem regular_of_mem_nonempty? {α : Type} {toJson : α → Json} (each : ∀ a, (toJson a).Every Regular)
    {items : List α} {value : Json} (member : value ∈ nonempty? (items.map toJson)) : value.Every Regular := by
  unfold nonempty? at member
  split at member
  · contradiction
  · exact Option.some.inj member ▸ regular_map each

end Regularity

end Telemetry.Json
