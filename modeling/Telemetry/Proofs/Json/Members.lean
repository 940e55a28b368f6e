import Telemetry.Proofs.Json.Fields

/-! Looking up members of objects by their names, and what stands in arrays below a path of names. -/
namespace Telemetry.Json

def membersNamed (name : String) : Json → List Json
  | .object members => members.filterMap fun member => if member.1 = name then some member.2 else none
  | _ => []

theorem membersNamed_objectOf (name : String) (members others : List (Option (String × Json))) :
    (objectOf (members ++ others)).membersNamed name =
      (objectOf members).membersNamed name ++ (objectOf others).membersNamed name := by
  rw [objectOf, List.filterMap_append]
  exact List.filterMap_append

section Fields

variable {name : String} {value : Option Json} {fields : List (String × Option Json)}

theorem membersNamed_ofFields_cons (field : String × Option Json) (fields : List (String × Option Json)) :
    (ofFields (field :: fields)).membersNamed name =
      (if field.1 = name then field.2.toList else []) ++ (ofFields fields).membersNamed name := by
  obtain ⟨other, value⟩ := field
  rw [ofFields, present_cons, membersNamed, List.filterMap_append]
  congr 1
  cases value <;> by_cases same : other = name <;> simp [same]

theorem membersNamed_ofFields_of_not_mem (absent : name ∉ fields.map (·.1)) :
    (ofFields fields).membersNamed name = [] := by
  induction fields with
  | nil => rfl
  | cons field fields ih =>
    rw [List.map_cons, List.mem_cons, not_or] at absent
    obtain ⟨apart, below⟩ := absent
    rw [membersNamed_ofFields_cons, if_neg (Ne.symm apart), ih below, List.nil_append]

/-- A field with a value shows once, and a field without one does not show. -/
theorem membersNamed_ofFields (distinct : (fields.map (·.1)).Nodup) (field : (name, value) ∈ fields) :
    (ofFields fields).membersNamed name = value.toList := by
  induction fields with
  | nil => contradiction
  | cons first fields ih =>
    obtain ⟨here, below⟩ := List.nodup_cons.mp distinct
    rw [membersNamed_ofFields_cons]
    rcases List.mem_cons.mp field with rfl | later
    · rw [if_pos rfl, membersNamed_ofFields_of_not_mem here, List.append_nil]
    · have among : name ∈ fields.map (·.1) := List.mem_map_of_mem later
      have apart : first.1 ≠ name := by
        rintro rfl
        exact here among
      rw [if_neg apart, ih below later, List.nil_append]

end Fields

/-- A member that stands in a node under a condition and not otherwise. Where it stands it stands once, and
its value shows what it should. -/
structure MemberIff (node : Json) (name : String) (condition : Prop) (shows : Json → Prop) : Prop where
  present : condition → ∃ value, node.membersNamed name = [value] ∧ shows value
  absent : ¬condition → node.membersNamed name = []

section Presence

variable {node : Json} {name : String} {condition : Prop} {shows : Json → Prop}

theorem MemberIff.of_some {value : Json} (member : node.membersNamed name = [value]) (holds : condition)
    (shown : shows value) : node.MemberIff name condition shows :=
  ⟨fun _ => ⟨value, member, shown⟩, fun fails => absurd holds fails⟩

theorem MemberIff.of_none (member : node.membersNamed name = []) (fails : ¬condition) :
    node.MemberIff name condition shows :=
  ⟨fun holds => absurd holds fails, fun _ => member⟩

theorem MemberIff.of_nonempty? {items : List Json} (member : node.membersNamed name = (nonempty? items).toList)
    (filled : condition ↔ items ≠ []) (shown : shows (.array items)) : node.MemberIff name condition shows := by
  unfold nonempty? at member
  split at member
  · rename_i empty
    exact .of_none member fun holds => filled.mp holds empty
  · rename_i some
    exact .of_some member (filled.mpr some) shown

theorem membersNamed_subset_parts (name : String) (node : Json) : node.membersNamed name ⊆ node.parts := by
  cases node with
  | object members =>
    intro value member
    obtain ⟨source, among, named⟩ := List.mem_filterMap.mp member
    split at named
    · exact Option.some.inj named ▸ List.mem_map_of_mem among
    · contradiction
  | _ => exact List.nil_subset _

end Presence

def elements : Json → List Json
  | .array items => items
  | _ => []

def reached : List String → Json → List Json
  | [], node => [node]
  | name :: names, node => ((node.membersNamed name).flatMap elements).flatMap (reached names)

end Telemetry.Json
