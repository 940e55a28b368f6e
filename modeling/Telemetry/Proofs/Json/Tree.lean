import Telemetry.Proofs.Json.Number

/-! Properties of all parts of a JSON tree. A tree is regular when its numbers are number tokens and no
object has two members of one name. A regular tree without gaps is printable. -/
namespace Telemetry.Json

def parts : Json → List Json
  | .array items => items
  | .object members => members.map (·.2)
  | _ => []

theorem forall_parts_array {items : List Json} {holds : Json → Prop} :
    (∀ part ∈ (array items).parts, holds part) ↔ ∀ item ∈ items, holds item :=
  Iff.rfl

theorem forall_parts_object {members : List (String × Json)} {holds : Json → Prop} :
    (∀ part ∈ (object members).parts, holds part) ↔ ∀ member ∈ members, holds member.2 :=
  List.forall_mem_map

inductive Every (holds : Json → Prop) : Json → Prop
  | intro {tree : Json} (here : holds tree) (below : ∀ part ∈ tree.parts, Every holds part) :
      Every holds tree

@[elab_as_elim]
theorem parts_induction {motive : Json → Prop}
    (step : ∀ tree : Json, (∀ part ∈ tree.parts, motive part) → motive tree) (tree : Json) : motive tree := by
  refine @Json.rec motive (fun items => ∀ item ∈ items, motive item)
    (fun members => ∀ member ∈ members, motive member.2) (fun member => motive member.2)
    ?null ?bool ?number ?string ?array ?object ?gap ?nil ?cons ?none ?more ?member tree
  case null => exact step _ (by simp [parts])
  case bool => exact fun b => step _ (by simp [parts])
  case number => exact fun literal => step _ (by simp [parts])
  case string => exact fun s => step _ (by simp [parts])
  case array => exact fun items inside => step _ inside
  case object => exact fun members inside => step _ (forall_parts_object.mpr inside)
  case gap => exact fun kind => step _ (by simp [parts])
  case nil => exact fun item member => absurd member List.not_mem_nil
  case cons => exact fun item items first rest => List.forall_mem_cons.mpr ⟨first, rest⟩
  case none => exact fun member present => absurd present List.not_mem_nil
  case more => exact fun member members first rest => List.forall_mem_cons.mpr ⟨first, rest⟩
  case member => exact fun _ _ inside => inside

theorem every_iff {holds : Json → Prop} {tree : Json} :
    tree.Every holds ↔ holds tree ∧ ∀ part ∈ tree.parts, part.Every holds := by
  constructor
  · rintro ⟨here, below⟩
    exact ⟨here, below⟩
  · rintro ⟨here, below⟩
    exact ⟨here, below⟩

theorem Every.leaf {holds : Json → Prop} {tree : Json} (childless : tree.parts = []) (here : holds tree) :
    tree.Every holds :=
  .intro here (by rw [childless]; exact List.forall_mem_nil _)

theorem Every.and {holds keeps : Json → Prop} {tree : Json} (left : tree.Every holds)
    (right : tree.Every keeps) : tree.Every fun part => holds part ∧ keeps part := by
  induction left with
  | intro here _ ih =>
    obtain ⟨also, under⟩ := right
    exact ⟨⟨here, also⟩, fun part member => ih part member (under part member)⟩

theorem Every.mono {holds keeps : Json → Prop} {tree : Json} (every : tree.Every holds)
    (weaker : ∀ part, holds part → keeps part) : tree.Every keeps := by
  induction every with
  | intro here _ ih => exact ⟨weaker _ here, ih⟩

def DistinctNames : Json → Prop
  | .object members => (members.map (·.1)).Nodup
  | _ => True

def Regular : Json → Prop
  | .number literal => NumberToken literal.toList
  | .object members => (members.map (·.1)).Nodup
  | _ => True

theorem Regular.distinctNames {tree : Json} (regular : tree.Regular) : tree.DistinctNames := by
  cases tree with
  | object members => exact regular
  | _ => trivial

def Filled : Json → Prop
  | .gap _ => False
  | _ => True

def Printable (tree : Json) : Prop :=
  tree.Every fun part => part.Filled ∧ part.Regular

end Telemetry.Json
