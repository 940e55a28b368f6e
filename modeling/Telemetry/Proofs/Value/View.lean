import Telemetry.Attribute
import Telemetry.Proofs.Decimal.Double
import Telemetry.Proofs.Json.Fields

/-! What the JSON form of a value tells. Text is text however it came about, numbers that are not finite
are one, and a limit cuts the texts. Everything else about a value and about a list of attributes
that are not null can be read off its form, and nothing more. -/
namespace Telemetry

structure FiniteDouble where
  number : Float
  finite : number.isFinite = true

namespace FiniteDouble

def ofFloat? (x : Float) : Option FiniteDouble :=
  if finite : x.isFinite = true then some ⟨x, finite⟩ else none

def toJson : Option FiniteDouble → Json
  | some x => .double x.number
  | none => .null

private theorem double_eq_number {x : Float} (finite : x.isFinite = true) :
    ∃ literal, Json.numberStyle.text? x = some literal ∧ Json.double x = .number literal := by
  obtain ⟨literal, text⟩ := Decimal.exists_text? Json.numberStyle finite
  refine ⟨literal, text, ?_⟩
  rw [Json.double, text]

theorem toJson_ofFloat? (x : Float) : toJson (ofFloat? x) = Json.double x := by
  unfold ofFloat?
  split
  · rfl
  · rename_i infinite
    rw [toJson, Json.double, (Decimal.text?_eq_none _ x).mpr (Bool.eq_false_iff.mpr infinite)]

theorem toJson_injective : Function.Injective toJson := by
  intro x y same
  cases x with
  | none =>
    cases y with
    | none => rfl
    | some y =>
      obtain ⟨literal, _, shape⟩ := double_eq_number y.finite
      exact Json.noConfusion (same.trans shape)
  | some x =>
    obtain ⟨literal, text, shape⟩ := double_eq_number x.finite
    cases y with
    | none => exact Json.noConfusion (shape.symm.trans same)
    | some y =>
      obtain ⟨other, also, form⟩ := double_eq_number y.finite
      obtain rfl := Json.number.inj (shape.symm.trans (same.trans form))
      obtain ⟨x, finite⟩ := x
      obtain rfl := Decimal.text?_injective text also
      rfl

end FiniteDouble

theorem Json.regular_double (x : Float) : (Json.double x).Every Json.Regular := by
  unfold Json.double
  split
  · rename_i literal text
    exact Json.regular_number (Decimal.numberToken_text? text)
  · exact Json.regular_null

theorem Value.noEncoding_injective : Function.Injective noEncoding := by
  intro kind other same
  have characters := congrArg String.toList same
  rw [noEncoding, noEncoding, String.toList_append, String.toList_append] at characters
  exact String.toList_inj.mp (List.append_cancel_right characters)

inductive ValueView where
  | text (s : String)
  | bool (b : Bool)
  | int (i : Int64)
  | double (x : Option FiniteDouble)
  | array (items : List ValueView)
  | unsupported (kind : String)

namespace ValueView

mutual

def toJson : ValueView → Json
  | .text s => Value.textJson s
  | .bool b => .object [("boolValue", .bool b)]
  | .int i => .object [("intValue", .integer i.toInt)]
  | .double x => .object [("doubleValue", FiniteDouble.toJson x)]
  | .array items => .object [("arrayValue", .object [("values", .array (toJsons items))])]
  | .unsupported kind => .gap (Value.noEncoding kind)
termination_by structural view => view

def toJsons : List ValueView → List Json
  | [] => []
  | item :: items => toJson item :: toJsons items
termination_by structural items => items

end

theorem toJsons_eq_map (items : List ValueView) : toJsons items = items.map toJson := by
  induction items with
  | nil => rfl
  | cons item items ih => rw [toJsons, ih, List.map_cons]

private theorem integer_inj {i j : Int64} (same : Json.integer i.toInt = Json.integer j.toInt) : i = j :=
  Int64.toInt_inj.mp (Decimal.integer_injective (Json.number.inj same))

theorem toJson_injective : Function.Injective toJson := by
  intro view
  refine @ValueView.rec (fun view => ∀ other, view.toJson = other.toJson → view = other)
    (fun items => ∀ others, toJsons items = toJsons others → items = others)
    ?text ?bool ?int ?double ?array ?unsupported ?nil ?cons view
  case text =>
    intro s other same
    cases other <;> simp_all [toJson, Value.textJson]
  case bool =>
    intro b other same
    cases other <;> simp_all [toJson, Value.textJson]
  case int =>
    intro i other same
    cases other <;> simp [toJson, Value.textJson] at same
    rw [integer_inj same]
  case double =>
    intro x other same
    cases other <;> simp [toJson, Value.textJson] at same
    rw [FiniteDouble.toJson_injective same]
  case array =>
    intro items inside other same
    cases other <;> simp [toJson, Value.textJson] at same
    rw [inside _ same]
  case unsupported =>
    intro kind other same
    cases other <;> simp [toJson, Value.textJson] at same
    rw [Value.noEncoding_injective same]
  case nil =>
    intro others same
    cases others with
    | nil => rfl
    | cons item items => exact nomatch same
  case cons =>
    intro item items here below others same
    cases others with
    | nil => exact nomatch same
    | cons other others =>
      obtain ⟨first, rest⟩ := List.cons.inj same
      rw [here other first, below others rest]

theorem regular_toJson (view : ValueView) : view.toJson.Every Json.Regular := by
  refine @ValueView.rec (fun view => view.toJson.Every Json.Regular)
    (fun items => ∀ item ∈ items, item.toJson.Every Json.Regular)
    ?text ?bool ?int ?double ?array ?unsupported ?nil ?cons view
  case text => exact fun s => Json.regular_single (Json.regular_string s)
  case bool => exact fun b => Json.regular_single (Json.regular_bool b)
  case int => exact fun i => Json.regular_single (Json.regular_integer i.toInt)
  case double =>
    intro x
    apply Json.regular_single
    cases x with
    | none => exact Json.regular_null
    | some x => exact Json.regular_double x.number
  case array =>
    intro items inside
    apply Json.regular_single
    apply Json.regular_single
    rw [toJsons_eq_map]
    exact Json.regular_array (List.forall_mem_map.mpr inside)
  case unsupported => exact fun kind => Json.regular_gap _
  case nil => exact fun item member => absurd member List.not_mem_nil
  case cons => exact fun item items here below => List.forall_mem_cons.mpr ⟨here, below⟩

end ValueView

def ValueView.ofText (limit : Option Nat) (s : String) : ValueView :=
  .text (limit.elim s fun n => String.ofList (s.toList.take n))

theorem ValueView.toJson_ofText (limit : Option Nat) (s : String) :
    (ofText limit s).toJson = Value.textJson (Text.truncate limit s) := by
  cases limit <;> rfl

namespace Value

mutual

def view (limit : Option Nat) : Value → ValueView
  | .text s => .ofText limit s
  | .rendered s => .ofText limit s
  | .bool b => .bool b
  | .int i => .int i
  | .double x => .double (FiniteDouble.ofFloat? x)
  | .array items => .array (views limit items)
  | .unsupported kind => .unsupported kind
termination_by structural value => value

def views (limit : Option Nat) : List Value → List ValueView
  | [] => []
  | item :: items => view limit item :: views limit items
termination_by structural items => items

end

theorem toJson_view (limit : Option Nat) (value : Value) : (value.view limit).toJson = value.toJson limit := by
  refine @Value.rec (fun value => (value.view limit).toJson = value.toJson limit)
    (fun items => ValueView.toJsons (views limit items) = toJsons limit items)
    ?text ?bool ?int ?double ?array ?rendered ?unsupported ?nil ?cons value
  case text | rendered => exact ValueView.toJson_ofText limit
  case bool | int | unsupported => exact fun _ => rfl
  case double =>
    intro x
    rw [view, ValueView.toJson, FiniteDouble.toJson_ofFloat?, toJson]
  case array =>
    intro items inside
    rw [view, ValueView.toJson, inside, toJson]
  case nil => rfl
  case cons =>
    intro item items here below
    rw [views, ValueView.toJsons, here, below, toJsons]

end Value

structure AttributeView where
  key : String
  value : ValueView

namespace AttributeView

def toJson (entry : AttributeView) : Json :=
  .object [("key", .string entry.key), ("value", entry.value.toJson)]

theorem toJson_injective : Function.Injective toJson := by
  rintro ⟨key, value⟩ ⟨key', value'⟩ same
  simp only [toJson, Json.object.injEq, List.cons.injEq, Prod.mk.injEq, Json.string.injEq] at same
  obtain ⟨⟨_, rfl⟩, ⟨_, values⟩, _⟩ := same
  rw [ValueView.toJson_injective values]

theorem regular_toJson (entry : AttributeView) : entry.toJson.Every Json.Regular :=
  Json.regular_pair (by decide) (Json.regular_string entry.key) entry.value.regular_toJson

end AttributeView

namespace Attribute

def views (limit : Option Nat) (attributes : List Attribute) : List AttributeView :=
  attributes.filterMap fun entry => entry.value.map fun value => ⟨entry.key, value.view limit⟩

theorem listJson_eq (limit : Option Nat) (attributes : List Attribute) :
    listJson limit attributes = .array ((views limit attributes).map AttributeView.toJson) := by
  rw [listJson, views, List.map_filterMap]
  congr 2
  funext entry
  rw [toJson?, Option.map_map]
  congr 1
  funext value
  simp only [Function.comp, AttributeView.toJson, Value.toJson_view]

theorem member?_eq (limit : Option Nat) (attributes : List Attribute) :
    member? limit attributes =
      (Json.nonempty? ((views limit attributes).map AttributeView.toJson)).map ("attributes", ·) := by
  have same : attributes.all (·.value.isNone) = true ↔ (views limit attributes).map AttributeView.toJson = [] := by
    simp [views]
  unfold member? Json.nonempty?
  simp only [same, listJson_eq]
  split <;> rfl

theorem regular_listJson (limit : Option Nat) (attributes : List Attribute) :
    (listJson limit attributes).Every Json.Regular := by
  rw [listJson_eq]
  exact Json.regular_map AttributeView.regular_toJson

end Attribute

theorem Resource.regular_toJson (resource : Resource) : resource.toJson.Every Json.Regular :=
  Json.regular_single (Attribute.regular_listJson none resource.attributes)

end Telemetry
