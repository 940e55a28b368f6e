import Mathlib
import Telemetry.Proofs.Json.RoundTrip
import Telemetry.Proofs.Value.Unsupported
import Telemetry.Text.Utf8
import Telemetry.Value.Integer

/-! Integers as they are written. Whatever its type, an integer is written by its canonical decimal digits: as
a number if it fits 64 signed bits, and as a string otherwise. No digit is lost, so that integers of any
two types, and lists of them, have the same form just when they are the same numbers. -/
namespace Telemetry

-- Powers are those of the core library, also where Mathlib brings its own.
attribute [local instance (high)] instPowNat

namespace Decimal

theorem integer_eq_repr (i : Int) : integer i = i.repr := by
  cases i with
  | ofNat n => exact integer_natCast n
  | negSucc n => rw [integer, if_pos (Int.negSucc_lt_zero n)]; rfl

structure Canonical (text : String) (i : Int) : Prop where
  written : ∃ digits, Json.WholePart digits ∧ text.toList = if i < 0 then '-' :: digits else digits
  reads : text.toInt? = some i

theorem canonical_integer (i : Int) : Canonical (integer i) i := by
  refine ⟨⟨Nat.toDigits 10 i.natAbs, Json.wholePart_toDigits _, ?_⟩, ?_⟩
  · rw [integer]
    split
    · rw [String.toList_append, toList_natural]
      rfl
    · exact toList_natural _
  · rw [integer_eq_repr, Int.toInt?_repr]

end Decimal

namespace IntegerType

variable {type : IntegerType}

theorem bits_of_narrow (narrow : type.narrow = true) :
    type.width.bits ≤ 64 ∧ (type.signed = false → type.width.bits < 64) := by
  obtain ⟨signed, width⟩ := type
  cases width with
  | bits8 | bits16 | bits32 => simp [IntegerWidth.bits]
  | bits64 => exact ⟨Nat.le_refl 64, fun unsigned => absurd (unsigned.symm.trans narrow) Bool.false_ne_true⟩
  | bits128 | address => contradiction

/-- An integer of a narrow type is the same number in 64 signed bits. -/
theorem toInt_extended (narrow : type.narrow = true) (i : type.Carrier) :
    (type.extended i).toInt = type.number i := by
  obtain ⟨fits, short⟩ := bits_of_narrow narrow
  rw [extended, number, Int64.toInt_ofBitVec]
  cases signed : type.signed with
  | true => exact BitVec.toInt_signExtend_of_le fits
  | false =>
    have small : i.toNat < 2 ^ 63 :=
      Nat.lt_of_lt_of_le i.isLt (Nat.pow_le_pow_right (by decide) (Nat.le_of_lt_succ (short signed)))
    simp only [Bool.false_eq_true, if_false]
    rw [BitVec.toInt_setWidth, Int.bmod_eq_of_le_mul_two (by omega) (by omega)]

end IntegerType

theorem Value.ofInteger_toInt (i : Int64) : ofInteger i.toInt = .int i := by
  rw [ofInteger, if_pos ⟨i.le_toInt, i.toInt_lt⟩, Int64.ofInt_toInt]

/-- Types make no difference to the value of an integer. -/
theorem IntegerType.toValue_eq (type : IntegerType) (i : type.Carrier) :
    type.toValue i = .ofInteger (type.number i) := by
  rw [toValue]
  split
  · rename_i narrow
    rw [← toInt_extended narrow, Value.ofInteger_toInt]
  · rfl

namespace Nested

variable {α β : Type}

def map (f : α → β) : (depth : Nat) → Nested α depth → Nested β depth
  | 0, item => f item
  | depth + 1, items => List.map (map f depth) items

def listText (texts : List String) : String :=
  String.join ["\x7b\"arrayValue\":\x7b\"values\":[", ",".intercalate texts, "]\x7d\x7d"]

def text (itemText : α → String) : (depth : Nat) → Nested α depth → String
  | 0, item => itemText item
  | depth + 1, items => listText (List.map (text itemText depth) items)

theorem text_map (f : α → β) (itemText : β → String) (depth : Nat) :
    ∀ items : Nested α depth, text itemText depth (map f depth items) = text (itemText ∘ f) depth items := by
  induction depth with
  | zero => exact fun _ => rfl
  | succ depth ih =>
    intro (items : List (Nested α depth))
    have texts : (items.map (map f depth)).map (text itemText depth) = items.map (text (itemText ∘ f) depth) := by
      rw [List.map_map]
      exact List.map_congr_left fun item _ => ih item
    exact congrArg listText texts

end Nested

namespace Json

private theorem filled_single (name : String) {value : Json} (filled : value.Every Filled) :
    (object [(name, value)]).Every Filled :=
  .intro trivial (forall_parts_object.mpr (List.forall_mem_singleton.mpr filled))

private theorem single_inj {name : String} {value other : Json} :
    object [(name, value)] = object [(name, other)] ↔ value = other := by
  simp

theorem render_arrayValue {items : List Json} (filled : ∀ item ∈ items, item.Every Filled) :
    (object [("arrayValue", object [("values", array items)])]).render = Nested.listText (items.map render) := by
  have list : (array items).Every Filled := .intro trivial filled
  have outer : quotedText "arrayValue" = "\"arrayValue\"" := by cbv
  have inner : quotedText "values" = "\"values\"" := by cbv
  apply String.toList_inj.mp
  rw [render_single "arrayValue" (filled_single "values" list), render_single "values" list, render_array filled,
    outer, inner]
  simp [Nested.listText]

theorem escape?_of_integer {i : Int} {c : Char} (member : c ∈ (Decimal.integer i).toList) : escape? c = none := by
  have ofDigit (digit : c.isDigit) : escape? c = none := by
    have above : 0x30 ≤ c.toNat := (Char.isDigit_iff_toNat.mp digit).1
    refine escape?_of_visible (by omega) ?_ ?_
    all_goals
      rintro rfl
      contradiction
  obtain ⟨digits, part, characters⟩ := (Decimal.canonical_integer i).written
  rw [characters] at member
  split at member
  · rcases List.mem_cons.mp member with rfl | inside
    · rfl
    · exact ofDigit (part.allDigits c inside)
  · exact ofDigit (part.allDigits c member)

end Json

namespace Value

section Nested

variable {α β : Type}

theorem ofNested_map (f : α → β) (ofItem : β → Value) (depth : Nat) :
    ∀ items : Nested α depth, ofNested ofItem depth (Nested.map f depth items) = ofNested (ofItem ∘ f) depth items := by
  induction depth with
  | zero => exact fun _ => rfl
  | succ depth ih =>
    intro (items : List (Nested α depth))
    have values : (items.map (Nested.map f depth)).map (ofNested ofItem depth) =
        items.map (ofNested (ofItem ∘ f) depth) := by
      rw [List.map_map]
      exact List.map_congr_left fun item _ => ih item
    exact congrArg array values

theorem toJson_ofList (ofItem : α → Value) (items : List α) : (ofList ofItem items).toJson none =
    .object [("arrayValue", .object [("values", .array (items.map fun item => (ofItem item).toJson none))])] := by
  rw [ofList, toJson, toJsons_eq_map, List.map_map]
  rfl

variable {ofItem : α → Value}

theorem supported_ofNested (supported : ∀ item, (ofItem item).unsupportedKinds = []) (depth : Nat) :
    ∀ items : Nested α depth, (ofNested ofItem depth items).unsupportedKinds = [] := by
  induction depth with
  | zero => exact supported
  | succ depth ih =>
    intro (items : List (Nested α depth))
    change unsupportedIn (items.map (ofNested ofItem depth)) = []
    rw [unsupportedIn_eq_flatMap, List.flatMap_eq_nil_iff]
    exact List.forall_mem_map.mpr fun item _ => ih item

theorem filled_toJson {value : Value} (supported : value.unsupportedKinds = []) :
    (value.toJson none).Every Json.Filled := by
  rw [← Json.gaps_eq_nil, gaps_toJson, supported, List.map_nil]

theorem printable_toJson {value : Value} (supported : value.unsupportedKinds = []) :
    (value.toJson none).Printable :=
  (filled_toJson supported).and (toJson_view none value ▸ ValueView.regular_toJson _)

theorem render_ofNested (supported : ∀ item, (ofItem item).unsupportedKinds = []) (depth : Nat) :
    ∀ items : Nested α depth, ((ofNested ofItem depth items).toJson none).render =
      Nested.text (fun item => ((ofItem item).toJson none).render) depth items := by
  induction depth with
  | zero => exact fun _ => rfl
  | succ depth ih =>
    intro (items : List (Nested α depth))
    have filled : ∀ tree ∈ items.map fun item => (ofNested ofItem depth item).toJson none, tree.Every Json.Filled :=
      List.forall_mem_map.mpr fun item _ => filled_toJson (supported_ofNested supported depth item)
    have texts : (items.map fun item => (ofNested ofItem depth item).toJson none).map Json.render =
        items.map (Nested.text (fun item => ((ofItem item).toJson none).render) depth) := by
      rw [List.map_map]
      exact List.map_congr_left fun item _ => ih item
    change ((ofList (ofNested ofItem depth) items).toJson none).render = _
    rw [toJson_ofList, Json.render_arrayValue filled, texts]
    rfl

theorem ofNested_injective (injective : Function.Injective fun item => (ofItem item).toJson none) (depth : Nat) :
    Function.Injective fun items : Nested α depth => (ofNested ofItem depth items).toJson none := by
  induction depth with
  | zero => exact injective
  | succ depth ih =>
    intro (items : List (Nested α depth)) (others : List (Nested α depth)) same
    change (ofList (ofNested ofItem depth) items).toJson none =
      (ofList (ofNested ofItem depth) others).toJson none at same
    rw [toJson_ofList, toJson_ofList, Json.single_inj, Json.single_inj] at same
    exact List.map_injective_iff.mpr ih (Json.array.inj same)

end Nested

def bytes (value : Value) : List UInt8 :=
  Text.utf8 (value.toJson none).render

def integerText (i : Int) : String :=
  if -2 ^ 63 ≤ i ∧ i < 2 ^ 63 then "\x7b\"intValue\":" ++ Decimal.integer i ++ "\x7d"
  else "\x7b\"stringValue\":\"" ++ Decimal.integer i ++ "\"\x7d"

theorem supported_ofInteger (i : Int) : (ofInteger i).unsupportedKinds = [] := by
  rw [ofInteger]
  split <;> rfl

theorem toJson_ofInteger (i : Int) : (ofInteger i).toJson none =
    if -2 ^ 63 ≤ i ∧ i < 2 ^ 63 then .object [("intValue", .integer i)] else textJson (Decimal.integer i) := by
  rw [ofInteger]
  split
  · rename_i fits
    rw [toJson, Int64.toInt_ofInt_of_le fits.1 fits.2]
  · rfl

theorem render_ofInteger (i : Int) : ((ofInteger i).toJson none).render = integerText i := by
  have number : Json.quotedText "intValue" = "\"intValue\"" := by cbv
  have string : Json.quotedText "stringValue" = "\"stringValue\"" := by cbv
  apply String.toList_inj.mp
  rw [toJson_ofInteger, integerText]
  split
  · have filled : (Json.integer i).Every Json.Filled := .intro trivial (List.forall_mem_nil _)
    rw [Json.render_single "intValue" filled, Json.integer, Json.render_number, number]
    simp
  · have filled : (Json.string (Decimal.integer i)).Every Json.Filled := .intro trivial (List.forall_mem_nil _)
    rw [textJson, Json.render_single "stringValue" filled, string]
    have quoted : (Json.string (Decimal.integer i)).render = "\"" ++ Decimal.integer i ++ "\"" :=
      Json.quotedText_plain fun _ => Json.escape?_of_integer
    rw [quoted]
    simp

theorem ofInteger_injective : Function.Injective fun i => (ofInteger i).toJson none := by
  intro i j same
  simp only [toJson_ofInteger] at same
  split at same <;> split at same
  · exact Decimal.integer_injective (Json.number.inj (Json.single_inj.mp same))
  · simp [textJson] at same
  · simp [textJson] at same
  · exact Decimal.integer_injective (Json.string.inj (Json.single_inj.mp same))

end Value

/-- However deep integers lie in lists, they are written by their canonical decimal texts, and lists of integers
of two types have the same bytes just when they are the same lists of numbers. -/
theorem integers_keep_their_digits :
    (∀ (type : IntegerType) (depth : Nat) (items : Nested type.Carrier depth),
      (Value.ofNested type.toValue depth items).bytes =
        Text.utf8 (Nested.text (fun i => Value.integerText (type.number i)) depth items)) ∧
    (∀ i : Int, Decimal.Canonical (Decimal.integer i) i) ∧
    ∀ (type other : IntegerType) (depth : Nat) (items : Nested type.Carrier depth)
      (others : Nested other.Carrier depth),
      (Value.ofNested type.toValue depth items).bytes = (Value.ofNested other.toValue depth others).bytes ↔
        Nested.map type.number depth items = Nested.map other.number depth others := by
  have numbers (type : IntegerType) (depth : Nat) (items : Nested type.Carrier depth) :
      Value.ofNested type.toValue depth items =
        Value.ofNested .ofInteger depth (Nested.map type.number depth items) := by
    rw [Value.ofNested_map, funext type.toValue_eq]
    rfl
  refine ⟨?texts, Decimal.canonical_integer, ?same⟩
  case texts =>
    intro type depth items
    rw [Value.bytes, numbers, Value.render_ofNested Value.supported_ofInteger, funext Value.render_ofInteger,
      Nested.text_map]
    rfl
  case same =>
    intro type other depth items others
    have printable (items : Nested Int depth) : ((Value.ofNested .ofInteger depth items).toJson none).Printable :=
      Value.printable_toJson (Value.supported_ofNested Value.supported_ofInteger depth items)
    rw [numbers, numbers]
    constructor
    · intro same
      exact Value.ofNested_injective Value.ofInteger_injective depth
        (Json.render_injective (printable _) (printable _) (Text.utf8_injective same))
    · exact fun same => congrArg (fun items => (Value.ofNested Value.ofInteger depth items).bytes) same

end Telemetry
