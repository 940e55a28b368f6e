import Telemetry.Proofs.Log.Body
import Mathlib.Data.List.Basic

/-! What null attributes do to a log record. They are not written, and yet they show in two ways: attributes
that are all null are written as an empty list, where no attributes are not written at all, and a null under
the key of templates hides the textual template behind it. In every other record nulls leave no trace. -/
namespace Telemetry.LogRecord

def dropNulls (record : LogRecord) : LogRecord :=
  { record with attributes := Attribute.dropNulls record.attributes }

structure OnlyNulls (record : LogRecord) : Prop where
  nonempty : record.attributes ≠ []
  null : ∀ entry ∈ record.attributes, entry.value = none

/-- The first attribute under the key of templates is null, and the first of them that is not null is a text
that would become the body. -/
structure HiddenTemplate (record : LogRecord) : Prop where
  silent : record.message = none
  null : ∃ before after, record.FirstTemplate before none after
  textual : ∃ before value after text, record.attributes = before ++ ⟨"\x7bOriginalFormat\x7d", some value⟩ :: after ∧
    (∀ entry ∈ before, entry.key = "\x7bOriginalFormat\x7d" → entry.value = none) ∧
      (value = .text text ∨ value = .rendered text)

variable {record : LogRecord} {before after : List Attribute} {value : Option Value}

/-- Without its nulls a record has the first template that is not null. -/
theorem firstTemplate_dropNulls {value : Value}
    (whole : record.attributes = before ++ ⟨"\x7bOriginalFormat\x7d", some value⟩ :: after)
    (null : ∀ entry ∈ before, entry.key = "\x7bOriginalFormat\x7d" → entry.value = none) :
    record.dropNulls.FirstTemplate (Attribute.dropNulls before) (some value) (Attribute.dropNulls after) := by
  constructor
  · rw [dropNulls, whole, Attribute.dropNulls_append, Attribute.dropNulls_cons_some]
  · intro entry member templated
    obtain ⟨among, present⟩ := List.mem_filter.mp member
    rw [null entry among templated] at present
    contradiction

/-- A first template that is not null stays the first. -/
theorem FirstTemplate.dropNulls {value : Value} (first : record.FirstTemplate before (some value) after) :
    record.dropNulls.FirstTemplate (Attribute.dropNulls before) (some value) (Attribute.dropNulls after) :=
  firstTemplate_dropNulls first.whole fun entry member templated => absurd templated (first.first entry member)

theorem FirstTemplate.of_dropNulls (first : record.dropNulls.FirstTemplate before value after) :
    ∃ earlier content later, value = some content ∧
      record.attributes = earlier ++ ⟨"\x7bOriginalFormat\x7d", some content⟩ :: later ∧
      ∀ entry ∈ earlier, entry.key = "\x7bOriginalFormat\x7d" → entry.value = none := by
  obtain ⟨front, back, whole, kept, tail⟩ := List.filter_eq_append_iff.mp first.whole
  obtain ⟨nulls, later, shape, dropped, present, _⟩ := List.filter_eq_cons_iff.mp tail
  obtain ⟨content, rfl⟩ := Option.isSome_iff_exists.mp present
  refine ⟨front ++ nulls, content, later, rfl, by rw [whole, shape, List.append_assoc], ?_⟩
  intro entry member templated
  rcases List.mem_append.mp member with among | among
  · by_contra present
    have remains : entry ∈ before := by
      rw [← kept]
      exact List.mem_filter.mpr ⟨among, Option.isSome_iff_ne_none.mpr present⟩
    exact first.first entry remains templated
  · exact Option.not_isSome_iff_eq_none.mp (dropped entry among)

theorem template?_dropNulls_eq_none (silent : record.message = none) (shown : ¬record.HiddenTemplate)
    (untold : record.template? = none) : record.dropNulls.template? = none := by
  cases found : record.dropNulls.template? with
  | none => rfl
  | some template =>
    obtain ⟨before, value, after, first, textual⟩ := exists_firstTemplate found
    obtain ⟨earlier, content, later, same, whole, null⟩ := first.of_dropNulls
    obtain rfl : value = content := Option.some.inj same
    have member : (⟨"\x7bOriginalFormat\x7d", some value⟩ : Attribute) ∈ record.attributes := by
      rw [whole]
      exact List.mem_append_cons_self
    obtain ⟨front, original, back, original_first⟩ := exists_firstTemplate_of_mem member rfl
    cases original with
    | none =>
      have text := Value.asText?_eq_some_iff.mp textual
      exact absurd ⟨silent, ⟨front, back, original_first⟩, earlier, value, later, _, whole, null, text⟩ shown
    | some original =>
      obtain rfl : value = original := Option.some.inj (first.unique original_first.dropNulls)
      rw [original_first.template?_eq textual] at untold
      contradiction

/-- Nulls that hide no template change neither the body nor the attributes that are written. -/
theorem written_dropNulls (shown : ¬record.HiddenTemplate) :
    record.dropNulls.resolvedBody = record.resolvedBody ∧
      Attribute.present record.dropNulls.writtenAttributes = Attribute.present record.writtenAttributes := by
  have message : record.dropNulls.message = record.message := rfl
  have body : record.dropNulls.body = record.body := rfl
  have attributes : record.dropNulls.attributes = Attribute.dropNulls record.attributes := rfl
  unfold resolvedBody writtenAttributes
  rw [message, body, attributes]
  cases spoken : record.message with
  | some text => exact ⟨rfl, Attribute.present_dropNulls _⟩
  | none =>
    cases found : record.template? with
    | none =>
      rw [template?_dropNulls_eq_none spoken shown found]
      exact ⟨rfl, Attribute.present_dropNulls _⟩
    | some template =>
      obtain ⟨position, text⟩ := template
      obtain ⟨before, value, after, first, textual⟩ := exists_firstTemplate found
      have remains := first.dropNulls
      obtain ⟨rfl, _⟩ := Prod.mk.inj (Option.some.inj (found.symm.trans (first.template?_eq textual)))
      have erased : (Attribute.dropNulls record.attributes).eraseIdx (Attribute.dropNulls before).length =
        Attribute.dropNulls before ++ Attribute.dropNulls after := remains.eraseIdx
      rw [remains.template?_eq textual]
      refine ⟨rfl, ?_⟩
      simp only [erased, first.eraseIdx, Attribute.present_append, Attribute.present_dropNulls]

theorem toJson_dropNulls (limit : Option Nat) (some : ¬record.OnlyNulls) (shown : ¬record.HiddenTemplate) :
    record.dropNulls.toJson limit = record.toJson limit := by
  obtain ⟨body, written⟩ := written_dropNulls shown
  have empty : record.dropNulls.attributes.isEmpty = record.attributes.isEmpty := by
    rw [Bool.eq_iff_iff, List.isEmpty_iff, List.isEmpty_iff]
    constructor
    · intro none
      by_contra nonempty
      exact some ⟨nonempty, Attribute.dropNulls_eq_nil.mp none⟩
    · intro none
      rw [dropNulls, none]
      rfl
  have list : Attribute.listJson limit record.dropNulls.writtenAttributes =
      Attribute.listJson limit record.writtenAttributes := by
    rw [Attribute.listJson_eq_entries, written, Attribute.listJson_eq_entries]
  rw [toJson, toJson, empty, list, body]
  rfl

/-- A list of nulls shows where no list would. -/
theorem OnlyNulls.toJson_ne (limit : Option Nat) (only : record.OnlyNulls) :
    record.dropNulls.toJson limit ≠ record.toJson limit := by
  intro same
  have dropped : record.dropNulls.attributes = [] := Attribute.dropNulls_eq_nil.mpr only.null
  have members := record.membersNamed_attributes limit
  rw [← same, membersNamed_attributes, if_pos dropped, if_neg only.nonempty] at members
  contradiction

/-- A template that comes to light is written as the body and no more among the attributes. -/
theorem HiddenTemplate.toJson_ne (limit : Option Nat) (hidden : record.HiddenTemplate) :
    record.dropNulls.toJson limit ≠ record.toJson limit := by
  intro same
  obtain ⟨silent, ⟨front, back, first⟩, before, value, after, text, whole, null, textual⟩ := hidden
  have remains := firstTemplate_dropNulls whole null
  have untold : record.template? = none := first.template?_eq_none nofun nofun
  have kept : record.writtenAttributes = record.attributes := by
    rw [writtenAttributes, silent, untold]
  have taken : record.dropNulls.writtenAttributes = Attribute.dropNulls before ++ Attribute.dropNulls after := by
    have message : record.dropNulls.message = none := silent
    rw [writtenAttributes, message, remains.template?_eq (Value.asText?_eq_some_iff.mpr textual)]
    exact remains.eraseIdx
  have members := record.membersNamed_attributes limit
  have some : record.attributes ≠ [] := by
    rw [whole]
    exact List.append_ne_nil_of_right_ne_nil _ (List.cons_ne_nil _ _)
  have remain : record.dropNulls.attributes ≠ [] := by
    rw [remains.whole]
    exact List.append_ne_nil_of_right_ne_nil _ (List.cons_ne_nil _ _)
  rw [← same, membersNamed_attributes, if_neg remain, if_neg some, kept, taken, whole] at members
  have lengths := congrArg List.length (Json.array.inj (List.cons.inj members).1)
  simp only [List.length_map, Attribute.present_append, Attribute.present_dropNulls, Attribute.present_cons_some,
    List.length_append, List.length_cons] at lengths
  omega

/-- Just a list of nothing but nulls and a hidden template let nulls show. -/
theorem toJson_dropNulls_iff (limit : Option Nat) (record : LogRecord) :
    record.dropNulls.toJson limit = record.toJson limit ↔ ¬record.OnlyNulls ∧ ¬record.HiddenTemplate := by
  constructor
  · intro same
    exact ⟨fun only => only.toJson_ne limit same, fun hidden => hidden.toJson_ne limit same⟩
  · rintro ⟨some, shown⟩
    exact toJson_dropNulls limit some shown

theorem isSome_template?_dropNulls (told : record.template?.isSome) : record.dropNulls.template?.isSome := by
  obtain ⟨⟨position, text⟩, found⟩ := Option.isSome_iff_exists.mp told
  obtain ⟨before, value, after, first, textual⟩ := exists_firstTemplate found
  rw [first.dropNulls.template?_eq textual]
  rfl

/-- A record that can be written can also be written without its nulls. -/
theorem supported_dropNulls (supported : Value.unsupportedIn record.values = []) :
    Value.unsupportedIn record.dropNulls.values = [] := by
  have attributes : Attribute.values record.dropNulls.attributes = Attribute.values record.attributes :=
    Attribute.filterMap_dropNulls (fun _ => rfl) record.attributes
  have selected : record.dropNulls.selectedBody? = none ∨
      record.dropNulls.selectedBody? = record.selectedBody? := by
    rw [selectedBody?_eq, selectedBody?_eq]
    by_cases replaced : record.message.isSome ∨ record.dropNulls.template?.isSome
    · exact .inl (if_pos replaced)
    · have before : ¬(record.message.isSome ∨ record.template?.isSome) :=
        fun either => replaced (either.imp_right isSome_template?_dropNulls)
      exact .inr ((if_neg replaced).trans (if_neg before).symm)
  rw [values, Value.unsupportedIn_append, List.append_eq_nil_iff] at supported ⊢
  rw [attributes]
  refine ⟨supported.1, ?_⟩
  rcases selected with none | same
  · rw [none]
    rfl
  · rw [same]
    exact supported.2

end Telemetry.LogRecord
