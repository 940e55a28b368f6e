import Telemetry.Proofs.Attribute
import Telemetry.Proofs.Json.Members
import Telemetry.Proofs.Log.Unsupported

/-! Where the body of a log record comes from, and what is left of its attributes. What is written for a
record has one body: the message, or else the text of the first attribute under the key of templates, or
else the body set on the record. Only an attribute that becomes the body is kept from the attributes that
are written. Put back in its place it makes them all the attributes of the record that are not null. -/
namespace Telemetry

private theorem insertIdx_seam {α : Type} (before after : List α) (a : α) :
    (before ++ after).insertIdx before.length a = before ++ a :: after := by
  induction before with
  | nil => rfl
  | cons b before ih => exact congrArg (b :: ·) ih

theorem Value.asText?_eq_some_iff {value : Value} {text : String} :
    value.asText? = some text ↔ value = .text text ∨ value = .rendered text := by
  cases value <;> simp [asText?]

namespace LogRecord

/-- What stands before the first attribute under the key of templates, its value, and what stands after it. -/
structure FirstTemplate (record : LogRecord) (before : List Attribute) (value : Option Value)
    (after : List Attribute) : Prop where
  whole : record.attributes = before ++ ⟨"\x7bOriginalFormat\x7d", value⟩ :: after
  first : ∀ entry ∈ before, entry.key ≠ "\x7bOriginalFormat\x7d"

variable {record : LogRecord} {before after : List Attribute} {value : Option Value} {text : String}

theorem FirstTemplate.findIdx? (template : record.FirstTemplate before value after) :
    record.attributes.findIdx? (·.key = templateKey) = some before.length := by
  rw [template.whole, List.findIdx?_eq_some_iff_getElem]
  refine ⟨by simp, by simp [templateKey], ?_⟩
  intro position inside
  rw [List.getElem_append_left inside]
  exact decide_eq_true_iff.not.mpr (template.first _ (List.getElem_mem inside))

theorem FirstTemplate.unique {before' after' : List Attribute} {value' : Option Value}
    (first : record.FirstTemplate before value after) (also : record.FirstTemplate before' value' after') :
    value = value' := by
  have lengths : before.length = before'.length := Option.some.inj (first.findIdx?.symm.trans also.findIdx?)
  have tails := List.append_inj_right (first.whole.symm.trans also.whole) lengths
  exact congrArg Attribute.value (List.cons.inj tails).1

theorem exists_firstTemplate_of_mem {entry : Attribute} (member : entry ∈ record.attributes)
    (templated : entry.key = "\x7bOriginalFormat\x7d") :
    ∃ before value after, record.FirstTemplate before value after := by
  have found : (record.attributes.find? (·.key = "\x7bOriginalFormat\x7d")).isSome := by
    rw [List.find?_isSome]
    exact ⟨entry, member, decide_eq_true templated⟩
  obtain ⟨⟨key, value⟩, first⟩ := Option.isSome_iff_exists.mp found
  obtain ⟨here, before, after, whole, earlier⟩ := List.find?_eq_some_iff_append.mp first
  obtain rfl : key = "\x7bOriginalFormat\x7d" := of_decide_eq_true here
  refine ⟨before, value, after, whole, ?_⟩
  intro other among same
  have apart := earlier other among
  rw [decide_eq_true same] at apart
  contradiction

theorem FirstTemplate.template?_eq {value : Value} (template : record.FirstTemplate before (some value) after)
    (textual : value.asText? = some text) : record.template? = some (before.length, text) := by
  have here : record.attributes[before.length]? = some ⟨templateKey, some value⟩ := by
    rw [template.whole, List.getElem?_append_right (Nat.le_refl _), Nat.sub_self]
    rfl
  simp only [template?, template.findIdx?, here, Option.bind_eq_bind, Option.bind_some, textual]
  rfl

theorem exists_firstTemplate {position : Nat} (found : record.template? = some (position, text)) :
    ∃ before value after, record.FirstTemplate before (some value) after ∧ value.asText? = some text := by
  obtain ⟨entry, value, here, present, textual⟩ := exists_of_template? found
  simp only [template?, Option.bind_eq_bind, Option.bind_eq_some_iff] at found
  obtain ⟨place, search, _, _, _, _, same⟩ := found
  obtain rfl : place = position := (Prod.mk.inj (Option.some.inj same)).1
  obtain ⟨inside, matching, earlier⟩ := List.findIdx?_eq_some_iff_getElem.mp search
  obtain rfl : record.attributes[place] = entry := (List.getElem?_eq_some_iff.mp here).2
  refine ⟨record.attributes.take place, value, record.attributes.drop (place + 1), ⟨?whole, ?first⟩, textual⟩
  case whole =>
    have key : record.attributes[place].key = "\x7bOriginalFormat\x7d" := of_decide_eq_true matching
    have shape : record.attributes[place] = ⟨"\x7bOriginalFormat\x7d", some value⟩ := by
      rw [← present, ← key]
    rw [← shape, List.cons_getElem_drop_succ, List.take_append_drop]
  case first =>
    intro other among
    obtain ⟨index, below, rfl⟩ := List.mem_take_iff_getElem.mp among
    exact fun same => earlier index (by omega) (decide_eq_true same)

/-- Without a textual attribute that is the first under the key of templates there is no template. -/
theorem template?_eq_none (untold : ∀ before value after text, record.FirstTemplate before value after →
    value ≠ some (.text text) ∧ value ≠ some (.rendered text)) : record.template? = none := by
  cases found : record.template? with
  | none => rfl
  | some template =>
    obtain ⟨before, value, after, first, textual⟩ := exists_firstTemplate found
    obtain ⟨plain, rendered⟩ := untold before (some value) after template.2 first
    rcases Value.asText?_eq_some_iff.mp textual with same | same
    · exact absurd (congrArg some same) plain
    · exact absurd (congrArg some same) rendered

theorem FirstTemplate.template?_eq_none (first : record.FirstTemplate before value after)
    (plain : ∀ text, value ≠ some (.text text)) (rendered : ∀ text, value ≠ some (.rendered text)) :
    record.template? = none := by
  apply LogRecord.template?_eq_none
  intro _ other _ text also
  rw [← first.unique also]
  exact ⟨plain text, rendered text⟩

theorem FirstTemplate.present_attributes {value : Value}
    (template : record.FirstTemplate before (some value) after) :
    Attribute.present record.attributes =
      Attribute.present before ++ ("\x7bOriginalFormat\x7d", value) :: Attribute.present after := by
  rw [template.whole, Attribute.present_append, Attribute.present_cons_some]

/-- The position of the template leads to its place among all attributes, also to those that are null. -/
theorem FirstTemplate.eraseIdx (template : record.FirstTemplate before value after) :
    record.attributes.eraseIdx before.length = before ++ after := by
  rw [template.whole, List.eraseIdx_append_of_length_le (Nat.le_refl _), Nat.sub_self, List.eraseIdx_cons_zero]

/-- Identifiers are written under names of their own. -/
theorem membersNamed_contextMembers {name : String} (trace : "traceId" ≠ name) (span : "spanId" ≠ name)
    (record : LogRecord) : (Json.objectOf record.contextMembers).membersNamed name = [] := by
  unfold contextMembers
  split
  · rfl
  · simp [Json.objectOf, Json.membersNamed, trace, span]

theorem membersNamed_body (limit : Option Nat) (record : LogRecord) :
    (record.toJson limit).membersNamed "body" = [record.resolvedBody.toJson] := by
  rw [toJson, Json.membersNamed_objectOf, membersNamed_contextMembers (by decide) (by decide), List.append_nil]
  cases record.resolvedSeverityText <;> cases record.attributes.isEmpty <;> rfl

theorem membersNamed_attributes (limit : Option Nat) (record : LogRecord) :
    (record.toJson limit).membersNamed "attributes" = if record.attributes = [] then []
      else [.array ((Attribute.present record.writtenAttributes).map (Attribute.entryJson limit))] := by
  rw [← Attribute.listJson_eq_entries, toJson, Json.membersNamed_objectOf,
    membersNamed_contextMembers (by decide) (by decide), List.append_nil]
  simp only [← List.isEmpty_iff]
  cases record.resolvedSeverityText <;> cases record.attributes.isEmpty <;> rfl

/-- What is written for a record shows a body, and nothing else as one, and attributes if the record has any. -/
structure Shows (limit : Option Nat) (record : LogRecord) (body : Json) (emitted : List (String × Value)) :
    Prop where
  body : (record.toJson limit).membersNamed "body" = [body]
  attributes : (record.toJson limit).membersNamed "attributes" =
    if record.attributes = [] then [] else [.array (emitted.map (Attribute.entryJson limit))]

theorem shows_written (limit : Option Nat) (record : LogRecord) :
    record.Shows limit record.resolvedBody.toJson (Attribute.present record.writtenAttributes) :=
  ⟨record.membersNamed_body limit, record.membersNamed_attributes limit⟩

theorem sublist_present_writtenAttributes (record : LogRecord) :
    (Attribute.present record.writtenAttributes).Sublist (Attribute.present record.attributes) := by
  apply List.Sublist.filterMap
  unfold writtenAttributes
  split
  · exact List.eraseIdx_sublist _ _
  · exact List.Sublist.refl _

/-- A record is written with one body and loses nothing by it: either all attributes that are not null are
written, in their order, or all but the template, which is then the body in full. -/
theorem body_resolution_conserves (limit : Option Nat) (record : LogRecord) : ∃ body emitted,
    record.Shows limit body emitted ∧
      (∀ text, record.message = some text →
        body = .object [("stringValue", .string text)] ∧ emitted = Attribute.present record.attributes) ∧
      (record.message = none → ∀ before value after text, record.FirstTemplate before (some value) after →
        (value = .text text ∨ value = .rendered text) →
          body = .object [("stringValue", .string text)] ∧
            emitted = Attribute.present before ++ Attribute.present after ∧
            emitted.insertIdx (Attribute.present before).length ("\x7bOriginalFormat\x7d", value) =
              Attribute.present record.attributes) ∧
      (record.message = none →
        (∀ before value after text, record.FirstTemplate before value after →
          value ≠ some (.text text) ∧ value ≠ some (.rendered text)) →
          body = (record.body.map fun content => (content.view none).toJson).getD
              (.object [("stringValue", .string "")]) ∧
            emitted = Attribute.present record.attributes) ∧
      emitted.Sublist (Attribute.present record.attributes) := by
  refine ⟨_, _, record.shows_written limit, ?message, ?template, ?own, record.sublist_present_writtenAttributes⟩
  case message =>
    intro text spoken
    rw [resolvedBody, writtenAttributes, spoken]
    exact ⟨rfl, rfl⟩
  case template =>
    intro silent before value after text first textual
    have found := first.template?_eq (Value.asText?_eq_some_iff.mpr textual)
    rw [resolvedBody, writtenAttributes, silent, found]
    have written : Attribute.present (record.attributes.eraseIdx before.length) =
        Attribute.present before ++ Attribute.present after := by rw [first.eraseIdx, Attribute.present_append]
    refine ⟨rfl, written, ?_⟩
    rw [written, first.present_attributes]
    exact insertIdx_seam _ _ _
  case own =>
    intro silent untold
    rw [resolvedBody, writtenAttributes, silent, template?_eq_none untold]
    refine ⟨?_, rfl⟩
    cases record.body with
    | none => rfl
    | some content => exact (Value.toJson_view none content).symm

def twiceTemplated : LogRecord :=
  ⟨.epoch, none, none, none, [⟨"host", none⟩, ⟨"task", some (.text "compaction")⟩,
    ⟨"\x7bOriginalFormat\x7d", some (.rendered "finished")⟩, ⟨"\x7bOriginalFormat\x7d", some (.text "started")⟩],
    some (.int 7), .invalid, .invalid⟩

def untemplated : LogRecord :=
  { twiceTemplated with
    attributes := [⟨"\x7bOriginalFormat\x7d", none⟩, ⟨"\x7bOriginalFormat\x7d", some (.text "started")⟩] }

/-- Only the first of two templates becomes the body, and the limit does not cut it. Where the first of them is
null, the record keeps its own body. -/
theorem body_resolution_conserves_twice :
    twiceTemplated.message = none ∧
      twiceTemplated.FirstTemplate [⟨"host", none⟩, ⟨"task", some (.text "compaction")⟩]
        (some (.rendered "finished")) [⟨"\x7bOriginalFormat\x7d", some (.text "started")⟩] ∧
      twiceTemplated.Shows (some 4) (.object [("stringValue", .string "finished")])
        [("task", .text "compaction"), ("\x7bOriginalFormat\x7d", .text "started")] ∧
      untemplated.Shows (some 4) (.object [("intValue", .number "7")])
        [("\x7bOriginalFormat\x7d", .text "started")] := by
  have silent : twiceTemplated.message = none := rfl
  have first : twiceTemplated.FirstTemplate [⟨"host", none⟩, ⟨"task", some (.text "compaction")⟩]
      (some (.rendered "finished")) [⟨"\x7bOriginalFormat\x7d", some (.text "started")⟩] := ⟨rfl, by simp⟩
  obtain ⟨body, emitted, shown, _, templated, _⟩ := body_resolution_conserves (some 4) twiceTemplated
  obtain ⟨rfl, rfl, _⟩ := templated silent _ _ _ _ first (.inr rfl)
  have hides : untemplated.FirstTemplate [] none [⟨"\x7bOriginalFormat\x7d", some (.text "started")⟩] :=
    ⟨rfl, List.forall_mem_nil _⟩
  obtain ⟨own, rest, kept, _, _, untold, _⟩ := body_resolution_conserves (some 4) untemplated
  have hidden : ∀ before value after text, untemplated.FirstTemplate before value after →
      value ≠ some (.text text) ∧ value ≠ some (.rendered text) := by
    intro before value after text also
    rw [← hides.unique also]
    exact ⟨nofun, nofun⟩
  obtain ⟨rfl, rfl⟩ := untold rfl hidden
  exact ⟨silent, first, shown, kept⟩

end LogRecord

end Telemetry
