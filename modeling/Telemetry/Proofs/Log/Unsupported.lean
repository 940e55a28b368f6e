import Telemetry.Log.Document
import Telemetry.Proofs.Value.Unsupported
import Mathlib.Data.List.InsertIdx

/-! The values of a log record: those of its attributes, and its body where no text stands in its place.
They tell the gaps of what is written for the record. Where texts stay texts, changing all values
changes neither the choice of the body nor which attribute becomes the body. -/
namespace Telemetry.LogRecord

variable {substitute : String → Value} {patch : String → Json}

def templated (record : LogRecord) : Bool :=
  match record.attributes.find? (·.key = "\x7bOriginalFormat\x7d") with
  | some ⟨_, some (.text _)⟩ => true
  | some ⟨_, some (.rendered _)⟩ => true
  | _ => false

def selectedBody? (record : LogRecord) : Option Value :=
  if record.message.isSome ∨ record.templated then none else record.body

def values (record : LogRecord) : List Value :=
  Attribute.values record.attributes ++ record.selectedBody?.toList

def mapValues (change : Value → Value) (record : LogRecord) : LogRecord :=
  { record with
    attributes := record.attributes.map (Attribute.mapValue change)
    body := record.body.map change }

def Body.mapValue (change : Value → Value) : Body → Body
  | .text s => .text s
  | .value content => .value (change content)

theorem exists_of_template? {record : LogRecord} {position : Nat} {text : String}
    (found : record.template? = some (position, text)) :
    ∃ entry value, record.attributes[position]? = some entry ∧ entry.value = some value ∧
      value.asText? = some text := by
  simp only [template?, Option.bind_eq_bind, Option.bind_eq_some_iff] at found
  obtain ⟨place, _, entry, here, written, ⟨value, present, textual⟩, same⟩ := found
  obtain ⟨rfl, rfl⟩ := Prod.mk.inj (Option.some.inj same)
  exact ⟨entry, value, here, present, textual⟩

theorem isSome_template? (record : LogRecord) : record.template?.isSome = record.templated := by
  rw [templated, ← templateKey, List.find?_eq_bind_findIdx?_getElem?, template?]
  cases record.attributes.findIdx? (·.key = templateKey) with
  | none => rfl
  | some position =>
    simp only [Option.bind_eq_bind, Option.bind_some]
    cases record.attributes[position]? with
    | none => rfl
    | some entry =>
      obtain ⟨key, value⟩ := entry
      cases value with
      | none => rfl
      | some value => cases value <;> rfl

theorem selectedBody?_eq (record : LogRecord) : record.selectedBody? =
    if record.message.isSome ∨ record.template?.isSome then none else record.body := by
  rw [selectedBody?, isSome_template?]

/-- The attribute that becomes the body is a text, so it holds nothing unsupported. -/
theorem gapsOf_writtenAttributes (record : LogRecord) :
    Value.gapsOf (Attribute.values record.writtenAttributes) = Value.gapsOf (Attribute.values record.attributes) := by
  have across : ∀ first second : List Attribute, Value.gapsOf (Attribute.values (first ++ second)) =
      Value.gapsOf (Attribute.values first) ++ Value.gapsOf (Attribute.values second) := by
    intro first second
    rw [Attribute.values, List.filterMap_append, Value.gapsOf_append, Attribute.values, Attribute.values]
  unfold writtenAttributes
  split
  · rename_i position text _ found
    obtain ⟨entry, value, here, present, textual⟩ := exists_of_template? found
    obtain ⟨inside, rfl⟩ := List.getElem?_eq_some_iff.mp here
    have nothing : Value.gapsOf (Attribute.values [record.attributes[position]]) = [] := by
      rw [Attribute.values, List.filterMap_cons_some present, List.filterMap_nil, Value.gapsOf_singleton,
        Value.unsupportedKinds_of_asText? textual, List.map_nil]
    have whole : record.attributes.take position ++ [record.attributes[position]] ++
        record.attributes.drop (position + 1) = record.attributes := by
      rw [List.append_assoc, List.singleton_append, List.cons_getElem_drop_succ, List.take_append_drop]
    calc Value.gapsOf (Attribute.values (record.attributes.eraseIdx position))
        = Value.gapsOf (Attribute.values (record.attributes.take position ++ [record.attributes[position]] ++
            record.attributes.drop (position + 1))) := by
          rw [List.eraseIdx_eq_take_drop_succ, across, across, across, nothing, List.append_nil]
      _ = Value.gapsOf (Attribute.values record.attributes) := by rw [whole]
  · rfl

section Mapping

variable {change : Value → Value} (keeps : ∀ value, (change value).asText? = value.asText?) (record : LogRecord)

include keeps

theorem template?_mapValues : (record.mapValues change).template? = record.template? := by
  have position : (record.attributes.map (Attribute.mapValue change)).findIdx? (·.key = templateKey) =
      record.attributes.findIdx? (·.key = templateKey) := List.findIdx?_map
  have text : ∀ entry : Attribute, (Attribute.mapValue change entry).value.bind Value.asText? =
      entry.value.bind Value.asText? := by
    intro entry
    rw [Attribute.mapValue, Option.bind_map]
    congr 1
    funext value
    exact keeps value
  simp only [template?, mapValues, position, List.getElem?_map, Option.bind_eq_bind, Option.bind_map,
    Function.comp_def, text]

theorem resolvedBody_mapValues :
    (record.mapValues change).resolvedBody = record.resolvedBody.mapValue change := by
  have body : (record.mapValues change).body = record.body.map change := rfl
  have message : (record.mapValues change).message = record.message := rfl
  unfold resolvedBody
  rw [template?_mapValues keeps, body, message]
  cases record.message <;> cases record.template? <;> cases record.body <;> rfl

theorem writtenAttributes_mapValues : (record.mapValues change).writtenAttributes =
    record.writtenAttributes.map (Attribute.mapValue change) := by
  have attributes : (record.mapValues change).attributes = record.attributes.map (Attribute.mapValue change) := rfl
  have message : (record.mapValues change).message = record.message := rfl
  unfold writtenAttributes
  rw [template?_mapValues keeps, attributes, message]
  cases record.message with
  | some message => rfl
  | none =>
    cases record.template? with
    | none => rfl
    | some template => exact List.eraseIdx_map _ _ _

end Mapping

theorem gaps_body (record : LogRecord) :
    record.resolvedBody.toJson.gaps = Value.gapsOf record.selectedBody?.toList := by
  have selected : ∀ content : Value, (Body.value content).toJson.gaps = Value.gapsOf [content] :=
    fun content => (Value.gaps_toJson none content).trans (Value.gapsOf_singleton content).symm
  rw [selectedBody?_eq, resolvedBody]
  cases record.message with
  | some message => rfl
  | none =>
    cases record.template? with
    | some template => rfl
    | none =>
      cases record.body with
      | none => rfl
      | some content => exact selected content

theorem fill_body (patches : Value.Patches substitute patch) (body : Body) :
    body.toJson.fill patch = (body.mapValue (Value.mend substitute)).toJson := by
  cases body with
  | text s => rfl
  | value content => exact Value.fill_toJson patches none content

/-- Nothing but the attributes and the body of a record holds values. -/
theorem gaps_toJson (limit : Option Nat) (record : LogRecord) :
    (record.toJson limit).gaps = Value.gapsOf record.values := by
  have texts : (record.resolvedSeverityText.map fun text => ("severityText", Json.string text)).elim []
      (·.2.gaps) = [] := by cases record.resolvedSeverityText <;> rfl
  have context : record.contextMembers.flatMap (fun member => member.elim [] (·.2.gaps)) = [] := by
    unfold contextMembers
    split <;> rfl
  have attributes : (if record.attributes.isEmpty then none
      else some ("attributes", Attribute.listJson limit record.writtenAttributes)).elim [] (·.2.gaps) =
        Value.gapsOf (Attribute.values record.attributes) := by
    split
    · rename_i empty
      rw [List.isEmpty_iff.mp empty]
      rfl
    · exact (Attribute.gaps_listJson limit _).trans record.gapsOf_writtenAttributes
  rw [toJson, Json.gaps_objectOf, List.flatMap_append, context, values, Value.gapsOf_append, ← attributes,
    ← gaps_body]
  simp only [List.flatMap_cons, List.flatMap_nil, Option.elim_some, texts, Json.natural, Json.gaps,
    List.nil_append, List.append_nil]

theorem fill_toJson (plain : ∀ kind, (substitute kind).Plain) (patches : Value.Patches substitute patch)
    (limit : Option Nat) (record : LogRecord) :
    (record.toJson limit).fill patch = (record.mapValues (Value.mend substitute)).toJson limit := by
  have keeps := Value.asText?_mend plain
  have texts : (record.resolvedSeverityText.map fun text => ("severityText", Json.string text)).map
      (fun member => (member.1, member.2.fill patch)) =
        record.resolvedSeverityText.map fun text => ("severityText", Json.string text) := by
    cases record.resolvedSeverityText <;> rfl
  have context : record.contextMembers.map (Option.map fun member => (member.1, member.2.fill patch)) =
      (record.mapValues (Value.mend substitute)).contextMembers := by
    unfold contextMembers mapValues
    split <;> rfl
  have attributes : (if record.attributes.isEmpty then none
      else some ("attributes", Attribute.listJson limit record.writtenAttributes)).map
        (fun member => (member.1, member.2.fill patch)) =
      if (record.mapValues (Value.mend substitute)).attributes.isEmpty then none
      else some ("attributes", Attribute.listJson limit
        (record.mapValues (Value.mend substitute)).writtenAttributes) := by
    rw [writtenAttributes_mapValues keeps, ← Attribute.fill_listJson limit _ patches, mapValues,
      List.isEmpty_map]
    split <;> rfl
  rw [toJson, Json.fill_objectOf, List.map_append, context, toJson, resolvedBody_mapValues keeps,
    ← fill_body patches]
  simp only [List.map_cons, List.map_nil, Option.map_some, texts, attributes, Json.natural, Json.fill]
  rfl

end Telemetry.LogRecord
