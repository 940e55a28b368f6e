import Telemetry.Exporter
import Telemetry.Proofs.Log.Unsupported
import Telemetry.Proofs.Span.Unsupported
import Telemetry.Proofs.Value.Shortening

/-! Limits on documents. A limit on the length of values does what shortening the attribute values of all
items does beforehand, and nothing else. In a log record the attribute that becomes the body is not
shortened, and it becomes the body under any limit. A limit on the number of attributes does nothing. -/
namespace Telemetry

namespace SpanEvent

theorem toJson_shortened (length : Nat) (event : SpanEvent) :
    (event.mapValues (Value.shortened length)).toJson none = event.toJson (some length) := by
  rw [toJson, mapValues, Attribute.member?_shortened, toJson]

end SpanEvent

namespace SpanLink

theorem toJson_shortened (length : Nat) (link : SpanLink) :
    (link.mapValues (Value.shortened length)).toJson none = link.toJson (some length) := by
  rw [toJson, mapValues, Attribute.member?_shortened, toJson]

end SpanLink

namespace Span

theorem toJson_shortened (length : Nat) (span : Span) :
    (span.mapValues (Value.shortened length)).toJson none = span.toJson (some length) := by
  have events : (span.events.map (·.mapValues (Value.shortened length))).map (·.toJson none) =
      span.events.map (·.toJson (some length)) := by
    rw [List.map_map]
    exact List.map_congr_left fun event _ => event.toJson_shortened length
  have links : (span.links.map (·.mapValues (Value.shortened length))).map (·.toJson none) =
      span.links.map (·.toJson (some length)) := by
    rw [List.map_map]
    exact List.map_congr_left fun link _ => link.toJson_shortened length
  rw [toJson, mapValues, Attribute.member?_shortened, events, links, List.isEmpty_map, List.isEmpty_map, toJson]
  rfl

def frame (span : Span) : Span :=
  { span with
    attributes := span.attributes.map Attribute.frame
    events := span.events.map fun event => { event with attributes := event.attributes.map Attribute.frame }
    links := span.links.map fun link => { link with attributes := link.attributes.map Attribute.frame } }

theorem frame_mapValues (change : Value → Value) (span : Span) : (span.mapValues change).frame = span.frame := by
  simp only [frame, mapValues, SpanEvent.mapValues, SpanLink.mapValues, List.map_map, Function.comp_def,
    Attribute.frame_mapValue]

end Span

namespace LogRecord

def bodyPosition? (record : LogRecord) : Option Nat :=
  if record.message.isSome ∨ ¬record.templated then none
  else record.attributes.findIdx? (·.key = "\x7bOriginalFormat\x7d")

/-- A record with shortened attribute values, except for the attribute that becomes the body. -/
def shortened (length : Nat) (record : LogRecord) : LogRecord :=
  { record with
    attributes := record.attributes.mapIdx fun position entry =>
      if record.bodyPosition? = some position then entry else entry.mapValue (Value.shortened length) }

variable (length : Nat) (record : LogRecord)

def frame (record : LogRecord) : LogRecord :=
  { record with attributes := record.attributes.map Attribute.frame }

theorem bodyPosition?_of_spoken {text : String} (spoken : record.message = some text) :
    record.bodyPosition? = none := by
  rw [bodyPosition?, spoken]
  exact if_pos (.inl rfl)

theorem bodyPosition?_of_silent (silent : record.message = none) :
    record.bodyPosition? = record.template?.map (·.1) := by
  have told := record.isSome_template?
  rw [bodyPosition?, silent, ← told]
  cases found : record.template? with
  | none => rfl
  | some template =>
    obtain ⟨position, text⟩ := template
    simp only [template?, templateKey, Option.bind_eq_bind, Option.bind_eq_some_iff] at found
    obtain ⟨place, first, _, _, _, _, same⟩ := found
    obtain rfl : place = position := (Prod.mk.inj (Option.some.inj same)).1
    exact first

theorem getElem?_shortened (position : Nat) : (record.shortened length).attributes[position]? =
    (record.attributes[position]?).map fun entry =>
      if record.bodyPosition? = some position then entry else entry.mapValue (Value.shortened length) :=
  List.getElem?_mapIdx

theorem frame_shortened : (record.shortened length).frame = record.frame := by
  have attributes : (record.shortened length).attributes.map Attribute.frame =
      record.attributes.map Attribute.frame := by
    apply List.ext_getElem?
    intro position
    rw [List.getElem?_map, List.getElem?_map, getElem?_shortened, Option.map_map]
    congr 1
    funext entry
    simp only [Function.comp]
    split
    · rfl
    · exact entry.frame_mapValue _
  rw [frame, attributes, frame]
  rfl

theorem keys_shortened : (record.shortened length).attributes.map (·.key) = record.attributes.map (·.key) := by
  have keys := congrArg (fun frame : LogRecord => frame.attributes.map (·.key)) (frame_shortened length record)
  simp only [frame, List.map_map] at keys
  exact keys

def textAt? (record : LogRecord) (position : Nat) : Option String :=
  (record.attributes[position]?).bind fun entry => entry.value.bind Value.asText?

/-- The first attribute with the key of templates is the template, if it is a text. -/
theorem template?_eq : record.template? =
    ((record.attributes.map (·.key)).findIdx? (· = templateKey)).bind fun position =>
      (record.textAt? position).map (position, ·) := by
  rw [List.findIdx?_map, template?]
  congr 1
  funext position
  rw [textAt?, Option.map_bind]
  congr 1
  funext entry
  exact Option.map_eq_bind.symm

theorem textAt?_shortened_of_body {position : Nat} (body : record.bodyPosition? = some position) :
    (record.shortened length).textAt? position = record.textAt? position := by
  simp only [textAt?, getElem?_shortened, body, if_true, Option.map_id']

/-- Shortening makes a text of nothing else. -/
theorem textAt?_shortened_eq_none {position : Nat} (absent : record.textAt? position = none) :
    (record.shortened length).textAt? position = none := by
  rw [textAt?, Option.bind_eq_none_iff] at absent
  rw [textAt?, getElem?_shortened, Option.bind_map, Option.bind_eq_none_iff]
  intro entry here
  have textless := absent entry here
  simp only [Function.comp]
  split
  · exact textless
  · rw [Attribute.mapValue, Option.bind_map, Option.bind_eq_none_iff]
    intro value present
    have other := Option.bind_eq_none_iff.mp textless value present
    have same := Value.isSome_asText?_shortened length value
    rw [other, Option.isSome_none] at same
    exact Option.not_isSome_iff_eq_none.mp (Bool.eq_false_iff.mp same)

/-- Where no message stands in its place, the template is the same under any limit. -/
theorem template?_shortened (silent : record.message = none) :
    (record.shortened length).template? = record.template? := by
  have selected := record.bodyPosition?_of_silent silent
  rw [template?_eq, keys_shortened, template?_eq]
  rw [template?_eq] at selected
  cases found : (record.attributes.map (·.key)).findIdx? (· = templateKey) with
  | none => rfl
  | some position =>
    rw [found, Option.bind_some] at selected
    rw [Option.bind_some, Option.bind_some]
    cases textual : record.textAt? position with
    | some text =>
      rw [textual] at selected
      rw [textAt?_shortened_of_body length record selected, textual]
    | none => rw [textAt?_shortened_eq_none length record textual]

theorem bodyPosition?_shortened : (record.shortened length).bodyPosition? = record.bodyPosition? := by
  have message : (record.shortened length).message = record.message := rfl
  cases silent : record.message with
  | some text =>
    rw [bodyPosition?_of_spoken _ (message.trans silent), bodyPosition?_of_spoken _ silent]
  | none =>
    rw [bodyPosition?_of_silent _ (message.trans silent), bodyPosition?_of_silent _ silent,
      template?_shortened length record silent]

theorem resolvedBody_shortened : (record.shortened length).resolvedBody = record.resolvedBody := by
  have message : (record.shortened length).message = record.message := rfl
  have body : (record.shortened length).body = record.body := rfl
  unfold resolvedBody
  rw [message, body]
  cases silent : record.message with
  | some message => rfl
  | none => rw [template?_shortened length record silent]

private theorem attributes_shortened (unselected : record.bodyPosition? = none) :
    (record.shortened length).attributes = record.attributes.map (Attribute.mapValue (Value.shortened length)) := by
  apply List.ext_getElem?
  intro position
  simp only [getElem?_shortened, unselected, reduceCtorEq, if_false, List.getElem?_map]

theorem writtenAttributes_shortened : (record.shortened length).writtenAttributes =
    record.writtenAttributes.map (Attribute.mapValue (Value.shortened length)) := by
  have message : (record.shortened length).message = record.message := rfl
  unfold writtenAttributes
  rw [message]
  cases silent : record.message with
  | some text => exact attributes_shortened length record (record.bodyPosition?_of_spoken silent)
  | none =>
    have selected := record.bodyPosition?_of_silent silent
    rw [template?_shortened length record silent]
    cases found : record.template? with
    | none => exact attributes_shortened length record (by rw [selected, found]; rfl)
    | some template =>
      rw [found, Option.map_some] at selected
      apply List.ext_getElem?
      intro position
      simp only [List.getElem?_map, List.getElem?_eraseIdx, getElem?_shortened, selected, Option.some.injEq]
      split
      · rename_i before
        simp only [Nat.ne_of_gt before, if_false]
      · rename_i behind
        have apart : template.1 ≠ position + 1 := by omega
        simp only [apart, if_false]

theorem toJson_shortened : (record.shortened length).toJson none = record.toJson (some length) := by
  have empty : (record.shortened length).attributes.isEmpty = record.attributes.isEmpty := by
    rw [← List.isEmpty_map (f := Attribute.key), keys_shortened, List.isEmpty_map]
  rw [toJson, empty, writtenAttributes_shortened, Attribute.listJson_shortened, resolvedBody_shortened, toJson]
  rfl

end LogRecord

theorem TracesDocument.body_shortened (resource : Resource) (spans : List Span) (length : Nat) (count : Option Nat) :
    (TracesDocument.mk resource (spans.map (·.mapValues (Value.shortened length))) .unlimited).body =
      (TracesDocument.mk resource spans ⟨some length, count⟩).body := by
  have keeps : ∀ span : Span, (span.mapValues (Value.shortened length)).scope = span.scope := fun _ => rfl
  have spansJson : ∀ group : ScopeGroup Span,
      Span.groupJson none ⟨group.scope, group.items.map (·.mapValues (Value.shortened length))⟩ =
        Span.groupJson (some length) group := by
    intro group
    have items := List.map_congr_left fun span (_ : span ∈ group.items) => span.toJson_shortened length
    rw [Span.groupJson, List.map_map, Function.comp_def, items, Span.groupJson]
  have groups : (ScopeGroup.runs (·.scope) (spans.map (·.mapValues (Value.shortened length)))).map
      (Span.groupJson none) = (ScopeGroup.runs (·.scope) spans).map (Span.groupJson (some length)) := by
    rw [ScopeGroup.runs_map _ keeps, List.map_map]
    exact List.map_congr_left fun group _ => spansJson group
  rw [body, TracesDocument.groups, AttributeLimits.unlimited, groups, body, TracesDocument.groups]

theorem LogsDocument.body_shortened (resource : Resource) (records : List LogRecord) (length : Nat)
    (count : Option Nat) :
    (LogsDocument.mk resource (records.map (·.shortened length)) .unlimited).body =
      (LogsDocument.mk resource records ⟨some length, count⟩).body := by
  have items := List.map_congr_left fun record (_ : record ∈ records) => record.toJson_shortened length
  rw [body, AttributeLimits.unlimited, List.map_map, Function.comp_def, items, body]

/-- A limit on the length of values does to spans and to log records what shortening their attribute values
does, for every sink. The body of a record and all else but those values are left as they are, and the
limit on the number of attributes makes no difference. -/
theorem length_limit_is_shortening {σ : Type} (sink : Sink σ) (state : σ) (resource : Resource) (length : Nat)
    (count : Option Nat) (spans : List Span) (records : List LogRecord) :
    sink.deliver state (TracesDocument.mk resource spans ⟨some length, count⟩).toDocument =
        sink.deliver state (TracesDocument.mk resource
          (spans.map (·.mapValues (Value.shortened length))) .unlimited).toDocument ∧
      sink.deliver state (LogsDocument.mk resource records ⟨some length, count⟩).toDocument =
        sink.deliver state (LogsDocument.mk resource (records.map (·.shortened length)) .unlimited).toDocument ∧
      (∀ span : Span, (span.mapValues (Value.shortened length)).frame = span.frame) ∧
      (∀ record : LogRecord, (record.shortened length).frame = record.frame ∧
        (record.shortened length).bodyPosition? = record.bodyPosition? ∧
        (record.shortened length).resolvedBody = record.resolvedBody) ∧
      ∀ (signal : Signal) (limit other another : Option Nat) (items : List signal.Item),
        sink.deliver state (signal.document resource ⟨limit, other⟩ items) =
          sink.deliver state (signal.document resource ⟨limit, another⟩ items) := by
  refine ⟨?spans, ?records, Span.frame_mapValues _, ?bodies, ?counts⟩
  case spans =>
    have same := TracesDocument.body_shortened resource spans length count
    rw [TracesDocument.toDocument, ← same, TracesDocument.toDocument]
  case records =>
    have same := LogsDocument.body_shortened resource records length count
    rw [LogsDocument.toDocument, ← same, LogsDocument.toDocument]
  case bodies =>
    intro record
    exact ⟨record.frame_shortened length, record.bodyPosition?_shortened length, record.resolvedBody_shortened length⟩
  case counts =>
    intro signal limit other another items
    cases signal <;> rfl

end Telemetry
