import Telemetry.Proofs.Scope
import Telemetry.Proofs.Value.Unsupported
import Telemetry.Span.Document

/-! The values of a span: those of its own attributes, then of its events, then of its links. They tell
the gaps of what is written for the span, and nothing else in a span holds a gap. -/
namespace Telemetry

variable {substitute : String → Value} {patch : String → Json}

namespace SpanEvent

def values (event : SpanEvent) : List Value :=
  Attribute.values event.attributes

def mapValues (change : Value → Value) (event : SpanEvent) : SpanEvent :=
  { event with attributes := event.attributes.map (Attribute.mapValue change) }

theorem gaps_toJson (limit : Option Nat) (event : SpanEvent) :
    (event.toJson limit).gaps = Value.gapsOf event.values := by
  rw [toJson, Json.gaps_objectOf, values, ← Attribute.gaps_member? limit]
  simp only [List.flatMap_cons, List.flatMap_nil, Option.elim_some, Json.natural, Json.gaps, List.nil_append,
    List.append_nil]

theorem fill_toJson (patches : Value.Patches substitute patch) (limit : Option Nat) (event : SpanEvent) :
    (event.toJson limit).fill patch = (event.mapValues (Value.mend substitute)).toJson limit := by
  rw [toJson, Json.fill_objectOf, toJson, mapValues, ← Attribute.fill_member? limit _ patches]
  rfl

end SpanEvent

namespace SpanLink

def values (link : SpanLink) : List Value :=
  Attribute.values link.attributes

def mapValues (change : Value → Value) (link : SpanLink) : SpanLink :=
  { link with attributes := link.attributes.map (Attribute.mapValue change) }

theorem gaps_toJson (limit : Option Nat) (link : SpanLink) :
    (link.toJson limit).gaps = Value.gapsOf link.values := by
  rw [toJson, Json.gaps_objectOf, values, ← Attribute.gaps_member? limit]
  simp only [List.flatMap_cons, List.flatMap_nil, Option.elim_some, Json.gaps, List.nil_append,
    List.append_nil]

theorem fill_toJson (patches : Value.Patches substitute patch) (limit : Option Nat) (link : SpanLink) :
    (link.toJson limit).fill patch = (link.mapValues (Value.mend substitute)).toJson limit := by
  rw [toJson, Json.fill_objectOf, toJson, mapValues, ← Attribute.fill_member? limit _ patches]
  rfl

end SpanLink

namespace Span

def values (span : Span) : List Value :=
  Attribute.values span.attributes ++ span.events.flatMap (·.values) ++ span.links.flatMap (·.values)

def mapValues (change : Value → Value) (span : Span) : Span :=
  { span with
    attributes := span.attributes.map (Attribute.mapValue change)
    events := span.events.map (·.mapValues change)
    links := span.links.map (·.mapValues change) }

private theorem gapless_parent (parent : SpanId) :
    (if parent = .invalid then none else some ("parentSpanId", Json.string parent.text)).elim []
      (·.2.gaps) = [] := by
  split <;> rfl

private theorem gapless_status (status : SpanStatus) :
    (status.toJson?.map fun status => ("status", status)).elim [] (·.2.gaps) = [] := by
  cases status with
  | unset | ok => rfl
  | error description =>
    rw [SpanStatus.toJson?, Option.map_some, Option.elim_some, Json.gaps_objectOf]
    by_cases empty : description = "" <;> simp [empty, Json.gaps]

theorem gaps_toJson (limit : Option Nat) (span : Span) :
    (span.toJson limit).gaps = Value.gapsOf span.values := by
  have events := Json.gaps_unlessEmpty "events" span.events (·.toJson limit)
  have links := Json.gaps_unlessEmpty "links" span.links (·.toJson limit)
  simp only [SpanEvent.gaps_toJson] at events
  simp only [SpanLink.gaps_toJson] at links
  rw [toJson, Json.gaps_objectOf, values, Value.gapsOf_append, Value.gapsOf_append, Value.gapsOf_flatMap,
    Value.gapsOf_flatMap, ← Attribute.gaps_member? limit, ← events, ← links]
  simp only [List.flatMap_cons, List.flatMap_nil, Option.elim_some, gapless_parent, gapless_status,
    Json.natural, Json.gaps, List.nil_append, List.append_nil, List.append_assoc]

theorem fill_toJson (patches : Value.Patches substitute patch) (limit : Option Nat) (span : Span) :
    (span.toJson limit).fill patch = (span.mapValues (Value.mend substitute)).toJson limit := by
  have events := Json.fill_unlessEmpty patch "events" (SpanEvent.fill_toJson patches limit) span.events
  have links := Json.fill_unlessEmpty patch "links" (SpanLink.fill_toJson patches limit) span.links
  rw [toJson, Json.fill_objectOf, toJson]
  simp only [List.map_cons, List.map_nil, Option.map_some, mapValues, ← Attribute.fill_member? limit _ patches,
    Json.map_fill_of_gapless patch (gapless_parent _), Json.map_fill_of_gapless patch (gapless_status _),
    events, links, Json.natural, Json.fill]
  rfl

theorem gaps_groupJson (limit : Option Nat) (group : ScopeGroup Span) :
    (groupJson limit group).gaps = group.items.flatMap fun span => Value.gapsOf span.values := by
  rw [groupJson, Json.gaps_object, List.flatMap_cons, Scope.gaps_toJson, List.nil_append,
    List.flatMap_singleton, Json.gaps_array_map (gaps_toJson limit)]

theorem fill_groupJson (patches : Value.Patches substitute patch) (limit : Option Nat) (group : ScopeGroup Span) :
    (groupJson limit group).fill patch =
      groupJson limit ⟨group.scope, group.items.map (·.mapValues (Value.mend substitute))⟩ := by
  have items := Json.fill_array_map patch (fill_toJson patches limit) group.items
  rw [groupJson, Json.fill_object, List.map_cons, List.map_singleton, items,
    Json.fill_of_gapless patch (Scope.gaps_toJson _), groupJson]

end Span

end Telemetry
