import Telemetry.Proofs.Document.Composition
import Telemetry.Proofs.Json.Members
import Telemetry.Proofs.Json.Stream

/-! What a reader finds in the bytes of a document. Below the names that lead through the one resource and
its groups stand the items of the batch, in their order and each of them once. -/
namespace Telemetry

theorem Json.parse?_render_feed {tree : Json} (printable : tree.Printable) (object : tree.IsObject) :
    parse? (render tree ++ "\n") = some tree := by
  have read := Reader.value?_render_append printable object ['\n']
    (Nat.le_add_right (2 * ((render tree).toList ++ ['\n']).length) 2)
  have text : (render tree ++ "\n").toList = (render tree).toList ++ ['\n'] := String.toList_append ..
  rw [parse?, text, read]
  rfl

namespace Signal

variable (signal : Signal) (resource : Resource) (limits : AttributeLimits) (items : List signal.Item)

def itemPath : Signal → List String
  | .logs => ["resourceLogs", "scopeLogs", "logRecords"]
  | .metrics => ["resourceMetrics", "scopeMetrics", "metrics"]
  | .traces => ["resourceSpans", "scopeSpans", "spans"]

def itemsRead (bytes : List UInt8) : List Json :=
  (Json.ofBytes? bytes).toList.flatMap (Json.reached signal.itemPath)

theorem ofBytes?_document (encodable : (signal.document resource limits items).failure? = none) :
    Json.ofBytes? (Text.utf8 (signal.document resource limits items).text) =
      some (signal.document resource limits items).body := by
  have printable := Document.printable encodable (signal.regular_document resource limits items)
  obtain ⟨root, shape⟩ := signal.body_document resource limits items
  have object : (signal.document resource limits items).body.IsObject := by
    rw [shape]
    trivial
  rw [Json.ofBytes?, Text.fromUTF8?_utf8, Option.bind_some, Document.text_eq encodable, Document.terminator]
  split
  · exact Json.parse?_render_feed printable object
  · rw [String.append_empty]
    exact Json.parse?_render printable

private theorem reached_root {label : String} (apart : "resource" ≠ label) (name inner : String)
    (resource : Json) (groups : List Json) :
    (Json.object [(name, .array [.object [("resource", resource), (label, .array groups)]])]).reached
      [name, label, inner] = groups.flatMap (Json.reached [inner]) := by
  simp [Json.reached, Json.membersNamed, Json.elements, apart]

private theorem reached_group {label : String} (apart : "scope" ≠ label) (scope : Json) (items : List Json) :
    (Json.object [("scope", scope), (label, .array items)]).reached [label] = items := by
  simp [Json.reached, Json.membersNamed, Json.elements, apart]

private theorem reached_groups {α : Type} {label : String} (apart : "scope" ≠ label) (scopeOf : α → Scope)
    (toJson : α → Json) (items : List α) :
    ((ScopeGroup.runs scopeOf items).map fun group =>
        Json.object [("scope", group.scope.toJson), (label, .array (group.items.map toJson))]).flatMap
      (Json.reached [label]) = items.map toJson := by
  rw [List.flatMap_map]
  simp only [reached_group apart]
  rw [← List.map_flatMap, ScopeGroup.flatMap_items_runs]

theorem reached_document :
    (signal.document resource limits items).body.reached signal.itemPath =
      items.map (signal.itemJson limits) := by
  cases signal with
  | logs =>
    calc (logs.document resource limits items).body.reached logs.itemPath
      _ = [Json.object [("scope", .object []),
            ("logRecords", .array (items.map (·.toJson limits.valueLength)))]].flatMap
              (Json.reached ["logRecords"]) := reached_root (by decide) _ _ _ _
      _ = items.map (·.toJson limits.valueLength) := by
        rw [List.flatMap_cons, reached_group (by decide), List.flatMap_nil, List.append_nil]
  | metrics =>
    exact (reached_root (by decide) _ _ _ _).trans (reached_groups (by decide) _ _ items)
  | traces =>
    exact (reached_root (by decide) _ _ _ _).trans (reached_groups (by decide) _ _ items)

theorem itemsRead_document (encodable : (signal.document resource limits items).failure? = none) :
    signal.itemsRead (Text.utf8 (signal.document resource limits items).text) =
      items.map (signal.itemJson limits) := by
  rw [itemsRead, ofBytes?_document signal resource limits items encodable, ← reached_document signal resource]
  exact List.append_nil _

/-- What holds of every item as it is written holds of the items that a reader finds. -/
theorem forall₂_itemsRead {shown : signal.Item → Json → Prop}
    (each : ∀ item, shown item (signal.itemJson limits item))
    (encodable : (signal.document resource limits items).failure? = none) :
    List.Forall₂ shown items
      (signal.itemsRead (Text.utf8 (signal.document resource limits items).text)) := by
  rw [itemsRead_document signal resource limits items encodable, List.forall₂_map_right_iff, List.forall₂_same]
  exact fun item _ => each item

end Signal

end Telemetry
