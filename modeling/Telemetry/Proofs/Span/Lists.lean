import Telemetry.Proofs.Span.View

/-! No list of attributes, of events or of links below a span is empty, however deep it lies. -/
namespace Telemetry

namespace Json

def ListsFilled (node : Json) : Prop :=
  ∀ name ∈ ["attributes", "events", "links"], .array [] ∉ node.membersNamed name

theorem listsFilled_leaf {tree : Json} (childless : tree.parts = []) : tree.Every ListsFilled := by
  apply Every.leaf childless
  intro name _ member
  have part := membersNamed_subset_parts name tree member
  rw [childless] at part
  contradiction

theorem listsFilled_array {items : List Json} (each : ∀ item ∈ items, item.Every ListsFilled) :
    (array items).Every ListsFilled :=
  .intro (fun _ _ => List.not_mem_nil) each

/-- Where no member has the name of a list, the values alone decide. -/
theorem listsFilled_object {members : List (String × Json)}
    (apart : ∀ member ∈ members, member.1 ∉ ["attributes", "events", "links"])
    (each : ∀ member ∈ members, member.2.Every ListsFilled) : (object members).Every ListsFilled := by
  refine .intro ?_ (forall_parts_object.mpr each)
  intro name listed value
  obtain ⟨member, among, named⟩ := List.mem_filterMap.mp value
  split at named
  · rename_i same
    exact apart member among (same ▸ listed)
  · contradiction

theorem listsFilled_single {name : String} {value : Json} (apart : name ∉ ["attributes", "events", "links"])
    (filled : value.Every ListsFilled) : (object [(name, value)]).Every ListsFilled :=
  listsFilled_object (List.forall_mem_singleton.mpr apart) (List.forall_mem_singleton.mpr filled)

theorem listsFilled_double (x : Float) : (double x).Every ListsFilled := by
  unfold double
  split <;> exact listsFilled_leaf rfl

section Fields

variable {fields : List (String × Option Json)}

theorem array_nil_not_mem_nonempty? (items : List Json) : .array [] ∉ (nonempty? items).toList := by
  unfold nonempty?
  split
  · exact List.not_mem_nil
  · rename_i some
    simpa using Ne.symm some

theorem listsFilled_ofFields (distinct : (fields.map (·.1)).Nodup)
    (each : ∀ field ∈ fields, ∀ value ∈ field.2, value.Every ListsFilled)
    (lists : ∀ field ∈ fields, field.1 ∈ ["attributes", "events", "links"] → ∃ items, field.2 = nonempty? items) :
    (ofFields fields).Every ListsFilled := by
  constructor
  · intro name listed
    by_cases known : name ∈ fields.map (·.1)
    · obtain ⟨⟨_, value⟩, among, rfl⟩ := List.mem_map.mp known
      obtain ⟨items, rfl⟩ := lists _ among listed
      rw [membersNamed_ofFields distinct among]
      exact array_nil_not_mem_nonempty? items
    · rw [membersNamed_ofFields_of_not_mem known]
      exact List.not_mem_nil
  · rw [ofFields, forall_parts_object]
    intro member inside
    obtain ⟨field, among, shape⟩ := List.mem_filterMap.mp inside
    obtain ⟨value, there, rfl⟩ := Option.map_eq_some_iff.mp shape
    exact each field among value there

theorem listsFilled_of_mem_nonempty? {α : Type} {toJson : α → Json} (each : ∀ a, (toJson a).Every ListsFilled)
    {items : List α} {value : Json} (member : value ∈ nonempty? (items.map toJson)) : value.Every ListsFilled := by
  unfold nonempty? at member
  split at member
  · contradiction
  · exact Option.some.inj member ▸ listsFilled_array (List.forall_mem_map.mpr fun item _ => each item)

end Fields

end Json

theorem ValueView.listsFilled (view : ValueView) : view.toJson.Every Json.ListsFilled := by
  refine @ValueView.rec (fun view => view.toJson.Every Json.ListsFilled)
    (fun items => ∀ item ∈ items, item.toJson.Every Json.ListsFilled)
    ?text ?bool ?int ?double ?array ?unsupported ?nil ?cons view
  case text | bool | int => exact fun _ => Json.listsFilled_single (by simp) (Json.listsFilled_leaf rfl)
  case double =>
    intro x
    apply Json.listsFilled_single (by simp)
    cases x with
    | none => exact Json.listsFilled_leaf rfl
    | some x => exact Json.listsFilled_double x.number
  case array =>
    intro items inside
    apply Json.listsFilled_single (by simp)
    apply Json.listsFilled_single (by simp)
    rw [toJsons_eq_map]
    exact Json.listsFilled_array (List.forall_mem_map.mpr inside)
  case unsupported => exact fun kind => Json.listsFilled_leaf rfl
  case nil => exact fun item member => absurd member List.not_mem_nil
  case cons => exact fun item items here below => List.forall_mem_cons.mpr ⟨here, below⟩

theorem AttributeView.listsFilled (entry : AttributeView) : entry.toJson.Every Json.ListsFilled := by
  apply Json.listsFilled_object (by simp)
  simp only [List.forall_mem_cons]
  exact ⟨Json.listsFilled_leaf rfl, entry.value.listsFilled, List.forall_mem_nil _⟩

theorem SpanEventView.listsFilled (event : SpanEventView) : event.toJson.Every Json.ListsFilled := by
  apply Json.listsFilled_ofFields (by simp [fields])
  · simp only [fields, List.forall_mem_cons]
    refine ⟨?name, ?time, ?attributes, List.forall_mem_nil _⟩
    case name | time => exact fun _ member => Option.some.inj member ▸ Json.listsFilled_leaf rfl
    case attributes => exact fun _ => Json.listsFilled_of_mem_nonempty? AttributeView.listsFilled
  · simp [fields]

theorem SpanLinkView.listsFilled (link : SpanLinkView) : link.toJson.Every Json.ListsFilled := by
  apply Json.listsFilled_ofFields (by simp [fields])
  · simp only [fields, List.forall_mem_cons]
    refine ⟨?traceId, ?spanId, ?attributes, List.forall_mem_nil _⟩
    case traceId | spanId => exact fun _ member => Option.some.inj member ▸ Json.listsFilled_leaf rfl
    case attributes => exact fun _ => Json.listsFilled_of_mem_nonempty? AttributeView.listsFilled
  · simp [fields]

theorem SpanStatus.listsFilled {status : SpanStatus} {value : Json} (written : status.toJson? = some value) :
    value.Every Json.ListsFilled := by
  cases status with
  | unset => contradiction
  | ok => exact Option.some.inj written ▸ Json.listsFilled_single (by simp) (Json.listsFilled_leaf rfl)
  | error description =>
    obtain rfl := Option.some.inj written
    by_cases empty : description = ""
    · rw [if_pos empty]
      exact Json.listsFilled_single (by simp) (Json.listsFilled_leaf rfl)
    · rw [if_neg empty]
      apply Json.listsFilled_object (by simp)
      simp only [List.filterMap_cons, List.forall_mem_cons, id_eq]
      exact ⟨Json.listsFilled_leaf rfl, Json.listsFilled_leaf rfl, List.forall_mem_nil _⟩

theorem SpanView.listsFilled (span : SpanView) : span.toJson.Every Json.ListsFilled := by
  apply Json.listsFilled_ofFields (by simp [fields])
  · simp only [fields, List.forall_mem_cons]
    refine ⟨?traceId, ?spanId, ?parent, ?name, ?kind, ?start, ?finish, ?status, ?attributes, ?events, ?links,
      List.forall_mem_nil _⟩
    case traceId | spanId | name | kind | start | finish =>
      exact fun _ member => Option.some.inj member ▸ Json.listsFilled_leaf rfl
    case parent =>
      intro value member
      obtain ⟨id, _, rfl⟩ := Option.map_eq_some_iff.mp member
      exact Json.listsFilled_leaf rfl
    case status => exact fun _ => SpanStatus.listsFilled
    case attributes => exact fun _ => Json.listsFilled_of_mem_nonempty? AttributeView.listsFilled
    case events => exact fun _ => Json.listsFilled_of_mem_nonempty? SpanEventView.listsFilled
    case links => exact fun _ => Json.listsFilled_of_mem_nonempty? SpanLinkView.listsFilled
  · simp [fields]

end Telemetry
