import Telemetry.Proofs.Attribute
import Telemetry.Proofs.Span.View

/-! Which parts of a span are written. Attributes are when one of them is not null, events and links when
there are any, a parent when it has a byte that is not zero, and a status when it is set. What has nothing
to show is left out, so no list in a span is empty. -/
namespace Telemetry

namespace Attribute

def ShownIn (limit : Option Nat) (attributes : List Attribute) (node : Json) : Prop :=
  node.MemberIff "attributes" (∃ entry ∈ attributes, entry.value ≠ none) fun value =>
    value = .array ((present attributes).map (entryJson limit))

theorem present_ne_nil {attributes : List Attribute} :
    present attributes ≠ [] ↔ ∃ entry ∈ attributes, entry.value ≠ none := by
  simp [present]

theorem map_views (limit : Option Nat) (attributes : List Attribute) :
    (views limit attributes).map AttributeView.toJson = (present attributes).map (entryJson limit) :=
  Json.array.inj ((listJson_eq limit attributes).symm.trans (listJson_eq_entries limit attributes))

theorem shownIn_of_member {limit : Option Nat} {attributes : List Attribute} {node : Json}
    (member : node.membersNamed "attributes" =
      (Json.nonempty? ((views limit attributes).map AttributeView.toJson)).toList) :
    ShownIn limit attributes node := by
  rw [map_views] at member
  apply Json.MemberIff.of_nonempty? member
  · rw [← present_ne_nil, ne_eq, ne_eq, List.map_eq_nil_iff]
  · rfl

end Attribute

namespace SpanId

def bytes (id : SpanId) : List UInt8 :=
  ((List.range 8).map fun place => UInt8.ofNat (id.bits.toNat / 256 ^ place)).reverse

private theorem eq_zero_of_bytes {width n : Nat} (below : n < 256 ^ width)
    (zero : ∀ place < width, n / 256 ^ place % 256 = 0) : n = 0 := by
  induction width generalizing n with
  | zero => omega
  | succ width ih =>
    have low : n / 256 ^ 0 % 256 = 0 := zero 0 (Nat.succ_pos width)
    have high : n / 256 = 0 := by
      apply ih
      · exact Nat.div_lt_of_lt_mul (by omega)
      · intro place inside
        have byte := zero (place + 1) (Nat.succ_lt_succ inside)
        rwa [Nat.pow_succ', ← Nat.div_div_eq_div_mul] at byte
    omega

theorem exists_byte_ne_zero (id : SpanId) : (∃ byte ∈ id.bytes, byte ≠ 0) ↔ id ≠ .invalid := by
  obtain ⟨bits⟩ := id
  constructor
  · rintro ⟨byte, member, nonzero⟩ invalid
    obtain ⟨place, _, rfl⟩ := List.mem_map.mp (List.mem_reverse.mp member)
    rw [invalid] at nonzero
    exact nonzero (by simp [SpanId.invalid])
  · intro valid
    by_contra none
    have zero : ∀ place < 8, bits.toNat / 256 ^ place % 256 = 0 := by
      intro place inside
      have byte : UInt8.ofNat (bits.toNat / 256 ^ place) = 0 := by
        by_contra nonzero
        exact none ⟨_, List.mem_reverse.mpr (List.mem_map_of_mem (List.mem_range.mpr inside)), nonzero⟩
      rw [← UInt8.toNat_ofNat', byte]
      rfl
    have nothing : bits.toNat = 0 := eq_zero_of_bytes bits.isLt zero
    exact valid (congrArg SpanId.mk (BitVec.eq_of_toNat_eq nothing))

end SpanId

namespace SpanStatus

theorem toJson?_eq_none {status : SpanStatus} : status.toJson? = none ↔ status = .unset := by
  cases status <;> simp [toJson?]

structure ShownBy (status : SpanStatus) (node : Json) : Prop where
  code : node.membersNamed "code" =
    [.string (if status = .ok then "STATUS_CODE_OK" else "STATUS_CODE_ERROR")]
  message : node.MemberIff "message" (∃ description, status = .error description ∧ description ≠ "") fun value =>
    ∃ description, status = .error description ∧ value = .string description

theorem shownBy {status : SpanStatus} {node : Json} (written : status.toJson? = some node) :
    status.ShownBy node := by
  cases status with
  | unset => contradiction
  | ok =>
    obtain rfl : Json.object [("code", .string "STATUS_CODE_OK")] = node := Option.some.inj written
    refine ⟨rfl, .of_none rfl ?_⟩
    rintro ⟨description, same, _⟩
    contradiction
  | error description =>
    obtain rfl := Option.some.inj written
    by_cases empty : description = ""
    · subst empty
      refine ⟨rfl, .of_none rfl ?_⟩
      rintro ⟨description, same, filled⟩
      exact filled (error.inj same).symm
    · rw [if_neg empty]
      exact ⟨rfl, .of_some rfl ⟨description, rfl, empty⟩ ⟨description, rfl, rfl⟩⟩

end SpanStatus

structure SpanEvent.ShownBy (limit : Option Nat) (event : SpanEvent) (node : Json) : Prop where
  name : node.membersNamed "name" = [.string event.name]
  attributes : Attribute.ShownIn limit event.attributes node

theorem SpanEvent.shownBy (limit : Option Nat) (event : SpanEvent) : event.ShownBy limit (event.toJson limit) := by
  have member := @SpanEventView.membersNamed_toJson (event.view limit)
  rw [← toJson_view]
  constructor
  case name => exact @member _ (some _) (by simp [SpanEventView.fields, view])
  case attributes => exact Attribute.shownIn_of_member (member (by simp [SpanEventView.fields, view]))

structure SpanLink.ShownBy (limit : Option Nat) (link : SpanLink) (node : Json) : Prop where
  spanId : node.membersNamed "spanId" = [.string link.spanId.text]
  attributes : Attribute.ShownIn limit link.attributes node

theorem SpanLink.shownBy (limit : Option Nat) (link : SpanLink) : link.ShownBy limit (link.toJson limit) := by
  have member := @SpanLinkView.membersNamed_toJson (link.view limit)
  rw [← toJson_view]
  constructor
  case spanId => exact @member _ (some _) (by simp [SpanLinkView.fields, view])
  case attributes => exact Attribute.shownIn_of_member (member (by simp [SpanLinkView.fields, view]))

namespace Span

structure ShownBy (limit : Option Nat) (span : Span) (node : Json) : Prop where
  spanId : node.membersNamed "spanId" = [.string span.spanId.text]
  parent : node.MemberIff "parentSpanId" (∃ byte ∈ span.parent.bytes, byte ≠ 0) fun value =>
    value = .string span.parent.text
  status : node.MemberIff "status" (span.status ≠ .unset) span.status.ShownBy
  attributes : Attribute.ShownIn limit span.attributes node
  events : node.MemberIff "events" (span.events ≠ []) fun value =>
    List.Forall₂ (SpanEvent.ShownBy limit) span.events value.elements
  links : node.MemberIff "links" (span.links ≠ []) fun value =>
    List.Forall₂ (SpanLink.ShownBy limit) span.links value.elements

private theorem memberIff_items {α β : Type} {name : String} {node : Json} {items : List α} {view : α → β}
    {toJson : β → Json} {shown : α → Json → Prop} (each : ∀ item, shown item (toJson (view item)))
    (member : node.membersNamed name = (Json.nonempty? ((items.map view).map toJson)).toList) :
    node.MemberIff name (items ≠ []) fun value => List.Forall₂ shown items value.elements := by
  apply Json.MemberIff.of_nonempty? member
  · rw [ne_eq, ne_eq, List.map_eq_nil_iff, List.map_eq_nil_iff]
  · rw [Json.elements, List.map_map, List.forall₂_map_right_iff, List.forall₂_same]
    exact fun item _ => each item

theorem shownBy (limit : Option Nat) (span : Span) : span.ShownBy limit (span.toJson limit) := by
  have member := @SpanView.membersNamed_toJson (span.view limit)
  rw [← toJson_view]
  constructor
  case spanId => exact @member _ (some _) (by simp [SpanView.fields, view])
  case parent =>
    have field := @member "parentSpanId" ((span.view limit).parent.map fun id => .string id.text)
      (by simp [SpanView.fields])
    have kept : (span.view limit).parent = if span.parent = .invalid then none else some span.parent := rfl
    rw [kept] at field
    by_cases orphan : span.parent = .invalid
    · rw [if_pos orphan] at field
      exact .of_none field (span.parent.exists_byte_ne_zero.not.mpr (not_not_intro orphan))
    · rw [if_neg orphan] at field
      exact .of_some field (span.parent.exists_byte_ne_zero.mpr orphan) rfl
  case status =>
    have field := @member "status" span.status.toJson? (by simp [SpanView.fields, view])
    cases written : span.status.toJson? with
    | none =>
      rw [written] at field
      exact .of_none field (not_not_intro (SpanStatus.toJson?_eq_none.mp written))
    | some status =>
      rw [written] at field
      refine .of_some field ?_ (SpanStatus.shownBy written)
      intro unset
      rw [SpanStatus.toJson?_eq_none.mpr unset] at written
      contradiction
  case attributes => exact Attribute.shownIn_of_member (member (by simp [SpanView.fields, view]))
  case events =>
    have each : ∀ event : SpanEvent, event.ShownBy limit (event.view limit).toJson := by
      intro event
      rw [SpanEvent.toJson_view]
      exact event.shownBy limit
    exact memberIff_items each (member (by simp [SpanView.fields, view]))
  case links =>
    have each : ∀ link : SpanLink, link.ShownBy limit (link.view limit).toJson := by
      intro link
      rw [SpanLink.toJson_view]
      exact link.shownBy limit
    exact memberIff_items each (member (by simp [SpanView.fields, view]))

end Span

end Telemetry
