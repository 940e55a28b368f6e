import Telemetry.Proofs.Json.RoundTrip
import Telemetry.Proofs.Scope.Cursor

/-! Grouping by scope as a whole. The cursor hands out the maximal runs of a list and then nothing, and the
runs hold the items as they stand in the list. Where the items of each scope stand together, every scope
heads one group. Neighbouring groups have scopes that differ, and what is written for the two scopes
differs as well, unless one of them has no version and the other an empty one. -/
namespace Telemetry

namespace Scope

theorem printable_toJson (scope : Scope) : scope.toJson.Printable := by
  have regular : scope.toJson.Every Json.Regular := scope.toJson_view ▸ scope.view.regular_toJson
  exact (Json.gaps_eq_nil.mp scope.gaps_toJson).and regular

/-- What is written for a scope tells its view, and nothing else of it. -/
theorem render_eq_iff (scope other : Scope) :
    scope.toJson.render = other.toJson.render ↔ scope.view = other.view := by
  constructor
  · intro same
    have trees := Json.render_injective scope.printable_toJson other.printable_toJson same
    rw [← toJson_view, ← toJson_view] at trees
    exact ScopeView.toJson_injective trees
  · intro same
    rw [← toJson_view, ← toJson_view, same]

theorem filter_version {version : String} (filled : version ≠ "") :
    (some version).filter (· ≠ "") = some version := by
  simp [filled]

theorem filter_version_eq_iff {version other : Option String} (apart : version ≠ other) :
    version.filter (· ≠ "") = other.filter (· ≠ "") ↔
      version = none ∧ other = some "" ∨ version = some "" ∧ other = none := by
  constructor
  · intro same
    cases version with
    | none =>
      cases other with
      | none => exact absurd rfl apart
      | some second =>
        by_cases empty : second = ""
        · exact .inl ⟨rfl, congrArg some empty⟩
        · exact nomatch same.trans (filter_version empty)
    | some first =>
      by_cases blank : first = ""
      · cases other with
        | none => exact .inr ⟨congrArg some blank, rfl⟩
        | some second =>
          have filled : second ≠ "" := fun empty => apart (congrArg some (blank.trans empty.symm))
          rw [filter_version filled, blank] at same
          exact nomatch same
      · rw [filter_version blank] at same
        exact absurd (Option.filter_eq_some_iff.mp same.symm).1.symm apart
  · rintro (⟨rfl, rfl⟩ | ⟨rfl, rfl⟩) <;> rfl

theorem render_eq_iff_of_apart {scope other : Scope} (apart : scope.identity ≠ other.identity) :
    scope.toJson.render = other.toJson.render ↔ scope.name = other.name ∧
      (scope.version = none ∧ other.version = some "" ∨ scope.version = some "" ∧ other.version = none) := by
  have views : scope.view = other.view ↔ scope.name = other.name ∧
      scope.version.filter (· ≠ "") = other.version.filter (· ≠ "") := by
    rw [view, view, ScopeView.mk.injEq]
  rw [render_eq_iff, views]
  refine and_congr_right ?_
  intro name
  exact filter_version_eq_iff fun version => apart (Prod.ext name version)

end Scope

namespace ScopeGroup

variable {α : Type} (scopeOf : α → Scope)

def Contiguous (items : List α) : Prop :=
  ∀ first between last, [first, between, last].Sublist items →
    (scopeOf first).identity = (scopeOf last).identity → (scopeOf between).identity = (scopeOf first).identity

variable {scopeOf}

theorem Separated.tail {group : ScopeGroup α} {groups : List (ScopeGroup α)}
    (separated : Separated scopeOf (group :: groups)) : Separated scopeOf groups :=
  ⟨(List.forall_mem_cons.mp separated.formed).2, (List.isChain_cons.mp separated.apart).2⟩

theorem Formed.exists_item {group : ScopeGroup α} (formed : Formed scopeOf group) :
    ∃ item ∈ group.items, (scopeOf item).identity = group.scope.identity := by
  obtain ⟨item, member⟩ := List.exists_mem_of_ne_nil group.items formed.ne_nil
  exact ⟨item, member, formed.agree item member⟩

/-- Where items of one scope stand together, no later group has the scope of the first one: the items of the
group after it would stand between. -/
theorem Separated.head_not_mem {group : ScopeGroup α} {groups : List (ScopeGroup α)}
    (separated : Separated scopeOf (group :: groups))
    (contiguous : Contiguous scopeOf ((group :: groups).flatMap (·.items))) :
    group.scope.identity ∉ groups.map (·.scope.identity) := by
  intro member
  obtain ⟨later, among, same⟩ := List.mem_map.mp member
  obtain ⟨here, below⟩ := List.forall_mem_cons.mp separated.formed
  cases groups with
  | nil => exact absurd among List.not_mem_nil
  | cons next groups =>
    have apart := (List.isChain_cons_cons.mp separated.apart).1
    rcases List.mem_cons.mp among with rfl | beyond
    · exact apart same.symm
    · obtain ⟨first, inFirst, firstScope⟩ := here.exists_item
      obtain ⟨between, inNext, nextScope⟩ := (below next List.mem_cons_self).exists_item
      obtain ⟨last, inLater, lastScope⟩ := (below later among).exists_item
      have inRest : last ∈ groups.flatMap (·.items) := List.mem_flatMap.mpr ⟨later, beyond, inLater⟩
      have order : [first, between, last].Sublist ((group :: next :: groups).flatMap (·.items)) :=
        (List.singleton_sublist.mpr inFirst).append
          ((List.singleton_sublist.mpr inNext).append (List.singleton_sublist.mpr inRest))
      have ends : (scopeOf first).identity = (scopeOf last).identity :=
        firstScope.trans (same.symm.trans lastScope.symm)
      have inside := contiguous first between last order ends
      exact apart (firstScope.symm.trans (inside.symm.trans nextScope))

theorem Separated.nodup {groups : List (ScopeGroup α)} (separated : Separated scopeOf groups)
    (contiguous : Contiguous scopeOf (groups.flatMap (·.items))) :
    (groups.map (·.scope.identity)).Nodup := by
  induction groups with
  | nil => exact List.nodup_nil
  | cons group groups ih =>
    refine List.nodup_cons.mpr ⟨separated.head_not_mem contiguous, ih separated.tail ?_⟩
    intro first between last order
    exact contiguous first between last (order.trans (List.sublist_append_right group.items _))

/-- Where items of one scope stand together, each scope heads exactly one group. -/
theorem countP_runs {items : List α} (contiguous : Contiguous scopeOf items) {item : α} (member : item ∈ items) :
    (runs scopeOf items).countP (fun group => group.scope.identity = (scopeOf item).identity) = 1 := by
  have separated := separated_runs scopeOf items
  rw [← flatMap_items_runs scopeOf items] at contiguous member
  obtain ⟨group, among, inside⟩ := List.mem_flatMap.mp member
  have heads : (scopeOf item).identity ∈ (runs scopeOf items).map (·.scope.identity) :=
    List.mem_map.mpr ⟨group, among, ((separated.formed group among).agree item inside).symm⟩
  have once := List.count_eq_one_of_mem (separated.nodup contiguous) heads
  rw [List.count_eq_countP, List.countP_map] at once
  rw [← once]
  exact List.countP_congr fun group _ => by simp

/-- Once the cursor has handed out every group it has nothing more to give. -/
theorem calls_beyond (items : List α) (further : Nat) :
    (GroupCursor.start items).calls scopeOf ((runs scopeOf items).length + further) =
      (runs scopeOf items).map some ++ List.replicate further none := by
  rw [GroupCursor.calls_start]
  induction runs scopeOf items with
  | nil => rw [List.length_nil, Nat.zero_add, List.map_nil, List.takeD_nil, List.nil_append]
  | cons group groups ih =>
    rw [List.length_cons, Nat.add_right_comm, List.map_cons, List.takeD_succ, List.tail_cons, ih]
    rfl

theorem Separated.identities {groups : List (ScopeGroup α)} (separated : Separated scopeOf groups) :
    groups.IsChain fun group next =>
      (group.scope.name ≠ next.scope.name ∨ group.scope.version ≠ next.scope.version) ∧
        (group.scope.toJson.render = next.scope.toJson.render ↔ group.scope.name = next.scope.name ∧
          (group.scope.version = none ∧ next.scope.version = some "" ∨
            group.scope.version = some "" ∧ next.scope.version = none)) := by
  refine separated.apart.imp ?_
  intro group next apart
  refine ⟨?_, Scope.render_eq_iff_of_apart apart⟩
  rwa [ne_eq, Scope.identity_eq_iff, not_and_or] at apart

variable (scopeOf)

/-- Calls hand out the groups and then nothing. The groups hold the items as they stand in the list, each group
items of one name and version, and neighbours differ in one of these. Where items of one scope stand
together, each scope heads exactly one group. -/
theorem groups_are_maximal_runs (items : List α) :
    (∀ further, (GroupCursor.start items).calls scopeOf ((runs scopeOf items).length + further) =
        (runs scopeOf items).map some ++ List.replicate further none) ∧
      (runs scopeOf items).flatMap (·.items) = items ∧
      (∀ group ∈ runs scopeOf items, group.items ≠ [] ∧ group.items.head?.map scopeOf = some group.scope ∧
        ∀ item ∈ group.items,
          (scopeOf item).name = group.scope.name ∧ (scopeOf item).version = group.scope.version) ∧
      ((runs scopeOf items).IsChain fun group next =>
        (group.scope.name ≠ next.scope.name ∨ group.scope.version ≠ next.scope.version) ∧
          (group.scope.toJson.render = next.scope.toJson.render ↔ group.scope.name = next.scope.name ∧
            (group.scope.version = none ∧ next.scope.version = some "" ∨
              group.scope.version = some "" ∧ next.scope.version = none))) ∧
      (Contiguous scopeOf items → ∀ item ∈ items, (runs scopeOf items).countP (fun group =>
        group.scope.name = (scopeOf item).name ∧ group.scope.version = (scopeOf item).version) = 1) := by
  have separated := separated_runs scopeOf items
  refine ⟨calls_beyond items, flatMap_items_runs scopeOf items, ?groups, separated.identities, ?once⟩
  case groups =>
    intro group among
    have formed := separated.formed group among
    refine ⟨formed.ne_nil, formed.first, ?_⟩
    intro item inside
    exact Scope.identity_eq_iff.mp (formed.agree item inside)
  case once =>
    intro contiguous item member
    rw [← countP_runs contiguous member]
    exact List.countP_congr fun group _ => by simp [Scope.identity_eq_iff]

def versionless : Scope :=
  ⟨"http", none, none, []⟩

def schematic : Scope :=
  ⟨"http", none, some "schema", []⟩

def emptyVersion : Scope :=
  ⟨"http", some "", none, []⟩

/-- Schemas keep no items apart, and an empty version does, though it is written as none. -/
theorem groups_are_maximal_runs_versions :
    Contiguous id [versionless, schematic, emptyVersion] ∧
      runs id [versionless, schematic, emptyVersion] =
        [⟨versionless, [versionless, schematic]⟩, ⟨emptyVersion, [emptyVersion]⟩] ∧
      (runs id [versionless, schematic, emptyVersion]).countP (fun group =>
        group.scope.name = schematic.name ∧ group.scope.version = schematic.version) = 1 ∧
      versionless.toJson.render = emptyVersion.toJson.render := by
  have contiguous : Contiguous id [versionless, schematic, emptyVersion] := by
    intro first between last order ends
    obtain ⟨rfl, rfl, rfl⟩ : first = versionless ∧ between = schematic ∧ last = emptyVersion := by
      simpa using order.eq_of_length rfl
    exact absurd ends (by decide)
  have groups : runs id [versionless, schematic, emptyVersion] =
      [⟨versionless, [versionless, schematic]⟩, ⟨emptyVersion, [emptyVersion]⟩] := rfl
  obtain ⟨_, _, _, apart, once⟩ := groups_are_maximal_runs id [versionless, schematic, emptyVersion]
  rw [groups, List.isChain_pair] at apart
  exact ⟨contiguous, groups, once contiguous schematic (.tail _ (.head _)), apart.2.mpr (by decide)⟩

end ScopeGroup

end Telemetry
