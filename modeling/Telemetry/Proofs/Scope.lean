import Telemetry.Proofs.Json.Fields
import Telemetry.Proofs.Json.Gap
import Telemetry.Scope
import Mathlib.Data.List.SplitBy

/-! Scopes as they are written, and groups of adjacent items of one scope. An absent and an empty version
are written alike. The groups are the maximal runs of a list under equal name and version, each with
the scope of its first item: all items of a group agree with its scope, and the scopes of neighbouring
groups differ. -/
namespace Telemetry

structure ScopeView where
  name : String
  version : Option String

namespace ScopeView

def fields (scope : ScopeView) : List (String × Option Json) :=
  [("name", some (.string scope.name)), ("version", scope.version.map .string)]

def toJson (scope : ScopeView) : Json :=
  .ofFields scope.fields

private theorem names_scope (scope : ScopeView) : scope.fields.map (·.1) = ["name", "version"] := rfl

theorem toJson_injective : Function.Injective toJson := by
  intro scope other same
  have values := Json.ofFields_injective names_scope (by simp) same
  simp only [fields, List.map_cons, List.map_nil, List.cons.injEq, Option.some.injEq, and_true] at values
  obtain ⟨names, versions⟩ := values
  have name := Json.string.inj names
  have version := Option.map_injective (fun _ _ => Json.string.inj) versions
  cases scope
  cases other
  simp only at name version
  rw [name, version]

theorem regular_toJson (scope : ScopeView) : scope.toJson.Every Json.Regular := by
  apply Json.regular_ofFields (by simp [names_scope])
  simp only [fields, List.forall_mem_cons]
  refine ⟨?name, ?version, ?rest⟩
  case name => exact fun _ => Json.regular_of_mem_some (Json.regular_string _)
  case version => exact fun _ => Json.regular_of_mem_map Json.regular_string
  case rest => exact List.forall_mem_nil _

end ScopeView

def Scope.view (scope : Scope) : ScopeView where
  name := scope.name
  version := scope.version.filter (· ≠ "")

theorem Scope.toJson_view (scope : Scope) : scope.view.toJson = scope.toJson := by
  rw [ScopeView.toJson, Json.ofFields_eq, ScopeView.fields, toJson, view]
  simp only [List.map_cons, List.map_nil, Option.map_some, Option.map_map]
  rfl

theorem Scope.gaps_toJson (scope : Scope) : scope.toJson.gaps = [] := by
  rw [toJson, Json.gaps_objectOf]
  cases scope.version.filter (· ≠ "") <;> rfl

theorem Scope.identity_eq_iff {scope other : Scope} :
    scope.identity = other.identity ↔ scope.name = other.name ∧ scope.version = other.version := by
  rw [identity, identity, Prod.mk.injEq]

def Scope.bare (scope : Scope) : Scope :=
  ⟨scope.name, scope.version, none, []⟩

namespace ScopeGroup

variable {α : Type} (scopeOf : α → Scope)

def sameIdentity (first second : α) : Bool :=
  (scopeOf first).identity = (scopeOf second).identity

structure Formed (group : ScopeGroup α) : Prop where
  first : group.items.head?.map scopeOf = some group.scope
  agree : ∀ item ∈ group.items, (scopeOf item).identity = group.scope.identity

theorem Formed.single (item : α) : Formed scopeOf ⟨scopeOf item, [item]⟩ := by
  refine ⟨rfl, ?_⟩
  intro other member
  rw [List.mem_singleton.mp member]

structure Separated (groups : List (ScopeGroup α)) : Prop where
  formed : ∀ group ∈ groups, Formed scopeOf group
  apart : groups.IsChain fun group next => group.scope.identity ≠ next.scope.identity

theorem separated_runs (items : List α) : Separated scopeOf (runs scopeOf items) := by
  induction items with
  | nil => exact ⟨List.forall_mem_nil _, List.isChain_nil⟩
  | cons item items ih =>
    obtain ⟨formed, apart⟩ := ih
    unfold runs
    cases groups : runs scopeOf items with
    | nil =>
      refine ⟨?_, List.isChain_singleton _⟩
      intro group member
      rw [List.mem_singleton.mp member]
      exact Formed.single scopeOf item
    | cons group rest =>
      rw [groups] at formed apart
      obtain ⟨here, below⟩ := List.forall_mem_cons.mp formed
      simp only
      split
      · rename_i same
        refine ⟨List.forall_mem_cons.mpr ⟨⟨rfl, ?_⟩, below⟩, ?_⟩
        · intro other member
          rcases List.mem_cons.mp member with rfl | inside
          · rfl
          · exact (here.agree other inside).trans same.symm
        · rw [List.isChain_cons] at apart ⊢
          exact ⟨fun next member => same ▸ apart.1 next member, apart.2⟩
      · rename_i different
        exact ⟨List.forall_mem_cons.mpr ⟨Formed.single scopeOf item, formed⟩,
          List.isChain_cons_cons.mpr ⟨different, apart⟩⟩

theorem Formed.ne_nil {group : ScopeGroup α} (formed : Formed scopeOf group) : group.items ≠ [] := by
  intro empty
  have first := formed.first
  rw [empty] at first
  contradiction

theorem sameIdentity_eq : sameIdentity scopeOf = fun first second =>
    decide ((scopeOf first).name = (scopeOf second).name ∧ (scopeOf first).version = (scopeOf second).version) := by
  funext first second
  exact decide_eq_decide.mpr (Prod.mk.injEq ..).to_iff

/-- The items of the groups are the maximal runs of one identity. -/
theorem items_runs (items : List α) :
    (runs scopeOf items).map (·.items) = items.splitBy (sameIdentity scopeOf) := by
  obtain ⟨formed, apart⟩ := separated_runs scopeOf items
  symm
  rw [List.splitBy_eq_iff]
  refine ⟨?_, ?_, ?_, ?_⟩
  · rw [← List.flatMap_def, flatMap_items_runs]
  · intro member
    obtain ⟨group, among, empty⟩ := List.mem_map.mp member
    exact Formed.ne_nil scopeOf (formed group among) empty
  · intro run member
    obtain ⟨group, among, rfl⟩ := List.mem_map.mp member
    have agree := (formed group among).agree
    apply List.Pairwise.isChain
    apply List.pairwise_of_forall_mem_list
    intro a inside b within
    exact decide_eq_true ((agree a inside).trans (agree b within).symm)
  · rw [List.isChain_map]
    refine apart.imp_of_mem_imp ?_
    intro group next among also different
    refine ⟨Formed.ne_nil scopeOf (formed group among), Formed.ne_nil scopeOf (formed next also), ?_⟩
    apply decide_eq_false
    intro same
    rw [(formed group among).agree _ (List.getLast_mem _), (formed next also).agree _ (List.head_mem _)] at same
    exact different same

/-- Every group has the scope of the first item of its run. -/
theorem runs_eq (items : List α) :
    runs scopeOf items = (items.splitBy (sameIdentity scopeOf)).filterMap fun run =>
      run.head?.map fun first => ⟨scopeOf first, run⟩ := by
  obtain ⟨formed, _⟩ := separated_runs scopeOf items
  rw [← items_runs, List.filterMap_map]
  symm
  calc (runs scopeOf items).filterMap _
      = (runs scopeOf items).filterMap some := by
        apply List.filterMap_congr
        intro group among
        have first := (formed group among).first
        obtain ⟨item, head, same⟩ := Option.map_eq_some_iff.mp first
        simp only [Function.comp, head, Option.map_some, same]
    _ = runs scopeOf items := List.filterMap_some

/-- A change that leaves the scopes of items alone leaves the groups as they are. -/
theorem runs_map {change : α → α} (keeps : ∀ item, scopeOf (change item) = scopeOf item) (items : List α) :
    runs scopeOf (items.map change) =
      (runs scopeOf items).map fun group => ⟨group.scope, group.items.map change⟩ := by
  induction items with
  | nil => rfl
  | cons item items ih =>
    rw [List.map_cons, runs, ih, runs, keeps]
    cases runs scopeOf items with
    | nil => rfl
    | cons group groups =>
      simp only [List.map_cons]
      split <;> rfl

section Seam

def prepend (item : α) : List (ScopeGroup α) → List (ScopeGroup α)
  | [] => [⟨scopeOf item, [item]⟩]
  | group :: groups =>
    if (scopeOf item).identity = group.scope.identity then ⟨scopeOf item, item :: group.items⟩ :: groups
    else ⟨scopeOf item, [item]⟩ :: group :: groups

theorem runs_cons (item : α) (items : List α) :
    runs scopeOf (item :: items) = prepend scopeOf item (runs scopeOf items) := by
  rw [runs]
  cases runs scopeOf items <;> rfl

/-- Only the first group can change when an item comes in front. -/
theorem prepend_cons (item : α) (group : ScopeGroup α) (groups : List (ScopeGroup α)) :
    prepend scopeOf item (group :: groups) = prepend scopeOf item [group] ++ groups := by
  simp only [prepend]
  split <;> rfl

theorem exists_runs_cons (item : α) (items : List α) :
    ∃ same groups, runs scopeOf (item :: items) = ⟨scopeOf item, same⟩ :: groups := by
  rw [runs_cons]
  cases runs scopeOf items with
  | nil => exact ⟨_, _, rfl⟩
  | cons group groups =>
    rw [prepend]
    split <;> exact ⟨_, _, rfl⟩

/-- Items that agree with the first of them make one group. -/
theorem runs_of_agree {first : α} {items : List α}
    (agree : ∀ item ∈ items, (scopeOf item).identity = (scopeOf first).identity) :
    runs scopeOf (first :: items) = [⟨scopeOf first, first :: items⟩] := by
  induction items generalizing first with
  | nil => rfl
  | cons next items ih =>
    obtain ⟨here, later⟩ := List.forall_mem_cons.mp agree
    rw [runs_cons, ih fun item member => (later item member).trans here.symm, prepend, if_pos here.symm]

theorem mem_of_mem_runs {items : List α} {group : ScopeGroup α} (among : group ∈ runs scopeOf items) {item : α}
    (inside : item ∈ group.items) : item ∈ items := by
  rw [← flatMap_items_runs scopeOf items]
  exact List.mem_flatMap.mpr ⟨group, among, inside⟩

variable {items others : List α} {last next : α} (ends : items.getLast? = some last)
  (begins : others.head? = some next)

include ends begins

/-- Where the scopes differ at the seam of two lists, all groups stay as they are. -/
theorem runs_append_of_ne (apart : (scopeOf last).identity ≠ (scopeOf next).identity) :
    runs scopeOf (items ++ others) = runs scopeOf items ++ runs scopeOf others := by
  obtain ⟨others, rfl⟩ := List.head?_eq_some_iff.mp begins
  obtain ⟨first, after, following⟩ := exists_runs_cons scopeOf next others
  induction items with
  | nil => contradiction
  | cons item items ih =>
    cases items with
    | nil =>
      obtain rfl : item = last := Option.some.inj ends
      rw [List.singleton_append, runs_cons, following, prepend, if_neg apart]
      rfl
    | cons second items =>
      obtain ⟨same, groups, shape⟩ := exists_runs_cons scopeOf second items
      rw [List.getLast?_cons_cons] at ends
      rw [List.cons_append, runs_cons, ih ends, runs_cons scopeOf item, shape, List.cons_append, prepend_cons,
        prepend_cons scopeOf item _ groups, List.append_assoc]

/-- Where the scopes agree at the seam of two lists, the groups that meet there become one. -/
theorem runs_append_of_eq (same : (scopeOf last).identity = (scopeOf next).identity) :
    ∃ before group other after, runs scopeOf items = before ++ [group] ∧ runs scopeOf others = other :: after ∧
      group.scope.identity = other.scope.identity ∧
      runs scopeOf (items ++ others) = before ++ ⟨group.scope, group.items ++ other.items⟩ :: after := by
  obtain ⟨others, rfl⟩ := List.head?_eq_some_iff.mp begins
  obtain ⟨first, after, following⟩ := exists_runs_cons scopeOf next others
  induction items with
  | nil => contradiction
  | cons item items ih =>
    cases items with
    | nil =>
      obtain rfl : item = last := Option.some.inj ends
      refine ⟨[], ⟨scopeOf item, [item]⟩, _, after, rfl, following, same, ?_⟩
      rw [List.singleton_append, runs_cons, following, prepend, if_pos same]
      rfl
    | cons second items =>
      rw [List.getLast?_cons_cons] at ends
      obtain ⟨before, group, other, rest, left, right, agree, joined⟩ := ih ends
      rw [runs_cons scopeOf item, left, List.cons_append, runs_cons scopeOf item, joined]
      cases before with
      | cons start before =>
        refine ⟨prepend scopeOf item [start] ++ before, group, other, rest, ?_, right, agree, ?_⟩
        · rw [List.cons_append, prepend_cons, List.append_assoc]
        · rw [List.cons_append, prepend_cons, List.append_assoc]
      | nil =>
        by_cases joins : (scopeOf item).identity = group.scope.identity
        · refine ⟨[], ⟨scopeOf item, item :: group.items⟩, other, rest, ?_, right, joins.trans agree, ?_⟩
          · simp only [List.nil_append, prepend, if_pos joins]
          · simp only [List.nil_append, prepend, if_pos joins, List.cons_append]
        · refine ⟨[⟨scopeOf item, [item]⟩], group, other, rest, ?_, right, agree, ?_⟩
          · simp only [List.nil_append, prepend, if_neg joins, List.singleton_append]
          · simp only [List.nil_append, prepend, if_neg joins, List.singleton_append]

end Seam

section Groups

variable {groupJson : ScopeGroup α → Json}

theorem gaps_groups {reasons : α → List String}
    (gaps : ∀ group, (groupJson group).gaps = group.items.flatMap reasons) (items : List α) :
    (Json.array ((runs scopeOf items).map groupJson)).gaps = items.flatMap reasons := by
  rw [Json.gaps_array_map gaps, ← List.flatMap_assoc, flatMap_items_runs]

theorem fill_groups (patch : String → Json) {change : α → α}
    (keeps : ∀ item, scopeOf (change item) = scopeOf item)
    (fills : ∀ group, (groupJson group).fill patch = groupJson ⟨group.scope, group.items.map change⟩)
    (items : List α) :
    (Json.array ((runs scopeOf items).map groupJson)).fill patch =
      .array ((runs scopeOf (items.map change)).map groupJson) := by
  rw [runs_map scopeOf keeps]
  exact Json.fill_array_map patch fills (runs scopeOf items)

end Groups

/-- Runs are found by the relation alone, whatever becomes of the items. -/
theorem splitBy_map {β : Type} (f : α → β) (related : β → β → Bool) (items : List α) :
    (items.map f).splitBy related =
      (items.splitBy fun a b => related (f a) (f b)).map (List.map f) := by
  rw [List.splitBy_eq_iff]
  refine ⟨?_, ?_, ?_, ?_⟩
  · rw [← List.map_flatten, List.flatten_splitBy]
  · intro member
    obtain ⟨run, among, empty⟩ := List.mem_map.mp member
    exact List.ne_nil_of_mem_splitBy among (List.map_eq_nil_iff.mp empty)
  · intro run member
    obtain ⟨source, among, rfl⟩ := List.mem_map.mp member
    exact (List.isChain_map f).mpr (List.isChain_of_mem_splitBy among)
  · rw [List.isChain_map]
    refine (List.isChain_getLast_head_splitBy _ items).imp ?_
    rintro run next ⟨here, there, apart⟩
    refine ⟨mt List.map_eq_nil_iff.mp here, mt List.map_eq_nil_iff.mp there, ?_⟩
    rw [List.getLast_map, List.head_map]
    exact apart

section Views

variable {γ : Type} {view? : List α → Option γ}

/-- Views of the runs are written as the groups are, when this holds of each run under the scope of its
first item. -/
theorem map_views {toJson : γ → Json} {groupJson : ScopeGroup α → Json}
    (same : ∀ run, (view? run).map toJson = run.head?.map fun first => groupJson ⟨scopeOf first, run⟩)
    (items : List α) :
    ((items.splitBy fun first second => (scopeOf first).name = (scopeOf second).name ∧
        (scopeOf first).version = (scopeOf second).version).filterMap view?).map toJson =
      (runs scopeOf items).map groupJson := by
  rw [← sameIdentity_eq, runs_eq, List.map_filterMap, List.map_filterMap]
  apply List.filterMap_congr
  intro run _
  rw [same, Option.map_map]
  rfl

/-- What a view does not show can be changed in every item, if the change keeps runs together. -/
theorem filterMap_views {change : α → α} (hidden : ∀ run, view? (run.map change) = view? run)
    (related : α → α → Bool) (items : List α) :
    ((items.map change).splitBy related).filterMap view? =
      (items.splitBy fun a b => related (change a) (change b)).filterMap view? := by
  rw [splitBy_map, List.filterMap_map]
  exact List.filterMap_congr fun run _ => hidden run

end Views

end ScopeGroup

end Telemetry
