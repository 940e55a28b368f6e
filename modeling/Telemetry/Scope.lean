import Telemetry.Json
import Telemetry.Value.Standard

/-! Instrumentation scopes and the grouping of adjacent items that share one. Grouping looks at the
name and the version of a scope and never reorders: equal scopes that are not adjacent head groups
of their own. Equality of scopes also looks at the schema and at the attributes, in any order. -/
namespace Telemetry

structure Scope where
  name : String
  version : Option String
  schemaUrl : Option String
  attributes : StandardAttributes

namespace Scope

instance : BEq Scope where
  beq a b := a.name == b.name && a.version == b.version && a.schemaUrl == b.schemaUrl &&
    a.attributes.byKey == b.attributes.byKey

def identity (scope : Scope) : String × Option String :=
  (scope.name, scope.version)

def toJson (scope : Scope) : Json :=
  Json.objectOf [some ("name", .string scope.name),
    (scope.version.filter (· ≠ "")).map fun version => ("version", .string version)]

end Scope

structure ScopeGroup (α : Type) where
  scope : Scope
  items : List α

namespace ScopeGroup

def runs {α : Type} (scopeOf : α → Scope) : List α → List (ScopeGroup α)
  | [] => []
  | item :: items =>
    match runs scopeOf items with
    | [] => [⟨scopeOf item, [item]⟩]
    | group :: groups =>
      if (scopeOf item).identity = group.scope.identity then
        ⟨scopeOf item, item :: group.items⟩ :: groups
      else ⟨scopeOf item, [item]⟩ :: group :: groups

theorem flatMap_items_runs {α : Type} (scopeOf : α → Scope) (items : List α) :
    (runs scopeOf items).flatMap (·.items) = items := by
  induction items with
  | nil => rfl
  | cons item items ih =>
    unfold runs
    split
    · simp_all
    · split <;> simp_all

end ScopeGroup

end Telemetry
