import Telemetry.Scope

/-! A cursor over the groups of a list. It meets the items one by one and keeps its position and, while a
group is open, the scope and the start of that group. The group comes out when an item of another scope or
the end is met. -/
namespace Telemetry

structure GroupCursor (α : Type) where
  items : List α
  position : Nat
  opened : Option (Scope × Nat)

namespace GroupCursor

variable {α : Type} (scopeOf : α → Scope)

def start (items : List α) : GroupCursor α :=
  ⟨items, 0, none⟩

/-- Goes on to the end of the open group, with the first item of the next group as the last one met. -/
def next (cursor : GroupCursor α) : Option (ScopeGroup α) × GroupCursor α :=
  if inside : cursor.position < cursor.items.length then
    match cursor.opened with
    | none => next ⟨cursor.items, cursor.position + 1, some (scopeOf cursor.items[cursor.position], cursor.position)⟩
    | some (scope, start) =>
      if scope.identity = (scopeOf cursor.items[cursor.position]).identity then
        next ⟨cursor.items, cursor.position + 1, some (scope, start)⟩
      else (some ⟨scope, (cursor.items.drop start).take (cursor.position - start)⟩,
        ⟨cursor.items, cursor.position + 1, some (scopeOf cursor.items[cursor.position], cursor.position)⟩)
  else (cursor.opened.map fun (scope, start) => ⟨scope, cursor.items.drop start⟩,
    ⟨cursor.items, cursor.position, none⟩)
termination_by cursor.items.length - cursor.position

def calls : Nat → GroupCursor α → List (Option (ScopeGroup α))
  | 0, _ => []
  | count + 1, cursor => (cursor.next scopeOf).1 :: calls count (cursor.next scopeOf).2

end GroupCursor

end Telemetry
