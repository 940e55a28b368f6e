import Telemetry.Proofs.Scope
import Telemetry.Scope.Cursor

/-! What a cursor over the groups of a list hands out. Between two calls it holds the items of the open group
and has the rest still to meet, so what comes out call by call are the runs of the list, and nothing after
them. -/
namespace Telemetry

namespace GroupCursor

variable {α : Type} (scopeOf : α → Scope)

/-- A cursor that has handed out the groups of some items, holds the items of the open group, and has the rest
still to meet. -/
structure Between (cursor : GroupCursor α) (before same rest : List α) : Prop where
  items : cursor.items = before ++ (same ++ rest)
  position : cursor.position = before.length + same.length
  opened : cursor.opened = same.head?.map fun first => (scopeOf first, before.length)
  agree : ∀ first ∈ same.head?, ∀ item ∈ same, (scopeOf item).identity = (scopeOf first).identity

theorem Between.single {items before rest : List α} {item : α} (whole : items = before ++ item :: rest) :
    Between scopeOf ⟨items, before.length + 1, some (scopeOf item, before.length)⟩ before [item] rest := by
  refine ⟨whole, rfl, rfl, ?_⟩
  rintro first ⟨⟩ other member
  rw [List.mem_singleton.mp member]

namespace Between

variable {scopeOf} {cursor : GroupCursor α} {before same rest : List α}

theorem next_end (here : cursor.Between scopeOf before same []) :
    cursor.next scopeOf = (same.head?.map fun first => ⟨scopeOf first, same⟩, ⟨cursor.items, cursor.position, none⟩) ∧
      Between scopeOf ⟨cursor.items, cursor.position, none⟩ (before ++ same) [] [] := by
  obtain ⟨items, position, opened, _⟩ := here
  rw [List.append_nil] at items
  have outside : ¬ cursor.position < cursor.items.length := by
    rw [items, position, List.length_append]
    exact Nat.lt_irrefl _
  refine ⟨?_, ?_, ?_, rfl, ?_⟩
  · rw [next, dif_neg outside, opened, items, Option.map_map]
    simp only [Function.comp_def, List.drop_left]
  · simp only [items, List.append_nil]
  · simp only [position, List.length_append, List.length_nil, Nat.add_zero]
  · rintro first ⟨⟩

variable {item : α}

theorem inside (here : cursor.Between scopeOf before same (item :: rest)) :
    ∃ inside : cursor.position < cursor.items.length, cursor.items[cursor.position] = item := by
  obtain ⟨items, position, _, _⟩ := here
  have found : cursor.items[cursor.position]? = some item := by
    rw [items, position, ← List.append_assoc, ← List.length_append, List.getElem?_append_right (Nat.le_refl _),
      Nat.sub_self, List.getElem?_cons_zero]
  exact List.getElem?_eq_some_iff.mp found

theorem next_first (here : cursor.Between scopeOf before [] (item :: rest)) : ∃ after : GroupCursor α,
    cursor.next scopeOf = after.next scopeOf ∧ after.Between scopeOf before [item] rest := by
  obtain ⟨inside, rfl⟩ := here.inside
  obtain ⟨items, position, opened, _⟩ := here
  have passed : cursor.position = before.length := position
  refine ⟨⟨cursor.items, before.length + 1, some (scopeOf cursor.items[cursor.position], before.length)⟩, ?_,
    .single scopeOf items⟩
  rw [next, dif_pos inside, opened, ← passed]
  rfl

variable {first : α} {more : List α}

theorem next_same (here : cursor.Between scopeOf before (first :: more) (item :: rest))
    (joins : (scopeOf first).identity = (scopeOf item).identity) : ∃ after : GroupCursor α,
    cursor.next scopeOf = after.next scopeOf ∧ after.Between scopeOf before (first :: (more ++ [item])) rest := by
  obtain ⟨inside, rfl⟩ := here.inside
  obtain ⟨items, position, opened, agree⟩ := here
  refine ⟨⟨cursor.items, cursor.position + 1, some (scopeOf first, before.length)⟩, ?_, ?_, ?_, rfl, ?_⟩
  · rw [next, dif_pos inside, opened, List.head?_cons, Option.map_some]
    exact if_pos joins
  · simpa only [List.cons_append, List.append_assoc, List.nil_append] using items
  · simp only [position, List.length_cons, List.length_append, List.length_nil]
    omega
  · rintro _ ⟨⟩ other member
    rw [← List.cons_append] at member
    rcases List.mem_append.mp member with among | last
    · exact agree first rfl other among
    · rw [List.mem_singleton.mp last, joins]

theorem next_other (here : cursor.Between scopeOf before (first :: more) (item :: rest))
    (apart : (scopeOf first).identity ≠ (scopeOf item).identity) : ∃ after : GroupCursor α,
    cursor.next scopeOf = (some ⟨scopeOf first, first :: more⟩, after) ∧
      after.Between scopeOf (before ++ first :: more) [item] rest := by
  obtain ⟨inside, same⟩ := here.inside
  obtain ⟨items, position, opened, _⟩ := here
  have passed : cursor.position = (before ++ first :: more).length := by rw [position, List.length_append]
  have group : (cursor.items.drop before.length).take (cursor.position - before.length) = first :: more := by
    rw [items, position, List.drop_left, Nat.add_sub_cancel_left, List.take_left]
  refine ⟨⟨cursor.items, (before ++ first :: more).length + 1, some (scopeOf item, (before ++ first :: more).length)⟩,
    ?_, .single scopeOf (items.trans (List.append_assoc ..).symm)⟩
  rw [next, dif_pos inside, opened, List.head?_cons, Option.map_some, ← passed, same]
  simp only [if_neg apart, group]

theorem runs_held (here : cursor.Between scopeOf before (first :: more) rest) :
    ScopeGroup.runs scopeOf (first :: more) = [⟨scopeOf first, first :: more⟩] :=
  ScopeGroup.runs_of_agree scopeOf fun item member => here.agree first rfl item (List.mem_cons_of_mem first member)

/-- One call hands out the first of the groups that are left. -/
theorem next_runs (here : cursor.Between scopeOf before same rest) :
    (cursor.next scopeOf).1 = (ScopeGroup.runs scopeOf (same ++ rest)).head? ∧
      ∃ passed held others, (cursor.next scopeOf).2.Between scopeOf passed held others ∧
        ScopeGroup.runs scopeOf (held ++ others) = (ScopeGroup.runs scopeOf (same ++ rest)).tail := by
  -- Until a group comes out, items only move from the rest into the open group.
  induction rest generalizing cursor same with
  | nil =>
    obtain ⟨answer, after⟩ := here.next_end
    rw [answer, List.append_nil]
    cases same with
    | nil => exact ⟨rfl, _, [], [], after, rfl⟩
    | cons first more =>
      rw [here.runs_held]
      exact ⟨rfl, _, [], [], after, rfl⟩
  | cons item rest ih =>
    cases same with
    | nil =>
      obtain ⟨after, same, there⟩ := here.next_first
      rw [same]
      exact ih there
    | cons first more =>
      by_cases joins : (scopeOf first).identity = (scopeOf item).identity
      · obtain ⟨after, same, there⟩ := here.next_same joins
        have left : first :: more ++ item :: rest = first :: (more ++ [item]) ++ rest := by simp
        rw [same, left]
        exact ih there
      · obtain ⟨after, answer, there⟩ := here.next_other joins
        have ends := List.getLast?_eq_some_getLast (List.cons_ne_nil first more)
        have agree := here.agree first rfl _ (List.getLast_mem (List.cons_ne_nil first more))
        have begins : (item :: rest).head? = some item := rfl
        rw [answer, ScopeGroup.runs_append_of_ne scopeOf ends begins (agree ▸ joins), here.runs_held]
        exact ⟨rfl, _, _, _, there, rfl⟩

theorem calls_eq (here : cursor.Between scopeOf before same rest) (count : Nat) :
    cursor.calls scopeOf count = ((ScopeGroup.runs scopeOf (same ++ rest)).map some).takeD count none := by
  induction count generalizing cursor before same rest with
  | zero => rfl
  | succ count ih =>
    obtain ⟨answer, _, _, _, there, left⟩ := here.next_runs
    rw [calls, answer, ih there, left]
    cases ScopeGroup.runs scopeOf (same ++ rest) <;> rfl

end Between

/-- The cursor hands out the runs of its items, one for each call, and nothing more after them. -/
theorem calls_start (items : List α) (count : Nat) :
    (start items).calls scopeOf count = ((ScopeGroup.runs scopeOf items).map some).takeD count none := by
  have here : (start items).Between scopeOf [] [] items := ⟨rfl, rfl, rfl, fun _ absent => nomatch absent⟩
  exact here.calls_eq count

end GroupCursor

end Telemetry
