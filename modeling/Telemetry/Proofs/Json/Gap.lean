import Telemetry.Proofs.Json.Printing

/-! Gaps in trees, and what takes their place. What is printed of a tree ends at its first gap. When every
gap is filled with a tree, the text goes on from there with the text of what fills the first gap, so
the printed part of a tree with gaps is a part of the text of every tree that fills them. -/
namespace Telemetry.Json

mutual

def gaps : Json → List String
  | .array items => itemGaps items
  | .object members => memberGaps members
  | .gap reason => [reason]
  | .null => []
  | .bool _ => []
  | .number _ => []
  | .string _ => []
termination_by structural tree => tree

def itemGaps : List Json → List String
  | [] => []
  | item :: items => gaps item ++ itemGaps items
termination_by structural items => items

def memberGaps : List (String × Json) → List String
  | [] => []
  | (_, value) :: members => gaps value ++ memberGaps members
termination_by structural members => members

end

mutual

def fill (patch : String → Json) : Json → Json
  | .array items => .array (fillItems patch items)
  | .object members => .object (fillMembers patch members)
  | .gap reason => patch reason
  | .null => .null
  | .bool b => .bool b
  | .number literal => .number literal
  | .string s => .string s
termination_by structural tree => tree

def fillItems (patch : String → Json) : List Json → List Json
  | [] => []
  | item :: items => fill patch item :: fillItems patch items
termination_by structural items => items

def fillMembers (patch : String → Json) : List (String × Json) → List (String × Json)
  | [] => []
  | (name, value) :: members => (name, fill patch value) :: fillMembers patch members
termination_by structural members => members

end

section Parts

variable (patch : String → Json) (items : List Json) (members : List (String × Json))

theorem gaps_array : (array items).gaps = items.flatMap gaps := by
  rw [gaps]
  induction items with
  | nil => rfl
  | cons item items ih => rw [itemGaps, ih, List.flatMap_cons]

theorem gaps_object : (object members).gaps = members.flatMap (·.2.gaps) := by
  rw [gaps]
  induction members with
  | nil => rfl
  | cons member members ih => rw [memberGaps, ih, List.flatMap_cons]

theorem gaps_objectOf (optional : List (Option (String × Json))) :
    (objectOf optional).gaps = optional.flatMap fun member => member.elim [] (·.2.gaps) := by
  rw [objectOf, gaps_object]
  induction optional with
  | nil => rfl
  | cons member optional ih =>
    cases member with
    | none => exact ih
    | some member => exact congrArg (member.2.gaps ++ ·) ih

theorem fill_array : (array items).fill patch = .array (items.map (fill patch)) := by
  rw [fill]
  congr 1
  induction items with
  | nil => rfl
  | cons item items ih => rw [fillItems, ih, List.map_cons]

theorem fill_object :
    (object members).fill patch = .object (members.map fun member => (member.1, member.2.fill patch)) := by
  rw [fill]
  congr 1
  induction members with
  | nil => rfl
  | cons member members ih => rw [fillMembers, ih, List.map_cons]

theorem fill_objectOf (optional : List (Option (String × Json))) :
    (objectOf optional).fill patch =
      objectOf (optional.map (Option.map fun member => (member.1, member.2.fill patch))) := by
  rw [objectOf, objectOf, fill_object, List.map_filterMap, List.filterMap_map]
  rfl

end Parts

section First

variable {items : List Json} {members : List (String × Json)}

private theorem firstGap?_items_eq
    (inside : ∀ item ∈ items, ∀ rest, firstGap? (item.pieces rest) = item.gaps.head?.or (firstGap? rest))
    (first : Bool) (rest : List Piece) :
    firstGap? (itemPieces first items rest) = (items.flatMap gaps).head?.or (firstGap? rest) := by
  induction items generalizing first with
  | nil => rfl
  | cons item items ih =>
    obtain ⟨here, below⟩ := List.forall_mem_cons.mp inside
    rw [itemPieces, firstGap?_separated, here, ih below, List.flatMap_cons, List.head?_append, Option.or_assoc]

private theorem firstGap?_members_eq
    (inside : ∀ member ∈ members, ∀ rest,
      firstGap? (member.2.pieces rest) = member.2.gaps.head?.or (firstGap? rest))
    (first : Bool) (rest : List Piece) :
    firstGap? (memberPieces first members rest) =
      (members.flatMap (·.2.gaps)).head?.or (firstGap? rest) := by
  induction members generalizing first with
  | nil => rfl
  | cons member members ih =>
    obtain ⟨here, below⟩ := List.forall_mem_cons.mp inside
    rw [memberPieces, firstGap?_separated, firstGap?_quoted, firstGap?_text, here, ih below,
      List.flatMap_cons, List.head?_append, Option.or_assoc]

end First

theorem firstGap?_eq (tree : Json) (rest : List Piece) :
    firstGap? (tree.pieces rest) = tree.gaps.head?.or (firstGap? rest) := by
  induction tree using parts_induction generalizing rest with
  | step tree inside =>
    cases tree with
    | array items =>
      rw [forall_parts_array] at inside
      rw [pieces, firstGap?_text, firstGap?_items_eq inside, firstGap?_text, gaps_array]
    | object members =>
      rw [forall_parts_object] at inside
      rw [pieces, firstGap?_text, firstGap?_members_eq inside, firstGap?_text, gaps_object]
    | string s => rw [pieces, firstGap?_quoted]; rfl
    | _ => rfl

theorem gaps_eq_nil {tree : Json} : tree.gaps = [] ↔ tree.Every Filled := by
  induction tree using parts_induction with
  | step tree inside =>
    rw [every_iff]
    cases tree with
    | array items =>
      rw [forall_parts_array] at inside ⊢
      rw [gaps_array, List.flatMap_eq_nil_iff]
      simp only [Filled, true_and]
      exact forall₂_congr inside
    | object members =>
      rw [forall_parts_object] at inside ⊢
      rw [gaps_object, List.flatMap_eq_nil_iff]
      simp only [Filled, true_and]
      exact forall₂_congr inside
    | gap reason => simp [gaps, Filled]
    | _ => simp [gaps, Filled, parts]

theorem gaps_double (x : Float) : (double x).gaps = [] := by
  unfold double
  split <;> rfl

theorem fill_of_gapless (patch : String → Json) {tree : Json} (gapless : tree.gaps = []) :
    tree.fill patch = tree := by
  induction tree using parts_induction with
  | step tree inside =>
    cases tree with
    | array items =>
      rw [forall_parts_array] at inside
      rw [gaps_array, List.flatMap_eq_nil_iff] at gapless
      rw [fill_array, List.map_congr_left fun item member => inside item member (gapless item member), List.map_id']
    | object members =>
      rw [forall_parts_object] at inside
      rw [gaps_object, List.flatMap_eq_nil_iff] at gapless
      have same : ∀ member ∈ members, (member.1, member.2.fill patch) = member :=
        fun member among => Prod.ext rfl (inside member among (gapless member among))
      rw [fill_object, List.map_congr_left same, List.map_id']
    | gap reason => contradiction
    | _ => rfl

theorem filled_fill {patch : String → Json} (filled : ∀ reason, (patch reason).Every Filled) (tree : Json) :
    (tree.fill patch).Every Filled := by
  induction tree using parts_induction with
  | step tree inside =>
    cases tree with
    | array items =>
      rw [fill_array, every_iff, forall_parts_array, List.forall_mem_map]
      exact ⟨trivial, inside⟩
    | object members =>
      rw [forall_parts_object] at inside
      rw [fill_object, every_iff, forall_parts_object, List.forall_mem_map]
      exact ⟨trivial, inside⟩
    | gap reason => exact filled reason
    | _ => exact .leaf rfl trivial

section Optional

variable {α : Type} (patch : String → Json) (name : String)

/-- A member that holds no gap is not changed. -/
theorem map_fill_of_gapless {optional : Option (String × Json)} (gapless : optional.elim [] (·.2.gaps) = []) :
    optional.map (fun member => (member.1, member.2.fill patch)) = optional := by
  cases optional with
  | none => rfl
  | some member => rw [Option.map_some, fill_of_gapless patch gapless]

/-- The member for a list that is left out when there is nothing in it. -/
theorem gaps_unlessEmpty (items : List α) (toJson : α → Json) :
    (if items.isEmpty then none else some (name, array (items.map toJson))).elim [] (·.2.gaps) =
      items.flatMap fun item => (toJson item).gaps := by
  cases items with
  | nil => rfl
  | cons item items => exact (gaps_array _).trans (List.flatMap_map _ _ _)

theorem gaps_array_map {toJson : α → Json} {reasons : α → List String}
    (gaps : ∀ item, (toJson item).gaps = reasons item) (items : List α) :
    (array (items.map toJson)).gaps = items.flatMap reasons := by
  rw [gaps_array, List.flatMap_map]
  exact congrArg (items.flatMap ·) (funext gaps)

variable {toJson toJson' : α → Json} {change : α → α}

theorem fill_array_map (fills : ∀ item, (toJson item).fill patch = toJson' (change item)) (items : List α) :
    (array (items.map toJson)).fill patch = .array ((items.map change).map toJson') := by
  rw [fill_array, List.map_map, List.map_map]
  exact congrArg array (List.map_congr_left fun item _ => fills item)

theorem fill_unlessEmpty (fills : ∀ item, (toJson item).fill patch = toJson' (change item)) (items : List α) :
    (if items.isEmpty then none else some (name, array (items.map toJson))).map
        (fun member => (member.1, member.2.fill patch)) =
      if (items.map change).isEmpty then none else some (name, array ((items.map change).map toJson')) := by
  rw [List.isEmpty_map]
  split
  · rfl
  · rw [Option.map_some, fill_array_map patch fills]

end Optional

def patched (patch : String → Json) : List Piece → List Piece
  | [] => []
  | .text s :: rest => .text s :: patched patch rest
  | .gap reason :: rest => (patch reason).pieces (patched patch rest)

section Patched

variable (patch : String → Json)

theorem patched_text (s : String) (rest : List Piece) :
    patched patch (.text s :: rest) = .text s :: patched patch rest := rfl

theorem patched_run (plain : List Char) (rest : List Piece) :
    patched patch (run plain rest) = run plain (patched patch rest) := by
  cases plain <;> rfl

theorem patched_contents (plain cs : List Char) (rest : List Piece) :
    patched patch (contents plain cs rest) = contents plain cs (patched patch rest) := by
  induction cs generalizing plain with
  | nil => exact patched_run patch plain rest
  | cons c cs ih =>
    unfold contents
    cases escape? c with
    | none => exact ih _
    | some text => simp only [patched_run, patched_text, ih]

theorem patched_quoted (s : String) (rest : List Piece) :
    patched patch (quoted s rest) = quoted s (patched patch rest) := by
  rw [quoted, quoted, patched_text, patched_contents, patched_text]

theorem patched_separated (first : Bool) (rest : List Piece) :
    patched patch (separated first rest) = separated first (patched patch rest) := by
  cases first <;> rfl

variable {items : List Json} {members : List (String × Json)}

private theorem patched_items
    (inside : ∀ item ∈ items, ∀ rest,
      patched patch (item.pieces rest) = (item.fill patch).pieces (patched patch rest))
    (first : Bool) (rest : List Piece) :
    patched patch (itemPieces first items rest) =
      itemPieces first (items.map (fill patch)) (patched patch rest) := by
  induction items generalizing first with
  | nil => rfl
  | cons item items ih =>
    obtain ⟨here, below⟩ := List.forall_mem_cons.mp inside
    rw [itemPieces, patched_separated, here, ih below, List.map_cons, itemPieces]

private theorem patched_members
    (inside : ∀ member ∈ members, ∀ rest,
      patched patch (member.2.pieces rest) = (member.2.fill patch).pieces (patched patch rest))
    (first : Bool) (rest : List Piece) :
    patched patch (memberPieces first members rest) =
      memberPieces first (members.map fun member => (member.1, member.2.fill patch)) (patched patch rest) := by
  induction members generalizing first with
  | nil => rfl
  | cons member members ih =>
    obtain ⟨here, below⟩ := List.forall_mem_cons.mp inside
    rw [memberPieces, patched_separated, patched_quoted, patched_text, here, ih below, List.map_cons,
      memberPieces]

end Patched

/-- Filling the gaps of a tree fills the gaps among its pieces. -/
theorem patched_pieces (patch : String → Json) (tree : Json) (rest : List Piece) :
    patched patch (tree.pieces rest) = (tree.fill patch).pieces (patched patch rest) := by
  induction tree using parts_induction generalizing rest with
  | step tree inside =>
    cases tree with
    | array items =>
      rw [forall_parts_array] at inside
      rw [pieces, patched_text, patched_items patch inside, patched_text, fill_array, pieces]
    | object members =>
      rw [forall_parts_object] at inside
      rw [pieces, patched_text, patched_members patch inside, patched_text, fill_object, pieces]
    | string s => rw [pieces, patched_quoted, fill, pieces]
    | _ => rfl

/-- What stood before the first gap is followed by what fills it. -/
theorem joined_patched {patch : String → Json} {sequence : List Piece} {reason : String}
    (first : firstGap? sequence = some reason) (filled : (patch reason).Every Filled) :
    ∃ after, joined (patched patch sequence) = joined sequence ++ ((patch reason).render.toList ++ after) := by
  induction sequence with
  | nil => contradiction
  | cons piece rest ih =>
    cases piece with
    | text s =>
      obtain ⟨after, same⟩ := ih first
      refine ⟨after, ?_⟩
      rw [patched_text, joined_text, joined_text, same, List.append_assoc]
    | gap kind =>
      obtain rfl : kind = reason := Option.some.inj first
      exact ⟨joined (patched patch rest), joined_pieces filled _⟩

end Telemetry.Json
