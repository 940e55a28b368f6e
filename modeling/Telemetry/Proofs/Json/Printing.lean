import Telemetry.Document
import Telemetry.Proofs.Json.Tree

/-! The characters of printed trees. What is printed of a tree without gaps stands before what follows it,
whatever that is, and a document without gaps is written in full. -/
namespace Telemetry.Json

def joined (sequence : List Piece) : List Char :=
  (written sequence).flatMap String.toList

def escaped (c : Char) : List Char :=
  match escape? c with
  | none => [c]
  | some text => text.toList

@[simp] theorem joined_nil : joined [] = [] := rfl

@[simp] theorem joined_text (s : String) (rest : List Piece) :
    joined (.text s :: rest) = s.toList ++ joined rest := rfl

@[simp] theorem firstGap?_text (s : String) (rest : List Piece) :
    firstGap? (.text s :: rest) = firstGap? rest := rfl

theorem joined_run (plain : List Char) (rest : List Piece) :
    joined (run plain rest) = plain.reverse ++ joined rest := by
  cases plain with
  | nil => rfl
  | cons c cs => simp [run]

theorem firstGap?_run (plain : List Char) (rest : List Piece) :
    firstGap? (run plain rest) = firstGap? rest := by
  cases plain <;> rfl

theorem joined_contents (plain cs : List Char) (rest : List Piece) :
    joined (contents plain cs rest) = plain.reverse ++ (cs.flatMap escaped ++ joined rest) := by
  induction cs generalizing plain with
  | nil => exact joined_run plain rest
  | cons c cs ih =>
    unfold contents
    cases replaced : escape? c with
    | none => simp [ih, escaped, replaced]
    | some text => simp [ih, escaped, replaced, joined_run]

theorem firstGap?_contents (plain cs : List Char) (rest : List Piece) :
    firstGap? (contents plain cs rest) = firstGap? rest := by
  induction cs generalizing plain with
  | nil => exact firstGap?_run plain rest
  | cons c cs ih =>
    unfold contents
    cases escape? c with
    | none => exact ih _
    | some text => rw [firstGap?_run, firstGap?_text, ih]

theorem joined_quoted (s : String) (rest : List Piece) :
    joined (quoted s rest) = '"' :: (s.toList.flatMap escaped ++ '"' :: joined rest) := by
  simp [quoted, joined_contents]

theorem firstGap?_quoted (s : String) (rest : List Piece) : firstGap? (quoted s rest) = firstGap? rest := by
  simp [quoted, firstGap?_contents]

theorem joined_separated (first : Bool) (rest : List Piece) :
    joined (separated first rest) = (if first then [] else [',']) ++ joined rest := by
  cases first <;> rfl

theorem firstGap?_separated (first : Bool) (rest : List Piece) :
    firstGap? (separated first rest) = firstGap? rest := by
  cases first <;> rfl

theorem toList_render (tree : Json) : (render tree).toList = joined (tree.pieces []) := by
  simp [render, joined, String.toList_join]

section Rendering

variable {items : List Json} {members : List (String × Json)}

private theorem joined_items
    (inside : ∀ item ∈ items, ∀ rest, joined (item.pieces rest) = (render item).toList ++ joined rest)
    (first : Bool) (rest : List Piece) :
    joined (itemPieces first items rest) = joined (itemPieces first items []) ++ joined rest := by
  induction items generalizing first with
  | nil => rfl
  | cons item items ih =>
    obtain ⟨here, below⟩ := List.forall_mem_cons.mp inside
    simp only [itemPieces, joined_separated, here]
    rw [ih below]
    simp only [List.append_assoc]

private theorem joined_members
    (inside : ∀ member ∈ members, ∀ rest,
      joined (member.2.pieces rest) = (render member.2).toList ++ joined rest)
    (first : Bool) (rest : List Piece) :
    joined (memberPieces first members rest) = joined (memberPieces first members []) ++ joined rest := by
  induction members generalizing first with
  | nil => rfl
  | cons member members ih =>
    obtain ⟨here, below⟩ := List.forall_mem_cons.mp inside
    simp only [memberPieces, joined_separated, joined_quoted, joined_text, here]
    rw [ih below]
    simp only [List.append_assoc, List.cons_append]

end Rendering

/-- What is printed of a tree without gaps does not depend on what follows it. -/
theorem joined_pieces {tree : Json} (filled : tree.Every Filled) (rest : List Piece) :
    joined (tree.pieces rest) = (render tree).toList ++ joined rest := by
  rw [toList_render]
  induction tree using parts_induction generalizing rest with
  | step tree inside =>
    obtain ⟨here, below⟩ := every_iff.mp filled
    have each : ∀ part ∈ tree.parts, ∀ rest,
        joined (part.pieces rest) = (render part).toList ++ joined rest := by
      intro part member rest
      rw [toList_render]
      exact inside part member (below part member) rest
    cases tree with
    | array items =>
      rw [forall_parts_array] at each
      simp only [pieces, joined_text]
      rw [joined_items each, joined_items each true [Piece.text "]"]]
      simp
    | object members =>
      rw [forall_parts_object] at each
      simp only [pieces, joined_text]
      rw [joined_members each, joined_members each true [Piece.text "\x7d"]]
      simp
    | string s => simp [pieces, joined_quoted]
    | gap kind => exact here.elim
    | _ => simp [pieces]

section Compact

private def commaed : Bool → List String → List Char
  | _, [] => []
  | first, text :: texts => (if first then [] else [',']) ++ text.toList ++ commaed false texts

private theorem commaed_true (texts : List String) : commaed true texts = (",".intercalate texts).toList := by
  have later : ∀ (text : String) (texts : List String),
      (",".intercalate (text :: texts)).toList = text.toList ++ commaed false texts := by
    intro text texts
    induction texts generalizing text with
    | nil => simp [commaed]
    | cons next texts ih =>
      rw [String.intercalate_cons_cons, String.toList_append, String.toList_append, ih, commaed]
      simp
  cases texts with
  | nil => rfl
  | cons text texts => rw [later, commaed, if_pos rfl, List.nil_append]

def quotedText (s : String) : String :=
  String.join (written (quoted s []))

def memberText (member : String × Json) : String :=
  quotedText member.1 ++ ":" ++ member.2.render

private theorem joined_quotedText (s : String) (rest : List Piece) :
    joined (quoted s rest) = (quotedText s).toList ++ joined rest := by
  have alone : (quotedText s).toList = joined (quoted s []) := String.toList_join
  rw [alone, joined_quoted, joined_quoted, joined_nil, List.cons_append, List.append_assoc]
  rfl

private theorem joined_itemPieces {items : List Json} (filled : ∀ item ∈ items, item.Every Filled) (first : Bool)
    (rest : List Piece) :
    joined (itemPieces first items rest) = commaed first (items.map render) ++ joined rest := by
  induction items generalizing first with
  | nil => rfl
  | cons item items ih =>
    obtain ⟨here, below⟩ := List.forall_mem_cons.mp filled
    rw [itemPieces, joined_separated, joined_pieces here, ih below, List.map_cons, commaed]
    simp only [List.append_assoc]

private theorem joined_memberPieces {members : List (String × Json)}
    (filled : ∀ member ∈ members, member.2.Every Filled) (first : Bool) (rest : List Piece) :
    joined (memberPieces first members rest) = commaed first (members.map memberText) ++ joined rest := by
  induction members generalizing first with
  | nil => rfl
  | cons member members ih =>
    obtain ⟨here, below⟩ := List.forall_mem_cons.mp filled
    rw [memberPieces, joined_separated, joined_quotedText, joined_text, joined_pieces here, ih below, List.map_cons,
      commaed, memberText, String.toList_append, String.toList_append]
    simp only [List.append_assoc]

theorem render_array {items : List Json} (filled : ∀ item ∈ items, item.Every Filled) :
    render (.array items) = "[" ++ ",".intercalate (items.map render) ++ "]" := by
  apply String.toList_inj.mp
  rw [toList_render, pieces, joined_text, joined_itemPieces filled, joined_text, joined_nil, commaed_true,
    String.toList_append, String.toList_append, List.append_nil, List.append_assoc]

theorem render_object {members : List (String × Json)} (filled : ∀ member ∈ members, member.2.Every Filled) :
    render (.object members) = "\x7b" ++ ",".intercalate (members.map memberText) ++ "\x7d" := by
  apply String.toList_inj.mp
  rw [toList_render, pieces, joined_text, joined_memberPieces filled, joined_text, joined_nil, commaed_true,
    String.toList_append, String.toList_append, List.append_nil, List.append_assoc]

theorem render_single (name : String) {value : Json} (filled : value.Every Filled) :
    render (.object [(name, value)]) = "\x7b" ++ quotedText name ++ ":" ++ value.render ++ "\x7d" := by
  rw [render_object (List.forall_mem_singleton.mpr filled), List.map_singleton, String.intercalate_singleton,
    memberText]
  simp only [String.append_assoc]

theorem render_pair (name other : String) {value next : Json} (filled : value.Every Filled)
    (also : next.Every Filled) :
    render (.object [(name, value), (other, next)]) =
      "\x7b" ++ quotedText name ++ ":" ++ value.render ++ "," ++ quotedText other ++ ":" ++ next.render ++ "\x7d" := by
  rw [render_object (List.forall_mem_cons.mpr ⟨filled, List.forall_mem_singleton.mpr also⟩), List.map_cons,
    List.map_singleton, String.intercalate_cons_cons, String.intercalate_singleton, memberText, memberText]
  simp only [String.append_assoc]

end Compact

theorem render_number (literal : String) : (number literal).render = literal := by
  apply String.toList_inj.mp
  simp [toList_render, pieces]

theorem escape?_of_visible {c : Char} (visible : 0x20 ≤ c.toNat) (quote : c ≠ '"') (slash : c ≠ '\\') :
    escape? c = none := by
  rw [escape?, if_neg quote, if_neg slash, if_pos visible]

/-- A text without characters that are escaped stands between quotation marks as it is. -/
theorem quotedText_plain {s : String} (plain : ∀ c ∈ s.toList, escape? c = none) :
    quotedText s = "\"" ++ s ++ "\"" := by
  have alone : s.toList.map escaped = s.toList.map fun c => [c] :=
    List.map_congr_left fun c member => by rw [escaped, plain c member]
  have same : s.toList.flatMap escaped = s.toList := by
    rw [List.flatMap_def, alone, ← List.flatMap_def, List.flatMap_singleton']
  apply String.toList_inj.mp
  rw [quotedText, String.toList_join, ← joined, joined_quoted, same]
  simp

end Telemetry.Json
