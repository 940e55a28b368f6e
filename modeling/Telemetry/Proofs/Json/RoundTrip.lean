import Telemetry.Proofs.Json.Printing

/-! Reading back what is printed. The text of a printable tree is one JSON text for the strict reader, and
what is read is the tree that was printed, with its members in their order and its numbers digit for
digit. Different printable trees therefore have different texts. -/
namespace Telemetry.Json

namespace Reader

def Visible (c : Char) : Prop :=
  c ≠ ' ' ∧ c ≠ '\t' ∧ c ≠ '\n' ∧ c ≠ '\r'

instance : DecidablePred Visible :=
  fun c => inferInstanceAs (Decidable (c ≠ ' ' ∧ c ≠ '\t' ∧ c ≠ '\n' ∧ c ≠ '\r'))

theorem skipBlank_visible {c : Char} (cs : List Char) (visible : Visible c) :
    skipBlank (c :: cs) = c :: cs := by
  obtain ⟨space, tab, feed, carriage⟩ := visible
  simp [skipBlank, space, tab, feed, carriage]

private theorem hexValue?_digitChar : ∀ d < 16, hexValue? (Nat.digitChar d) = some d := by
  decide

private theorem unicode?_control {n : Nat} (control : n < 0x20) (rest : List Char) :
    unicode? ('0' :: '0' :: Nat.digitChar (n / 16) :: Nat.digitChar (n % 16) :: rest) =
      some (Char.ofNat n, rest) := by
  have zero : hexValue? '0' = some 0 := rfl
  have high := hexValue?_digitChar (n / 16) (by omega)
  have low := hexValue?_digitChar (n % 16) (by omega)
  have whole : 16 * (n / 16) + n % 16 = n := Nat.div_add_mod n 16
  have noHigh : isHighSurrogate n = false := by simp [isHighSurrogate]; omega
  have noLow : isLowSurrogate n = false := by simp [isLowSurrogate]; omega
  simp [unicode?, unit?, zero, high, low, whole, noHigh, noLow]

/-- Every character is read back from what stands for it inside a string. -/
theorem character?_escaped (c : Char) (rest : List Char) :
    character? (escaped c ++ rest) = some (c, rest) := by
  unfold escaped escape?
  by_cases quote : c = '"'
  · subst c
    rfl
  by_cases backslash : c = '\\'
  · subst c
    rfl
  rw [if_neg quote, if_neg backslash]
  by_cases plain : 0x20 ≤ c.toNat
  · rw [if_pos plain]
    show character? (c :: rest) = _
    unfold character?
    split
    · simp_all
    · simp_all
    · rename_i d tail _ same
      obtain ⟨rfl, rfl⟩ := List.cons.inj same
      rw [if_neg (by simp [backslash]; omega)]
    · contradiction
  rw [if_neg plain]
  by_cases feed : c = '\n'
  · subst c
    rfl
  by_cases carriage : c = '\r'
  · subst c
    rfl
  by_cases tab : c = '\t'
  · subst c
    rfl
  rw [if_neg feed, if_neg carriage, if_neg tab]
  by_cases backspace : c.toNat = 0x08
  · obtain rfl : c = '\x08' := Char.toNat_inj.mp backspace
    rfl
  by_cases formFeed : c.toNat = 0x0c
  · obtain rfl : c = '\x0c' := Char.toNat_inj.mp formFeed
    rfl
  rw [if_neg backspace, if_neg formFeed]
  have decoded := unicode?_control (Nat.lt_of_not_le plain) rest
  rw [Char.ofNat_toNat] at decoded
  simpa [character?] using decoded

theorem escaped_cons (c : Char) : ∃ d tail, escaped c = d :: tail ∧ d ≠ '"' := by
  unfold escaped escape?
  by_cases quote : c = '"'
  · exact ⟨'\\', ['"'], by rw [if_pos quote]; rfl, by decide⟩
  rw [if_neg quote]
  split
  · exact ⟨c, [], rfl, quote⟩
  · rename_i text replaced
    refine ⟨'\\', text.toList.tail, ?_, by decide⟩
    split at replaced
    · obtain rfl := Option.some.inj replaced
      rfl
    · split at replaced
      · contradiction
      · repeat' split at replaced
        all_goals
          obtain rfl := Option.some.inj replaced
          simp

theorem string?_contents (cs : List Char) {fuel : Nat} (read rest : List Char) (enough : cs.length < fuel) :
    string? fuel read (cs.flatMap escaped ++ '"' :: rest) =
      some (String.ofList (read.reverse ++ cs), rest) := by
  induction cs generalizing fuel read with
  | nil =>
    obtain ⟨fuel, rfl⟩ := Nat.exists_eq_succ_of_ne_zero (Nat.ne_zero_of_lt enough)
    simp [string?]
  | cons c cs ih =>
    obtain ⟨fuel, rfl⟩ := Nat.exists_eq_succ_of_ne_zero (Nat.ne_zero_of_lt enough)
    obtain ⟨d, tail, shape, other⟩ := escaped_cons c
    have decoded := character?_escaped c (cs.flatMap escaped ++ '"' :: rest)
    have next := ih (c :: read) (Nat.lt_of_succ_lt_succ enough)
    rw [List.flatMap_cons, List.append_assoc]
    unfold string?
    split
    · rename_i after same
      rw [shape, List.cons_append] at same
      exact absurd (List.cons.inj same).1 other
    · rw [decoded]
      simpa using next

private theorem length_le_escaped (cs : List Char) : cs.length ≤ (cs.flatMap escaped).length := by
  induction cs with
  | nil => exact Nat.le_refl 0
  | cons c cs ih =>
    obtain ⟨d, tail, shape, _⟩ := escaped_cons c
    simp only [List.flatMap_cons, List.length_append, List.length_cons, shape]
    omega

theorem string?_quoted (s : String) {fuel : Nat} (rest : List Char)
    (enough : (s.toList.flatMap escaped).length < fuel) :
    string? fuel [] (s.toList.flatMap escaped ++ '"' :: rest) = some (s, rest) := by
  have read := string?_contents s.toList [] rest (Nat.lt_of_le_of_lt (length_le_escaped _) enough)
  simpa using read

theorem key?_quoted (key : String) {fuel : Nat} (rest : List Piece)
    (enough : (key.toList.flatMap escaped).length < fuel) :
    key? fuel (joined (quoted key (.text ":" :: rest))) = some (key, joined rest) := by
  have read := string?_quoted key (":".toList ++ joined rest) enough
  have colon : skipBlank (":".toList ++ joined rest) = ':' :: joined rest := skipBlank_visible _ (by decide)
  rw [joined_quoted, joined_text, key?, skipBlank_visible _ (by decide)]
  simp only [read, colon]

private theorem visible_number {c : Char} (start : c = '-' ∨ c.isDigit = true) : Visible c ∧ c ≠ ']' := by
  refine ⟨⟨?_, ?_, ?_, ?_⟩, ?_⟩ <;> rintro rfl <;> revert start <;> decide

/-- The text of a value begins neither with a blank nor with the end of an array. -/
theorem pieces_opens {tree : Json} (printable : tree.Printable) (rest : List Piece) :
    ∃ c tail, joined (tree.pieces rest) = c :: tail ∧ Visible c ∧ c ≠ ']' := by
  have here := (every_iff.mp printable).1
  cases tree with
  | null => exact ⟨'n', _, rfl, by decide, by decide⟩
  | bool b =>
    cases b
    · exact ⟨'f', _, rfl, by decide, by decide⟩
    · exact ⟨'t', _, rfl, by decide, by decide⟩
  | number literal =>
    obtain ⟨c, tail, shape, start⟩ := NumberToken.head here.2
    refine ⟨c, tail ++ joined rest, ?_, visible_number start⟩
    rw [pieces, joined_text, shape, List.cons_append]
  | string s => exact ⟨'"', _, joined_quoted s rest, by decide, by decide⟩
  | array items => exact ⟨'[', _, rfl, by decide, by decide⟩
  | object members => exact ⟨'\x7b', _, rfl, by decide, by decide⟩
  | gap kind => exact here.1.elim

theorem length_joined_pieces {tree : Json} (printable : tree.Printable) (rest : List Piece) :
    (joined rest).length ≤ (joined (tree.pieces rest)).length := by
  rw [joined_pieces (printable.mono fun _ both => both.1) rest, List.length_append]
  exact Nat.le_add_left _ _

def ReadsBack (tree : Json) : Prop :=
  ∀ (fuel : Nat) (rest : List Piece), Delimited (joined rest) →
    2 * (joined (tree.pieces rest)).length ≤ fuel →
      value? fuel (joined (tree.pieces rest)) = some (tree, joined rest)

private theorem exists_fuel {c : Char} {cs : List Char} {fuel : Nat} (enough : 2 * (c :: cs).length ≤ fuel) :
    ∃ left, fuel = left + 1 := by
  rw [List.length_cons] at enough
  exact ⟨fuel - 1, by omega⟩

theorem value?_number {c : Char} {cs : List Char} (start : c = '-' ∨ c.isDigit = true) (fuel : Nat) :
    value? (fuel + 1) (c :: cs) =
      (number? (c :: cs)).map fun (literal, rest) => (.number literal, rest) := by
  rw [value?, skipBlank_visible cs (visible_number start).1]
  split <;> simp_all

theorem value?_string (fuel : Nat) (cs : List Char) :
    value? (fuel + 1) ('"' :: cs) = (string? fuel [] cs).map fun (s, rest) => (.string s, rest) := by
  rw [value?, skipBlank_visible cs (by decide)]
  rfl

theorem value?_array {c : Char} (visible : Visible c) (other : c ≠ ']') (fuel : Nat) (cs : List Char) :
    value? (fuel + 1) ('[' :: c :: cs) =
      (items? fuel (c :: cs)).map fun (items, rest) => (.array items, rest) := by
  have opened : skipBlank (c :: cs) = c :: cs := skipBlank_visible cs visible
  rw [value?, skipBlank_visible _ (by decide)]
  simp only [opened]
  split
  · rename_i closing
    exact absurd (List.cons.inj closing).1 other
  · rfl

theorem value?_object (fuel : Nat) (cs : List Char) :
    value? (fuel + 1) ('\x7b' :: '"' :: cs) =
      (members? fuel ('"' :: cs)).map fun (members, rest) => (.object members, rest) := by
  have opened : skipBlank ('"' :: cs) = '"' :: cs := skipBlank_visible cs (by decide)
  rw [value?, skipBlank_visible _ (by decide)]
  simp only [opened]
  rfl

theorem items?_last {fuel : Nat} {cs rest : List Char} {item : Json}
    (read : value? fuel cs = some (item, ']' :: rest)) : items? (fuel + 1) cs = some ([item], rest) := by
  have closing : skipBlank (']' :: rest) = ']' :: rest := skipBlank_visible rest (by decide)
  rw [items?, read]
  simp only [closing]

theorem items?_more {fuel : Nat} {cs rest : List Char} {item : Json}
    (read : value? fuel cs = some (item, ',' :: rest)) :
    items? (fuel + 1) cs = (items? fuel rest).map fun (items, rest) => (item :: items, rest) := by
  have comma : skipBlank (',' :: rest) = ',' :: rest := skipBlank_visible rest (by decide)
  rw [items?, read]
  simp only [comma]

theorem members?_last {fuel : Nat} {cs behind rest : List Char} {key : String} {value : Json}
    (named : key? fuel cs = some (key, behind)) (read : value? fuel behind = some (value, '\x7d' :: rest)) :
    members? (fuel + 1) cs = some ([(key, value)], rest) := by
  have closing : skipBlank ('\x7d' :: rest) = '\x7d' :: rest := skipBlank_visible rest (by decide)
  rw [members?, named]
  simp only [read, closing]

theorem members?_more {fuel : Nat} {cs behind rest : List Char} {key : String} {value : Json}
    (named : key? fuel cs = some (key, behind)) (read : value? fuel behind = some (value, ',' :: rest)) :
    members? (fuel + 1) cs =
      (members? fuel rest).map fun (members, rest) => ((key, value) :: members, rest) := by
  have comma : skipBlank (',' :: rest) = ',' :: rest := skipBlank_visible rest (by decide)
  rw [members?, named]
  simp only [read, comma]

theorem items?_pieces {items : List Json} (nonempty : items ≠ []) (inside : ∀ item ∈ items, ReadsBack item)
    (printable : ∀ item ∈ items, item.Printable) {fuel : Nat} (rest : List Piece)
    (enough : 2 * (joined (itemPieces true items (.text "]" :: rest))).length < fuel) :
    items? fuel (joined (itemPieces true items (.text "]" :: rest))) = some (items, joined rest) := by
  induction items generalizing fuel with
  | nil => contradiction
  | cons item items ih =>
    obtain ⟨fuel, rfl⟩ := Nat.exists_eq_succ_of_ne_zero (Nat.ne_zero_of_lt enough)
    obtain ⟨here, below⟩ := List.forall_mem_cons.mp inside
    obtain ⟨first, others⟩ := List.forall_mem_cons.mp printable
    cases items with
    | nil =>
      apply items?_last
      exact here fuel (.text "]" :: rest) (delimited_cons (.inr (.inl rfl))) (Nat.le_of_lt_succ enough)
    | cons next items =>
      -- What follows the item is a comma and the text of the other items.
      have room : 2 * (joined (item.pieces (itemPieces false (next :: items) (.text "]" :: rest)))).length ≤
          fuel := Nat.le_of_lt_succ enough
      have behind : value? fuel (joined (item.pieces (itemPieces false (next :: items) (.text "]" :: rest)))) =
          some (item, ',' :: joined (itemPieces true (next :: items) (.text "]" :: rest))) :=
        here fuel _ (delimited_cons (.inl rfl)) room
      have size := length_joined_pieces first (itemPieces false (next :: items) (.text "]" :: rest))
      have total : (joined (itemPieces false (next :: items) (.text "]" :: rest))).length =
          (joined (itemPieces true (next :: items) (.text "]" :: rest))).length + 1 := rfl
      have more := @ih (List.cons_ne_nil _ _) below others fuel (by omega)
      refine (items?_more behind).trans ?_
      rw [more]
      rfl

theorem members?_pieces {members : List (String × Json)} (nonempty : members ≠ [])
    (inside : ∀ member ∈ members, ReadsBack member.2) (printable : ∀ member ∈ members, member.2.Printable)
    {fuel : Nat} (rest : List Piece)
    (enough : 2 * (joined (memberPieces true members (.text "\x7d" :: rest))).length < fuel) :
    members? fuel (joined (memberPieces true members (.text "\x7d" :: rest))) =
      some (members, joined rest) := by
  induction members generalizing fuel with
  | nil => contradiction
  | cons member members ih =>
    obtain ⟨fuel, rfl⟩ := Nat.exists_eq_succ_of_ne_zero (Nat.ne_zero_of_lt enough)
    obtain ⟨key, value⟩ := member
    obtain ⟨(here : ReadsBack value), below⟩ := List.forall_mem_cons.mp inside
    obtain ⟨(first : value.Printable), others⟩ := List.forall_mem_cons.mp printable
    have room : 2 * (key.toList.flatMap escaped).length + 6 +
        2 * (joined (value.pieces (memberPieces false members (.text "\x7d" :: rest)))).length ≤ fuel := by
      simp only [memberPieces, separated, joined_quoted, if_true, joined_text, List.length_cons,
        List.length_append] at enough
      have colon : ":".toList.length = 1 := rfl
      omega
    have named := key?_quoted key (value.pieces (memberPieces false members (.text "\x7d" :: rest)))
      (by omega : (key.toList.flatMap escaped).length < fuel)
    cases members with
    | nil =>
      apply members?_last named
      exact here fuel (.text "\x7d" :: rest) (delimited_cons (.inr (.inr rfl))) (by
        simp only [memberPieces] at room
        omega)
    | cons next members =>
      have behind : value? fuel
          (joined (value.pieces (memberPieces false (next :: members) (.text "\x7d" :: rest)))) =
            some (value, ',' :: joined (memberPieces true (next :: members) (.text "\x7d" :: rest))) :=
        here fuel _ (delimited_cons (.inl rfl)) (by omega)
      have size := length_joined_pieces first (memberPieces false (next :: members) (.text "\x7d" :: rest))
      have total : (joined (memberPieces false (next :: members) (.text "\x7d" :: rest))).length =
          (joined (memberPieces true (next :: members) (.text "\x7d" :: rest))).length + 1 := rfl
      have more := @ih (List.cons_ne_nil _ _) below others fuel (by omega)
      refine (members?_more named behind).trans ?_
      rw [more]
      rfl

theorem readsBack_array {items : List Json} (printable : (array items).Printable)
    (inside : ∀ item ∈ items, ReadsBack item) : ReadsBack (.array items) := by
  intro fuel rest _ enough
  have each : ∀ item ∈ items, item.Printable := (every_iff.mp printable).2
  have shape : joined ((array items).pieces rest) = '[' :: joined (itemPieces true items (.text "]" :: rest)) := rfl
  rw [shape] at enough ⊢
  obtain ⟨fuel, rfl⟩ := exists_fuel enough
  cases items with
  | nil =>
    have closing : skipBlank (']' :: joined rest) = ']' :: joined rest := skipBlank_visible _ (by decide)
    show value? (fuel + 1) ('[' :: ']' :: joined rest) = _
    rw [value?, skipBlank_visible _ (by decide)]
    simp only [closing]
  | cons item items =>
    have read := @items?_pieces (item :: items) (List.cons_ne_nil _ _) inside each fuel rest (by
      rw [List.length_cons] at enough
      omega)
    obtain ⟨c, tail, start, visible, other⟩ :=
      pieces_opens (each item List.mem_cons_self) (itemPieces false items (.text "]" :: rest))
    have opened : joined (itemPieces true (item :: items) (.text "]" :: rest)) = c :: tail := start
    rw [opened] at read ⊢
    rw [value?_array visible other, read]
    rfl

/-- An object ends with its closing brace, so its text is read whatever comes next. -/
theorem value?_object_pieces {members : List (String × Json)} (printable : (object members).Printable)
    (inside : ∀ member ∈ members, ReadsBack member.2) {fuel : Nat} (rest : List Piece)
    (enough : 2 * (joined ((object members).pieces rest)).length ≤ fuel) :
    value? fuel (joined ((object members).pieces rest)) = some (.object members, joined rest) := by
  have each : ∀ member ∈ members, member.2.Printable :=
    forall_parts_object.mp (every_iff.mp printable).2
  have shape : joined ((object members).pieces rest) =
      '\x7b' :: joined (memberPieces true members (.text "\x7d" :: rest)) := rfl
  rw [shape] at enough ⊢
  obtain ⟨fuel, rfl⟩ := exists_fuel enough
  cases members with
  | nil =>
    have closing : skipBlank ('\x7d' :: joined rest) = '\x7d' :: joined rest :=
      skipBlank_visible _ (by decide)
    show value? (fuel + 1) ('\x7b' :: '\x7d' :: joined rest) = _
    rw [value?, skipBlank_visible _ (by decide)]
    simp only [closing]
  | cons member members =>
    have read := @members?_pieces (member :: members) (List.cons_ne_nil _ _) inside each fuel rest (by
      rw [List.length_cons] at enough
      omega)
    have opened : joined (memberPieces true (member :: members) (.text "\x7d" :: rest)) =
        '"' :: (member.1.toList.flatMap escaped ++ '"' :: joined
          (.text ":" :: member.2.pieces (memberPieces false members (.text "\x7d" :: rest)))) :=
      joined_quoted _ _
    rw [opened] at read ⊢
    rw [value?_object, read]
    rfl

private theorem readsBack_literal {tree : Json} {c : Char} {cs : List Char}
    (shape : ∀ rest, joined (tree.pieces rest) = c :: (cs ++ joined rest))
    (read : ∀ fuel rest, value? (fuel + 1) (c :: (cs ++ rest)) = some (tree, rest)) : ReadsBack tree := by
  intro fuel rest _ enough
  rw [shape] at enough ⊢
  obtain ⟨fuel, rfl⟩ := exists_fuel enough
  exact read fuel (joined rest)

theorem readsBack_number {literal : String} (token : NumberToken literal.toList) :
    ReadsBack (.number literal) := by
  intro fuel rest stop enough
  obtain ⟨c, tail, shape, start⟩ := NumberToken.head token
  have read := number?_append token stop
  rw [pieces, joined_text] at enough ⊢
  rw [shape, List.cons_append] at enough read ⊢
  obtain ⟨fuel, rfl⟩ := exists_fuel enough
  rw [value?_number start, read, ← shape, String.ofList_toList]
  rfl

theorem readsBack_string (s : String) : ReadsBack (.string s) := by
  intro fuel rest _ enough
  rw [pieces, joined_quoted] at enough ⊢
  obtain ⟨fuel, rfl⟩ := exists_fuel enough
  have room : (s.toList.flatMap escaped).length < fuel := by
    simp only [List.length_cons, List.length_append] at enough
    omega
  rw [value?_string, string?_quoted s (joined rest) room]
  rfl

/-- Reading is a left inverse of printing, whatever follows the text of a tree. -/
theorem readsBack {tree : Json} (printable : tree.Printable) : ReadsBack tree := by
  induction tree using parts_induction with
  | step tree inside =>
    obtain ⟨here, below⟩ := every_iff.mp printable
    have each : ∀ part ∈ tree.parts, ReadsBack part := fun part member => inside part member (below part member)
    cases tree with
    | null => exact readsBack_literal (fun _ => rfl) fun _ _ => rfl
    | bool b =>
      cases b
      · exact readsBack_literal (fun _ => rfl) fun _ _ => rfl
      · exact readsBack_literal (fun _ => rfl) fun _ _ => rfl
    | number literal => exact readsBack_number here.2
    | string s => exact readsBack_string s
    | array items => exact readsBack_array printable each
    | object members =>
      exact fun fuel rest _ enough => value?_object_pieces printable (forall_parts_object.mp each) rest enough
    | gap kind => exact here.1.elim

end Reader

theorem parse?_render {tree : Json} (printable : tree.Printable) : parse? (render tree) = some tree := by
  have read := Reader.readsBack printable (2 * (render tree).toList.length + 2) [] delimited_nil (by
    rw [toList_render]
    exact Nat.le_add_right _ 2)
  rw [← toList_render] at read
  rw [parse?, read]
  rfl

theorem render_injective {tree other : Json} (printable : tree.Printable) (also : other.Printable)
    (same : render tree = render other) : tree = other := by
  have read := parse?_render printable
  rw [same, parse?_render also] at read
  exact (Option.some.inj read).symm

end Telemetry.Json
