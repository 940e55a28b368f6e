import Telemetry.Proofs.Text.Utf8
import Telemetry.Text.Slicing
import Telemetry.Text.Truncation
import Mathlib.Data.List.Infix

/-! Truncated texts. A limit counts characters, and the cut is made at an offset in the bytes. The offset falls
between two characters, so the bytes before it are the text of the first characters: the longest
beginning of the text that the limit allows. Of several limits the smallest decides. -/
namespace Telemetry.Text

section Bytes

private theorem isContinuation_ofNat {n : Nat} (small : n < 0x100) :
    isContinuation (UInt8.ofNat n) = decide (0x80 ≤ n ∧ n < 0xc0) := by
  simp only [isContinuation, UInt8.le_iff_toNat_le, UInt8.lt_iff_toNat_lt, UInt8.toNat_ofNat_of_lt' small,
    Bool.decide_and]
  rfl

private theorem isContinuation_low (n : Nat) : isContinuation (UInt8.ofNat (n % 64 + 128)) = true := by
  rw [isContinuation_ofNat (by omega), decide_eq_true_iff]
  omega

private theorem characterSize_ofNat {n : Nat} (small : n < 0x100) : characterSize (UInt8.ofNat n) =
    if n < 0x80 then 1 else if n < 0xe0 then 2 else if n < 0xf0 then 3 else 4 := by
  simp only [characterSize, UInt8.lt_iff_toNat_lt, UInt8.toNat_ofNat_of_lt' small]
  rfl

/-- The first byte of a character tells the number of its bytes, and only the others are continuations. -/
theorem exists_utf8EncodeChar (c : Char) : ∃ first rest, String.utf8EncodeChar c = first :: rest ∧
    characterSize first = rest.length + 1 ∧ isContinuation first = false ∧
    ∀ byte ∈ rest, isContinuation byte = true := by
  have top : c.val.toNat < 0x110000 := by
    have valid := c.valid
    simp only [UInt32.isValidChar, Nat.isValidChar] at valid
    omega
  unfold String.utf8EncodeChar
  generalize c.val.toNat = n at top ⊢
  simp only
  split_ifs
  all_goals
    refine ⟨_, _, rfl, ?size, ?first, ?rest⟩
    case size =>
      rw [characterSize_ofNat (by omega)]
      simp only [List.length_cons, List.length_nil]
      split_ifs <;> omega
    case first =>
      rw [isContinuation_ofNat (by omega), decide_eq_false_iff_not]
      omega
    case rest =>
      simp only [List.mem_cons, List.not_mem_nil, or_false, forall_eq_or_imp, forall_eq, isContinuation_low,
        and_self, false_imp_iff, implies_true]

end Bytes

section Characters

def encoded (cs : List Char) : List UInt8 :=
  cs.flatMap String.utf8EncodeChar

theorem encoded_append (cs ds : List Char) : encoded (cs ++ ds) = encoded cs ++ encoded ds :=
  List.flatMap_append

theorem utf8EncodeChar_inj {c d : Char} (same : String.utf8EncodeChar c = String.utf8EncodeChar d) : c = d := by
  have texts : utf8 (String.singleton c) = utf8 (String.singleton d) := by
    simp only [utf8_eq_flatMap, String.toList_singleton, List.flatMap_singleton, same]
  exact String.singleton_inj.mp (utf8_injective texts)

/-- The bytes of two characters differ before either of them ends. -/
theorem utf8EncodeChar_append_inj {c d : Char} {rest others : List UInt8}
    (same : String.utf8EncodeChar c ++ rest = String.utf8EncodeChar d ++ others) : c = d ∧ rest = others := by
  obtain ⟨first, tail, bytes, size, _⟩ := exists_utf8EncodeChar c
  obtain ⟨start, last, codes, width, _⟩ := exists_utf8EncodeChar d
  have lengths : (String.utf8EncodeChar c).length = (String.utf8EncodeChar d).length := by
    rw [bytes, codes] at same ⊢
    obtain ⟨rfl, _⟩ := List.cons.inj same
    exact size.symm.trans width
  obtain ⟨characters, rests⟩ := List.append_inj same lengths
  exact ⟨utf8EncodeChar_inj characters, rests⟩

theorem encoded_prefix_iff {cs ds : List Char} : encoded cs <+: encoded ds ↔ cs <+: ds := by
  constructor
  · intro begins
    induction cs generalizing ds with
    | nil => exact List.nil_prefix
    | cons c cs ih =>
      obtain ⟨others, whole⟩ := begins
      cases ds with
      | nil =>
        have empty : String.utf8EncodeChar c ++ (encoded cs ++ others) = [] := by
          rw [← List.append_assoc]
          exact whole
        exact absurd (List.append_eq_nil_iff.mp empty).1 String.utf8EncodeChar_ne_nil
      | cons d ds =>
        have split : String.utf8EncodeChar c ++ (encoded cs ++ others) = String.utf8EncodeChar d ++ encoded ds := by
          rw [← List.append_assoc]
          exact whole
        obtain ⟨rfl, rests⟩ := utf8EncodeChar_append_inj split
        exact List.prefix_cons_inj c |>.mpr (ih ⟨others, rests⟩)
  · rintro ⟨rest, rfl⟩
    rw [encoded_append]
    exact List.prefix_append _ _

/-- The offset behind some characters is the number of their bytes. -/
theorem offset?_encoded (count : Nat) (cs : List Char) :
    offset? count (encoded cs) = if count < cs.length then some (encoded (cs.take count)).length else none := by
  induction count generalizing cs with
  | zero =>
    cases cs with
    | nil => rfl
    | cons c cs =>
      obtain ⟨first, rest, bytes, _⟩ := exists_utf8EncodeChar c
      rw [encoded, List.flatMap_cons, bytes, List.cons_append, offset?, List.length_cons, if_pos (Nat.zero_lt_succ _)]
      rfl
  | succ count ih =>
    cases cs with
    | nil => rfl
    | cons c cs =>
      obtain ⟨first, rest, bytes, size, _⟩ := exists_utf8EncodeChar c
      have behind : (rest ++ encoded cs).drop (characterSize first - 1) = encoded cs := by
        rw [size, Nat.add_sub_cancel, List.drop_left]
      have whole : ∀ ds, encoded (c :: ds) = first :: (rest ++ encoded ds) := by
        intro ds
        rw [encoded, List.flatMap_cons, bytes, List.cons_append, encoded]
      rw [whole, offset?, behind, ih, List.take_succ_cons, whole]
      simp only [List.length_cons, Nat.add_lt_add_iff_right, List.length_append]
      split
      · rw [Option.map_some, size, Nat.add_right_comm]
      · rfl

theorem isBoundary_append {bytes : List UInt8} {offset : Nat} (behind : bytes.length ≤ offset) (more : List UInt8) :
    isBoundary (bytes ++ more) offset = isBoundary more (offset - bytes.length) := by
  have ends : offset = (bytes ++ more).length ↔ offset - bytes.length = more.length := by
    rw [List.length_append]
    omega
  rw [isBoundary, List.getElem?_append_right behind, isBoundary]
  simp only [ends]

theorem isBoundary_within {c : Char} {offset : Nat} (within : offset < (String.utf8EncodeChar c).length)
    (more : List UInt8) : isBoundary (String.utf8EncodeChar c ++ more) offset = true ↔ offset = 0 := by
  obtain ⟨first, rest, bytes, _, start, inside⟩ := exists_utf8EncodeChar c
  have byte : (String.utf8EncodeChar c ++ more)[offset]? = (first :: rest)[offset]? := by
    rw [List.getElem?_append_left within, bytes]
  rw [bytes] at within
  rw [isBoundary, byte, List.getElem?_eq_getElem within]
  simp only [Bool.not_eq_true']
  cases offset with
  | zero => exact iff_of_true start rfl
  | succ place =>
    have continues := inside _ (List.getElem_mem (Nat.lt_of_succ_lt_succ within))
    exact iff_of_false (Bool.not_eq_false _ ▸ continues) (Nat.succ_ne_zero place)

/-- Bytes can be cut at an offset just when the first characters, however many, end there. -/
theorem isBoundary_encoded_iff (cs : List Char) (offset : Nat) :
    isBoundary (encoded cs) offset = true ↔ ∃ count, offset = (encoded (cs.take count)).length := by
  induction cs generalizing offset with
  | nil =>
    have empty : isBoundary (encoded []) offset = decide (offset = 0) := rfl
    simp only [empty, decide_eq_true_iff, List.take_nil, exists_const]
    rfl
  | cons c cs ih =>
    have counts : (∃ count, offset = (encoded ((c :: cs).take count)).length) ↔
        offset = 0 ∨ ∃ count, offset = (encoded (c :: cs.take count)).length := by
      constructor
      · rintro ⟨count, rfl⟩
        cases count with
        | zero => exact .inl rfl
        | succ count => exact .inr ⟨count, rfl⟩
      · rintro (rfl | ⟨count, rfl⟩)
        · exact ⟨0, rfl⟩
        · exact ⟨count + 1, rfl⟩
    have whole : ∀ ds, encoded (c :: ds) = String.utf8EncodeChar c ++ encoded ds := fun _ => List.flatMap_cons
    have size := List.length_pos_iff.mpr (String.utf8EncodeChar_ne_nil (c := c))
    simp only [counts, whole, List.length_append]
    rcases Nat.lt_or_ge offset (String.utf8EncodeChar c).length with within | behind
    · rw [isBoundary_within within]
      refine (or_iff_left ?_).symm
      rintro ⟨count, rfl⟩
      omega
    · rw [isBoundary_append behind, ih]
      refine (exists_congr fun count => ?_).trans (or_iff_right ?_).symm
      · omega
      · omega

end Characters

theorem utf8_eq_encoded (s : String) : utf8 s = encoded s.toList :=
  utf8_eq_flatMap s

theorem utf8_prefix_iff {s t : String} : utf8 s <+: utf8 t ↔ s.toList <+: t.toList := by
  rw [utf8_eq_encoded, utf8_eq_encoded, encoded_prefix_iff]

/-- A cut between two characters parts the text. -/
theorem isBoundary_utf8_iff (s : String) (offset : Nat) :
    isBoundary (utf8 s) offset = true ↔ ∃ before after, s = before ++ after ∧ offset = (utf8 before).length := by
  rw [utf8_eq_encoded, isBoundary_encoded_iff]
  constructor
  · rintro ⟨count, rfl⟩
    refine ⟨String.ofList (s.toList.take count), String.ofList (s.toList.drop count), ?_, ?_⟩
    · rw [← String.ofList_append, List.take_append_drop, String.ofList_toList]
    · rw [utf8_eq_encoded, String.toList_ofList]
  · rintro ⟨before, after, rfl, rfl⟩
    refine ⟨before.toList.length, ?_⟩
    rw [utf8_eq_encoded, String.toList_append, List.take_left]

section Limits

variable (s : String)

theorem offset?_utf8 (count : Nat) : offset? count (utf8 s) =
    if count < s.length then some (utf8 (truncate (some count) s)).length else none := by
  rw [utf8_eq_encoded, offset?_encoded, utf8_eq_encoded, toList_truncate, String.length_toList]

theorem utf8_truncate_append (count : Nat) :
    utf8 (truncate (some count) s) ++ encoded (s.toList.drop count) = utf8 s := by
  rw [utf8_eq_encoded, toList_truncate, ← encoded_append, List.take_append_drop, utf8_eq_encoded]

theorem take_utf8_truncate (count : Nat) :
    (utf8 s).take (utf8 (truncate (some count) s)).length = utf8 (truncate (some count) s) := by
  rw [← utf8_truncate_append s count, List.take_left]

theorem isBoundary_truncate (count : Nat) :
    isBoundary (utf8 s) (utf8 (truncate (some count) s)).length = true := by
  rw [utf8_eq_encoded, isBoundary_encoded_iff]
  exact ⟨count, by rw [utf8_eq_encoded, toList_truncate]⟩

theorem truncate_eq_self_iff (limit : Option Nat) : truncate limit s = s ↔ ∀ count ∈ limit, s.length ≤ count := by
  cases limit with
  | none => exact iff_of_true rfl fun _ impossible => nomatch impossible
  | some count =>
    rw [← String.toList_inj, toList_truncate, List.take_eq_self_iff, String.length_toList]
    simp only [Option.mem_some_iff, forall_eq']

theorem cut?_utf8 (limit : Option Nat) : cut? limit (utf8 s) = some (utf8 (truncate limit s)) := by
  cases limit with
  | none => rfl
  | some count =>
    unfold cut?
    rw [Option.bind_some, offset?_utf8]
    split_ifs with longer
    · simp only [slice?, isBoundary_truncate, if_true, take_utf8_truncate]
    · have whole := (truncate_eq_self_iff s (some count)).mpr fun _ same =>
        Option.some.inj same ▸ Nat.le_of_not_lt longer
      rw [whole]

theorem truncate_truncate (first second : Nat) :
    truncate (some second) (truncate (some first) s) = truncate (some (min first second)) s := by
  rw [← String.toList_inj, toList_truncate, toList_truncate, toList_truncate, List.take_take, Nat.min_comm]

end Limits

structure LongestBeginning (count : Nat) (s t : String) : Prop where
  begins : utf8 t <+: utf8 s
  short : t.length ≤ count
  longest : ∀ u : String, utf8 u <+: utf8 s → u.length ≤ count → utf8 u <+: utf8 t

theorem longestBeginning_truncate (count : Nat) (s : String) :
    LongestBeginning count s (truncate (some count) s) := by
  refine ⟨⟨_, utf8_truncate_append s count⟩, ?short, ?longest⟩
  case short =>
    rw [← String.length_toList, toList_truncate]
    exact List.length_take_le count s.toList
  case longest =>
    intro u begins short
    rw [utf8_prefix_iff] at begins ⊢
    rw [toList_truncate]
    exact List.prefix_take_iff.mpr ⟨begins, String.length_toList ▸ short⟩

/-- Truncation cuts between two characters of the text and inside its bytes, so that the cut is always made,
and leaves the longest beginning that the limit allows. Limits in a row act as the smallest of them. -/
theorem truncation_keeps_characters_whole (s : String) :
    (∀ offset, isBoundary (utf8 s) offset = true ↔
        ∃ before after, s = before ++ after ∧ offset = (utf8 before).length) ∧
      (∀ count offset, offset? count (utf8 s) = some offset → offset ≤ (utf8 s).length ∧
        isBoundary (utf8 s) offset = true ∧ (utf8 s).take offset = utf8 (truncate (some count) s)) ∧
      (∀ limit, cut? limit (utf8 s) = some (utf8 (truncate limit s)) ∧
        (truncate limit s = s ↔ ∀ count ∈ limit, s.length ≤ count)) ∧
      (∀ count, LongestBeginning count s (truncate (some count) s)) ∧
      (∀ first second, truncate (some second) (truncate (some first) s) = truncate (some (min first second)) s) ∧
      (∀ limit, truncate limit (truncate limit s) = truncate limit s) ∧
      ∀ fewer more, fewer ≤ more → utf8 (truncate (some fewer) s) <+: utf8 (truncate (some more) s) := by
  refine ⟨isBoundary_utf8_iff s, ?offsets, fun limit => ⟨cut?_utf8 s limit, truncate_eq_self_iff s limit⟩,
    fun count => longestBeginning_truncate count s, truncate_truncate s, ?again, ?monotone⟩
  case offsets =>
    intro count offset found
    rw [offset?_utf8, Option.ite_none_right_eq_some] at found
    obtain rfl := Option.some.inj found.2
    exact ⟨(longestBeginning_truncate count s).begins.length_le, isBoundary_truncate s count,
      take_utf8_truncate s count⟩
  case again =>
    intro limit
    cases limit with
    | none => rfl
    | some count => rw [truncate_truncate, Nat.min_self]
  case monotone =>
    intro fewer more less
    rw [utf8_prefix_iff, toList_truncate, toList_truncate]
    exact List.take_isPrefix_take.mpr (.inl less)

/-- Characters of one to four bytes, cut behind the third of them. -/
theorem truncation_keeps_characters_whole_wide :
    offset? 3 (utf8 "aé€😀z") = some 6 ∧ isBoundary (utf8 "aé€😀z") 6 = true ∧
      isBoundary (utf8 "aé€😀z") 7 = false ∧ cut? (some 3) (utf8 "aé€😀z") = some (utf8 "aé€") ∧
      truncate (some 6) "aé€😀z" = "aé€😀z" ∧
      utf8 (truncate (some 2) "aé€😀z") <+: utf8 (truncate (some 3) "aé€😀z") := by
  obtain ⟨_, offsets, cuts, _, _, _, monotone⟩ := truncation_keeps_characters_whole "aé€😀z"
  have found : offset? 3 (utf8 "aé€😀z") = some 6 := by decide
  have kept : truncate (some 3) "aé€😀z" = "aé€" := by decide
  refine ⟨found, (offsets 3 6 found).2.1, by decide, kept ▸ (cuts (some 3)).1, ?_, monotone 2 3 (by decide)⟩
  exact (cuts (some 6)).2.mpr (by decide)

end Telemetry.Text
