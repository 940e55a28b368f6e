import Telemetry.Limits
import Telemetry.Proofs.Text.Blank
import Mathlib.Data.List.TakeWhile
import Mathlib.Data.Nat.Digits.Defs

/-! Which limit the content of a variable sets. The content is the text of a number up to 64 bits, with white
space around it or none. The number is written in decimal digits, with a plus sign before them or none
and with any number of leading zeros. All other content sets no limit. -/
namespace Telemetry

-- Powers are those of the core library, also where Mathlib brings its own.
attribute [local instance (high)] instPowNat

namespace Text

variable {lead core trail : List Char}

theorem dropWhile_isBlank_append (before : ∀ c ∈ lead, WhiteSpace c)
    (visible : ∀ c ∈ core.head?, isBlank c = false) (filled : core ≠ []) :
    (lead ++ (core ++ trail)).dropWhile isBlank = core ++ trail := by
  rw [List.dropWhile_append_of_pos fun c member => (isBlank_iff c).mpr (before c member)]
  cases core with
  | nil => exact absurd rfl filled
  | cons c core => exact List.dropWhile_cons_of_neg (Bool.eq_false_iff.mp (visible c rfl))

/-- Trimming takes away all white space around what begins and ends with something else. -/
theorem trim_append (before : ∀ c ∈ lead, WhiteSpace c) (after : ∀ c ∈ trail, WhiteSpace c)
    (first : ∀ c ∈ core.head?, isBlank c = false) (last : ∀ c ∈ core.getLast?, isBlank c = false)
    (filled : core ≠ []) : trim (lead ++ (core ++ trail)) = core := by
  have behind : ∀ c ∈ trail.reverse, WhiteSpace c := fun c member => after c (List.mem_reverse.mp member)
  have final : ∀ c ∈ core.reverse.head?, isBlank c = false := by rwa [List.head?_reverse]
  have shape : (core ++ trail).reverse = trail.reverse ++ (core.reverse ++ []) := by
    rw [List.reverse_append, List.append_nil]
  rw [trim, dropWhile_isBlank_append before first filled, shape,
    dropWhile_isBlank_append behind final (mt List.reverse_eq_nil_iff.mp filled), List.append_nil, List.reverse_reverse]

/-- Nothing but white space is trimmed. -/
theorem exists_trim (s : List Char) : ∃ lead trail, s = lead ++ (trim s ++ trail) ∧
    (∀ c ∈ lead, WhiteSpace c) ∧ ∀ c ∈ trail, WhiteSpace c := by
  refine ⟨s.takeWhile isBlank, ((s.dropWhile isBlank).reverse.takeWhile isBlank).reverse, ?_, ?_, ?_⟩
  · rw [trim, ← List.reverse_append, List.takeWhile_append_dropWhile, List.reverse_reverse,
      List.takeWhile_append_dropWhile]
  · exact fun c member => (isBlank_iff c).mp (List.mem_takeWhile_imp member)
  · exact fun c member => (isBlank_iff c).mp (List.mem_takeWhile_imp (List.mem_reverse.mp member))

end Text

namespace LimitVariable

/-- The text of a number: its digits, of which there is at least one, after a plus sign or no sign. -/
def Numeral (s : List Char) (n : Nat) : Prop :=
  ∃ sign digits, s = sign ++ digits ∧ (sign = [] ∨ sign = ['+']) ∧ digits ≠ [] ∧
    (∀ c ∈ digits, '0' ≤ c ∧ c ≤ '9') ∧
    Nat.ofDigits 10 (digits.reverse.map fun c => c.toNat - '0'.toNat) = n

def Sets (environment : Environment) (source : LimitVariable) (n : Nat) : Prop :=
  ∃ text : String, environment source = some text.toUTF8 ∧ ∃ lead numeral trail,
    text.toList = lead ++ (numeral ++ trail) ∧ (∀ c ∈ lead, Text.WhiteSpace c) ∧
    (∀ c ∈ trail, Text.WhiteSpace c) ∧ Numeral numeral n ∧ n ≤ 2 ^ 64 - 1

theorem isDigit_iff (c : Char) : c.isDigit = true ↔ '0' ≤ c ∧ c ≤ '9' := by
  simp [Char.isDigit, Char.le_def]

theorem visible_of_digit {c : Char} (digit : '0' ≤ c ∧ c ≤ '9') : Text.isBlank c = false := by
  have low : 48 ≤ c.toNat := digit.1
  have high : c.toNat ≤ 57 := digit.2
  simp only [Text.isBlank, Text.blankRanges, List.any_cons, List.any_nil, Bool.or_eq_false_iff,
    Bool.and_eq_false_iff, decide_eq_false_iff_not, and_true]
  omega

theorem foldl_eq_ofDigits (digits : List Char) :
    digits.foldl (fun n c => 10 * n + (c.toNat - '0'.toNat)) 0 =
      Nat.ofDigits 10 (digits.reverse.map fun c => c.toNat - '0'.toNat) := by
  rw [Nat.ofDigits_eq_foldr, List.foldr_map, List.foldr_reverse]
  simp only [Nat.cast_id, Nat.add_comm]

def unsigned (s : List Char) : List Char :=
  match s with
  | '+' :: rest => rest
  | _ => s

theorem exists_sign (s : List Char) : ∃ sign, s = sign ++ unsigned s ∧ (sign = [] ∨ sign = ['+']) := by
  unfold unsigned
  split
  · exact ⟨['+'], rfl, .inr rfl⟩
  · exact ⟨[], rfl, .inl rfl⟩

theorem unsigned_digits {digits : List Char} (all : ∀ c ∈ digits, '0' ≤ c ∧ c ≤ '9') :
    unsigned digits = digits := by
  unfold unsigned
  split
  · exact absurd (all '+' List.mem_cons_self) (by decide)
  · rfl

theorem number?_eq_some_iff {s : List Char} {n : Nat} :
    number? s = some n ↔ Numeral s n ∧ n ≤ 2 ^ 64 - 1 := by
  have shape : number? s = if !(unsigned s).isEmpty && (unsigned s).all Char.isDigit &&
      decide ((unsigned s).foldl (fun n c => 10 * n + (c.toNat - '0'.toNat)) 0 < 2 ^ 64) then
        some ((unsigned s).foldl (fun n c => 10 * n + (c.toNat - '0'.toNat)) 0) else none := rfl
  rw [shape, foldl_eq_ofDigits]
  simp only [Option.ite_none_right_eq_some, Bool.and_eq_true, Bool.not_eq_true', List.isEmpty_eq_false_iff,
    List.all_eq_true, isDigit_iff, decide_eq_true_eq, Option.some.injEq]
  constructor
  · rintro ⟨⟨⟨filled, digits⟩, small⟩, rfl⟩
    obtain ⟨sign, whole, plus⟩ := exists_sign s
    exact ⟨⟨sign, unsigned s, whole, plus, filled, digits, rfl⟩, by omega⟩
  · rintro ⟨⟨sign, digits, rfl, plus, filled, all, rfl⟩, small⟩
    have same : unsigned (sign ++ digits) = digits := by
      rcases plus with rfl | rfl
      · exact unsigned_digits all
      · rfl
    rw [same]
    exact ⟨⟨⟨filled, all⟩, by omega⟩, rfl⟩

/-- A numeral begins and ends with characters that are not white space. -/
theorem Numeral.visible {s : List Char} {n : Nat} (numeral : Numeral s n) : s ≠ [] ∧
    (∀ c ∈ s.head?, Text.isBlank c = false) ∧ ∀ c ∈ s.getLast?, Text.isBlank c = false := by
  obtain ⟨sign, digits, rfl, plus, filled, all, _⟩ := numeral
  have inside : ∀ c ∈ sign ++ digits, Text.isBlank c = false := by
    intro c member
    rcases List.mem_append.mp member with before | among
    · rcases plus with rfl | rfl
      · exact absurd before List.not_mem_nil
      · rw [List.mem_singleton.mp before]
        decide
    · exact visible_of_digit (all c among)
  exact ⟨List.append_ne_nil_of_right_ne_nil sign filled, fun c first => inside c (List.mem_of_mem_head? first),
    fun c last => inside c (List.mem_of_mem_getLast? last)⟩

theorem text?_eq_some_iff {environment : Environment} {source : LimitVariable} {text : String} :
    source.text? environment = some text ↔ environment source = some text.toUTF8 := by
  rw [text?, Option.bind_eq_some_iff]
  constructor
  · rintro ⟨content, given, read⟩
    unfold String.fromUTF8? at read
    split at read
    · cases read
      exact given
    · contradiction
  · intro given
    refine ⟨text.toUTF8, given, ?_⟩
    rw [String.fromUTF8?, String.toUTF8_eq_toByteArray, dif_pos text.isValidUTF8]
    rfl

theorem read?_eq_some_iff {environment : Environment} {source : LimitVariable} {n : Nat} :
    source.read? environment = some n ↔ source.Sets environment n := by
  rw [read?, Option.bind_eq_some_iff]
  constructor
  · rintro ⟨text, valid, read⟩
    obtain ⟨numeral, small⟩ := number?_eq_some_iff.mp read
    obtain ⟨lead, trail, whole, before, after⟩ := Text.exists_trim text.toList
    exact ⟨text, text?_eq_some_iff.mp valid, lead, _, trail, whole, before, after, numeral, small⟩
  · rintro ⟨text, given, lead, numeral, trail, whole, before, after, meaning, small⟩
    obtain ⟨filled, first, last⟩ := meaning.visible
    refine ⟨text, text?_eq_some_iff.mpr given, ?_⟩
    rw [whole, Text.trim_append before after first last filled]
    exact number?_eq_some_iff.mpr ⟨meaning, small⟩

end LimitVariable

end Telemetry
