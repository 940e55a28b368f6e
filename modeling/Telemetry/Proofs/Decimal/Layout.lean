import Telemetry.Decimal.Double
import Telemetry.Proofs.Decimal.Interval
import Telemetry.Proofs.Json.Number

/-! What the text of a decimal says. A text is taken apart into the digits before and after the point and
the exponent. The parts make a number token, they can be recovered from the text, and together they
denote the decimal that was laid out. -/
namespace Telemetry.Decimal

open Json (WholePart FractionPart ExponentPart NumberToken)

structure Parts where
  whole : List Char
  fraction : List Char
  exponent : Option ℤ

namespace Parts

def point : List Char → List Char
  | [] => []
  | digits => '.' :: digits

def power : Option ℤ → List Char
  | none => []
  | some exponent => 'e' :: (if exponent < 0 then '-' else '+') :: Nat.toDigits 10 exponent.natAbs

def text (parts : Parts) : List Char :=
  parts.whole ++ (point parts.fraction ++ power parts.exponent)

def value (parts : Parts) : ℚ :=
  Nat.ofDigitChars 10 (parts.whole ++ parts.fraction) 0 * 10 ^ (parts.exponent.getD 0 - parts.fraction.length)

structure WellFormed (parts : Parts) : Prop where
  whole : WholePart parts.whole
  fraction : allDigits parts.fraction

theorem WellFormed.token {parts : Parts} (formed : parts.WellFormed) {sign : List Char}
    (signed : sign = [] ∨ sign = ['-']) : NumberToken (sign ++ parts.text) := by
  obtain ⟨whole, fraction, exponent⟩ := parts
  refine .parts signed formed.whole ?_ ?_
  · cases fraction with
    | nil => exact .absent
    | cons c cs => exact .present (List.cons_ne_nil c cs) formed.fraction
  · cases exponent with
    | none => exact .absent
    | some e =>
      have marked : ('e' = 'e' ∨ 'e' = 'E') := .inl rfl
      by_cases negative : e < 0
      · rw [power, if_pos negative]
        exact .present marked (.inr (.inr rfl)) Nat.toDigits_ne_nil (allDigits_toDigits _)
      · rw [power, if_neg negative]
        exact .present marked (.inr (.inl rfl)) Nat.toDigits_ne_nil (allDigits_toDigits _)

private theorem power_injective {e f : Option ℤ} (same : power e = power f) : e = f := by
  cases e <;> cases f
  · rfl
  · simp [power] at same
  · simp [power] at same
  · rename_i e f
    simp only [power, List.cons.injEq, true_and] at same
    obtain ⟨sign, digits⟩ := same
    have size := toDigits_injective digits
    congr 1
    split at sign <;> split at sign
    · omega
    · exact absurd sign (by decide)
    · exact absurd sign (by decide)
    · omega

private theorem power_head (e : Option ℤ) : ∀ c ∈ (power e).head?, c = 'e' := by
  intro c member
  cases e with
  | none => simp [power] at member
  | some e => simpa [power] using member.symm

private theorem endsDigits_power (e : Option ℤ) : EndsDigits (power e) := by
  intro c member
  rw [power_head e c member]
  decide

private theorem endsDigits_tail (fraction : List Char) (e : Option ℤ) :
    EndsDigits (point fraction ++ power e) := by
  cases fraction with
  | nil => exact endsDigits_power e
  | cons d digits =>
    intro c member
    obtain rfl := Option.some.inj member
    decide

private theorem power_ne_point (e : Option ℤ) (tail : List Char) : power e ≠ '.' :: tail := by
  intro same
  exact absurd (power_head e '.' (by rw [same]; rfl)) (by decide)

theorem text_injective {a b : Parts} (left : a.WellFormed) (right : b.WellFormed)
    (same : a.text = b.text) : a = b := by
  obtain ⟨whole, fraction, exponent⟩ := a
  obtain ⟨whole', fraction', exponent'⟩ := b
  obtain ⟨sameWhole, tails⟩ := digits_append_inj left.whole.allDigits right.whole.allDigits
    (endsDigits_tail fraction exponent) (endsDigits_tail fraction' exponent') same
  have both : fraction = fraction' ∧ power exponent = power exponent' := by
    cases fraction with
    | nil =>
      cases fraction' with
      | nil => exact ⟨rfl, tails⟩
      | cons d digits => exact absurd tails (power_ne_point _ _)
    | cons c cs =>
      cases fraction' with
      | nil => exact absurd tails.symm (power_ne_point _ _)
      | cons d digits =>
        exact digits_append_inj left.fraction right.fraction (endsDigits_power exponent)
          (endsDigits_power exponent') (List.cons.inj tails).2
  rw [Parts.mk.injEq]
  exact ⟨sameWhole, both.1, power_injective both.2⟩

end Parts

namespace Style

def positionalParts (digits : List Char) (place : ℤ) : Parts :=
  let whole : ℤ := (digits.length : ℤ) + place
  if 0 ≤ place then ⟨digits ++ List.replicate place.toNat '0', ['0'], none⟩
  else if 0 < whole then ⟨digits.take whole.toNat, digits.drop whole.toNat, none⟩
  else ⟨['0'], List.replicate (-whole).toNat '0' ++ digits, none⟩

def parts (style : Style) (number : Scaled) : Parts :=
  let digits := Nat.toDigits 10 number.digits
  let exponent : ℤ := (digits.length : ℤ) - 1 + number.exponent
  if style.least ≤ exponent && exponent ≤ style.greatest then positionalParts digits number.exponent
  else ⟨digits.take 1, digits.drop 1, some exponent⟩

private theorem point_of_ne_nil {digits : List Char} (nonempty : digits ≠ []) :
    Parts.point digits = '.' :: digits := by
  cases digits with
  | nil => contradiction
  | cons c cs => rfl

private theorem drop_ne_nil {digits : List Char} {place : ℤ} (negative : ¬ 0 ≤ place)
    (inside : 0 < (digits.length : ℤ) + place) :
    digits.drop ((digits.length : ℤ) + place).toNat ≠ [] := by
  intro empty
  have size := List.drop_eq_nil_iff.mp empty
  omega

private theorem text_positionalParts (digits : List Char) (place : ℤ) (nonempty : digits ≠ []) :
    (positionalParts digits place).text = positional digits place := by
  unfold positionalParts positional Parts.text
  simp only
  split
  · simp [Parts.point, Parts.power]
  · rename_i negative
    split
    · rename_i inside
      simp [point_of_ne_nil (drop_ne_nil negative inside), Parts.power]
    · simp [point_of_ne_nil (List.append_ne_nil_of_right_ne_nil _ nonempty), Parts.power]

theorem text_parts (style : Style) (number : Scaled) :
    (style.parts number).text = style.layout number := by
  unfold parts layout
  simp only
  split
  · exact text_positionalParts _ _ Nat.toDigits_ne_nil
  · simp only [Parts.text, scientific, Parts.power, List.append_assoc]
    congr 2

private theorem value_positionalParts (n : ℕ) (place : ℤ) :
    (positionalParts (Nat.toDigits 10 n) place).value = n * 10 ^ place := by
  unfold positionalParts
  simp only
  split
  · rename_i whole
    have size : ((place.toNat : ℕ) : ℤ) = place := Int.toNat_of_nonneg whole
    simp only [Parts.value, List.append_assoc, Nat.ofDigitChars_append, Nat.ofDigitChars_replicate_zero]
    norm_num [Nat.ofDigitChars_cons]
    rw [← zpow_natCast, size]
    ring
  · rename_i negative
    split
    · rename_i inside
      simp only [Parts.value, List.take_append_drop, Nat.ofDigitChars_ten_toDigits, Option.getD_none,
        List.length_drop]
      congr 2
      omega
    · rename_i outside
      simp only [Parts.value, List.cons_append, List.nil_append, Nat.ofDigitChars_cons,
        Nat.ofDigitChars_append, Option.getD_none, List.length_append, List.length_replicate]
      norm_num
      left
      omega

theorem value_parts (style : Style) (number : Scaled) : (style.parts number).value = number.value := by
  unfold parts
  simp only
  split
  · exact value_positionalParts _ _
  · have size := @Nat.length_toDigits_pos 10 number.digits
    simp only [Parts.value, List.take_append_drop, Nat.ofDigitChars_ten_toDigits, Option.getD_some,
      List.length_drop, Scaled.value]
    congr 2
    omega

private theorem wholePart_append {digits cs : List Char} (nonempty : digits ≠ []) (all : allDigits digits)
    (leading : digits.head? ≠ some '0') (more : allDigits cs) : WholePart (digits ++ cs) := by
  refine .digits (List.append_ne_nil_of_left_ne_nil nonempty _) (allDigits_append all more) ?_
  cases digits with
  | nil => contradiction
  | cons c digits => exact leading

private theorem wholePart_take {digits : List Char} {count : ℕ} (positive : 0 < count)
    (all : allDigits digits) (nonempty : digits ≠ []) (leading : digits.head? ≠ some '0') :
    WholePart (digits.take count) := by
  cases digits with
  | nil => contradiction
  | cons c digits =>
    obtain ⟨count, rfl⟩ := Nat.exists_eq_succ_of_ne_zero positive.ne'
    exact .digits (List.cons_ne_nil _ _) (fun d member => all d (List.mem_of_mem_take member)) leading

theorem wellFormed_parts (style : Style) {number : Scaled}
    (reduced : 0 < number.digits ∨ number = ⟨0, 0⟩) : (style.parts number).WellFormed := by
  rcases reduced with positive | rfl
  · have all := allDigits_toDigits number.digits
    have nonempty := @Nat.toDigits_ne_nil number.digits 10
    have leading := head_toDigits positive
    unfold parts positionalParts
    simp only
    split
    · split
      · refine ⟨wholePart_append nonempty all leading (allDigits_zeros _), ?_⟩
        exact allDigits_zeros 1
      · split
        · exact ⟨wholePart_take (by omega) all nonempty leading,
            fun c member => all c (List.mem_of_mem_drop member)⟩
        · exact ⟨.zero, allDigits_append (allDigits_zeros _) all⟩
    · exact ⟨wholePart_take (by decide) all nonempty leading,
        fun c member => all c (List.mem_of_mem_drop member)⟩
  · unfold parts positionalParts
    simp only [Nat.toDigits_zero]
    split
    · exact ⟨.zero, allDigits_zeros 1⟩
    · exact ⟨.zero, fun c member => by simp at member⟩

theorem layout_injective (style : Style) {a b : Scaled} (left : 0 < a.digits ∨ a = ⟨0, 0⟩)
    (right : 0 < b.digits ∨ b = ⟨0, 0⟩) (same : style.layout a = style.layout b) :
    a.value = b.value := by
  rw [← text_parts, ← text_parts] at same
  have equal := Parts.text_injective (style.wellFormed_parts left) (style.wellFormed_parts right) same
  rw [← style.value_parts, equal, style.value_parts]

theorem numberToken_layout (style : Style) {number : Scaled} (reduced : 0 < number.digits ∨ number = ⟨0, 0⟩)
    {sign : List Char} (signed : sign = [] ∨ sign = ['-']) :
    NumberToken (sign ++ style.layout number) := by
  rw [← text_parts]
  exact (style.wellFormed_parts reduced).token signed

end Style

end Telemetry.Decimal
