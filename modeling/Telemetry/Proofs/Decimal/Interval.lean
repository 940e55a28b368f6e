import Telemetry.Decimal.Shortest
import Mathlib.Algebra.Order.Field.Rat
import Mathlib.Tactic.FieldSimp
import Mathlib.Tactic.Linarith
import Mathlib.Tactic.Positivity
import Mathlib.Tactic.Ring

/-! The interval of rational numbers that round to a binary number, and that the shortest decimal lies in
it. The intervals of different numbers of one format do not meet, so a decimal in such an interval
determines the number. -/
namespace Telemetry.Decimal

def Scaled.value (number : Scaled) : ℚ :=
  number.digits * 10 ^ number.exponent

namespace Dyadic

def lower (x : Dyadic) : ℚ :=
  (x.significand - if x.narrow then 1 / 4 else 1 / 2) * 2 ^ x.exponent

def upper (x : Dyadic) : ℚ :=
  (x.significand + 1 / 2) * 2 ^ x.exponent

/-- The ends of the interval belong to it when the significand is even. -/
structure Covers (x : Dyadic) (v : ℚ) : Prop where
  lower_le : x.lower ≤ v
  le_upper : v ≤ x.upper
  inside : x.significand % 2 = 1 → x.lower < v ∧ v < x.upper

/-- The numbers of the 64-bit format: all significands have 53 binary places, but for the least exponent. -/
structure Binary64 (x : Dyadic) : Prop where
  significand_lt : x.significand < 2 ^ 53
  normal : -1074 < x.exponent → 2 ^ 52 ≤ x.significand
  narrow : -1074 < x.exponent → x.significand = 2 ^ 52 → x.narrow = true
  least : -1074 ≤ x.exponent

private theorem zpow_eq_div (base : ℚ) (z : ℤ) :
    base ^ z = base ^ z.toNat / base ^ (-z).toNat := by
  rcases Int.le_total 0 z with up | down
  · rw [Int.toNat_of_nonpos (by omega : -z ≤ 0), pow_zero, div_one, ← zpow_natCast, Int.toNat_of_nonneg up]
  · rw [Int.toNat_of_nonpos down, pow_zero, one_div, ← zpow_natCast, ← zpow_neg,
      Int.toNat_of_nonneg (by omega)]
    congr 1
    omega

/-- Scaling by the quarter of the last place turns comparisons of natural numbers into comparisons of
rational ones. -/
private theorem quarter_scale (x : Dyadic) (place : ℤ) :
    ∃ unit : ℚ, 0 < unit ∧ ((x.quarter place).1 : ℚ) = 2 ^ (x.exponent - 2) * unit ∧
      ((x.quarter place).2 : ℚ) = 10 ^ place * unit := by
  refine ⟨2 ^ (2 - x.exponent).toNat * 10 ^ (-place).toNat, by positivity, ?_, ?_⟩
  · rw [zpow_eq_div 2 (x.exponent - 2), show -(x.exponent - 2) = 2 - x.exponent by ring]
    simp only [quarter]
    push_cast
    field_simp
  · rw [zpow_eq_div 10 place]
    simp only [quarter]
    push_cast
    field_simp

private theorem quarter_pow (z : ℤ) : (2 : ℚ) ^ z = 4 * 2 ^ (z - 2) := by
  rw [zpow_sub₀ (by norm_num)]
  norm_num
  ring

private theorem scale_le {u d a c : ℕ} {g t unit : ℚ} (positive : 0 < unit) (up : (u : ℚ) = g * unit)
    (down : (d : ℚ) = t * unit) : a * u ≤ c * d ↔ (a : ℚ) * g ≤ c * t := by
  have cast : a * u ≤ c * d ↔ (a : ℚ) * u ≤ c * d := by exact_mod_cast Iff.rfl
  rw [cast, up, down, ← mul_assoc, ← mul_assoc, mul_le_mul_iff_of_pos_right positive]

private theorem lower_le_quarters (x : Dyadic) :
    x.lower ≤ ((4 * x.significand - if x.narrow then 1 else 2 : ℕ) : ℚ) * 2 ^ (x.exponent - 2) := by
  have place : (0 : ℚ) < 2 ^ (x.exponent - 2) := zpow_pos (by norm_num) _
  have cut : (4 * x.significand : ℚ) - (if x.narrow then 1 else 2 : ℕ) ≤
      ((4 * x.significand - if x.narrow then 1 else 2 : ℕ) : ℚ) := by
    have truncated : 4 * x.significand ≤
        (4 * x.significand - if x.narrow then 1 else 2) + if x.narrow then 1 else 2 := by omega
    have cast : (4 * x.significand : ℚ) ≤ ((4 * x.significand - if x.narrow then 1 else 2 : ℕ) : ℚ) +
        (if x.narrow then 1 else 2 : ℕ) := by exact_mod_cast truncated
    linarith
  rw [lower, quarter_pow]
  have shape : (x.significand - if x.narrow then 1 / 4 else 1 / 2) * (4 * 2 ^ (x.exponent - 2)) =
      ((4 * x.significand : ℚ) - (if x.narrow then 1 else 2 : ℕ)) * 2 ^ (x.exponent - 2) := by
    split <;> push_cast <;> ring
  rw [shape]
  exact mul_le_mul_of_nonneg_right cut place.le

private theorem upper_eq_quarters (x : Dyadic) :
    x.upper = ((4 * x.significand + 2 : ℕ) : ℚ) * 2 ^ (x.exponent - 2) := by
  rw [upper, quarter_pow]
  push_cast
  ring

theorem covers_of_reads {x : Dyadic} {place : ℤ} {candidate : ℕ}
    (hit : x.reads place candidate = true) : x.Covers (Scaled.value ⟨candidate, place⟩) := by
  obtain ⟨unit, positive, up, down⟩ := quarter_scale x place
  have low := lower_le_quarters x
  have high := upper_eq_quarters x
  simp only [reads] at hit
  split at hit
  · rename_i even
    simp only [Bool.and_eq_true, decide_eq_true_eq] at hit
    have left := (scale_le positive up down).mp hit.1
    have right := (scale_le positive down up).mp hit.2
    refine ⟨low.trans left, high ▸ right, ?_⟩
    intro odd
    omega
  · simp only [Bool.and_eq_true, decide_eq_true_eq] at hit
    have left := lt_of_not_ge (mt (scale_le positive down up).mpr (not_le_of_gt hit.1))
    have right := lt_of_not_ge (mt (scale_le positive up down).mpr (not_le_of_gt hit.2))
    have below := low.trans_lt left
    have above : Scaled.value ⟨candidate, place⟩ < x.upper := high ▸ right
    exact ⟨below.le, above.le, fun _ => ⟨below, above⟩⟩

private theorem covers_exact (x : Dyadic) : x.Covers (x.significand * 2 ^ x.exponent) := by
  have place : (0 : ℚ) < 2 ^ x.exponent := zpow_pos (by norm_num) _
  have below : x.lower < x.significand * 2 ^ x.exponent := by
    apply mul_lt_mul_of_pos_right _ place
    split <;> linarith
  have above : x.significand * 2 ^ x.exponent < x.upper := by
    apply mul_lt_mul_of_pos_right _ place
    linarith
  exact ⟨below.le, above.le, fun _ => ⟨below, above⟩⟩

private theorem value_expansion (x : Dyadic) :
    x.expansion.value = x.significand * 2 ^ x.exponent := by
  unfold expansion
  split
  · rename_i whole
    simp only [Scaled.value]
    push_cast
    rw [mul_one, ← zpow_natCast, Int.toNat_of_nonneg whole]
  · have size : ((-x.exponent).toNat : ℤ) = -x.exponent := Int.toNat_of_nonneg (by omega)
    simp only [Scaled.value]
    push_cast
    rw [← zpow_natCast, size, zpow_neg, show (10 : ℚ) = 5 * 2 by norm_num, mul_zpow]
    have five : (5 : ℚ) ^ x.exponent ≠ 0 := zpow_ne_zero _ (by norm_num)
    field_simp

/-- The shortest decimal rounds to the number, whether or not the search for it succeeds. -/
theorem covers_shortest (x : Dyadic) : x.Covers x.shortest.value := by
  unfold shortest
  split
  · rename_i zero
    have exact_zero := covers_exact x
    simpa [Scaled.value, zero] using exact_zero
  · cases found : x.search 40 x.coarsest with
    | none =>
      rw [Option.getD_none, value_expansion]
      exact covers_exact x
    | some decimal => exact covers_of_reads (reads_search found)

private theorem digits_pos_of_reads {x : Dyadic} {place : ℤ} {digits : ℕ} (nonzero : x.significand ≠ 0)
    (hit : x.reads place digits = true) : 0 < digits := by
  have covered := (covers_of_reads hit).lower_le
  have positive : 0 < x.lower := by
    have least : (1 : ℚ) ≤ x.significand := by exact_mod_cast Nat.pos_of_ne_zero nonzero
    apply mul_pos _ (zpow_pos (by norm_num) _)
    split <;> linarith
  rcases Nat.eq_zero_or_pos digits with rfl | positive
  · simp only [Scaled.value, Nat.cast_zero, zero_mul] at covered
    linarith
  · exact positive

/-- Only zero has the digit zero, and it is written without a power of ten. -/
theorem shortest_pos (x : Dyadic) : 0 < x.shortest.digits ∨ x.shortest = ⟨0, 0⟩ := by
  unfold shortest
  split
  · exact .inr rfl
  · rename_i nonzero
    left
    cases found : x.search 40 x.coarsest with
    | none =>
      rw [Option.getD_none, expansion]
      split <;> exact Nat.mul_pos (Nat.pos_of_ne_zero nonzero) (Nat.pow_pos (by decide))
    | some decimal => exact digits_pos_of_reads nonzero (reads_search found)

private theorem apart_of_significand {x y : Dyadic} {v : ℚ} (level : x.exponent = y.exponent)
    (less : x.significand < y.significand) (left : x.Covers v) (right : y.Covers v) : False := by
  have place : (0 : ℚ) < 2 ^ y.exponent := zpow_pos (by norm_num) _
  have step : (x.significand : ℚ) + 1 ≤ y.significand := by exact_mod_cast less
  have ends : x.upper ≤ y.lower := by
    rw [upper, lower, level]
    apply mul_le_mul_of_nonneg_right _ place.le
    split <;> linarith
  have meeting := le_antisymm (left.le_upper.trans ends) right.lower_le
  rcases Nat.mod_two_eq_zero_or_one x.significand with even | odd
  · have tight : x.upper = y.lower := le_antisymm ends (meeting ▸ left.le_upper)
    have next : (y.significand : ℚ) = x.significand + 1 := by
      rw [upper, lower, level] at tight
      have scaled := mul_right_cancel₀ place.ne' tight
      split at scaled <;> linarith
    have neighbour : y.significand = x.significand + 1 := by exact_mod_cast next
    have strict := (right.inside (by omega)).1
    linarith
  · have strict := (left.inside odd).2
    linarith

private theorem apart_of_exponent {x y : Dyadic} {v : ℚ} (inside : x.Binary64) (outside : y.Binary64)
    (less : x.exponent < y.exponent) (left : x.Covers v) (right : y.Covers v) : False := by
  have place : (0 : ℚ) < 2 ^ x.exponent := zpow_pos (by norm_num) _
  have double : (2 : ℚ) * 2 ^ x.exponent ≤ 2 ^ y.exponent := by
    rw [← zpow_one_add₀ (by norm_num)]
    exact zpow_le_zpow_right₀ (by norm_num) (by omega)
  have above : -1074 < y.exponent := lt_of_le_of_lt inside.least less
  have top : (x.significand : ℚ) + 1 ≤ 2 ^ 53 := by exact_mod_cast inside.significand_lt
  have base : (2 ^ 53 - 1 / 2 : ℚ) * 2 ^ x.exponent ≤ y.lower := by
    have bottom : (2 ^ 52 - 1 / 4 : ℚ) ≤ y.significand - if y.narrow then 1 / 4 else 1 / 2 := by
      rcases Nat.eq_or_lt_of_le (outside.normal above) with least | more
      · rw [outside.narrow above least.symm, if_pos rfl, ← least]
        norm_num
      · have next : (2 ^ 52 + 1 : ℚ) ≤ y.significand := by exact_mod_cast more
        split <;> linarith
    calc (2 ^ 53 - 1 / 2 : ℚ) * 2 ^ x.exponent = (2 ^ 52 - 1 / 4) * (2 * 2 ^ x.exponent) := by ring
      _ ≤ (2 ^ 52 - 1 / 4) * 2 ^ y.exponent := mul_le_mul_of_nonneg_left double (by norm_num)
      _ ≤ y.lower := mul_le_mul_of_nonneg_right bottom (zpow_pos (by norm_num) _).le
  have ends : x.upper ≤ (2 ^ 53 - 1 / 2 : ℚ) * 2 ^ x.exponent :=
    mul_le_mul_of_nonneg_right (by linarith) place.le
  -- Only the greatest significand reaches the next power of two, and that one is odd.
  rcases Nat.lt_or_ge (x.significand + 1) (2 ^ 53) with inner | last
  · have gap : (x.significand : ℚ) + 2 ≤ 2 ^ 53 := by exact_mod_cast inner
    have strict : x.upper < (2 ^ 53 - 1 / 2 : ℚ) * 2 ^ x.exponent :=
      mul_lt_mul_of_pos_right (by linarith) place
    linarith [left.le_upper, right.lower_le]
  · have odd : x.significand % 2 = 1 := by
      have bound := inside.significand_lt
      omega
    linarith [(left.inside odd).2, right.lower_le]

theorem covers_unique {x y : Dyadic} {v : ℚ} (inside : x.Binary64) (outside : y.Binary64)
    (left : x.Covers v) (right : y.Covers v) :
    x.significand = y.significand ∧ x.exponent = y.exponent := by
  rcases lt_trichotomy x.exponent y.exponent with less | level | greater
  · exact (apart_of_exponent inside outside less left right).elim
  · rcases lt_trichotomy x.significand y.significand with below | same | above
    · exact (apart_of_significand level below left right).elim
    · exact ⟨same, level⟩
    · exact (apart_of_significand level.symm above right left).elim
  · exact (apart_of_exponent outside inside greater right left).elim

end Dyadic

end Telemetry.Decimal
