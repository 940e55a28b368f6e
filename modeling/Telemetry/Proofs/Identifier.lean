import Telemetry.Identifier
import Mathlib.Algebra.Group.Nat.Defs

/-! Identifiers and their texts. The text of an identifier has a fixed width, so no two identifiers share
their text. -/
namespace Telemetry

private theorem digitChar_inj : ∀ m < 16, ∀ n < 16, Nat.digitChar m = Nat.digitChar n → m = n := by
  decide

theorem Text.hexDigits_injective {width m n : Nat} (below : m < 16 ^ width) (under : n < 16 ^ width)
    (same : hexDigits width m = hexDigits width n) : m = n := by
  induction width generalizing m n with
  | zero => omega
  | succ width ih =>
    obtain ⟨high, low⟩ := List.append_inj' same rfl
    have quotients := ih (Nat.div_lt_of_lt_mul (by omega)) (Nat.div_lt_of_lt_mul (by omega)) high
    have remainders := digitChar_inj (m % 16) (Nat.mod_lt m (by decide)) (n % 16) (Nat.mod_lt n (by decide))
      (List.cons.inj low).1
    omega

theorem Text.hex_injective {width m n : Nat} (below : m < 16 ^ width) (under : n < 16 ^ width)
    (same : hex width m = hex width n) : m = n :=
  hexDigits_injective below under (String.ofList_injective same)

theorem TraceId.text_injective : Function.Injective TraceId.text := by
  rintro ⟨bits⟩ ⟨others⟩ same
  have numbers := Text.hex_injective bits.isLt others.isLt same
  obtain rfl : bits = others := BitVec.eq_of_toNat_eq numbers
  rfl

theorem SpanId.text_injective : Function.Injective SpanId.text := by
  rintro ⟨bits⟩ ⟨others⟩ same
  have numbers := Text.hex_injective bits.isLt others.isLt same
  obtain rfl : bits = others := BitVec.eq_of_toNat_eq numbers
  rfl

end Telemetry
