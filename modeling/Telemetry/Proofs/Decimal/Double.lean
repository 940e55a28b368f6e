import Telemetry.Proofs.Decimal.Layout

/-! The texts of doubles. Exactly the finite numbers have a text, the text is a number token, and numbers
with the same text are the same number: zeros of different sign are told apart, and no digit that is
needed to read a number back is left out. -/
namespace Telemetry.Decimal

theorem toBits_injective {x y : Float} (same : x.toBits = y.toBits) : x = y := by
  obtain ⟨⟨a, _⟩⟩ := x
  obtain ⟨⟨b, _⟩⟩ := y
  obtain rfl : a = b := same
  rfl

section

open Float.Model.UnpackedFloat

private theorem exponentField (x : Float) :
    (unpackExponent x.toModel.toBits.toBitVec : BitVec Float.Model.Format.binary64.exponentBits).toNat =
      x.toBits.toNat / 2 ^ 52 % 2 ^ 11 := by
  change _ = x.toModel.toBits.toNat / 2 ^ 52 % 2 ^ 11
  simp [unpackExponent, Nat.shiftRight_eq_div_pow]

theorem isFinite_iff (x : Float) : x.isFinite = true ↔ x.toBits.toNat / 2 ^ 52 % 2 ^ 11 ≠ 2047 := by
  rw [← exponentField]
  have greatest : (-1#11).toNat = 2047 := by decide
  unfold Float.isFinite Float.Model.isFinite Float.Model.unpack unpack
  dsimp only
  rw [apply_ite isFinite, apply_ite isFinite, apply_ite isFinite, apply_dite isFinite]
  dsimp only [isFinite]
  simp only [dite_eq_ite, ite_self]
  split
  · rename_i reserved
    exact iff_of_false Bool.false_ne_true fun other => other ((congrArg BitVec.toNat reserved).trans greatest)
  · rename_i ordinary
    exact iff_of_true rfl fun same => ordinary (BitVec.eq_of_toNat_eq (same.trans greatest.symm))

end

theorem isSome_unpack? (x : Float) : (unpack? x).isSome = x.isFinite := by
  have finite := isFinite_iff x
  simp only [unpack?]
  split
  · rename_i reserved
    cases infinite : x.isFinite with
    | false => rfl
    | true => exact absurd reserved (finite.mp infinite)
  · rename_i ordinary
    rw [finite.mpr ordinary]
    split <;> rfl

theorem binary64_of_unpack? {x : Float} {number : Unpacked} (unpacked : unpack? x = some number) :
    number.magnitude.Binary64 := by
  have fraction : x.toBits.toNat % 2 ^ 52 < 2 ^ 52 := Nat.mod_lt _ (by decide)
  simp only [unpack?] at unpacked
  split at unpacked
  · contradiction
  · split at unpacked
    · obtain rfl := Option.some.inj unpacked
      exact ⟨by simp only; omega, fun above => absurd above (by simp),
        fun above => absurd above (by simp), by simp⟩
    · obtain rfl := Option.some.inj unpacked
      rename_i _ nonzero
      refine ⟨by simp only; omega, fun _ => by simp, ?_, by simp only; omega⟩
      intro above power
      simp only at above power
      simp only [Bool.and_eq_true, beq_iff_eq, decide_eq_true_eq]
      omega

theorem unpack?_injective {x y : Float} {a b : Unpacked} (left : unpack? x = some a)
    (right : unpack? y = some b) (signs : a.negative = b.negative)
    (significands : a.magnitude.significand = b.magnitude.significand)
    (exponents : a.magnitude.exponent = b.magnitude.exponent) : x = y := by
  apply toBits_injective
  apply UInt64.toNat_inj.mp
  have bound := x.toBits.toNat_lt
  have limit := y.toBits.toNat_lt
  simp only [unpack?] at left right
  split at left
  · contradiction
  split at right
  · contradiction
  split at left <;> split at right
  all_goals
    obtain rfl := Option.some.inj left
    obtain rfl := Option.some.inj right
    simp only [beq_eq_beq] at signs significands exponents
    omega

theorem text?_eq_none (style : Style) (x : Float) : style.text? x = none ↔ x.isFinite = false := by
  rw [← isSome_unpack?, Style.text?, Option.map_eq_none_iff, Option.isSome_eq_false_iff,
    Option.isNone_iff_eq_none]

theorem numberToken_text? {style : Style} {x : Float} {literal : String}
    (written : style.text? x = some literal) : Json.NumberToken literal.toList := by
  obtain ⟨number, _, rfl⟩ := Option.map_eq_some_iff.mp written
  rw [String.toList_ofList]
  split
  · exact style.numberToken_layout (Dyadic.shortest_pos _) (.inr rfl)
  · exact style.numberToken_layout (Dyadic.shortest_pos _) (.inl rfl)

private theorem layout_ne_minus (style : Style) (x : Dyadic) (rest : List Char) :
    style.layout x.shortest ≠ '-' :: rest := by
  intro same
  have formed := style.wellFormed_parts (Dyadic.shortest_pos x)
  rw [← Style.text_parts, Parts.text] at same
  cases whole : (style.parts x.shortest).whole with
  | nil => exact absurd whole formed.whole.ne_nil
  | cons c cs =>
    have digit := formed.whole.allDigits c (by rw [whole]; exact List.mem_cons_self)
    rw [whole] at same
    rw [(List.cons.inj same).1] at digit
    exact absurd digit (by decide)

theorem text?_injective {style : Style} {x y : Float} {literal : String}
    (left : style.text? x = some literal) (right : style.text? y = some literal) : x = y := by
  obtain ⟨a, unpackedLeft, first⟩ := Option.map_eq_some_iff.mp left
  obtain ⟨b, unpackedRight, second⟩ := Option.map_eq_some_iff.mp right
  have characters := String.ofList_injective (first.trans second.symm)
  have apart : a.negative = b.negative ∧
      style.layout a.magnitude.shortest = style.layout b.magnitude.shortest := by
    split at characters <;> split at characters
    · simp_all
    · exact absurd characters.symm (layout_ne_minus _ _ _)
    · exact absurd characters (layout_ne_minus _ _ _)
    · simp_all
  have values := style.layout_injective (Dyadic.shortest_pos _) (Dyadic.shortest_pos _) apart.2
  obtain ⟨significands, exponents⟩ := Dyadic.covers_unique (binary64_of_unpack? unpackedLeft)
    (binary64_of_unpack? unpackedRight) (Dyadic.covers_shortest _) (values ▸ Dyadic.covers_shortest _)
  exact unpack?_injective unpackedLeft unpackedRight apart.1 significands exponents

theorem exists_text? (style : Style) {x : Float} (finite : x.isFinite = true) :
    ∃ literal, style.text? x = some literal := by
  apply Option.ne_none_iff_exists'.mp
  intro absent
  rw [text?_eq_none, finite] at absent
  contradiction

end Telemetry.Decimal
