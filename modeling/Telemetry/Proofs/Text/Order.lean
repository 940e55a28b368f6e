import Telemetry.Proofs.Text.Utf8
import Mathlib.Data.String.Basic

/-! The order of texts. Texts are compared character by character, and this is the order of their UTF-8
bytes: of two characters the greater one has the greater byte at the first place where they differ, and
such a place comes before either of them ends. -/
namespace Telemetry.Text

private theorem ofNat_lt_ofNat {m n : Nat} (small : m < 0x100) (below : n < 0x100) :
    UInt8.ofNat m < UInt8.ofNat n ↔ m < n := by
  rw [UInt8.lt_iff_toNat_lt, UInt8.toNat_ofNat_of_lt' small, UInt8.toNat_ofNat_of_lt' below]

private theorem utf8EncodeChar_lt {c d : Char} (less : c < d) (rest others : List UInt8) :
    String.utf8EncodeChar c ++ rest < String.utf8EncodeChar d ++ others := by
  have order : c.val.toNat < d.val.toNat := less
  have top : d.val.toNat < 0x110000 := by
    have valid := d.valid
    simp only [UInt32.isValidChar, Nat.isValidChar] at valid
    omega
  unfold String.utf8EncodeChar
  generalize c.val.toNat = m at *
  generalize d.val.toNat = n at *
  -- All bytes but the first hold the digits to the base 64.
  have digits : ∀ k : Nat, k / 4096 = k / 64 / 64 ∧ k / 262144 = k / 64 / 64 / 64 := by omega
  simp only [(digits m).1, (digits m).2, (digits n).1, (digits n).2]
  split_ifs
  -- A character with fewer bytes has a smaller first byte, and one with more bytes is greater.
  all_goals try omega
  all_goals
    simp only [List.cons_append, List.nil_append, List.cons_lt_cons_iff]
    simp (disch := omega) only [ofNat_lt_ofNat, ofNat_inj]
    omega

private theorem flatMap_utf8EncodeChar_lt {cs ds : List Char} (less : cs < ds) :
    cs.flatMap String.utf8EncodeChar < ds.flatMap String.utf8EncodeChar := by
  induction less with
  | @nil d ds =>
    rw [List.flatMap_nil, List.flatMap_cons]
    obtain ⟨byte, bytes, first⟩ := List.exists_cons_of_ne_nil (String.utf8EncodeChar_ne_nil (c := d))
    rw [first]
    exact List.nil_lt_cons _ _
  | rel below =>
    rw [List.flatMap_cons, List.flatMap_cons]
    exact utf8EncodeChar_lt below _ _
  | cons _ ih =>
    rw [List.flatMap_cons, List.flatMap_cons]
    exact List.append_left_lt ih

/-- One text comes before another just when its bytes do. -/
theorem utf8_lt_iff {s t : String} : utf8 s < utf8 t ↔ s < t := by
  have forwards : ∀ {s t : String}, s < t → utf8 s < utf8 t := by
    intro s t less
    rw [utf8_eq_flatMap, utf8_eq_flatMap]
    exact flatMap_utf8EncodeChar_lt less
  refine ⟨?_, forwards⟩
  intro less
  rcases lt_trichotomy s t with before | rfl | after
  · exact before
  · exact absurd less (List.lt_irrefl _)
  · exact absurd less (List.lt_asymm (forwards after))

end Telemetry.Text
