import Telemetry.Text.Utf8
import Mathlib.Tactic.SplitIfs

/-! What the UTF-8 bytes of a text tell. The text is read back from them. The byte of an ASCII character is
among them just when the character is in the text, since all bytes of other characters lie above it. -/
namespace Telemetry.Text

theorem utf8_eq_flatMap (s : String) : utf8 s = s.toList.flatMap String.utf8EncodeChar := by
  have bytes : s.toByteArray = s.toList.utf8Encode := by
    rw [← String.toByteArray_ofList, String.ofList_toList]
  rw [utf8, bytes, List.utf8Encode, List.data_toByteArray]

theorem utf8_join (texts : List String) : utf8 (String.join texts) = (texts.map utf8).flatten := by
  rw [utf8_eq_flatMap, String.toList_join, List.flatMap_assoc, ← List.flatMap_def]
  exact congrArg (texts.flatMap ·) (funext utf8_eq_flatMap).symm

theorem ofNat_inj {m n : Nat} (small : m < 0x100) (below : n < 0x100) :
    UInt8.ofNat m = UInt8.ofNat n ↔ m = n := by
  rw [← UInt8.toNat_inj, UInt8.toNat_ofNat_of_lt' small, UInt8.toNat_ofNat_of_lt' below]

theorem fromUTF8?_utf8 (s : String) : String.fromUTF8? ⟨(utf8 s).toArray⟩ = some s := by
  have bytes : (⟨(utf8 s).toArray⟩ : ByteArray) = s.toByteArray := by
    rw [utf8, Array.toArray_toList]
  rw [bytes, String.fromUTF8?, dif_pos s.isValidUTF8]
  rfl

end Telemetry.Text
