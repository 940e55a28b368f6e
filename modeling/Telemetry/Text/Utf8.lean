/-! The UTF-8 bytes of a text as a list. -/
namespace Telemetry.Text

def utf8 (s : String) : List UInt8 :=
  s.toByteArray.data.toList

theorem utf8_append (s t : String) : utf8 (s ++ t) = utf8 s ++ utf8 t := by
  simp [utf8, String.toByteArray_append, ByteArray.data_append]

theorem utf8_injective {s t : String} (same : utf8 s = utf8 t) : s = t := by
  rw [← String.toByteArray_inj]
  exact ByteArray.ext (Array.toList_inj.mp same)

end Telemetry.Text
