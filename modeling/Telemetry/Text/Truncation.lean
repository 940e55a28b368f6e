/-! Cutting a text to a number of characters. A character is a Unicode scalar value, so a cut never
falls inside one. -/
namespace Telemetry.Text

def truncate (limit : Option Nat) (s : String) : String :=
  match limit with
  | none => s
  | some n => String.ofList (s.toList.take n)

theorem toList_truncate (n : Nat) (s : String) : (truncate (some n) s).toList = s.toList.take n := by
  simp [truncate]

end Telemetry.Text
