/-! Hexadecimal text of a fixed number of digits, in lower case. -/
namespace Telemetry.Text

def hexDigits : Nat → Nat → List Char
  | 0, _ => []
  | width + 1, n => hexDigits width (n / 16) ++ [Nat.digitChar (n % 16)]

def hex (width n : Nat) : String :=
  String.ofList (hexDigits width n)

end Telemetry.Text
