/-! Canonical decimal text of integers: no leading zeros, and a minus sign for negative numbers only. -/
namespace Telemetry.Decimal

def natural (n : Nat) : String :=
  String.ofList (Nat.toDigits 10 n)

def integer (i : Int) : String :=
  if i < 0 then "-" ++ natural i.natAbs else natural i.natAbs

theorem toList_natural (n : Nat) : (natural n).toList = Nat.toDigits 10 n := by
  simp [natural]

theorem integer_natCast (n : Nat) : integer n = natural n := by
  have nonnegative : ¬ (n : Int) < 0 := by omega
  simp [integer, nonnegative]

end Telemetry.Decimal
