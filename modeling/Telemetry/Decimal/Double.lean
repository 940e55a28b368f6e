import Telemetry.Decimal.Integer
import Telemetry.Decimal.Shortest

/-! Decimal text of 64-bit floating-point numbers. A number is decoded from its bits, its shortest digits
are found by exact arithmetic, and a style says which exponents are written positionally. -/
namespace Telemetry.Decimal

-- Powers are those of the core library, also where Mathlib brings its own.
attribute [local instance (high)] instPowNat

structure Unpacked where
  negative : Bool
  magnitude : Dyadic

def unpack? (x : Float) : Option Unpacked :=
  let bits := x.toBits.toNat
  let fraction : Nat := bits % 2 ^ (52 : Nat)
  let field : Nat := bits / 2 ^ (52 : Nat) % 2 ^ (11 : Nat)
  let negative := bits / 2 ^ (63 : Nat) % 2 == 1
  if field = 2047 then none
  else if field = 0 then some ⟨negative, ⟨fraction, -1074, false⟩⟩
  else some ⟨negative, ⟨2 ^ (52 : Nat) + fraction, (field : Int) - 1075, fraction == 0 && 1 < field⟩⟩

/-- The least and the greatest decimal exponent for which a number is written without one. -/
structure Style where
  least : Int
  greatest : Int

namespace Style

def positional (digits : List Char) (place : Int) : List Char :=
  let whole : Int := (digits.length : Int) + place
  if 0 ≤ place then digits ++ List.replicate place.toNat '0' ++ ['.', '0']
  else if 0 < whole then digits.take whole.toNat ++ '.' :: digits.drop whole.toNat
  else '0' :: '.' :: (List.replicate (-whole).toNat '0' ++ digits)

def scientific (digits : List Char) (exponent : Int) : List Char :=
  let fraction := match digits.drop 1 with
    | [] => []
    | rest => '.' :: rest
  digits.take 1 ++ fraction ++ 'e' :: (if exponent < 0 then '-' else '+') :: Nat.toDigits 10 exponent.natAbs

def layout (style : Style) (number : Scaled) : List Char :=
  let digits := Nat.toDigits 10 number.digits
  let exponent : Int := (digits.length : Int) - 1 + number.exponent
  if style.least ≤ exponent && exponent ≤ style.greatest then positional digits number.exponent
  else scientific digits exponent

def text? (style : Style) (x : Float) : Option String :=
  (unpack? x).map fun parts =>
    let digits := style.layout parts.magnitude.shortest
    String.ofList (if parts.negative then '-' :: digits else digits)

end Style

end Telemetry.Decimal
