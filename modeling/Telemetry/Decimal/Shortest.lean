/-! The shortest decimal that rounds back to a given binary number. Candidates lie on the grids of
multiples of a power of ten. The coarsest grid with a candidate decides, of two candidates on it the
nearer is taken, and of two equally near ones the even one. All comparisons are exact. -/
namespace Telemetry.Decimal

-- Powers are those of the core library, also where Mathlib brings its own.
attribute [local instance (high)] instPowNat

/-- The binary number `significand * 2 ^ exponent`. It is `narrow` when the gap to the next smaller
number of its format is half the gap to the next larger one. -/
structure Dyadic where
  significand : Nat
  exponent : Int
  narrow : Bool

structure Scaled where
  digits : Nat
  exponent : Int
  deriving DecidableEq

namespace Dyadic

/-- A quarter of the last place of the number over the grid `10 ^ place`, as numerator and denominator. -/
def quarter (x : Dyadic) (place : Int) : Nat × Nat :=
  (2 ^ (x.exponent - 2).toNat * 10 ^ (-place).toNat, 2 ^ (2 - x.exponent).toNat * 10 ^ place.toNat)

/-- Whether `candidate * 10 ^ place` rounds to the number. A tie goes to an even significand, so the
ends of the interval belong to it exactly then. -/
def reads (x : Dyadic) (place : Int) (candidate : Nat) : Bool :=
  let (up, down) := x.quarter place
  let lower := (4 * x.significand - if x.narrow then 1 else 2) * up
  let upper := (4 * x.significand + 2) * up
  if x.significand % 2 = 0 then lower ≤ candidate * down && candidate * down ≤ upper
  else lower < candidate * down && candidate * down < upper

def onGrid (x : Dyadic) (place : Int) : Option Nat :=
  let (up, down) := x.quarter place
  let value := 4 * x.significand * up
  let below := value / down
  match x.reads place below, x.reads place (below + 1) with
  | false, false => none
  | true, false => some below
  | false, true => some (below + 1)
  | true, true =>
    match compare (2 * value) ((2 * below + 1) * down) with
    | .lt => some below
    | .gt => some (below + 1)
    | .eq => if below % 2 = 0 then some below else some (below + 1)

def search (x : Dyadic) : Nat → Int → Option Scaled
  | 0, _ => none
  | count + 1, place =>
    match x.onGrid place with
    | some digits => some ⟨digits, place⟩
    | none => x.search count (place - 1)

/-- A grid too coarse for any hit: its spacing exceeds twice the number. -/
def coarsest (x : Dyadic) : Int :=
  (x.significand.log2 + x.exponent) * 30103 / 100000 + 2

def expansion (x : Dyadic) : Scaled :=
  if 0 ≤ x.exponent then ⟨x.significand * 2 ^ x.exponent.toNat, 0⟩
  else ⟨x.significand * 5 ^ (-x.exponent).toNat, x.exponent⟩

/-- Numbers of a format with up to 53 binary places need at most 17 digits, so a hit comes early. -/
def shortest (x : Dyadic) : Scaled :=
  if x.significand = 0 then ⟨0, 0⟩ else (x.search 40 x.coarsest).getD x.expansion

theorem reads_onGrid {x : Dyadic} {place : Int} {digits : Nat}
    (hit : x.onGrid place = some digits) : x.reads place digits = true := by
  unfold onGrid at hit
  simp only at hit
  split at hit
  · contradiction
  · simp_all
  · simp_all
  · split at hit
    · simp_all
    · simp_all
    · split at hit <;> simp_all

theorem reads_search {x : Dyadic} {count : Nat} {place : Int} {found : Scaled}
    (hit : x.search count place = some found) : x.reads found.exponent found.digits = true := by
  induction count generalizing place with
  | zero => simp [search] at hit
  | succ count ih =>
    unfold search at hit
    split at hit
    · rename_i digits here
      cases hit
      exact reads_onGrid here
    · exact ih hit

end Dyadic

end Telemetry.Decimal
