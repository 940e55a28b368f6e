/-! Points in time and stretches of time, in nanoseconds. The clock holds signed 64-bit whole seconds
around the Unix epoch, a duration unsigned ones. Sums that leave the clock are refused. -/
namespace Telemetry

-- Powers are those of the core library, also where Mathlib brings its own.
attribute [local instance (high)] instPowNat

structure Duration where
  nanoseconds : Nat
  inRange : nanoseconds < 2 ^ (64 : Nat) * 10 ^ (9 : Nat)
  deriving DecidableEq

structure Instant where
  nanoseconds : Int
  notBefore : -(2 ^ (63 : Nat) * 10 ^ (9 : Nat)) ≤ nanoseconds
  notAfter : nanoseconds < 2 ^ (63 : Nat) * 10 ^ (9 : Nat)
  deriving DecidableEq

namespace Duration

def zero : Duration :=
  ⟨0, by decide⟩

def ofNanoseconds? (n : Nat) : Option Duration :=
  if inRange : n < 2 ^ (64 : Nat) * 10 ^ (9 : Nat) then some ⟨n, inRange⟩ else none

end Duration

namespace Instant

def epoch : Instant :=
  ⟨0, by decide, by decide⟩

def ofNanoseconds? (n : Int) : Option Instant :=
  if inside : -(2 ^ (63 : Nat) * 10 ^ (9 : Nat)) ≤ n ∧ n < 2 ^ (63 : Nat) * 10 ^ (9 : Nat) then
    some ⟨n, inside.1, inside.2⟩
  else none

def after? (start : Instant) (duration : Duration) : Option Instant :=
  ofNanoseconds? (start.nanoseconds + duration.nanoseconds)

/-- The time from `start` to `finish`, or zero when `finish` comes first. -/
def elapsed (start finish : Instant) : Duration :=
  ⟨(finish.nanoseconds - start.nanoseconds).toNat, by
    have low := start.notBefore
    have high := finish.notAfter
    omega⟩

/-- Nanoseconds since the epoch as an unsigned 64-bit number: zero before the epoch, and the greatest
such number for instants that are too late. -/
def unixNanoseconds (t : Instant) : Nat :=
  min t.nanoseconds.toNat (2 ^ (64 : Nat) - 1)

theorem after?_elapsed {start finish : Instant} (ordered : start.nanoseconds ≤ finish.nanoseconds) :
    start.after? (start.elapsed finish) = some finish := by
  have total : start.nanoseconds + (start.elapsed finish).nanoseconds = finish.nanoseconds := by
    simp only [elapsed]
    omega
  rw [after?, total, ofNanoseconds?, dif_pos ⟨finish.notBefore, finish.notAfter⟩]

theorem unixNanoseconds_mono {a b : Instant} (ordered : a.nanoseconds ≤ b.nanoseconds) :
    a.unixNanoseconds ≤ b.unixNanoseconds := by
  simp only [unixNanoseconds]
  omega

end Instant

end Telemetry
