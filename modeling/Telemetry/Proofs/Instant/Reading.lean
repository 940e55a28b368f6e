import Mathlib.Logic.Function.Defs
import Telemetry.Instant

/-! Readings of the clock. The clock counts whole seconds around the epoch in signed words, a duration counts
them in unsigned ones, and both count the nanoseconds of a started second apart. A sum of seconds is
refused where it leaves the clock, before or after the nanoseconds carry, and a difference of seconds is
taken in words that wrap around. Sums and differences of readings are those of the instants that are read,
so nothing is lost where two words are too far apart for a signed difference. -/
namespace Telemetry

-- Powers are those of the core library, also where Mathlib brings its own.
attribute [local instance (high)] instPowNat

namespace Instant

theorem after?_eq_some {start finish : Instant} {duration : Duration}
    (total : finish.nanoseconds = start.nanoseconds + duration.nanoseconds) :
    start.after? duration = some finish := by
  rw [after?, ← total, ofNanoseconds?, dif_pos ⟨finish.notBefore, finish.notAfter⟩]

theorem after?_eq_none {start : Instant} {duration : Duration}
    (outside : 2 ^ (63 : Nat) * 10 ^ (9 : Nat) ≤ start.nanoseconds + duration.nanoseconds) :
    start.after? duration = none := by
  rw [after?, ofNanoseconds?, dif_neg (by omega)]

def clamped (nanoseconds : Int) : Nat :=
  (max 0 (min nanoseconds (2 ^ (64 : Nat) - 1))).toNat

theorem unixNanoseconds_eq_clamped (t : Instant) : t.unixNanoseconds = clamped t.nanoseconds := by
  rw [unixNanoseconds, clamped]
  omega

theorem unixNanoseconds_eq (t : Instant) :
    (t.unixNanoseconds : Int) = max 0 (min t.nanoseconds (2 ^ (64 : Nat) - 1)) := by
  rw [unixNanoseconds_eq_clamped, clamped]
  omega

def beforeEpoch : Instant :=
  ⟨-1, by decide, by decide⟩

def afterEpoch : Instant :=
  ⟨1, by decide, by decide⟩

end Instant

theorem Duration.second_pos : 0 < 10 ^ (9 : Nat) := by
  decide

structure Instant.Reading where
  seconds : Int64
  nanos : Fin (10 ^ (9 : Nat))

structure Duration.Reading where
  seconds : UInt64
  nanos : Fin (10 ^ (9 : Nat))

namespace Duration.Reading

def duration (reading : Reading) : Duration :=
  ⟨reading.seconds.toNat * 10 ^ (9 : Nat) + reading.nanos, by
    have whole := reading.seconds.toNat_lt
    have part := reading.nanos.isLt
    omega⟩

theorem duration_bijective : Function.Bijective duration := by
  constructor
  · intro reading other same
    obtain ⟨seconds, nanos⟩ := reading
    obtain ⟨others, also⟩ := other
    have total := congrArg Duration.nanoseconds same
    simp only [duration] at total
    have whole : seconds.toNat = others.toNat := by omega
    have part : nanos.val = also.val := by omega
    rw [UInt64.toNat_inj.mp whole, Fin.ext part]
  · intro duration
    have range := duration.inRange
    have part : duration.nanoseconds % 10 ^ (9 : Nat) < 10 ^ (9 : Nat) := by omega
    have whole : duration.nanoseconds / 10 ^ (9 : Nat) < 2 ^ 64 := by omega
    refine ⟨⟨.ofNat (duration.nanoseconds / 10 ^ (9 : Nat)), ⟨duration.nanoseconds % 10 ^ (9 : Nat), part⟩⟩, ?_⟩
    obtain ⟨nanoseconds, inRange⟩ := duration
    simp only [Reading.duration, UInt64.toNat_ofNat_of_lt' whole, Duration.mk.injEq]
    omega

end Duration.Reading

namespace Instant.Reading

def instant (reading : Reading) : Instant :=
  ⟨reading.seconds.toInt * 10 ^ (9 : Nat) + reading.nanos, by
    have low := reading.seconds.le_toInt
    omega, by
    have high := reading.seconds.toInt_lt
    have part := reading.nanos.isLt
    omega⟩

theorem instant_bijective : Function.Bijective instant := by
  constructor
  · intro reading other same
    obtain ⟨seconds, nanos⟩ := reading
    obtain ⟨others, also⟩ := other
    have total := congrArg Instant.nanoseconds same
    simp only [instant] at total
    have whole : seconds.toInt = others.toInt := by omega
    have part : nanos.val = also.val := by omega
    rw [Int64.toInt_inj.mp whole, Fin.ext part]
  · intro instant
    obtain ⟨nanoseconds, notBefore, notAfter⟩ := instant
    have part : (nanoseconds % 10 ^ (9 : Nat)).toNat < 10 ^ (9 : Nat) := by omega
    have low : -2 ^ 63 ≤ nanoseconds / 10 ^ (9 : Nat) := by omega
    have high : nanoseconds / 10 ^ (9 : Nat) < 2 ^ 63 := by omega
    refine ⟨⟨.ofInt (nanoseconds / 10 ^ (9 : Nat)), ⟨(nanoseconds % 10 ^ (9 : Nat)).toNat, part⟩⟩, ?_⟩
    simp only [Reading.instant, Int64.toInt_ofInt_of_le low high, Instant.mk.injEq]
    omega

def plus? (seconds : Int64) (more : Nat) : Option Int64 :=
  if seconds.toInt + more < 2 ^ (63 : Nat) then some (.ofInt (seconds.toInt + more)) else none

def after? (start : Reading) (duration : Duration.Reading) : Option Reading := do
  let seconds ← plus? start.seconds duration.seconds.toNat
  if fits : start.nanos.val + duration.nanos.val < 10 ^ (9 : Nat) then
    return ⟨seconds, ⟨start.nanos + duration.nanos, fits⟩⟩
  else
    let carried ← plus? seconds 1
    return ⟨carried, ⟨start.nanos + duration.nanos - 10 ^ (9 : Nat), by omega⟩⟩

/-- The time between two readings, or none when the second comes first. Where its nanoseconds are fewer,
they borrow a second. -/
def elapsed (start finish : Reading) : Duration.Reading :=
  if start.seconds < finish.seconds ∨ start.seconds = finish.seconds ∧ start.nanos ≤ finish.nanos then
    if enough : start.nanos ≤ finish.nanos then
      ⟨(finish.seconds - start.seconds).toUInt64, ⟨finish.nanos - start.nanos, by omega⟩⟩
    else
      ⟨(finish.seconds - 1 - start.seconds).toUInt64, ⟨finish.nanos + 10 ^ (9 : Nat) - start.nanos, by omega⟩⟩
  else ⟨0, ⟨0, Duration.second_pos⟩⟩

theorem plus?_eq_some {seconds : Int64} {more : Nat} (inside : seconds.toInt + more < 2 ^ (63 : Nat)) :
    ∃ sum : Int64, plus? seconds more = some sum ∧ sum.toInt = seconds.toInt + more := by
  have low := seconds.le_toInt
  refine ⟨.ofInt (seconds.toInt + more), if_pos inside, ?_⟩
  apply Int64.toInt_ofInt_of_le
  · omega
  · exact inside

theorem plus?_eq_none {seconds : Int64} {more : Nat} (outside : 2 ^ (63 : Nat) ≤ seconds.toInt + more) :
    plus? seconds more = none :=
  if_neg (by omega)

theorem after?_instant (start : Reading) (duration : Duration.Reading) :
    (start.after? duration).map instant = start.instant.after? duration.duration := by
  have part := start.nanos.isLt
  have more := duration.nanos.isLt
  symm
  by_cases whole : start.seconds.toInt + duration.seconds.toNat < 2 ^ (63 : Nat)
  · obtain ⟨sum, added, total⟩ := plus?_eq_some whole
    by_cases fits : start.nanos.val + duration.nanos.val < 10 ^ (9 : Nat)
    · simp only [after?, added, Option.bind_eq_bind, Option.bind_some, dif_pos fits, Option.pure_def, Option.map_some]
      apply after?_eq_some
      simp only [Reading.instant, Duration.Reading.duration, total]
      omega
    · by_cases carry : sum.toInt + (1 : Nat) < 2 ^ (63 : Nat)
      · obtain ⟨carried, again, succ⟩ := plus?_eq_some carry
        simp only [after?, added, again, Option.bind_eq_bind, Option.bind_some, dif_neg fits, Option.pure_def,
          Option.map_some]
        apply after?_eq_some
        simp only [Reading.instant, Duration.Reading.duration, succ, total]
        omega
      -- The carry is the second place where a sum can leave the clock.
      · have lost := plus?_eq_none (Int.not_lt.mp carry)
        simp only [after?, added, lost, Option.bind_eq_bind, Option.bind_some, dif_neg fits, Option.bind_none,
          Option.map_none]
        apply after?_eq_none
        simp only [Reading.instant, Duration.Reading.duration]
        omega
  · have lost := plus?_eq_none (Int.not_lt.mp whole)
    simp only [after?, lost, Option.bind_eq_bind, Option.bind_none, Option.map_none]
    apply after?_eq_none
    simp only [Reading.instant, Duration.Reading.duration]
    omega

theorem toInt_word (word : Int64) :
    word.toInt = if 2 * word.toUInt64.toNat < 2 ^ (64 : Nat) then (word.toUInt64.toNat : Int)
      else word.toUInt64.toNat - 2 ^ (64 : Nat) :=
  BitVec.toInt_eq_toNat_cond word.toBitVec

/-- The difference of two signed words, read as an unsigned one, is exact though it may be too far for a
signed word. -/
theorem toNat_difference {earlier later : Int64} (ordered : earlier.toInt ≤ later.toInt) :
    ((later - earlier).toUInt64.toNat : Int) = later.toInt - earlier.toInt := by
  have first := toInt_word earlier
  have second := toInt_word later
  have low := earlier.toUInt64.toNat_lt
  have high := later.toUInt64.toNat_lt
  rw [Int64.toUInt64_sub, UInt64.toNat_sub]
  omega

theorem toInt_borrowed {earlier later : Int64} (ordered : earlier.toInt < later.toInt) :
    (later - 1).toInt = later.toInt - 1 := by
  have low := earlier.le_toInt
  have high := later.toInt_lt
  have one : (1 : Int64).toInt = 1 := by decide
  rw [Int64.toInt_sub, one, Int.bmod_eq_of_le (by omega) (by omega)]

theorem elapsed_instant (start finish : Reading) :
    (start.elapsed finish).duration = start.instant.elapsed finish.instant := by
  have part := start.nanos.isLt
  have other := finish.nanos.isLt
  rw [Duration.mk.injEq]
  simp only [Reading.instant, Instant.elapsed]
  by_cases ordered : start.seconds < finish.seconds ∨ start.seconds = finish.seconds ∧ start.nanos ≤ finish.nanos
  · rw [elapsed, if_pos ordered]
    rw [Int64.lt_iff_toInt_lt, ← Int64.toInt_inj] at ordered
    by_cases enough : start.nanos ≤ finish.nanos
    · have exact : ((finish.seconds - start.seconds).toUInt64.toNat : Int) = _ := toNat_difference (by omega)
      rw [dif_pos enough]
      simp only [Duration.Reading.duration]
      omega
    · have before : start.seconds.toInt < finish.seconds.toInt := by omega
      have borrowed := toInt_borrowed before
      have exact : ((finish.seconds - 1 - start.seconds).toUInt64.toNat : Int) = _ := toNat_difference (by omega)
      rw [dif_neg enough]
      simp only [Duration.Reading.duration]
      omega
  · rw [elapsed, if_neg ordered]
    rw [Int64.lt_iff_toInt_lt, ← Int64.toInt_inj] at ordered
    simp only [Duration.Reading.duration, UInt64.toNat_zero]
    omega

end Instant.Reading

end Telemetry
