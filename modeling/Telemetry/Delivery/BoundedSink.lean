import Telemetry.Delivery.Sink

/-! A sink with a limited capacity. It may take only so many bytes in one write, it may be interrupted in
every so many writes, and its first flushes may fail. When it is full it stalls, fails or crashes. -/
namespace Telemetry

inductive WhenFull where
  | stall
  | fail (error : SinkError)
  | crash

structure BoundedSink where
  capacity : Option Nat
  largestWrite : Option Nat
  interruptPeriod : Option { period : Nat // 2 ≤ period }
  whenFull : WhenFull
  failingFlushes : Nat
  taken : Nat
  writes : Nat

namespace BoundedSink

def interrupting (state : BoundedSink) : Bool :=
  state.interruptPeriod.any fun period => (state.writes + 1) % period.val = 0

def allowance (state : BoundedSink) : Option Nat :=
  match state.capacity.map (· - state.taken), state.largestWrite with
  | some room, some largest => some (min room largest)
  | some room, none => some room
  | none, largest => largest

def isFull (state : BoundedSink) : Bool :=
  state.capacity.any (· ≤ state.taken)

def write (state : BoundedSink) (offered : List UInt8) : WriteReply × BoundedSink :=
  let counted := { state with writes := state.writes + 1 }
  if state.interrupting then (.interrupted, counted)
  else if state.isFull then
    match state.whenFull with
    | .stall => (.accepted 0, counted)
    | .fail error => (.failed error, counted)
    | .crash => (.crashed, counted)
  else
    let count := match state.allowance with
      | some n => (offered.take n).length
      | none => offered.length
    (.accepted count, { counted with taken := state.taken + count })

def flush (state : BoundedSink) : FlushReply × BoundedSink :=
  if state.failingFlushes = 0 then (.done, state)
  else (.failed ⟨.other, "flush failed"⟩, { state with failingFlushes := state.failingFlushes - 1 })

private theorem next_of_interrupted {state next : BoundedSink} {offered : List UInt8}
    (reply : state.write offered = (.interrupted, next)) :
    state.interrupting = true ∧ next.interrupting = false := by
  unfold write at reply
  split at reply
  · rename_i interrupted
    obtain rfl : { state with writes := state.writes + 1 } = next := by simpa using reply
    refine ⟨interrupted, ?_⟩
    unfold interrupting at interrupted ⊢
    cases given : state.interruptPeriod with
    | none => rfl
    | some period =>
      simp only [given, Option.any_some, decide_eq_true_eq, decide_eq_false_iff_not] at interrupted ⊢
      have atLeast := period.property
      intro again
      have difference := Nat.sub_mod_eq_zero_of_mod_eq (again.trans interrupted.symm)
      rw [show state.writes + 1 + 1 - (state.writes + 1) = 1 by omega, Nat.mod_eq_of_lt atLeast] at difference
      contradiction
  · split at reply
    · split at reply <;> simp at reply
    · simp at reply

def sink : Sink BoundedSink where
  write := write
  flush := flush
  patience state _ := if state.interrupting then 1 else 0
  patience_lt state offered next reply := by
    have both := next_of_interrupted reply
    simp [both.1, both.2]

end BoundedSink

end Telemetry
