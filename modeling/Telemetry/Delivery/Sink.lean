import Telemetry.ExportError

/-! Sinks that take bytes and may do so badly: a write may take any part of what it is offered, be
interrupted, fail, or crash. A sink has a state of any type, and its patience bounds how often in a row
it can be interrupted while the same bytes are offered, so that sending comes to an end. -/
namespace Telemetry

inductive WriteReply where
  | accepted (count : Nat)
  | interrupted
  | failed (error : SinkError)
  | crashed

inductive FlushReply where
  | done
  | failed (error : SinkError)
  | crashed

structure Sink (σ : Type) where
  write : σ → List UInt8 → WriteReply × σ
  flush : σ → FlushReply × σ
  patience : σ → List UInt8 → Nat
  patience_lt : ∀ state offered next,
    write state offered = (.interrupted, next) → patience next offered < patience state offered

inductive TransferEnd where
  | complete
  | stalled
  | failed (error : SinkError)
  | crashed
  deriving DecidableEq

structure Transfer (σ : Type) where
  accepted : List UInt8
  left : List UInt8
  state : σ
  ending : TransferEnd

/-- Offers what is left again and again, until nothing is left or the sink stalls, fails or crashes. A
write that takes nothing is a stall, and an interrupted one is repeated. -/
def Sink.send {σ : Type} (sink : Sink σ) (state : σ) : List UInt8 → Transfer σ
  | [] => ⟨[], [], state, .complete⟩
  | byte :: bytes =>
    match reply : sink.write state (byte :: bytes) with
    | (.accepted 0, next) => ⟨[], byte :: bytes, next, .stalled⟩
    | (.accepted (count + 1), next) =>
      let rest := sink.send next (bytes.drop count)
      { rest with accepted := byte :: (bytes.take count ++ rest.accepted) }
    | (.interrupted, next) =>
      have := sink.patience_lt state (byte :: bytes) next reply
      sink.send next (byte :: bytes)
    | (.failed error, next) => ⟨[], byte :: bytes, next, .failed error⟩
    | (.crashed, next) => ⟨[], byte :: bytes, next, .crashed⟩
termination_by bytes => (bytes.length, sink.patience state bytes)
decreasing_by
  · simp only [List.length_drop, List.length_cons]
    exact Prod.Lex.left _ _ (by omega)
  · exact Prod.Lex.right _ this

end Telemetry
