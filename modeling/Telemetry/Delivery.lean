import Telemetry.Delivery.Block
import Telemetry.Delivery.Sink
import Telemetry.Document
import Telemetry.Text.Utf8

/-! Delivery of a document to a sink. Blocks are sent in order until one of them fails. When a buffered
block fails, what is left of it is offered once more and any further failure is ignored. A complete
document ends with one flush. A document with a gap ends with the bytes before the gap, which are
offered as far as the sink takes them, and without a flush. -/
namespace Telemetry

def bufferCapacity : Nat :=
  8192

def Document.packing (document : Document) : Packing :=
  .ofPieces bufferCapacity [] bufferCapacity (document.written.map Text.utf8)

inductive Stop where
  | failed (error : SinkError)
  | crashed
  deriving DecidableEq

structure Progress (σ : Type) where
  accepted : List UInt8
  state : σ
  stop : Option Stop

inductive DeliveryOutcome where
  | delivered
  | failed (error : ExportError)
  | crashed
  deriving DecidableEq

structure Delivery (σ : Type) where
  accepted : List UInt8
  flushes : Nat
  state : σ
  outcome : DeliveryOutcome

def Block.stall (block : Block) : SinkError :=
  ⟨.writeZero, if block.buffered then "failed to write the buffered data" else "failed to write whole buffer"⟩

def Stop.outcome : Stop → DeliveryOutcome
  | .failed error => .failed (.sink error)
  | .crashed => .crashed

namespace Sink

variable {σ : Type}

def abandon (sink : Sink σ) (block : Block) (sent : Transfer σ) (error : SinkError) : Progress σ :=
  if block.buffered then
    let last := sink.send sent.state sent.left
    ⟨sent.accepted ++ last.accepted, last.state,
      some (if last.ending = .crashed then .crashed else .failed error)⟩
  else ⟨sent.accepted, sent.state, some (.failed error)⟩

def sendBlock (sink : Sink σ) (state : σ) (block : Block) : Progress σ :=
  let sent := sink.send state block.bytes
  match sent.ending with
  | .complete => ⟨sent.accepted, sent.state, none⟩
  | .stalled => sink.abandon block sent block.stall
  | .failed error => sink.abandon block sent error
  | .crashed => ⟨sent.accepted, sent.state, some .crashed⟩

def sendBlocks (sink : Sink σ) (state : σ) : List Block → Progress σ
  | [] => ⟨[], state, none⟩
  | block :: blocks =>
    let sent := sink.sendBlock state block
    match sent.stop with
    | none =>
      let rest := sink.sendBlocks sent.state blocks
      { rest with accepted := sent.accepted ++ rest.accepted }
    | some _ => sent

def finish (sink : Sink σ) (sent : Progress σ) : Delivery σ :=
  match sink.flush sent.state with
  | (.done, state) => ⟨sent.accepted, 1, state, .delivered⟩
  | (.failed error, state) => ⟨sent.accepted, 1, state, .failed (.sink error)⟩
  | (.crashed, state) => ⟨sent.accepted, 1, state, .crashed⟩

def breakOff (sink : Sink σ) (sent : Progress σ) (held : List UInt8) (error : ExportError) : Delivery σ :=
  let last := sink.send sent.state held
  ⟨sent.accepted ++ last.accepted, 0, last.state,
    if last.ending = .crashed then .crashed else .failed error⟩

def deliver (sink : Sink σ) (state : σ) (document : Document) : Delivery σ :=
  let packing := document.packing
  match document.failure? with
  | none =>
    let sent := sink.sendBlocks state (packing.blocks ++ [⟨packing.held, true⟩])
    match sent.stop with
    | some stop => ⟨sent.accepted, 0, sent.state, stop.outcome⟩
    | none => sink.finish sent
  | some error =>
    let sent := sink.sendBlocks state packing.blocks
    match sent.stop with
    | some stop => ⟨sent.accepted, 0, sent.state, stop.outcome⟩
    | none => sink.breakOff sent packing.held error

end Sink

end Telemetry
