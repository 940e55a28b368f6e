/-! How the pieces of a document are gathered into blocks before they reach a sink. Pieces are held back
while they fit a buffer together. A piece that does not fit sends what is held ahead as a block, and
a piece as large as the buffer is passed on directly. -/
namespace Telemetry

structure Block where
  bytes : List UInt8
  buffered : Bool

structure Packing where
  blocks : List Block
  held : List UInt8

namespace Packing

def after (blocks : List Block) (packing : Packing) : Packing :=
  ⟨blocks ++ packing.blocks, packing.held⟩

/-- Packs pieces into a buffer with `room` bytes left, after bytes already held, given in reverse. -/
def ofPieces (capacity : Nat) (held : List UInt8) (room : Nat) : List (List UInt8) → Packing
  | [] => ⟨[], held.reverse⟩
  | piece :: pieces =>
    let size := piece.length
    if capacity ≤ size then
      (ofPieces capacity [] capacity pieces).after [⟨held.reverse, true⟩, ⟨piece, false⟩]
    else if size ≤ room then ofPieces capacity (piece.reverse ++ held) (room - size) pieces
    else (ofPieces capacity piece.reverse (capacity - size) pieces).after [⟨held.reverse, true⟩]

def bytes (packing : Packing) : List UInt8 :=
  packing.blocks.flatMap (·.bytes) ++ packing.held

theorem bytes_after (blocks : List Block) (packing : Packing) :
    (packing.after blocks).bytes = blocks.flatMap (·.bytes) ++ packing.bytes := by
  simp [after, bytes]

/-- Packing loses, repeats and moves nothing. -/
theorem bytes_ofPieces (capacity : Nat) (held : List UInt8) (room : Nat) (pieces : List (List UInt8)) :
    (ofPieces capacity held room pieces).bytes = held.reverse ++ pieces.flatten := by
  induction pieces generalizing held room with
  | nil => simp [ofPieces, bytes]
  | cons piece pieces ih =>
    simp only [ofPieces]
    split
    · simp [bytes_after, ih]
    · split
      · simp [ih]
      · simp [bytes_after, ih]

end Packing

end Telemetry
