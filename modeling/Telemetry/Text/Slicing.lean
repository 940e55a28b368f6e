/-! Cutting a text in its UTF-8 bytes. The first byte of a character tells how many bytes the character has,
and the others are marked as continuations. Bytes are cut only between characters: a slice that would
end inside one does not exist. -/
namespace Telemetry.Text

def isContinuation (byte : UInt8) : Bool :=
  0x80 ≤ byte && byte < 0xc0

def isBoundary (bytes : List UInt8) (offset : Nat) : Bool :=
  match bytes[offset]? with
  | some byte => !isContinuation byte
  | none => offset = bytes.length

def characterSize (first : UInt8) : Nat :=
  if first < 0x80 then 1 else if first < 0xe0 then 2 else if first < 0xf0 then 3 else 4

def offset? : Nat → List UInt8 → Option Nat
  | _, [] => none
  | 0, _ :: _ => some 0
  | count + 1, first :: rest =>
    (offset? count (rest.drop (characterSize first - 1))).map (characterSize first + ·)

def slice? (bytes : List UInt8) (offset : Nat) : Option (List UInt8) :=
  if isBoundary bytes offset then some (bytes.take offset) else none

def cut? (limit : Option Nat) (bytes : List UInt8) : Option (List UInt8) :=
  match limit.bind (offset? · bytes) with
  | some offset => slice? bytes offset
  | none => some bytes

end Telemetry.Text
