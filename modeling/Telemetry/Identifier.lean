import Telemetry.Text.Hex

/-! Identifiers of traces and of spans. Their text has a fixed width, and the identifier whose bits
are all zero stands for none. -/
namespace Telemetry

structure TraceId where
  bits : BitVec 128
  deriving DecidableEq

structure SpanId where
  bits : BitVec 64
  deriving DecidableEq

namespace TraceId

def invalid : TraceId :=
  ⟨0⟩

def text (id : TraceId) : String :=
  Text.hex 32 id.bits.toNat

end TraceId

namespace SpanId

def invalid : SpanId :=
  ⟨0⟩

def text (id : SpanId) : String :=
  Text.hex 16 id.bits.toNat

end SpanId

end Telemetry
