import Telemetry.ExportError
import Telemetry.Json.Piece

/-! A document as it is handed to a sink: one JSON text, and for some signals a line feed after it. A
document with a gap is broken off before the gap, and the line feed is then not reached. -/
namespace Telemetry

structure Document where
  body : Json
  terminated : Bool

namespace Document

def pieces (document : Document) : List Json.Piece :=
  document.body.pieces (if document.terminated then [.text "\n"] else [])

def written (document : Document) : List String :=
  Json.written document.pieces

def text (document : Document) : String :=
  String.join document.written

def failure? (document : Document) : Option ExportError :=
  (Json.firstGap? document.pieces).map .unsupportedValue

end Document

end Telemetry
