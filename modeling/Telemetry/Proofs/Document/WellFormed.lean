import Telemetry.Proofs.Delivery.Accepting
import Telemetry.Proofs.Log.View
import Telemetry.Proofs.Metric.Regular
import Telemetry.Proofs.Span.View
import Telemetry.Proofs.Text.Utf8

/-! Well-formed output. Whatever a signal, a resource, a batch and limits, and however a sink takes the
bytes, a delivery that succeeds leaves exactly one JSON text in the sink, which a strict reader takes
whole and which is the compact text of what it reads. -/
namespace Telemetry

namespace Json

def ofBytes? (bytes : List UInt8) : Option Json :=
  (String.fromUTF8? ⟨bytes.toArray⟩).bind parse?

theorem ofBytes?_render {tree : Json} (printable : tree.Printable) :
    ofBytes? (Text.utf8 (render tree)) = some tree := by
  rw [ofBytes?, Text.fromUTF8?_utf8]
  exact parse?_render printable

end Json

namespace Signal

def rootName : Signal → String
  | .logs => "resourceLogs"
  | .metrics => "resourceMetrics"
  | .traces => "resourceSpans"

def trailer : Signal → List UInt8
  | .logs => []
  | .metrics => [10]
  | .traces => [10]

variable (signal : Signal) (resource : Resource) (limits : AttributeLimits) (items : List signal.Item)

theorem regular_document : (signal.document resource limits items).body.Every Json.Regular := by
  cases signal with
  | logs => exact LogsDocument.regular_body _
  | metrics => exact MetricsDocument.regular_body _
  | traces => exact TracesDocument.regular_body _

theorem body_document :
    ∃ root, (signal.document resource limits items).body = .object [(signal.rootName, .array [root])] := by
  cases signal <;> exact ⟨_, rfl⟩

theorem terminator_document :
    Text.utf8 (signal.document resource limits items).terminator = signal.trailer := by
  cases signal <;> rfl

end Signal

theorem delivered_bytes_well_formed {σ : Type} (sink : Sink σ) (state : σ) (signal : Signal)
    (resource : Resource) (limits : AttributeLimits) (items : List signal.Item)
    (delivered : (sink.deliver state (signal.document resource limits items)).outcome = .delivered) :
    ∃ (bytes : List UInt8) (tree root : Json),
      (sink.deliver state (signal.document resource limits items)).accepted = bytes ++ signal.trailer ∧
      Json.ofBytes? bytes = some tree ∧
      Text.utf8 tree.render = bytes ∧
      tree.Every Json.DistinctNames ∧
      tree = .object [(signal.rootName, .array [root])] := by
  have regular := signal.regular_document resource limits items
  obtain ⟨encodable, accepted⟩ := (sink.deliver_faithful state _).text_of_success delivered
  obtain ⟨root, shape⟩ := signal.body_document resource limits items
  have printable := Document.printable encodable regular
  refine ⟨Text.utf8 (Json.render (signal.document resource limits items).body),
    (signal.document resource limits items).body, root, ?_, Json.ofBytes?_render printable, rfl, ?_, shape⟩
  · rw [accepted, Document.text_eq encodable, Text.utf8_append, Signal.terminator_document]
  · exact regular.mono fun _ => Json.Regular.distinctNames

def Sink.memory : Sink (List UInt8) where
  write kept offered := (.accepted offered.length, kept ++ offered)
  flush kept := (.done, kept)
  patience _ _ := 0
  patience_lt _ _ _ reply := nomatch reply

theorem Sink.memory_welcoming : Sink.memory.Welcoming :=
  ⟨fun _ _ => rfl, fun _ => rfl⟩

def LogRecord.awkward : LogRecord where
  time := .epoch
  severityText := some " "
  severity := none
  message := some "a \"quoted\" line\n"
  attributes := [⟨"nested", some (.array [.array [.int 1, .bool true], .array [], .rendered "\x01"])⟩,
    ⟨"null", none⟩]
  body := none
  traceId := .invalid
  spanId := ⟨1⟩

theorem delivered_bytes_well_formed_awkward :
    (Sink.memory.deliver [] (Signal.document .empty .unlimited .logs [.awkward])).outcome = .delivered ∧
    ∃ (bytes : List UInt8) (tree root : Json),
      (Sink.memory.deliver [] (Signal.document .empty .unlimited .logs [.awkward])).accepted =
        bytes ++ Signal.logs.trailer ∧
      Json.ofBytes? bytes = some tree ∧
      Text.utf8 tree.render = bytes ∧
      tree.Every Json.DistinctNames ∧
      tree = .object [(Signal.logs.rootName, .array [root])] := by
  have encodable : (Signal.document .empty .unlimited .logs [.awkward]).failure? = none := by decide
  have delivered := Sink.memory_welcoming.delivers [] encodable
  exact ⟨delivered, delivered_bytes_well_formed Sink.memory [] .logs .empty .unlimited [.awkward] delivered⟩

end Telemetry
