import Telemetry.Delivery
import Telemetry.Diagnostic
import Telemetry.Log.Document
import Telemetry.Metric.Document
import Telemetry.Recording.Collection
import Telemetry.Recording.Log
import Telemetry.Recording.Span
import Telemetry.Span.Document

/-! Exporters. An exporter owns a sink and writes one document for every batch that it is given. It works
until it is shut down, which happens once, or until its sink crashes during an operation. A telemetry
pipeline hands over recordings, which are converted first, and learns of failures in its own terms.
The three signals share all of this and differ in their documents. -/
namespace Telemetry

namespace Signal

abbrev Item : Signal → Type
  | .logs => LogRecord
  | .metrics => Metric
  | .traces => Span

abbrev Recording : Signal → Type
  | .logs => List RecordedLog
  | .metrics => Collection
  | .traces => List RecordedSpan

def document (resource : Resource) (limits : AttributeLimits) :
    (signal : Signal) → List signal.Item → Document
  | .logs, items => (LogsDocument.mk resource items limits).toDocument
  | .metrics, items => (MetricsDocument.mk resource items).toDocument
  | .traces, items => (TracesDocument.mk resource items limits).toDocument

def convert : (signal : Signal) → signal.Recording → List signal.Item
  | .logs, records => records.map (·.toLogRecord)
  | .metrics, collection => collection.metrics
  | .traces, spans => spans.map (·.toSpan)

def conversionDiagnostics : (signal : Signal) → signal.Recording → List Diagnostic
  | .metrics, collection => collection.diagnostics
  | .logs, _ => []
  | .traces, _ => []

def recordedResource? : (signal : Signal) → signal.Recording → Option Resource
  | .metrics, collection => some collection.resource.toResource
  | .logs, _ => none
  | .traces, _ => none

end Signal

inductive Channel (σ : Type) where
  | ready (state : σ)
  | closed
  | poisoned

structure Exporter (signal : Signal) (σ : Type) where
  sink : Sink σ
  channel : Channel σ
  resource : Resource
  limits : AttributeLimits

inductive Outcome where
  | done
  | failed (error : ExportError)
  | refused (error : PipelineError)
  | crashed
  deriving DecidableEq

structure Report where
  outcome : Outcome
  accepted : List UInt8
  flushes : Nat
  diagnostics : List Diagnostic

namespace Outcome

def ofDelivery : DeliveryOutcome → Outcome
  | .delivered => .done
  | .failed error => .failed error
  | .crashed => .crashed

def toPipeline : Outcome → Outcome
  | .failed error => .refused error.toPipeline
  | outcome => outcome

def diagnostics (signal : Signal) : Outcome → List Diagnostic
  | .done => [.exportSucceeded signal]
  | .failed error => [.exportFailed signal error.message]
  | .refused _ => []
  | .crashed => []

end Outcome

namespace Report

def quiet : Report :=
  ⟨.done, [], 0, []⟩

def toPipeline (report : Report) : Report :=
  { report with outcome := report.outcome.toPipeline }

def after (diagnostics : List Diagnostic) (report : Report) : Report :=
  { report with diagnostics := diagnostics ++ report.diagnostics }

end Report

namespace Exporter

variable {signal : Signal} {σ : Type}

structure Attempt (σ : Type) where
  channel : Channel σ
  outcome : Outcome
  accepted : List UInt8
  flushes : Nat

def settled (state : σ) : DeliveryOutcome → Channel σ
  | .crashed => .poisoned
  | _ => .ready state

def write (exporter : Exporter signal σ) (document : Document) : Attempt σ :=
  match exporter.channel with
  | .closed => ⟨.closed, .failed .alreadyShutdown, [], 0⟩
  | .poisoned => ⟨.poisoned, .failed .poisoned, [], 0⟩
  | .ready state =>
    let delivery := exporter.sink.deliver state document
    ⟨settled delivery.state delivery.outcome, .ofDelivery delivery.outcome, delivery.accepted,
      delivery.flushes⟩

/-- Releases the sink and flushes it. The sink stays released when the flush fails. -/
def close (exporter : Exporter signal σ) : Attempt σ :=
  match exporter.channel with
  | .closed => ⟨.closed, .failed .alreadyShutdown, [], 0⟩
  | .poisoned => ⟨.poisoned, .failed .poisoned, [], 0⟩
  | .ready state =>
    match (exporter.sink.flush state).1 with
    | .done => ⟨.closed, .done, [], 1⟩
    | .failed error => ⟨.closed, .failed (.sink error), [], 1⟩
    | .crashed => ⟨.poisoned, .crashed, [], 1⟩

def exportWith (exporter : Exporter signal σ) (resource : Resource) (items : List signal.Item) :
    Report × Exporter signal σ :=
  let attempt := exporter.write (signal.document resource exporter.limits items)
  (⟨attempt.outcome, attempt.accepted, attempt.flushes,
    .exportStarted signal items.length :: attempt.outcome.diagnostics signal⟩,
    { exporter with channel := attempt.channel })

def exportItems (exporter : Exporter signal σ) (items : List signal.Item) : Report × Exporter signal σ :=
  exporter.exportWith exporter.resource items

def exportRecording (exporter : Exporter signal σ) (recording : signal.Recording) :
    Report × Exporter signal σ :=
  let (report, next) := exporter.exportWith ((signal.recordedResource? recording).getD exporter.resource)
    (signal.convert recording)
  ((report.after (signal.conversionDiagnostics recording)).toPipeline, next)

def shutdown (exporter : Exporter signal σ) : Report × Exporter signal σ :=
  let attempt := exporter.close
  (⟨attempt.outcome, attempt.accepted, attempt.flushes, [.shutdown signal]⟩,
    { exporter with channel := attempt.channel })

def debugText (_ : Exporter signal σ) : String :=
  signal.exporterName

inductive Command (signal : Signal) where
  | exportItems (items : List signal.Item)
  | exportRecording (recording : signal.Recording)
  | shutdown
  | shutdownPipeline
  | setResource (resource : Resource)
  | setRecordedResource (resource : RecordedResource)
  | forceFlush

/-- Nothing is held back between operations, so a forced flush has nothing to do. -/
def step (exporter : Exporter signal σ) : Command signal → Report × Exporter signal σ
  | .exportItems items => exporter.exportItems items
  | .exportRecording recording => exporter.exportRecording recording
  | .shutdown => exporter.shutdown
  | .shutdownPipeline =>
    let (report, next) := exporter.shutdown
    (report.toPipeline, next)
  | .setResource resource => (.quiet, { exporter with resource := resource })
  | .setRecordedResource resource => (.quiet, { exporter with resource := resource.toResource })
  | .forceFlush => (.quiet, exporter)

end Exporter

end Telemetry
