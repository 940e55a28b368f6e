import Telemetry.Proofs.Delivery.Faithful

/-! Runs of an exporter: what becomes of one command after the other. A command makes the exporter write a
document, makes it close, or makes it do neither. Whatever happens to the sink, the limits stay as they
are, and the resource is the last one that was set. -/
namespace Telemetry.Exporter

variable {signal : Signal} {σ : Type}

namespace Command

def isShutdown : Command signal → Bool
  | .shutdown => true
  | .shutdownPipeline => true
  | _ => false

def isPipeline : Command signal → Bool
  | .exportRecording _ => true
  | .shutdownPipeline => true
  | _ => false

def document? (resource : Resource) (limits : AttributeLimits) : Command signal → Option Document
  | .exportItems items => some (signal.document resource limits items)
  | .exportRecording recording =>
    some (signal.document ((signal.recordedResource? recording).getD resource) limits (signal.convert recording))
  | _ => none

def resource (before : Resource) : Command signal → Resource
  | .setResource resource => resource
  | .setRecordedResource resource => resource.toResource
  | _ => before

def told (command : Command signal) (outcome : Outcome) : Outcome :=
  if command.isPipeline then outcome.toPipeline else outcome

theorem told_eq_crashed (command : Command signal) (outcome : Outcome) :
    command.told outcome = .crashed ↔ outcome = .crashed := by
  unfold told
  split
  · cases outcome <;> simp [Outcome.toPipeline]
  · rfl

end Command

section Step

variable (exporter : Exporter signal σ) (command : Command signal)

end Step

def closeCalls (exporter : Exporter signal σ) : List SinkCall :=
  match exporter.channel with
  | .ready state => (exporter.sink.recorded.flush (state, [])).2.2
  | .closed => []
  | .poisoned => []

def sinkCalls (exporter : Exporter signal σ) (command : Command signal) : List SinkCall :=
  if command.isShutdown then exporter.closeCalls
  else (command.document? exporter.resource exporter.limits).elim [] exporter.calls

theorem closeCalls_accepted (exporter : Exporter signal σ) :
    exporter.closeCalls.flatMap (·.accepted) = exporter.close.accepted := by
  unfold closeCalls close
  cases exporter.channel with
  | ready state =>
    simp only [Sink.recorded, List.nil_append, List.flatMap_singleton, SinkCall.accepted]
    split <;> rfl
  | closed | poisoned => rfl

/-- What a command reports as accepted is what the sink accepted. -/
theorem sinkCalls_accepted (exporter : Exporter signal σ) (command : Command signal) :
    (exporter.sinkCalls command).flatMap (·.accepted) = (exporter.step command).1.accepted := by
  cases command with
  | setResource | setRecordedResource | forceFlush => rfl
  | exportItems | exportRecording => exact (exporter.write_faithful _).accepted_eq
  | shutdown | shutdownPipeline => exact exporter.closeCalls_accepted

theorem closeCalls_flushes (exporter : Exporter signal σ) :
    exporter.closeCalls.countP (·.isFlush) = exporter.close.flushes := by
  unfold closeCalls close
  cases exporter.channel with
  | ready state =>
    simp only [Sink.recorded, List.nil_append, List.countP_singleton, SinkCall.isFlush, if_true]
    split <;> rfl
  | closed | poisoned => rfl

theorem sinkCalls_flushes (exporter : Exporter signal σ) (command : Command signal) :
    (exporter.sinkCalls command).countP (·.isFlush) = (exporter.step command).1.flushes := by
  cases command with
  | setResource | setRecordedResource | forceFlush => rfl
  | exportItems | exportRecording => exact (exporter.write_faithful _).flushes_eq
  | shutdown | shutdownPipeline => exact exporter.closeCalls_flushes

section Gone

variable {exporter : Exporter signal σ} (gone : ∀ state, exporter.channel ≠ .ready state)

include gone

end Gone

structure Transition (signal : Signal) (σ : Type) where
  before : Exporter signal σ
  command : Command signal
  report : Report
  after : Exporter signal σ

def Transition.calls (transition : Transition signal σ) : List SinkCall :=
  transition.before.sinkCalls transition.command

def transition (exporter : Exporter signal σ) (command : Command signal) : Transition signal σ :=
  ⟨exporter, command, (exporter.step command).1, (exporter.step command).2⟩

def run (exporter : Exporter signal σ) : List (Command signal) → List (Transition signal σ)
  | [] => []
  | command :: commands => exporter.transition command :: (exporter.step command).2.run commands

end Telemetry.Exporter
