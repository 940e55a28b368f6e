import Telemetry.Proofs.Document.Unsupported
import Telemetry.Proofs.Exporter.Lifecycle
import Telemetry.Proofs.Recording.Collection

/-! The diagnostics of an exporter. An export is announced with the number of its items. It ends with a success,
with a failure and its text, or, where the sink crashes in it, with nothing. A pipeline is told of failures
in its own words, but the text in the diagnostic stays that of the exporter. Since every step keeps to
this, the exports that are announced in a run are those that end in it and those in which the sink crashes. -/
namespace Telemetry

def PipelineError.cause : PipelineError → String
  | .alreadyShutdown => ExportError.alreadyShutdown.message
  | .internalFailure reason => reason

theorem ExportError.cause_toPipeline (error : ExportError) : error.toPipeline.cause = error.message := by
  cases error <;> rfl

namespace Diagnostic

def isStarted : Diagnostic → Bool
  | .exportStarted .. => true
  | _ => false

def isSucceeded : Diagnostic → Bool
  | .exportSucceeded _ => true
  | _ => false

def isFailed : Diagnostic → Bool
  | .exportFailed .. => true
  | _ => false

end Diagnostic

def Outcome.ending (signal : Signal) : Outcome → List Diagnostic
  | .done => [.exportSucceeded signal]
  | .failed error => [.exportFailed signal error.message]
  | .refused error => [.exportFailed signal error.cause]
  | .crashed => []

namespace Signal

def unencoded : (signal : Signal) → signal.Recording → List String
  | .metrics, collection =>
    (collection.collected.filter fun entry => entry.2.data.kind?.isNone).map fun entry => entry.2.name
  | .logs, _ => []
  | .traces, _ => []

def encodedCount : (signal : Signal) → signal.Recording → Nat
  | .metrics, collection => (collection.collected.filter fun entry => entry.2.data.kind?.isSome).length
  | .logs, records => records.length
  | .traces, spans => spans.length

variable (signal : Signal) (recording : signal.Recording)

theorem conversionDiagnostics_eq :
    signal.conversionDiagnostics recording = (signal.unencoded recording).map .metricSkipped := by
  cases signal with
  | logs | traces => rfl
  | metrics =>
    rw [conversionDiagnostics, Collection.diagnostics_eq, unencoded, List.map_map]
    rfl

theorem length_convert : (signal.convert recording).length = signal.encodedCount recording := by
  cases signal with
  | logs | traces => exact List.length_map _
  | metrics => exact (Collection.forall₂_metrics recording).length_eq.symm

end Signal

namespace Exporter

variable {signal : Signal} {σ : Type}

namespace Command

def items? : Command signal → Option (List signal.Item)
  | .exportItems items => some items
  | .exportRecording recording => some (signal.convert recording)
  | _ => none

def unencoded : Command signal → List String
  | .exportRecording recording => signal.unencoded recording
  | _ => []

def resourceOver (resource : Resource) : Command signal → Resource
  | .exportRecording recording => (signal.recordedResource? recording).getD resource
  | _ => resource

theorem document?_eq (command : Command signal) (resource : Resource) (limits : AttributeLimits) :
    command.document? resource limits =
      command.items?.map (signal.document (command.resourceOver resource) limits) := by
  cases command <;> rfl

/-- What a caller is told tells the diagnostics at the end, if the exporter speaks in its own words before. -/
theorem ending_told {outcome : Outcome} (own : ∀ error, outcome ≠ .refused error) (command : Command signal) :
    (command.told outcome).ending signal = outcome.diagnostics signal := by
  unfold told
  cases outcome with
  | done | crashed => split <;> rfl
  | failed error =>
    split
    · exact congrArg (fun text => [Diagnostic.exportFailed signal text]) error.cause_toPipeline
    · rfl
  | refused error => exact absurd rfl (own error)

end Command

variable (exporter : Exporter signal σ)

theorem write_ne_refused (document : Document) (error : PipelineError) :
    (exporter.write document).outcome ≠ .refused error := by
  have lawful := exporter.write_lawful document
  cases phase : exporter.phase with
  | closed => simp [lawful.closed phase]
  | poisoned => simp [lawful.poisoned phase]
  | ready =>
    intro refused
    exact nomatch refused ▸ lawful.working phase

def forRecording (recording : signal.Recording) : Exporter signal σ :=
  { exporter with resource := (Command.exportRecording recording).resourceOver exporter.resource }

namespace Transition

def broken (step : Transition signal σ) : Bool :=
  step.command.items?.isSome && step.calls.any (·.crashed)

/-- The rules for the diagnostics of a step. An export is announced with the number of items in its document, after
the metrics that are left out, and ends by what its caller is told. -/
structure Bracketed (step : Transition signal σ) : Prop where
  exports : ∀ items, step.command.items? = some items → step.report.diagnostics =
    step.command.unencoded.map .metricSkipped ++
      .exportStarted signal items.length :: step.report.outcome.ending signal
  encoded : step.command.document? step.before.resource step.before.limits =
    step.command.items?.map (signal.document (step.command.resourceOver step.before.resource) step.before.limits)
  crash : step.report.outcome = .crashed ↔ step.calls.any (·.crashed) = true
  shutdowns : step.command.isShutdown = true → step.report.diagnostics = [.shutdown signal]
  silent : step.command.usesSink = false → step.report.diagnostics = []
  alike : ∀ recording, step.command = .exportRecording recording →
    let direct := ((step.before.forRecording recording).exportItems (signal.convert recording)).1
    step.report.outcome = direct.outcome.toPipeline ∧
      step.report.diagnostics = (signal.unencoded recording).map .metricSkipped ++ direct.diagnostics

end Transition

/-- The diagnostics of an export, by what the caller is told that gave a command for it. -/
theorem diagnostics_exportWith (command : Command signal) (resource : Resource) (items : List signal.Item) :
    (exporter.exportWith resource items).1.diagnostics = .exportStarted signal items.length ::
      (command.told (exporter.exportWith resource items).1.outcome).ending signal := by
  have own := exporter.write_ne_refused (signal.document resource exporter.limits items)
  exact congrArg (.exportStarted signal items.length :: ·) (command.ending_told own).symm

/-- One step keeps the rules, whatever its sink does. -/
theorem step_bracketed (command : Command signal) : (exporter.transition command).Bracketed := by
  have encoded := command.document?_eq exporter.resource exporter.limits
  have crash := (exporter.step_orderly command).crash
  cases command with
  | exportItems items =>
    refine { encoded, crash, exports := ?_, shutdowns := nofun, silent := nofun, alike := nofun }
    rintro _ ⟨⟩
    exact exporter.diagnostics_exportWith (.exportItems items) exporter.resource items
  | exportRecording recording =>
    have alike : (exporter.exportRecording recording).1.diagnostics =
        (signal.unencoded recording).map .metricSkipped ++
          ((exporter.forRecording recording).exportItems (signal.convert recording)).1.diagnostics := by
      rw [← signal.conversionDiagnostics_eq]
      rfl
    refine { encoded, crash, exports := ?_, shutdowns := nofun, silent := nofun, alike := ?_ }
    · rintro _ ⟨⟩
      have direct := (exporter.forRecording recording).diagnostics_exportWith (.exportRecording recording)
        (exporter.forRecording recording).resource (signal.convert recording)
      exact alike.trans (congrArg (_ ++ ·) direct)
    · rintro _ ⟨⟩
      exact ⟨rfl, alike⟩
  | shutdown | shutdownPipeline =>
    exact { encoded, crash, exports := nofun, shutdowns := fun _ => rfl, silent := nofun, alike := nofun }
  | setResource | setRecordedResource | forceFlush =>
    exact { encoded, crash, exports := nofun, shutdowns := nofun, silent := fun _ => rfl, alike := nofun }

theorem run_bracketed (commands : List (Command signal)) : ∀ step ∈ exporter.run commands, step.Bracketed := by
  induction commands generalizing exporter with
  | nil => exact List.forall_mem_nil _
  | cons command commands ih => exact List.forall_mem_cons.mpr ⟨exporter.step_bracketed command, ih _⟩

def events (steps : List (Transition signal σ)) : List Diagnostic :=
  steps.flatMap (·.report.diagnostics)

end Exporter

/-- Metrics that are left out do not count where exports are counted. -/
theorem Diagnostic.countP_export (counts : Diagnostic → Bool) (other : ∀ name, counts (.metricSkipped name) = false)
    (names : List String) (signal : Signal) (items : Nat) (ending : List Diagnostic) :
    (names.map metricSkipped ++ exportStarted signal items :: ending).countP counts =
      ending.countP counts + if counts (exportStarted signal items) then 1 else 0 := by
  have skipped : (names.map metricSkipped).countP counts = 0 := by
    rw [List.countP_eq_zero, List.forall_mem_map]
    exact fun name _ => Bool.eq_false_iff.mp (other name)
  rw [List.countP_append, skipped, List.countP_cons, Nat.zero_add]

theorem Outcome.countP_ending (signal : Signal) (outcome : Outcome) :
    (outcome.ending signal).countP (·.isStarted) = 0 ∧
      (outcome.ending signal).countP (·.isSucceeded) + (outcome.ending signal).countP (·.isFailed) =
        if outcome = .crashed then 0 else 1 := by
  cases outcome <;> exact ⟨rfl, rfl⟩

namespace Exporter

variable {signal : Signal} {σ : Type}

namespace Transition.Bracketed

variable {step : Transition signal σ} (bracketed : step.Bracketed)

include bracketed

theorem quiet (idle : step.command.items? = none) :
    step.report.diagnostics = [.shutdown signal] ∨ step.report.diagnostics = [] := by
  cases command : step.command with
  | exportItems | exportRecording => exact nomatch (command ▸ idle)
  | shutdown | shutdownPipeline => exact .inl (bracketed.shutdowns (command ▸ rfl))
  | setResource | setRecordedResource | forceFlush => exact .inr (bracketed.silent (command ▸ rfl))

/-- An export that is announced in a step ends in it, unless the sink crashes. -/
theorem balance : step.report.diagnostics.countP (·.isStarted) =
    step.report.diagnostics.countP (·.isSucceeded) + step.report.diagnostics.countP (·.isFailed) +
      if step.broken then 1 else 0 := by
  cases exported : step.command.items? with
  | some items =>
    have crash : step.broken = true ↔ step.report.outcome = .crashed := by
      rw [broken, exported, Option.isSome_some, Bool.true_and, bracketed.crash]
    obtain ⟨opened, closed⟩ := step.report.outcome.countP_ending signal
    have counted (counts : Diagnostic → Bool) (other : ∀ name, counts (.metricSkipped name) = false) :=
      Diagnostic.countP_export counts other step.command.unencoded signal items.length
        (step.report.outcome.ending signal)
    rw [bracketed.exports items exported, counted (·.isStarted) fun _ => rfl, counted (·.isSucceeded) fun _ => rfl,
      counted (·.isFailed) fun _ => rfl, opened]
    change 1 = (step.report.outcome.ending signal).countP (·.isSucceeded) +
      (step.report.outcome.ending signal).countP (·.isFailed) + _
    rw [closed]
    simp only [crash]
    split <;> rfl
  | none =>
    have whole : step.broken = false := by
      rw [broken, exported, Option.isSome_none, Bool.false_and]
    rcases bracketed.quiet exported with diagnostics | diagnostics
    all_goals
      rw [diagnostics, whole]
      rfl

end Transition.Bracketed

/-- The exports that are announced in a run are those that succeed, those that fail and those that crash. -/
theorem countP_isStarted_events {steps : List (Transition signal σ)} (bracketed : ∀ step ∈ steps, step.Bracketed) :
    (events steps).countP (·.isStarted) =
      (events steps).countP (·.isSucceeded) + (events steps).countP (·.isFailed) + steps.countP (·.broken) := by
  induction steps with
  | nil => rfl
  | cons step steps ih =>
    obtain ⟨here, below⟩ := List.forall_mem_cons.mp bracketed
    have first := here.balance
    have rest := ih below
    rw [events] at rest ⊢
    rw [List.flatMap_cons]
    simp only [List.countP_append, List.countP_cons]
    omega

end Exporter

/-- Whatever an exporter and its sink have come to, every export in a run is announced with the number of its items
and ends with a success, with a failure and the text of the exporter, or in a crash. -/
theorem exports_are_bracketed {signal : Signal} {σ : Type} (exporter : Exporter signal σ)
    (commands : List (Exporter.Command signal)) :
    (∀ step ∈ exporter.run commands, step.Bracketed) ∧
    (∀ recording : signal.Recording, (signal.convert recording).length = signal.encodedCount recording) ∧
    let steps := exporter.run commands
    (Exporter.events steps).countP (·.isStarted) = (Exporter.events steps).countP (·.isSucceeded) +
      (Exporter.events steps).countP (·.isFailed) + steps.countP (·.broken) :=
  have bracketed := exporter.run_bracketed commands
  ⟨bracketed, signal.length_convert, Exporter.countP_isStarted_events bracketed⟩

def Exporter.rawResource : Exporter .metrics (List UInt8) :=
  ⟨Sink.memory, .ready [], ⟨[⟨"raw", some (.unsupported "bytes")⟩]⟩, .unlimited⟩

/-- What a pipeline is told is not the text in the diagnostic, and an exporter that fails with its own resource
exports collected metrics under theirs. -/
theorem pipeline_told_otherwise :
    ((⟨Sink.memory, .ready [], .empty, .unlimited⟩ : Exporter .logs (List UInt8)).run
      [.shutdown, .exportRecording []]).map (fun step => (step.report.outcome, step.report.diagnostics)) =
        [(.done, [.shutdown .logs]),
          (.refused .alreadyShutdown, [.exportStarted .logs 0, .exportFailed .logs "exporter is shut down"])] ∧
      PipelineError.alreadyShutdown.message ≠ "exporter is shut down" ∧
      (Exporter.rawResource.exportRecording .empty).1.diagnostics =
        [.exportStarted .metrics 0, .exportSucceeded .metrics] ∧
      (Exporter.rawResource.exportItems (Signal.metrics.convert .empty)).1.diagnostics =
        [.exportStarted .metrics 0, .exportFailed .metrics
          "unsupported attribute value: bytes values have no OTLP/JSON encoding"] := by
  have shown {resource : Resource} {failure : Option ExportError}
      (met : (Signal.metrics.document resource .unlimited []).failure? = failure) :
      (Exporter.rawResource.exportWith resource []).1.diagnostics = .exportStarted .metrics 0 ::
        (Outcome.ofDelivery (failure.elim .delivered .failed)).diagnostics .metrics := by
    rw [← met, ← Sink.memory_welcoming.accepting.outcome_eq []]
    rfl
  have own : RecordedResource.empty.toResource = .empty := by
    rw [RecordedResource.toResource, RecordedResource.empty, StandardAttributes.byKey, List.mergeSort_nil]
    rfl
  have encodable : (Signal.metrics.document RecordedResource.empty.toResource .unlimited []).failure? = none := by
    rw [own]
    rfl
  exact ⟨rfl, by decide, shown encodable, shown rfl⟩

end Telemetry
