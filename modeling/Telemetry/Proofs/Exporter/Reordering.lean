import Telemetry.Proofs.Document.WellFormed
import Telemetry.Proofs.Exporter.Run
import Telemetry.Proofs.Recording.Resource
import Mathlib.Data.List.Forall2

/-! Runs that differ in how the entries of recorded resources are listed. The order of these entries is not
part of a resource, and it shows in nothing that an exporter does: not in the documents, whether the
resource was set or came with collected metrics, and not in any other part of a report. -/
namespace Telemetry

namespace Exporter

variable {signal : Signal} {σ : Type}

inductive Command.Reordered : {signal : Signal} → Command signal → Command signal → Prop
  | same {signal : Signal} (command : Command signal) : Reordered command command
  | resource {signal : Signal} {first second : RecordedResource} (same : first.entries.Perm second.entries) :
    Reordered (.setRecordedResource first : Command signal) (.setRecordedResource second)
  | collection {first second : RecordedResource} (same : first.entries.Perm second.entries)
    (scopes : List CollectedScope) :
    Reordered (.exportRecording ⟨first, scopes⟩ : Command .metrics) (.exportRecording ⟨second, scopes⟩)

theorem step_of_reordered {first second : Command signal} (reordered : first.Reordered second)
    (exporter : Exporter signal σ) : exporter.step first = exporter.step second := by
  cases reordered with
  | same => rfl
  | resource same =>
    have resources := RecordedResource.toResource_eq_of_perm same
    rw [step, resources, step]
  | collection same scopes =>
    have resources := RecordedResource.toResource_eq_of_perm same
    rw [step, exportRecording, Signal.recordedResource?, resources]
    rfl

/-- Since every step leads to the same exporter, the steps that follow start alike. -/
theorem reports_of_reordered {first second : List (Command signal)}
    (reordered : List.Forall₂ Command.Reordered first second) (exporter : Exporter signal σ) :
    (exporter.run first).map (·.report) = (exporter.run second).map (·.report) := by
  induction reordered generalizing exporter with
  | nil => rfl
  | cons here _ ih =>
    have step := step_of_reordered here exporter
    rw [run, run, List.map_cons, List.map_cons, ih, transition, transition, step]

end Exporter

/-- A recorded resource is converted to one list, whatever the order of its entries: all of them, converted,
with keys that rise in the order of their bytes. So that order shows in no report of any run. -/
theorem resource_order_is_immaterial :
    (∀ first second : RecordedResource, first.entries.Perm second.entries → first.toResource = second.toResource) ∧
    (∀ resource : RecordedResource,
      (∃ entries : StandardAttributes,
        entries.Perm resource.entries ∧ entries.Become resource.toResource.attributes) ∧
        resource.toResource.attributes.Pairwise fun entry next => Text.utf8 entry.key < Text.utf8 next.key) ∧
    ∀ (signal : Signal) (σ : Type) (exporter : Exporter signal σ) (first second : List (Exporter.Command signal)),
      List.Forall₂ Exporter.Command.Reordered first second →
        (exporter.run first).map (·.report) = (exporter.run second).map (·.report) := by
  refine ⟨?resources, ?entries, ?runs⟩
  case resources => exact fun _ _ same => RecordedResource.toResource_eq_of_perm same
  case entries => exact fun resource => ⟨resource.exists_perm_become, resource.pairwise_toResource⟩
  case runs => exact fun _ _ exporter _ _ reordered => Exporter.reports_of_reordered reordered exporter

def RecordedResource.zoned : RecordedResource :=
  ⟨[("zone", .text "eu"), ("app", .text "api"), ("Zone", .ints [1])], by decide⟩

def RecordedResource.zonedLast : RecordedResource :=
  ⟨[("Zone", .ints [1]), ("app", .text "api"), ("zone", .text "eu")], by decide⟩

def Exporter.zonedSession (resource : RecordedResource) : List (Exporter.Command .metrics) :=
  [.setRecordedResource resource, .exportItems [], .exportRecording ⟨resource, []⟩, .shutdownPipeline]

theorem resource_order_is_immaterial_zoned :
    RecordedResource.zoned.entries.Perm RecordedResource.zonedLast.entries ∧
      RecordedResource.zoned.toResource = RecordedResource.zonedLast.toResource ∧
      RecordedResource.zonedLast.toResource.attributes =
        [⟨"Zone", some (.array [.int 1])⟩, ⟨"app", some (.text "api")⟩, ⟨"zone", some (.text "eu")⟩] ∧
      List.Forall₂ Exporter.Command.Reordered (Exporter.zonedSession .zoned) (Exporter.zonedSession .zonedLast) ∧
      ((⟨Sink.memory, .ready [], .empty, .unlimited⟩ : Exporter .metrics (List UInt8)).run
          (Exporter.zonedSession .zoned)).map (·.report) =
        ((⟨Sink.memory, .ready [], .empty, .unlimited⟩ : Exporter .metrics (List UInt8)).run
          (Exporter.zonedSession .zonedLast)).map (·.report) := by
  have same : RecordedResource.zoned.entries.Perm RecordedResource.zonedLast.entries :=
    (List.reverse_perm RecordedResource.zonedLast.entries)
  have reordered : List.Forall₂ Exporter.Command.Reordered (Exporter.zonedSession .zoned)
      (Exporter.zonedSession .zonedLast) :=
    .cons (.resource same) (.cons (.same _) (.cons (.collection same []) (.cons (.same _) .nil)))
  obtain ⟨resources, _, runs⟩ := resource_order_is_immaterial
  have converted : RecordedResource.zonedLast.toResource.attributes =
      [⟨"Zone", some (.array [.int 1])⟩, ⟨"app", some (.text "api")⟩, ⟨"zone", some (.text "eu")⟩] := by
    simp [RecordedResource.toResource, RecordedResource.zonedLast, StandardAttributes.byKey, List.mergeSort,
      List.MergeSort.Internal.splitInTwo, Attribute.ofStandard, StandardValue.toValue]
  exact ⟨same, resources _ _ same, converted, reordered, runs .metrics (List UInt8) _ _ _ reordered⟩

end Telemetry
