import Telemetry.Proofs.Delivery.Blame
import Telemetry.Proofs.Document.Unsupported
import Telemetry.Proofs.Exporter.Lifecycle
import Telemetry.Proofs.Recording.Unsupported

/-! Which recordings can be exported. Recorded spans and collected metrics have an encoding, so an exporter
with a resource that has one fails to export them only where its sink fails. A batch of recorded logs is
refused when it holds raw bytes or a map that would be written, and the first of them tells why. -/
namespace Telemetry

inductive Outcome.ThroughSink (calls : List SinkCall) : Outcome → Prop
  | done : ThroughSink calls .done
  | crashed {call : SinkCall} (member : call ∈ calls) (crash : call.crashed = true) : ThroughSink calls .crashed
  | refused {call : SinkCall} {error : SinkError} (member : call ∈ calls) (raises : call.Raises error) :
    ThroughSink calls (.refused (ExportError.sink error).toPipeline)

namespace ExportError

theorem toPipeline_ne {error : ExportError} {reason : String}
    (apart : error.message.toList.head? ≠ some 'u') : error.toPipeline ≠ (unsupportedValue reason).toPipeline := by
  intro same
  cases error with
  | alreadyShutdown => contradiction
  | sink | unsupportedValue | invalidHistogram | other =>
    have messages := PipelineError.internalFailure.inj same
    exact apart (messages ▸ head?_message_unsupportedValue reason)

end ExportError

namespace Exporter

variable {signal : Signal} {σ : Type}

/-- A recording that an exporter never refuses for what is in it. While the sink is there, nothing but the
sink makes the export fail. -/
structure Encodes (exporter : Exporter signal σ) (recording : signal.Recording) : Prop where
  supported : ∀ reason,
    (exporter.exportRecording recording).1.outcome ≠ .refused (ExportError.unsupportedValue reason).toPipeline
  throughSink : ∀ state, exporter.channel = .ready state →
    Outcome.ThroughSink (exporter.sinkCalls (.exportRecording recording))
      (exporter.exportRecording recording).1.outcome
  accepted : ∀ state, exporter.channel = .ready state → exporter.sink.Accepting →
    (exporter.exportRecording recording).1.outcome = .done

variable (exporter : Exporter signal σ) (recording : signal.Recording)

theorem exportRecording_ready {state : σ} (ready : exporter.channel = .ready state) :
    (exporter.exportRecording recording).1.outcome =
      (Outcome.ofDelivery (exporter.sink.deliver state (exporter.recordedDocument recording)).outcome).toPipeline := by
  change (exporter.write (exporter.recordedDocument recording)).outcome.toPipeline = _
  rw [write, ready]

theorem sinkCalls_ready {state : σ} (ready : exporter.channel = .ready state) :
    exporter.sinkCalls (.exportRecording recording) =
      exporter.sink.calls state (exporter.recordedDocument recording) := by
  change exporter.calls (exporter.recordedDocument recording) = _
  rw [calls, ready]

variable {recording}

theorem throughSink_of_encodable (encodable : (exporter.recordedDocument recording).failure? = none) {state : σ}
    (ready : exporter.channel = .ready state) : Outcome.ThroughSink (exporter.sinkCalls (.exportRecording recording))
      (exporter.exportRecording recording).1.outcome := by
  have working := exporter.sink.deliver_working state (exporter.recordedDocument recording)
  rw [exporter.exportRecording_ready recording ready, exporter.sinkCalls_ready recording ready]
  cases outcome : (exporter.sink.deliver state (exporter.recordedDocument recording)).outcome with
  | delivered => exact .done
  | crashed =>
    obtain ⟨call, member, crash⟩ := (exporter.sink.deliver_crashed_iff state _).mp outcome
    exact .crashed member crash
  | failed error =>
    rw [outcome] at working
    cases working with
    | sink error =>
      obtain ⟨call, member, raises⟩ := exporter.sink.exists_call_raises outcome
      exact .refused member raises
    | unsupported reason => exact nomatch encodable.symm.trans (exporter.sink.failure?_of_unsupported outcome)

theorem supported_of_encodable (encodable : (exporter.recordedDocument recording).failure? = none) (reason : String) :
    (exporter.exportRecording recording).1.outcome ≠ .refused (ExportError.unsupportedValue reason).toPipeline := by
  cases channel : exporter.channel with
  | ready state =>
    intro refused
    have through := exporter.throughSink_of_encodable encodable channel
    generalize (exporter.exportRecording recording).1.outcome = outcome at refused through
    cases through with
    | done | crashed => contradiction
    | refused _ _ =>
      refine ExportError.toPipeline_ne ?_ (Outcome.refused.inj refused)
      rw [ExportError.head?_message_sink]
      decide
  | closed | poisoned =>
    change (exporter.write (exporter.recordedDocument recording)).outcome.toPipeline ≠ _
    rw [write, channel]
    intro refused
    exact ExportError.toPipeline_ne (by decide) (Outcome.refused.inj refused)

theorem encodes_of_encodable (encodable : (exporter.recordedDocument recording).failure? = none) :
    exporter.Encodes recording := by
  refine ⟨exporter.supported_of_encodable encodable, fun state => exporter.throughSink_of_encodable encodable, ?_⟩
  intro state ready accepting
  rw [exporter.exportRecording_ready recording ready, accepting.delivers state encodable]
  rfl

theorem failure?_recordedDocument (recording : signal.Recording) : (exporter.recordedDocument recording).failure? =
    (Value.unsupportedIn ((signal.recordedResource? recording).getD exporter.resource).values ++
      (signal.convert recording).flatMap fun item => Value.unsupportedIn (signal.values item)).head?.map fun kind =>
        .unsupportedValue (Value.noEncoding kind) := by
  rw [recordedDocument, Signal.failure?_document, Signal.documentValues, Value.unsupportedIn_append,
    Value.unsupportedIn_flatMap]

theorem recordedDocument_encodable
    (resource : Value.unsupportedIn ((signal.recordedResource? recording).getD exporter.resource).values = [])
    (items : ∀ item ∈ signal.convert recording, Value.unsupportedIn (signal.values item) = []) :
    (exporter.recordedDocument recording).failure? = none := by
  rw [failure?_recordedDocument, resource, List.flatMap_eq_nil_iff.mpr items]
  rfl

section Logs

variable {exporter : Exporter .logs σ} {state : σ} (ready : exporter.channel = .ready state)
  (accepting : exporter.sink.Accepting) (clean : Value.unsupportedIn exporter.resource.values = [])

include ready accepting clean

/-- Through a sink that takes everything, logs fare as their first raw value does. -/
theorem outcome_logs (records : List RecordedLog) : (exporter.exportRecording records).1.outcome =
    (records.flatMap (·.rawKinds)).head?.elim .done fun kind =>
      .refused (ExportError.unsupportedValue (Value.noEncoding kind)).toPipeline := by
  have kinds : ((Signal.logs.convert records).flatMap fun item => Value.unsupportedIn (Signal.logs.values item)) =
      records.flatMap (·.rawKinds) := by
    rw [Signal.convert, List.flatMap_map]
    exact List.flatMap_congr fun record _ => record.unsupportedIn_toLogRecord
  have failure := exporter.failure?_recordedDocument records
  rw [kinds, Signal.recordedResource?, Option.getD_none, clean, List.nil_append] at failure
  rw [exporter.exportRecording_ready records ready, accepting.outcome_eq, failure]
  cases (records.flatMap (·.rawKinds)).head? <;> rfl

theorem failed_logs_iff (records : List RecordedLog) :
    (exporter.exportRecording records).1.outcome ≠ .done ↔ ∃ record ∈ records, record.Raw := by
  have some : (∃ record ∈ records, record.Raw) ↔ records.flatMap (·.rawKinds) ≠ [] := by
    rw [ne_eq, List.flatMap_eq_nil_iff]
    push Not
    exact exists_congr fun record => and_congr_right fun _ => record.rawKinds_ne_nil.symm
  rw [outcome_logs ready accepting clean records, some]
  cases records.flatMap (·.rawKinds) with
  | nil => exact iff_of_false (fun failed => failed rfl) fun none => none rfl
  | cons kind rest => exact iff_of_true (fun done => nomatch done) (List.cons_ne_nil kind rest)

theorem refused_logs_reason {records : List RecordedLog} {record : RecordedLog} (member : record ∈ records)
    (raw : record.Raw) : ∃ kind rest, records.flatMap (·.rawKinds) = kind :: rest ∧
      (kind = "bytes" ∨ kind = "kvlist") ∧ (exporter.exportRecording records).1.outcome = .refused
        (.internalFailure ("unsupported attribute value: " ++ (kind ++ " values have no OTLP/JSON encoding"))) := by
  cases kinds : records.flatMap (·.rawKinds) with
  | nil =>
    rw [List.flatMap_eq_nil_iff] at kinds
    exact absurd (kinds record member) (record.rawKinds_ne_nil.mpr raw)
  | cons kind rest =>
    refine ⟨kind, rest, rfl, ?known, ?outcome⟩
    case known =>
      have among : kind ∈ records.flatMap (·.rawKinds) := kinds ▸ List.mem_cons_self
      obtain ⟨_, _, inside⟩ := List.mem_flatMap.mp among
      exact RecordedLog.mem_rawKinds inside
    case outcome =>
      rw [outcome_logs ready accepting clean records, kinds]
      rfl

end Logs

end Exporter

/-- No exporter refuses spans or metrics for what is in them, if its resource has an encoding, as that of a
program always has. It refuses logs just when raw bytes or a map would be written, and it names the first. -/
theorem recordings_refused_for_raw_values {σ : Type} :
    (∀ (exporter : Exporter .traces σ) (spans : List RecordedSpan),
      Value.unsupportedIn exporter.resource.values = [] → exporter.Encodes spans) ∧
    (∀ (exporter : Exporter .metrics σ) (collection : Collection), exporter.Encodes collection) ∧
    (∀ (signal : Signal) (exporter : Exporter signal σ) (resource : RecordedResource),
      Value.unsupportedIn (exporter.step (.setRecordedResource resource)).2.resource.values = []) ∧
    ∀ (exporter : Exporter .logs σ) (state : σ), exporter.channel = .ready state → exporter.sink.Accepting →
      Value.unsupportedIn exporter.resource.values = [] → ∀ records : List RecordedLog,
        ((exporter.exportRecording records).1.outcome ≠ .done ↔ ∃ record ∈ records, record.Raw) ∧
        ((∃ record ∈ records, record.Raw) → ∃ kind rest, records.flatMap (·.rawKinds) = kind :: rest ∧
          (kind = "bytes" ∨ kind = "kvlist") ∧
          (exporter.exportRecording records).1.outcome = .refused (.internalFailure
            ("unsupported attribute value: " ++ (kind ++ " values have no OTLP/JSON encoding")))) := by
  refine ⟨?spans, ?metrics, ?resource, ?logs⟩
  case spans =>
    intro exporter spans clean
    apply exporter.encodes_of_encodable
    refine exporter.recordedDocument_encodable clean (List.forall_mem_map.mpr ?_)
    exact fun span _ => span.unsupportedIn_toSpan
  case metrics =>
    intro exporter collection
    apply exporter.encodes_of_encodable
    exact exporter.recordedDocument_encodable collection.resource.unsupportedIn_toResource
      fun metric member => Collection.unsupportedIn_metrics member
  case resource => exact fun _ _ resource => resource.unsupportedIn_toResource
  case logs =>
    intro exporter state ready accepting clean records
    refine ⟨Exporter.failed_logs_iff ready accepting clean records, ?_⟩
    rintro ⟨record, member, raw⟩
    exact Exporter.refused_logs_reason ready accepting clean member raw

def RecordedLog.rawPair : List RecordedLog :=
  [⟨none, none, none, none, some (.bytes [0]), [("\x7bOriginalFormat\x7d", .text "hello")], none⟩,
    ⟨none, none, none, none, some (.bytes [0]),
      [("\x7bOriginalFormat\x7d", .int 1), ("nested", .list [.bool true, .list [.map []]])], none⟩]

/-- The bytes under the template do no harm, and the map comes before the bytes in the other body. -/
theorem recordings_refused_for_raw_values_nested :
    (⟨Sink.memory, .poisoned, .empty, .unlimited⟩ : Exporter .traces (List UInt8)).Encodes [] ∧
      Sink.memory.Accepting ∧ RecordedLog.rawPair.flatMap (·.rawKinds) = ["kvlist", "bytes"] ∧
      ((⟨Sink.memory, .ready [], .empty, .unlimited⟩ : Exporter .logs (List UInt8)).exportRecording
        RecordedLog.rawPair).1.outcome = .refused (.internalFailure
          "unsupported attribute value: kvlist values have no OTLP/JSON encoding") := by
  have accepting := Sink.memory_welcoming.accepting
  obtain ⟨spans, _, _, logs⟩ := @recordings_refused_for_raw_values (List UInt8)
  obtain ⟨_, refused⟩ := logs ⟨Sink.memory, .ready [], .empty, .unlimited⟩ [] rfl accepting rfl RecordedLog.rawPair
  have inside : LogValue.Raw (.list [.bool true, .list [.map []]]) :=
    .list (List.mem_cons_of_mem _ (List.mem_singleton.mpr rfl)) (.list (List.mem_singleton.mpr rfl) (.map []))
  obtain ⟨kind, rest, kinds, _, outcome⟩ := refused ⟨_, List.mem_cons_of_mem _ (List.mem_singleton.mpr rfl),
    .attribute (List.mem_cons_of_mem _ (List.mem_singleton.mpr rfl)) inside⟩
  have order : RecordedLog.rawPair.flatMap (·.rawKinds) = ["kvlist", "bytes"] := by decide
  obtain ⟨rfl, _⟩ := List.cons.inj (order.symm.trans kinds)
  exact ⟨spans _ [] rfl, accepting, order, outcome⟩

end Telemetry
