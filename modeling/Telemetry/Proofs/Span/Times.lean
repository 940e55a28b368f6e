import Telemetry.Proofs.Document.Items
import Telemetry.Proofs.Instant.Reading
import Telemetry.Recording.Span

/-! The times of spans. A span ends after exactly its duration, unless its last second is beyond the clock:
then it ends where it started. Its times are written in nanoseconds since the epoch, as far as these fit an
unsigned word, and never run backwards. A recorded span gets back the later of its own start and end, since
the time between two instants of the clock is always a duration and leads back into the clock. -/
namespace Telemetry

-- Powers are those of the core library, also where Mathlib brings its own.
attribute [local instance (high)] instPowNat

/-- The second in which a sum of readings lies, with what the nanoseconds carry. -/
theorem Instant.Reading.second_of_sum (start : Reading) (duration : Duration.Reading) :
    (start.instant.nanoseconds + duration.duration.nanoseconds) / 10 ^ (9 : Nat) =
      start.seconds.toInt + duration.seconds.toNat +
        ((start.nanos.val + duration.nanos.val) / 10 ^ (9 : Nat) : Nat) := by
  simp only [instant, Duration.Reading.duration]
  omega

namespace Span

/-- The clock holds a sum just when it holds the second in which the sum lies. -/
theorem endNanoseconds_eq (span : Span) :
    span.endNanoseconds =
      if (span.start.nanoseconds + span.duration.nanoseconds) / 10 ^ (9 : Nat) ≤ 2 ^ (63 : Nat) - 1 then
        span.start.nanoseconds + span.duration.nanoseconds
      else span.start.nanoseconds := by
  rw [endNanoseconds]
  congr 1
  rw [eq_iff_iff]
  omega

theorem start_le_finish (span : Span) : span.start.nanoseconds ≤ span.finish.nanoseconds := by
  rw [nanoseconds_finish, endNanoseconds]
  split <;> omega

theorem finish_readings {span : Span} {start : Instant.Reading} {duration : Duration.Reading}
    (starts : span.start = start.instant) (lasts : span.duration = duration.duration) :
    span.finish = ((start.after? duration).getD start).instant := by
  rw [finish, starts, lasts, ← Instant.Reading.after?_instant]
  cases start.after? duration <;> rfl

structure TimesShown (span : Span) (node : Json) (first last : Nat) : Prop where
  start : node.membersNamed "startTimeUnixNano" = [.natural first]
  finish : node.membersNamed "endTimeUnixNano" = [.natural last]
  clamped_start : (first : Int) = max 0 (min span.start.nanoseconds (2 ^ (64 : Nat) - 1))
  clamped_finish : (last : Int) = max 0 (min span.finish.nanoseconds (2 ^ (64 : Nat) - 1))
  ordered : first ≤ last

theorem timesShown (limit : Option Nat) (span : Span) :
    span.TimesShown (span.toJson limit) span.start.unixNanoseconds span.finish.unixNanoseconds := by
  have starts : ("startTimeUnixNano", some (.natural span.start.unixNanoseconds)) ∈ (span.view limit).fields := by
    simp [SpanView.fields, view, Instant.unixNanoseconds_eq_clamped]
  have ends : ("endTimeUnixNano", some (.natural span.finish.unixNanoseconds)) ∈ (span.view limit).fields := by
    simp [SpanView.fields, view, Instant.unixNanoseconds_eq_clamped, nanoseconds_finish]
  rw [← toJson_view]
  constructor
  · exact (span.view limit).membersNamed_toJson starts
  · exact (span.view limit).membersNamed_toJson ends
  · exact span.start.unixNanoseconds_eq
  · exact span.finish.unixNanoseconds_eq
  · exact Instant.unixNanoseconds_mono span.start_le_finish

end Span

/-- The time between two instants leads from the one to the later of both, and not out of the clock. -/
theorem Instant.after?_elapsed_eq (start finish : Instant) : ∃ last,
    start.after? (start.elapsed finish) = some last ∧
      last.nanoseconds = max start.nanoseconds finish.nanoseconds := by
  by_cases ordered : start.nanoseconds ≤ finish.nanoseconds
  · exact ⟨finish, after?_elapsed ordered, (max_eq_right ordered).symm⟩
  · refine ⟨start, after?_eq_some ?_, (max_eq_left (by omega)).symm⟩
    simp only [elapsed]
    omega

theorem RecordedSpan.finish_toSpan (span : RecordedSpan) :
    span.toSpan.finish.nanoseconds = max span.start.nanoseconds span.finish.nanoseconds := by
  obtain ⟨last, reached, latest⟩ := span.start.after?_elapsed_eq span.finish
  have sum : span.toSpan.start.after? span.toSpan.duration = some last := reached
  rw [Span.finish, sum, Option.getD_some, latest]

theorem span_times_are_exact :
    (∀ (span : Span) (start : Instant.Reading) (duration : Duration.Reading),
      span.start = start.instant → span.duration = duration.duration →
        span.finish = ((start.after? duration).getD start).instant ∧
          span.finish.nanoseconds =
            if start.seconds.toInt + duration.seconds.toNat +
                ((start.nanos.val + duration.nanos.val) / 10 ^ (9 : Nat) : Nat) ≤ 2 ^ (63 : Nat) - 1 then
              span.start.nanoseconds + span.duration.nanoseconds
            else span.start.nanoseconds) ∧
    (∀ (resource : Resource) (limits : AttributeLimits) (spans : List Span),
      (Signal.traces.document resource limits spans).failure? = none →
        List.Forall₂ (fun span node => ∃ first last, span.TimesShown node first last) spans
          (Signal.traces.itemsRead (Text.utf8 (Signal.traces.document resource limits spans).text))) ∧
    (∀ first second : Instant, first.nanoseconds ≤ second.nanoseconds →
      first.unixNanoseconds ≤ second.unixNanoseconds) ∧
    (∀ (span : RecordedSpan) (start finish : Instant.Reading),
      span.start = start.instant → span.finish = finish.instant →
        span.toSpan.start = span.start ∧
          span.toSpan.duration = (start.elapsed finish).duration ∧
          start.after? (start.elapsed finish) ≠ none ∧
          span.toSpan.finish.nanoseconds = max span.start.nanoseconds span.finish.nanoseconds) ∧
    Function.Bijective Instant.Reading.instant ∧ Function.Bijective Duration.Reading.duration := by
  refine ⟨?sums, ?written, fun _ _ => Instant.unixNanoseconds_mono, ?recorded,
    Instant.Reading.instant_bijective, Duration.Reading.duration_bijective⟩
  case sums =>
    intro span start duration starts lasts
    refine ⟨span.finish_readings starts lasts, ?_⟩
    rw [← Instant.Reading.second_of_sum, ← starts, ← lasts, span.nanoseconds_finish]
    exact span.endNanoseconds_eq
  case written =>
    intro resource limits spans encodable
    have each : ∀ span : Span, ∃ first last, span.TimesShown (span.toJson limits.valueLength) first last :=
      fun span => ⟨_, _, span.timesShown limits.valueLength⟩
    exact Signal.traces.forall₂_itemsRead resource limits spans each encodable
  case recorded =>
    intro span start finish starts ends
    refine ⟨rfl, ?_, ?_, span.finish_toSpan⟩
    · rw [Instant.Reading.elapsed_instant, ← starts, ← ends]
      rfl
    · intro lost
      obtain ⟨last, reached, _⟩ := start.instant.after?_elapsed_eq finish.instant
      rw [← Instant.Reading.elapsed_instant, ← Instant.Reading.after?_instant, lost] at reached
      contradiction

namespace Instant.Reading

def earliest : Reading :=
  ⟨.minValue, ⟨0, Duration.second_pos⟩⟩

def latest : Reading :=
  ⟨.maxValue, ⟨10 ^ (9 : Nat) - 1, by decide⟩⟩

end Instant.Reading

def Duration.Reading.tick : Duration.Reading :=
  ⟨0, ⟨1, by decide⟩⟩

def Span.ticking (start : Instant.Reading) : Span :=
  ⟨⟨1⟩, ⟨2⟩, .invalid, "tick", .internal, start.instant, Duration.Reading.tick.duration, .unset, [], [], [],
    ⟨"clock", none, none, []⟩⟩

def Span.extremes : List Span :=
  [.ticking .earliest, .ticking .latest]

def RecordedSpan.lasting : RecordedSpan :=
  ⟨⟨1⟩, ⟨2⟩, .invalid, "clock", .internal, Instant.Reading.earliest.instant, Instant.Reading.latest.instant, .unset, [],
    [], [], ⟨"clock", none, none, []⟩⟩

/-- After the last nanosecond of the clock only the carry leaves it, and from its first nanosecond to its
last it is further than a signed word counts seconds. -/
theorem span_times_are_exact_extremes :
    (Span.ticking .latest).finish.nanoseconds = (Span.ticking .latest).start.nanoseconds ∧
      (Signal.traces.document .empty .unlimited Span.extremes).failure? = none ∧
      List.Forall₂ (fun span node => ∃ first last, span.TimesShown node first last) Span.extremes
        (Signal.traces.itemsRead (Text.utf8 (Signal.traces.document .empty .unlimited Span.extremes).text)) ∧
      Instant.Reading.earliest.instant.unixNanoseconds ≤ Instant.Reading.latest.instant.unixNanoseconds ∧
      RecordedSpan.lasting.toSpan.finish.nanoseconds = Instant.Reading.latest.instant.nanoseconds := by
  obtain ⟨sums, written, mono, recorded, _⟩ := span_times_are_exact
  have encodable : (Signal.traces.document .empty .unlimited Span.extremes).failure? = none := by
    rw [Signal.failure?_document]
    rfl
  have ordered : Instant.Reading.earliest.instant.nanoseconds ≤ Instant.Reading.latest.instant.nanoseconds := by
    decide
  refine ⟨?carried, encodable, written _ _ _ encodable, mono _ _ ordered, ?lasting⟩
  case carried =>
    rw [(sums (.ticking .latest) .latest .tick rfl rfl).2]
    decide
  case lasting =>
    rw [(recorded .lasting .earliest .latest rfl rfl).2.2.2]
    exact max_eq_right ordered

end Telemetry
