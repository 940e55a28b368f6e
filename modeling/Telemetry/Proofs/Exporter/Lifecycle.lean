import Telemetry.Proofs.Delivery.Crash
import Telemetry.Proofs.Exporter.Run

/-! The life of an exporter. It is ready until it is shut down or until its sink crashes, and then it stays
as it is: it refuses every export and every shutdown, and its sink gets no more calls. A failure that is
not a crash changes nothing, so an exporter is closed once at most, whatever its sink does. -/
namespace Telemetry

inductive Outcome.Working : Outcome → Prop
  | done : Working .done
  | crashed : Working .crashed
  | sink (error : SinkError) : Working (.failed (.sink error))
  | unsupported (reason : String) : Working (.failed (.unsupportedValue reason))

def Outcome.gone : Outcome → Bool
  | .failed .alreadyShutdown => true
  | .failed (.other _) => true
  | .refused .alreadyShutdown => true
  | .refused (.internalFailure reason) => reason = ExportError.poisoned.message
  | _ => false

/-- A delivery fails through the sink or for an unsupported value. -/
theorem Sink.deliver_working {σ : Type} (sink : Sink σ) (state : σ) (document : Document) :
    (Outcome.ofDelivery (sink.deliver state document).outcome).Working := by
  have stopped : ∀ stop : Stop, (Outcome.ofDelivery stop.outcome).Working := by
    rintro (error | _)
    · exact .sink error
    · exact .crashed
  unfold deliver
  cases failure : document.failure? with
  | none =>
    simp only
    split
    · exact stopped _
    · unfold finish
      split
      · exact .done
      · exact .sink _
      · exact .crashed
  | some error =>
    obtain ⟨reason, _, rfl⟩ := Option.map_eq_some_iff.mp failure
    simp only
    split
    · exact stopped _
    · unfold breakOff
      simp only
      split
      · exact .crashed
      · exact .unsupported _

namespace ExportError

private theorem head?_append {s : String} {first : Char} (start : s.toList.head? = some first) (text : String) :
    (s ++ text).toList.head? = some first := by
  rw [String.toList_append, List.head?_append, start, Option.some_or]

theorem head?_message_sink (error : SinkError) : (sink error).message.toList.head? = some 'f' :=
  have start : "failed to write OTLP/JSON document: ".toList.head? = some 'f' := rfl
  head?_append start error.message

theorem head?_message_unsupportedValue (reason : String) :
    (unsupportedValue reason).message.toList.head? = some 'u' :=
  have start : "unsupported attribute value: ".toList.head? = some 'u' := rfl
  head?_append start reason

end ExportError

namespace Exporter

variable {signal : Signal} {σ : Type}

namespace Command

def usesSink : Command signal → Bool
  | .exportItems _ => true
  | .exportRecording _ => true
  | .shutdown => true
  | .shutdownPipeline => true
  | _ => false

private theorem ne_poisoned_message {message : String} {first : Char} (start : message.toList.head? = some first)
    (other : first ≠ 's') : message ≠ ExportError.poisoned.message := by
  have poisoned : ExportError.poisoned.message.toList.head? = some 's' := rfl
  rintro rfl
  exact other (Option.some.inj (start.symm.trans poisoned))

/-- While the sink is there, neither a caller nor a pipeline is told that it is gone. -/
theorem not_gone_told {outcome : Outcome} (working : outcome.Working) (command : Command signal) :
    (command.told outcome).gone = false := by
  unfold told
  cases working with
  | done | crashed => split <;> rfl
  | sink error =>
    split
    · exact decide_eq_false (ne_poisoned_message (ExportError.head?_message_sink error) (by decide))
    · rfl
  | unsupported reason =>
    split
    · exact decide_eq_false (ne_poisoned_message (ExportError.head?_message_unsupportedValue reason) (by decide))
    · rfl

end Command

inductive Phase where
  | ready
  | closed
  | poisoned
  deriving DecidableEq

def Phase.next (phase : Phase) (crashed closing : Bool) : Phase :=
  match phase with
  | .ready => if crashed then .poisoned else if closing then .closed else .ready
  | .closed => .closed
  | .poisoned => .poisoned

theorem Phase.next_idle (phase : Phase) : phase.next false false = phase := by
  cases phase <;> rfl

theorem Phase.next_of_away {phase : Phase} (away : phase ≠ .ready) (crashed closing : Bool) :
    phase.next crashed closing = phase := by
  cases phase with
  | ready => exact absurd rfl away
  | closed | poisoned => rfl

def phase (exporter : Exporter signal σ) : Phase :=
  match exporter.channel with
  | .ready _ => .ready
  | .closed => .closed
  | .poisoned => .poisoned

structure Lawful (before : Phase) (closing : Bool) (calls : List SinkCall) (outcome : Outcome) (after : Phase) :
    Prop where
  changes : after = before.next (calls.any (·.crashed)) closing
  silent : before ≠ .ready → calls = []
  closed : before = .closed → outcome = .failed .alreadyShutdown
  poisoned : before = .poisoned → outcome = .failed .poisoned
  working : before = .ready → outcome.Working
  crash : outcome = .crashed ↔ calls.any (·.crashed) = true

namespace Lawful

variable {closing : Bool}

theorem of_closed : Lawful .closed closing [] (.failed .alreadyShutdown) .closed := by
  refine ⟨rfl, fun _ => rfl, fun _ => rfl, ?poisoned, ?working, ?crash⟩
  all_goals simp

theorem of_poisoned : Lawful .poisoned closing [] (.failed .poisoned) .poisoned := by
  refine ⟨rfl, fun _ => rfl, ?closed, fun _ => rfl, ?working, ?crash⟩
  all_goals simp

theorem of_ready {calls : List SinkCall} {outcome : Outcome} {after : Phase} (working : outcome.Working)
    (crash : outcome = .crashed ↔ calls.any (·.crashed) = true)
    (changes : after = if outcome = .crashed then .poisoned else if closing then .closed else .ready) :
    Lawful .ready closing calls outcome after := by
  refine ⟨?changes, fun away => absurd rfl away, ?closed, ?poisoned, fun _ => working, crash⟩
  case changes =>
    simp only [changes, crash]
    rfl
  all_goals simp

end Lawful

variable (exporter : Exporter signal σ)

theorem write_lawful (document : Document) :
    Lawful exporter.phase false (exporter.calls document) (exporter.write document).outcome
      { exporter with channel := (exporter.write document).channel : Exporter signal σ }.phase := by
  unfold phase calls write
  cases exporter.channel with
  | closed => exact .of_closed
  | poisoned => exact .of_poisoned
  | ready state =>
    have crash := exporter.sink.deliver_crashed_iff state document
    have working := exporter.sink.deliver_working state document
    rw [← List.any_eq_true] at crash
    simp only
    generalize exporter.sink.deliver state document = delivery at crash working ⊢
    obtain ⟨accepted, flushes, next, outcome⟩ := delivery
    apply Lawful.of_ready working
    · rw [← crash]
      cases outcome <;> simp [Outcome.ofDelivery]
    · cases outcome <;> rfl

theorem close_lawful :
    Lawful exporter.phase true exporter.closeCalls exporter.close.outcome
      { exporter with channel := exporter.close.channel : Exporter signal σ }.phase := by
  unfold phase closeCalls close
  cases exporter.channel with
  | closed => exact .of_closed
  | poisoned => exact .of_poisoned
  | ready state =>
    simp only [Sink.recorded, List.nil_append]
    cases (exporter.sink.flush state).1 with
    | done => exact .of_ready .done (by simp [SinkCall.crashed]) rfl
    | failed error => exact .of_ready (.sink error) (by simp [SinkCall.crashed]) rfl
    | crashed => exact .of_ready .crashed (by simp [SinkCall.crashed]) rfl

namespace Transition

/-- The rules that a step of a run keeps. Only a shutdown of a ready exporter, whether its flush succeeds or
fails, and a crash of the sink change the phase. -/
structure Orderly (step : Transition signal σ) : Prop where
  accepted_eq : step.calls.flatMap (·.accepted) = step.report.accepted
  flushes_eq : step.calls.countP (·.isFlush) = step.report.flushes
  changes : step.after.phase = step.before.phase.next (step.calls.any (·.crashed)) step.command.isShutdown
  silent : step.before.phase ≠ .ready → step.calls = []
  closed : step.before.phase = .closed → step.command.usesSink = true →
    step.report.outcome = step.command.told (.failed .alreadyShutdown)
  poisoned : step.before.phase = .poisoned → step.command.usesSink = true →
    step.report.outcome = step.command.told (.failed .poisoned)
  ready : step.before.phase = .ready → step.report.outcome.gone = false
  crash : step.report.outcome = .crashed ↔ step.calls.any (·.crashed) = true
  refused : step.command.isPipeline = true →
    (step.report.outcome = .refused .alreadyShutdown ↔ step.before.phase = .closed)

def closes (step : Transition signal σ) : Bool :=
  step.command.isShutdown && !step.report.outcome.gone && step.report.outcome ≠ .crashed

end Transition

theorem Lawful.orderly {command : Command signal} {outcome : Outcome}
    (lawful : Lawful exporter.phase command.isShutdown (exporter.sinkCalls command) outcome
      (exporter.step command).2.phase)
    (told : (exporter.step command).1.outcome = command.told outcome) : (exporter.transition command).Orderly := by
  refine ⟨exporter.sinkCalls_accepted command, exporter.sinkCalls_flushes command, lawful.changes,
    lawful.silent, ?closed, ?poisoned, ?ready, ?crash, ?refused⟩
  case closed => exact fun before _ => told.trans (congrArg command.told (lawful.closed before))
  case poisoned => exact fun before _ => told.trans (congrArg command.told (lawful.poisoned before))
  case ready =>
    intro before
    rw [transition, told]
    exact command.not_gone_told (lawful.working before)
  case crash =>
    rw [transition, told, Command.told_eq_crashed]
    exact lawful.crash
  case refused =>
    intro (pipeline : command.isPipeline = true)
    rw [transition, told]
    cases before : exporter.phase with
    | ready =>
      have kept := command.not_gone_told (lawful.working before)
      have other : command.told outcome ≠ .refused .alreadyShutdown := by
        intro same
        rw [same] at kept
        contradiction
      simp only [other, reduceCtorEq]
    | closed =>
      rw [lawful.closed before, Command.told, if_pos pipeline]
      exact iff_of_true rfl rfl
    | poisoned =>
      rw [lawful.poisoned before, Command.told, if_pos pipeline]
      simp [Outcome.toPipeline, ExportError.toPipeline, ExportError.poisoned]

/-- One step of an exporter is orderly, whatever its sink does. -/
theorem step_orderly (command : Command signal) : (exporter.transition command).Orderly := by
  cases command with
  | exportItems | exportRecording =>
    refine Lawful.orderly exporter ?_ rfl
    exact exporter.write_lawful _
  | shutdown | shutdownPipeline =>
    refine Lawful.orderly exporter ?_ rfl
    exact exporter.close_lawful
  | setResource | setRecordedResource | forceFlush =>
    refine ⟨rfl, rfl, (Phase.next_idle exporter.phase).symm, fun _ => rfl, ?closed, ?poisoned,
      fun _ => rfl, ?crash, ?refused⟩
    case closed | poisoned => exact fun _ uses => absurd uses Bool.false_ne_true
    case crash => exact iff_of_false (by simp [transition, step, Report.quiet]) Bool.false_ne_true
    case refused => exact fun pipeline => absurd pipeline Bool.false_ne_true

theorem run_orderly (commands : List (Command signal)) : ∀ step ∈ exporter.run commands, step.Orderly := by
  induction commands generalizing exporter with
  | nil => exact List.forall_mem_nil _
  | cons command commands ih => exact List.forall_mem_cons.mpr ⟨exporter.step_orderly command, ih _⟩

namespace Transition

variable {step : Transition signal σ} (orderly : step.Orderly)

include orderly

theorem Orderly.gone (away : step.before.phase ≠ .ready) (uses : step.command.usesSink = true) :
    step.report.outcome.gone = true := by
  cases before : step.before.phase with
  | ready => exact absurd before away
  | closed =>
    rw [orderly.closed before uses, Command.told]
    split <;> rfl
  | poisoned =>
    rw [orderly.poisoned before uses, Command.told]
    split
    · exact decide_eq_true (rfl : ExportError.poisoned.message = ExportError.poisoned.message)
    · rfl

/-- A shutdown that finds the sink and comes back takes a ready exporter to its end. -/
theorem Orderly.of_closes (closes : step.closes = true) :
    step.before.phase = .ready ∧ step.after.phase = .closed := by
  rw [Transition.closes, Bool.and_eq_true, Bool.and_eq_true, Bool.not_eq_true', decide_eq_true_iff] at closes
  obtain ⟨⟨shutdown, found⟩, back⟩ := closes
  have uses : step.command.usesSink = true := by
    cases command : step.command with
    | shutdown | shutdownPipeline => rfl
    | _ => rw [command] at shutdown; contradiction
  have before : step.before.phase = .ready := by
    apply Decidable.byContradiction
    intro away
    exact Bool.false_ne_true (found.symm.trans (orderly.gone away uses))
  have calm : step.calls.any (·.crashed) = false := by
    rw [← Bool.not_eq_true, ← orderly.crash]
    exact back
  refine ⟨before, ?_⟩
  rw [orderly.changes, before, calm, shutdown]
  rfl

end Transition

/-- No shutdown finds a sink that is gone. -/
theorem countP_closes_of_away {exporter : Exporter signal σ} (away : exporter.phase ≠ .ready)
    (commands : List (Command signal)) : (exporter.run commands).countP (·.closes) = 0 := by
  induction commands generalizing exporter with
  | nil => rfl
  | cons command commands ih =>
    have orderly := exporter.step_orderly command
    have still : (exporter.step command).2.phase = exporter.phase :=
      orderly.changes.trans (Phase.next_of_away away _ _)
    rw [run, List.countP_cons_of_neg, ih (still ▸ away)]
    exact fun closes => away (orderly.of_closes closes).1

/-- Every step of a run is orderly, and no more than one shutdown in it finds the sink and comes back. -/
theorem exporter_lifecycle (commands : List (Command signal)) :
    (∀ step ∈ exporter.run commands, step.Orderly) ∧ (exporter.run commands).countP (·.closes) ≤ 1 := by
  refine ⟨exporter.run_orderly commands, ?_⟩
  induction commands generalizing exporter with
  | nil => exact Nat.zero_le 1
  | cons command commands ih =>
    rw [run, List.countP_cons]
    split
    · rename_i closes
      have after : (exporter.step command).2.phase = .closed := ((exporter.step_orderly command).of_closes closes).2
      have away : (exporter.step command).2.phase ≠ .ready := by
        simp only [after, ne_eq, reduceCtorEq, not_false_eq_true]
      exact Nat.le_of_eq (congrArg (· + 1) (countP_closes_of_away away commands))
    · exact ih _

end Exporter

end Telemetry
