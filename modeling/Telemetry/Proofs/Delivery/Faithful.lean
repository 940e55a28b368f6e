import Telemetry.Exporter
import Telemetry.Proofs.Delivery.Calls
import Telemetry.Proofs.Text.Utf8

/-! Faithful delivery. However a sink behaves, the bytes that it accepts are the beginning of the text of
the document. Success means that the sink took the whole text of a document without a gap and then
flushed, and a flush comes once at most, after all of that text. -/
namespace Telemetry

open SinkCall

variable {σ : Type}

def Sink.calls (sink : Sink σ) (state : σ) (document : Document) : List SinkCall :=
  (sink.recorded.deliver (state, []) document).state.2

def Exporter.calls {signal : Signal} (exporter : Exporter signal σ) (document : Document) : List SinkCall :=
  match exporter.channel with
  | .ready state => exporter.sink.calls state document
  | .closed => []
  | .poisoned => []

structure Faithful (document : Document) (calls : List SinkCall) (accepted : List UInt8) (flushes : Nat)
    (success : Prop) : Prop where
  accepted_eq : calls.flatMap (·.accepted) = accepted
  inOrder : accepted <+: Text.utf8 document.text
  success_iff : success ↔ document.failure? = none ∧ ∃ writes, calls = writes ++ [.flush .done] ∧
    Writes writes (Text.utf8 document.text) True
  flushes_eq : calls.countP (·.isFlush) = flushes
  flushes_le : flushes ≤ 1
  flush_last : ∀ before reply after, calls = before ++ .flush reply :: after →
    document.failure? = none ∧ Writes before (Text.utf8 document.text) True ∧ after = []

namespace Faithful

variable {document : Document} {calls : List SinkCall} {accepted : List UInt8}

private theorem countP_writes {well : Prop} (writes : Writes calls accepted well) :
    calls.countP (·.isFlush) = 0 := by
  rw [List.countP_eq_zero]
  intro call member
  rw [writes.isFlush_eq call member]
  exact Bool.false_ne_true

private theorem flush_not_mem {well : Prop} (writes : Writes calls accepted well) (reply : FlushReply) :
    .flush reply ∉ calls :=
  fun member => nomatch writes.isFlush_eq _ member

theorem unfinished {well success : Prop} (writes : Writes calls accepted well)
    (inOrder : accepted <+: Text.utf8 document.text) (failed : ¬ success) :
    Faithful document calls accepted 0 success := by
  refine ⟨writes.accepted_eq, inOrder, ?_, countP_writes writes, Nat.zero_le 1, ?_⟩
  · refine ⟨fun succeeded => absurd succeeded failed, ?_⟩
    rintro ⟨_, before, rfl, _⟩
    exact absurd (List.mem_append_right before (List.mem_singleton.mpr rfl)) (flush_not_mem writes .done)
  · rintro before reply after rfl
    exact absurd (List.mem_append_right before List.mem_cons_self) (flush_not_mem writes reply)

private theorem split_at_flush {well : Prop} (writes : Writes calls accepted well) {reply other : FlushReply}
    {before after : List SinkCall} (same : calls ++ [.flush reply] = before ++ .flush other :: after) :
    before = calls ∧ other = reply ∧ after = [] := by
  rcases List.append_eq_append_iff.mp same with ⟨between, rfl, last⟩ | ⟨between, rfl, first⟩
  · cases between with
    | nil =>
      obtain ⟨here, rfl⟩ := List.cons.inj last
      exact ⟨List.append_nil calls, (SinkCall.flush.inj here).symm, rfl⟩
    | cons call between =>
      have behind := (List.cons.inj last).2
      exact absurd behind.symm (List.append_ne_nil_of_right_ne_nil _ (List.cons_ne_nil _ _))
  · cases between with
    | nil =>
      obtain ⟨here, rfl⟩ := List.cons.inj first
      exact ⟨(List.append_nil before).symm, SinkCall.flush.inj here, rfl⟩
    | cons call between =>
      obtain ⟨rfl, _⟩ := List.cons.inj first
      exact absurd (List.mem_append_right before List.mem_cons_self) (flush_not_mem writes other)

theorem finished (encodable : document.failure? = none)
    (writes : Writes calls (Text.utf8 document.text) True) (reply : FlushReply) :
    Faithful document (calls ++ [.flush reply]) (Text.utf8 document.text) 1 (reply = .done) := by
  refine ⟨?_, List.prefix_refl _, ?_, ?_, Nat.le_refl 1, ?_⟩
  · rw [List.flatMap_append, writes.accepted_eq]
    exact List.append_nil _
  · constructor
    · rintro rfl
      exact ⟨encodable, calls, rfl, writes⟩
    · rintro ⟨_, before, same, _⟩
      exact (split_at_flush writes same).2.1.symm
  · rw [List.countP_append, countP_writes writes]
    rfl
  · intro before other after same
    obtain ⟨rfl, rfl, rfl⟩ := split_at_flush writes same
    exact ⟨encodable, writes, rfl⟩

/-- A delivery that succeeds has handed over a document without a gap, and all of its text. -/
theorem text_of_success {flushes : Nat} {success : Prop} (faithful : Faithful document calls accepted flushes success)
    (succeeded : success) : document.failure? = none ∧ accepted = Text.utf8 document.text := by
  obtain ⟨encodable, before, shape, writes⟩ := faithful.success_iff.mp succeeded
  refine ⟨encodable, ?_⟩
  have bytes := faithful.accepted_eq
  rw [shape, List.flatMap_append, writes.accepted_eq] at bytes
  exact bytes.symm.trans (List.append_nil _)

end Faithful

theorem Document.bytes_packing (document : Document) : document.packing.bytes = Text.utf8 document.text := by
  rw [packing, Packing.bytes_ofPieces, text, Text.utf8_join]
  rfl

namespace Sink

variable (sink : Sink σ) (state : σ)

theorem finish_recorded {document : Document} (encodable : document.failure? = none) (sent : Progress σ)
    {calls : List SinkCall} (writes : Writes calls sent.accepted True)
    (all : sent.accepted = Text.utf8 document.text) :
    ∃ log, sink.recorded.finish (sent.withLog calls) = (sink.finish sent).withLog log ∧
      Faithful document log (sink.finish sent).accepted (sink.finish sent).flushes
        ((sink.finish sent).outcome = .delivered) := by
  rcases answer : sink.flush sent.state with ⟨reply, next⟩
  have whole := Faithful.finished encodable (all ▸ writes) reply
  refine ⟨calls ++ [.flush reply], ?_, ?_⟩
  · cases reply <;> simp only [finish, recorded, Progress.withLog, Delivery.withLog, answer]
  · rw [← all] at whole
    cases reply <;> simpa only [finish, answer, reduceCtorEq] using whole

theorem breakOff_recorded {document : Document} (sent : Progress σ) (held : List UInt8) (error : ExportError)
    {calls : List SinkCall} (writes : Writes calls sent.accepted True)
    (all : sent.accepted ++ held = Text.utf8 document.text) :
    ∃ log, sink.recorded.breakOff (sent.withLog calls) held error =
        (sink.breakOff sent held error).withLog log ∧
      Faithful document log (sink.breakOff sent held error).accepted (sink.breakOff sent held error).flushes
        ((sink.breakOff sent held error).outcome = .delivered) := by
  obtain ⟨more, run, last⟩ := sink.send_recorded sent.state calls held
  have whole := sink.accepted_append_left sent.state held
  refine ⟨calls ++ more, ?_, ?_⟩
  · simp only [breakOff, Progress.withLog, run, Transfer.withLog, Delivery.withLog]
  · apply Faithful.unfinished (writes.append last fun complete => ⟨trivial, complete⟩)
    · refine ⟨(sink.send sent.state held).left, ?_⟩
      rw [List.append_assoc, whole, all]
    · unfold breakOff
      simp only
      split <;> simp only [reduceCtorEq, not_false_eq_true]

private theorem stop_outcome (stop : Stop) : stop.outcome ≠ .delivered := by
  cases stop <;> simp only [Stop.outcome, ne_eq, reduceCtorEq, not_false_eq_true]

theorem stopped_recorded {document : Document} (sent : Progress σ) (stop : Stop) {calls : List SinkCall}
    {well : Prop} (writes : Writes calls sent.accepted well)
    (partly : sent.accepted <+: Text.utf8 document.text) :
    ∃ log, (⟨sent.accepted, 0, (sent.state, calls), stop.outcome⟩ : Delivery (σ × List SinkCall)) =
        (⟨sent.accepted, 0, sent.state, stop.outcome⟩ : Delivery σ).withLog log ∧
      Faithful document log sent.accepted 0 (stop.outcome = .delivered) := by
  refine ⟨calls, rfl, ?_⟩
  exact Faithful.unfinished writes partly (stop_outcome stop)

/-- Recording changes nothing of a delivery, and what it records is faithful to the document. -/
theorem deliver_recorded (document : Document) :
    ∃ log, sink.recorded.deliver (state, []) document = (sink.deliver state document).withLog log ∧
      Faithful document log (sink.deliver state document).accepted (sink.deliver state document).flushes
        ((sink.deliver state document).outcome = .delivered) := by
  have bytes := document.bytes_packing
  unfold deliver
  cases failure : document.failure? with
  | none =>
    have total : (document.packing.blocks ++ [(⟨document.packing.held, true⟩ : Block)]).flatMap Block.bytes =
        Text.utf8 document.text := by
      rw [← bytes, List.flatMap_append, List.flatMap_singleton]
      rfl
    obtain ⟨calls, run, writes⟩ := sendBlocks_recorded sink state []
      (document.packing.blocks ++ [⟨document.packing.held, true⟩])
    obtain ⟨partly, whole⟩ := sendBlocks_accepted sink state
      (document.packing.blocks ++ [⟨document.packing.held, true⟩])
    rw [total] at partly whole
    simp only [run]
    generalize sink.sendBlocks state _ = sent at writes partly whole ⊢
    cases stop : sent.stop with
    | none =>
      simp only [Progress.withLog, stop]
      have done := finish_recorded sink failure sent (writes.weaken fun _ => stop) (whole stop)
      exact done
    | some halt =>
      simp only [Progress.withLog, stop]
      exact stopped_recorded sent halt writes partly
  | some error =>
    obtain ⟨calls, run, writes⟩ := sendBlocks_recorded sink state [] document.packing.blocks
    obtain ⟨partly, whole⟩ := sendBlocks_accepted sink state document.packing.blocks
    simp only [run]
    generalize sink.sendBlocks state _ = sent at writes partly whole ⊢
    cases stop : sent.stop with
    | none =>
      simp only [Progress.withLog, stop]
      have done := breakOff_recorded sink sent document.packing.held error (writes.weaken fun _ => stop)
        (by rw [whole stop]; exact bytes)
      exact done
    | some halt =>
      simp only [Progress.withLog, stop]
      apply stopped_recorded sent halt writes (partly.trans ?_)
      rw [← bytes]
      exact List.prefix_append _ _

theorem calls_recorded (document : Document) :
    sink.recorded.deliver (state, []) document =
      (sink.deliver state document).withLog (sink.calls state document) := by
  obtain ⟨log, run, _⟩ := deliver_recorded sink state document
  rw [calls, run]
  rfl

theorem deliver_faithful (document : Document) :
    Faithful document (sink.calls state document) (sink.deliver state document).accepted
      (sink.deliver state document).flushes ((sink.deliver state document).outcome = .delivered) := by
  obtain ⟨log, run, faithful⟩ := deliver_recorded sink state document
  rw [calls, run]
  exact faithful

end Sink

namespace Exporter

variable {signal : Signal} (exporter : Exporter signal σ)

def recordedDocument (recording : signal.Recording) : Document :=
  signal.document ((signal.recordedResource? recording).getD exporter.resource) exporter.limits
    (signal.convert recording)

theorem write_faithful (document : Document) :
    Faithful document (exporter.calls document) (exporter.write document).accepted
      (exporter.write document).flushes ((exporter.write document).outcome = .done) := by
  unfold calls write
  cases exporter.channel with
  | closed => exact Faithful.unfinished (Writes.nil True) List.nil_prefix fun same => nomatch same
  | poisoned => exact Faithful.unfinished (Writes.nil True) List.nil_prefix fun same => nomatch same
  | ready state =>
    have faithful := exporter.sink.deliver_faithful state document
    have same : (Outcome.ofDelivery (exporter.sink.deliver state document).outcome = .done) =
        ((exporter.sink.deliver state document).outcome = .delivered) := by
      cases (exporter.sink.deliver state document).outcome <;> simp [Outcome.ofDelivery]
    simp only [same]
    exact faithful

end Exporter

end Telemetry
