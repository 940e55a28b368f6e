import Telemetry.Proofs.Delivery.Faithful

/-! Crashes of a sink. A delivery ends in a crash just when one of the calls that it makes crashes: no crash
is taken for a failure, and no failure for a crash. The proof follows a sink whose states tell whether
it has crashed before, as the log of a recorded sink does. -/
namespace Telemetry

def SinkCall.crashed : SinkCall → Bool
  | .write _ .crashed => true
  | .flush .crashed => true
  | _ => false

namespace Sink

variable {σ : Type}

/-- The states of a sink in which a call has crashed. -/
structure Remembers (sink : Sink σ) (fallen : σ → Prop) : Prop where
  write_iff : ∀ state offered,
    fallen (sink.write state offered).2 ↔ fallen state ∨ (sink.write state offered).1 = .crashed
  flush_iff : ∀ state, fallen (sink.flush state).2 ↔ fallen state ∨ (sink.flush state).1 = .crashed

namespace Remembers

variable {sink : Sink σ} {fallen : σ → Prop} (remembers : sink.Remembers fallen)

include remembers

theorem send_iff (state : σ) (bytes : List UInt8) :
    fallen (sink.send state bytes).state ↔ fallen state ∨ (sink.send state bytes).ending = .crashed := by
  have answered : ∀ {state byte bytes reply next}, sink.write state (byte :: bytes) = (reply, next) →
      (fallen next ↔ fallen state ∨ reply = .crashed) := by
    intro state byte bytes reply next answer
    have written := remembers.write_iff state (byte :: bytes)
    rw [answer] at written
    exact written
  induction state, bytes using Sink.send.induct sink with
  | case1 state => simp only [send, reduceCtorEq, or_false]
  | case3 state byte bytes count next reply ih =>
    rw [send_cons, reply]
    simp only [ih, answered reply, reduceCtorEq, or_false]
  | case4 state byte bytes next reply _ ih =>
    rw [send_cons, reply]
    simp only [ih, answered reply, reduceCtorEq, or_false]
  | case2 state byte bytes next reply | case5 state byte bytes error next reply
  | case6 state byte bytes next reply =>
    rw [send_cons, reply, answered reply]
    simp only [reduceCtorEq]

theorem abandon_iff (block : Block) (sent : Transfer σ) (error : SinkError) :
    fallen (sink.abandon block sent error).state ↔
      fallen sent.state ∨ (sink.abandon block sent error).stop = some .crashed := by
  unfold abandon
  split
  · refine (remembers.send_iff sent.state sent.left).trans (or_congr_right ?_)
    by_cases crash : (sink.send sent.state sent.left).ending = .crashed
    · simp only [crash, if_true]
    · simp only [crash, if_false, Option.some.injEq, reduceCtorEq]
  · simp only [Option.some.injEq, reduceCtorEq, or_false]

theorem sendBlock_iff (state : σ) (block : Block) :
    fallen (sink.sendBlock state block).state ↔
      fallen state ∨ (sink.sendBlock state block).stop = some .crashed := by
  have written := remembers.send_iff state block.bytes
  unfold sendBlock
  generalize sink.send state block.bytes = sent at written ⊢
  have broken := remembers.abandon_iff block sent
  obtain ⟨accepted, left, next, ending⟩ := sent
  cases ending with
  | complete | crashed => simpa only [reduceCtorEq] using written
  | stalled =>
    refine (broken block.stall).trans (or_congr_left ?_)
    simpa only [reduceCtorEq, or_false] using written
  | failed error =>
    refine (broken error).trans (or_congr_left ?_)
    simpa only [reduceCtorEq, or_false] using written

theorem sendBlocks_iff (state : σ) (blocks : List Block) :
    fallen (sink.sendBlocks state blocks).state ↔
      fallen state ∨ (sink.sendBlocks state blocks).stop = some .crashed := by
  induction blocks generalizing state with
  | nil => simp only [sendBlocks, reduceCtorEq, or_false]
  | cons block blocks ih =>
    have sent := remembers.sendBlock_iff state block
    unfold sendBlocks
    cases stop : (sink.sendBlock state block).stop with
    | none =>
      simp only [stop, reduceCtorEq, or_false] at sent
      simp only [stop, ih, sent]
    | some halt =>
      rw [stop] at sent
      simp only [sent, stop]

theorem finish_iff (sent : Progress σ) :
    fallen (sink.finish sent).state ↔ fallen sent.state ∨ (sink.finish sent).outcome = .crashed := by
  have flushed := remembers.flush_iff sent.state
  unfold finish
  rcases answer : sink.flush sent.state with ⟨reply, next⟩
  rw [answer] at flushed
  cases reply with
  | done | failed | crashed => simpa only [reduceCtorEq] using flushed

theorem breakOff_iff (sent : Progress σ) (held : List UInt8) (error : ExportError) :
    fallen (sink.breakOff sent held error).state ↔
      fallen sent.state ∨ (sink.breakOff sent held error).outcome = .crashed := by
  refine (remembers.send_iff sent.state held).trans (or_congr_right ?_)
  unfold breakOff
  by_cases crash : (sink.send sent.state held).ending = .crashed
  · simp only [crash, if_true]
  · simp only [crash, if_false, reduceCtorEq]

omit remembers in
private theorem stop_outcome_iff (stop : Stop) : stop.outcome = .crashed ↔ some stop = some .crashed := by
  cases stop <;> simp [Stop.outcome]

theorem deliver_iff (state : σ) (document : Document) :
    fallen (sink.deliver state document).state ↔
      fallen state ∨ (sink.deliver state document).outcome = .crashed := by
  unfold deliver
  cases document.failure? with
  | none =>
    have sent := remembers.sendBlocks_iff state (document.packing.blocks ++ [⟨document.packing.held, true⟩])
    cases stop : (sink.sendBlocks state (document.packing.blocks ++ [⟨document.packing.held, true⟩])).stop with
    | none =>
      simp only [stop, reduceCtorEq, or_false] at sent
      simp only [stop, remembers.finish_iff, sent]
    | some halt =>
      rw [stop, ← stop_outcome_iff] at sent
      simp only [stop, sent]
  | some error =>
    have sent := remembers.sendBlocks_iff state document.packing.blocks
    cases stop : (sink.sendBlocks state document.packing.blocks).stop with
    | none =>
      simp only [stop, reduceCtorEq, or_false] at sent
      simp only [stop, remembers.breakOff_iff, sent]
    | some halt =>
      rw [stop, ← stop_outcome_iff] at sent
      simp only [stop, sent]

end Remembers

theorem recorded_remembers (sink : Sink σ) :
    sink.recorded.Remembers fun state => ∃ call ∈ state.2, call.crashed := by
  refine ⟨?_, ?_⟩
  · intro state offered
    simp only [recorded, List.mem_append, List.mem_singleton, or_and_right, exists_or, exists_eq_left]
    cases (sink.write state.1 offered).1 <;> simp [SinkCall.crashed]
  · intro state
    simp only [recorded, List.mem_append, List.mem_singleton, or_and_right, exists_or, exists_eq_left]
    cases (sink.flush state.1).1 <;> simp [SinkCall.crashed]

/-- A delivery crashes just when one of its calls does. -/
theorem deliver_crashed_iff (sink : Sink σ) (state : σ) (document : Document) :
    (sink.deliver state document).outcome = .crashed ↔ ∃ call ∈ sink.calls state document, call.crashed := by
  have log := sink.recorded_remembers.deliver_iff (state, []) document
  rw [sink.calls_recorded] at log
  simp only [Delivery.withLog, List.not_mem_nil, false_and, exists_false, false_or] at log
  exact log.symm

end Sink

end Telemetry
