import Telemetry.Proofs.Delivery.Faithful

/-! What a delivery fails for. When it fails with an error of the sink, the error is the answer to one of the
calls that the delivery makes, or stands for a write that took nothing. What happens after the failure
cannot take it back, so the proof follows a sink whose states tell whether the error was raised. When
it fails for an unsupported value, the document has one. -/
namespace Telemetry

def WriteReply.Raises : WriteReply → SinkError → Prop
  | .failed raised, error => error = raised
  | .accepted 0, error => ∃ block : Block, error = block.stall
  | _, _ => False

def FlushReply.Raises : FlushReply → SinkError → Prop
  | .failed raised, error => error = raised
  | _, _ => False

def SinkCall.Raises : SinkCall → SinkError → Prop
  | .write _ reply => reply.Raises
  | .flush reply => reply.Raises

def TransferEnd.Raises : TransferEnd → SinkError → Prop
  | .failed raised, error => error = raised
  | .stalled, error => ∃ block : Block, error = block.stall
  | _, _ => False

namespace Sink

variable {σ : Type}

/-- The states of a sink after an error was raised. -/
structure Accounts (sink : Sink σ) (error : SinkError) (raised : σ → Prop) : Prop where
  write : ∀ state offered, raised state ∨ (sink.write state offered).1.Raises error →
    raised (sink.write state offered).2
  flush : ∀ state, raised state ∨ (sink.flush state).1.Raises error → raised (sink.flush state).2

namespace Accounts

variable {sink : Sink σ} {error : SinkError} {raised : σ → Prop} (accounts : sink.Accounts error raised)

include accounts

theorem send (state : σ) (bytes : List UInt8) :
    raised state ∨ (sink.send state bytes).ending.Raises error → raised (sink.send state bytes).state := by
  have answered : ∀ {state byte bytes reply next}, sink.write state (byte :: bytes) = (reply, next) →
      raised state ∨ reply.Raises error → raised next := by
    intro state byte bytes reply next answer
    have written := accounts.write state (byte :: bytes)
    rw [answer] at written
    exact written
  induction state, bytes using Sink.send.induct sink with
  | case1 state =>
    rw [Sink.send]
    exact fun before => before.elim id False.elim
  | case3 state byte bytes count next reply ih =>
    rw [send_cons, reply]
    exact fun before => ih (before.imp_left fun already => answered reply (.inl already))
  | case4 state byte bytes next reply _ ih =>
    rw [send_cons, reply]
    exact fun before => ih (before.imp_left fun already => answered reply (.inl already))
  | case2 state byte bytes next reply | case5 state byte bytes _ next reply | case6 state byte bytes next reply =>
    rw [send_cons, reply]
    exact answered reply

theorem abandon (block : Block) (sent : Transfer σ) (cause : SinkError) (already : raised sent.state) :
    raised (sink.abandon block sent cause).state := by
  unfold Sink.abandon
  split
  · exact accounts.send sent.state sent.left (.inl already)
  · exact already

omit accounts in
theorem eq_of_abandon {block : Block} {sent : Transfer σ} {cause : SinkError}
    (stop : (sink.abandon block sent cause).stop = some (.failed error)) : error = cause := by
  unfold Sink.abandon at stop
  split at stop
  · simp only [Option.some.injEq] at stop
    split at stop
    · contradiction
    · exact (Stop.failed.inj stop).symm
  · exact (Stop.failed.inj (Option.some.inj stop)).symm

theorem sendBlock (state : σ) (block : Block) :
    raised state ∨ (sink.sendBlock state block).stop = some (.failed error) →
      raised (sink.sendBlock state block).state := by
  have sends := accounts.send state block.bytes
  unfold Sink.sendBlock
  generalize sink.send state block.bytes = sent at sends ⊢
  -- A block that fails for a cause has raised that cause before it is given up.
  have given : ∀ cause, (error = cause → sent.ending.Raises error) →
      raised state ∨ (sink.abandon block sent cause).stop = some (.failed error) →
        raised (sink.abandon block sent cause).state := by
    intro cause raises before
    apply accounts.abandon
    exact sends (before.imp_right fun stop => raises (eq_of_abandon stop))
  obtain ⟨accepted, left, next, ending⟩ := sent
  cases ending with
  | complete | crashed => exact fun before => sends (.inl (before.elim id fun stop => nomatch stop))
  | stalled => exact given block.stall fun same => ⟨block, same⟩
  | failed cause => exact given cause id

theorem sendBlocks (state : σ) (blocks : List Block) :
    raised state ∨ (sink.sendBlocks state blocks).stop = some (.failed error) →
      raised (sink.sendBlocks state blocks).state := by
  induction blocks generalizing state with
  | nil => exact fun before => before.elim id fun stop => nomatch stop
  | cons block blocks ih =>
    have first := accounts.sendBlock state block
    unfold Sink.sendBlocks
    cases stop : (sink.sendBlock state block).stop with
    | none =>
      simp only [stop]
      exact fun before => ih _ (before.imp_left fun already => first (.inl already))
    | some halt =>
      simp only [stop] at first ⊢
      exact first

theorem finish (sent : Progress σ) :
    raised sent.state ∨ (sink.finish sent).outcome = .failed (.sink error) → raised (sink.finish sent).state := by
  have flushed := accounts.flush sent.state
  unfold Sink.finish
  rcases answer : sink.flush sent.state with ⟨reply, next⟩
  rw [answer] at flushed
  cases reply with
  | done | crashed => exact fun before => flushed (before.imp_right fun same => nomatch same)
  | failed cause => exact fun before => flushed (before.imp_right fun same => by cases same; rfl)

omit accounts in
private theorem eq_of_outcome {stop : Stop} (failed : stop.outcome = .failed (.sink error)) : stop = .failed error := by
  cases stop with
  | crashed => contradiction
  | failed cause => cases failed; rfl

theorem deliver (state : σ) (document : Document)
    (failed : (sink.deliver state document).outcome = .failed (.sink error)) :
    raised (sink.deliver state document).state := by
  unfold Sink.deliver at failed ⊢
  cases failure : document.failure? with
  | none =>
    have sends := accounts.sendBlocks state (document.packing.blocks ++ [⟨document.packing.held, true⟩])
    simp only [failure] at failed ⊢
    split
    · rename_i halt stop
      simp only [stop] at failed
      exact sends (.inr (stop.trans (congrArg some (eq_of_outcome failed))))
    · rename_i stop
      simp only [stop] at failed
      exact accounts.finish _ (.inr failed)
  | some cause =>
    obtain ⟨reason, _, rfl⟩ := Option.map_eq_some_iff.mp failure
    have sends := accounts.sendBlocks state document.packing.blocks
    simp only [failure] at failed ⊢
    split
    · rename_i halt stop
      simp only [stop] at failed
      exact sends (.inr (stop.trans (congrArg some (eq_of_outcome failed))))
    · rename_i stop
      simp only [stop, breakOff] at failed
      split at failed <;> cases failed

end Accounts

theorem recorded_accounts (sink : Sink σ) (error : SinkError) :
    sink.recorded.Accounts error fun state => ∃ call ∈ state.2, call.Raises error := by
  refine ⟨?_, ?_⟩
  · rintro state offered (⟨call, member, raises⟩ | raises)
    · exact ⟨call, List.mem_append_left _ member, raises⟩
    · exact ⟨_, List.mem_append_right _ (List.mem_singleton.mpr rfl), raises⟩
  · rintro state (⟨call, member, raises⟩ | raises)
    · exact ⟨call, List.mem_append_left _ member, raises⟩
    · exact ⟨_, List.mem_append_right _ (List.mem_singleton.mpr rfl), raises⟩

/-- An error of the sink comes from one of the calls that the sink gets. -/
theorem exists_call_raises (sink : Sink σ) {state : σ} {document : Document} {error : SinkError}
    (failed : (sink.deliver state document).outcome = .failed (.sink error)) :
    ∃ call ∈ sink.calls state document, call.Raises error := by
  have raised := (sink.recorded_accounts error).deliver (state, []) document
  rw [sink.calls_recorded] at raised
  exact raised failed

/-- An unsupported value is reported of a document that has it. -/
theorem failure?_of_unsupported (sink : Sink σ) {state : σ} {document : Document} {reason : String}
    (failed : (sink.deliver state document).outcome = .failed (.unsupportedValue reason)) :
    document.failure? = some (.unsupportedValue reason) := by
  have stopped : ∀ stop : Stop, stop.outcome ≠ .failed (.unsupportedValue reason) := by
    rintro (error | _) same <;> cases same
  unfold deliver at failed
  cases failure : document.failure? with
  | none =>
    simp only [failure] at failed
    split at failed
    · exact absurd failed (stopped _)
    · unfold finish at failed
      split at failed <;> cases failed
  | some error =>
    simp only [failure] at failed
    split at failed
    · exact absurd failed (stopped _)
    · simp only [breakOff] at failed
      split at failed
      · contradiction
      · rw [DeliveryOutcome.failed.inj failed]

end Sink

end Telemetry
