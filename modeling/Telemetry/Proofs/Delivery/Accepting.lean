import Telemetry.Proofs.Delivery.Faithful

/-! Delivery to a sink that takes everything in the end, in parts of any size and with interruptions. The
sink gets the whole text of a document. A document without a gap is then flushed once, and one with a
gap fails for that reason alone and is not flushed. -/
namespace Telemetry.Sink

variable {σ : Type}

structure Accepting (sink : Sink σ) : Prop where
  write_takes : ∀ state offered, offered ≠ [] →
    (sink.write state offered).1 = .interrupted ∨ ∃ count, (sink.write state offered).1 = .accepted (count + 1)
  flush_eq : ∀ state, (sink.flush state).1 = .done

namespace Accepting

variable {sink : Sink σ} (accepting : sink.Accepting)

include accepting

theorem send_ending (state : σ) (bytes : List UInt8) : (sink.send state bytes).ending = .complete := by
  have taken : ∀ {state byte bytes reply next}, sink.write state (byte :: bytes) = (reply, next) →
      reply = .interrupted ∨ ∃ count, reply = .accepted (count + 1) := by
    intro state byte bytes reply next answer
    have takes := accepting.write_takes state (byte :: bytes) (List.cons_ne_nil _ _)
    rw [answer] at takes
    exact takes
  induction state, bytes using Sink.send.induct sink with
  | case1 state => rw [send]
  | case2 state byte bytes next reply => simpa using taken reply
  | case3 state byte bytes count next reply ih => rw [send_cons, reply]; exact ih
  | case4 state byte bytes next reply _ ih => rw [send_cons, reply]; exact ih
  | case5 state byte bytes error next reply => simpa using taken reply
  | case6 state byte bytes next reply => simpa using taken reply

theorem sendBlocks_stop (state : σ) (blocks : List Block) : (sink.sendBlocks state blocks).stop = none := by
  induction blocks generalizing state with
  | nil => rfl
  | cons block blocks ih =>
    have complete := accepting.send_ending state block.bytes
    have next : (sink.sendBlock state block).stop = none := by
      rw [sendBlock]
      simp only [complete]
    rw [sendBlocks]
    simp only [next]
    exact ih _

theorem finish_outcome (sent : Progress σ) : (sink.finish sent).outcome = .delivered := by
  rcases answer : sink.flush sent.state with ⟨reply, next⟩
  have done := accepting.flush_eq sent.state
  rw [answer] at done
  obtain rfl : reply = .done := done
  rw [finish, answer]

theorem breakOff_eq (sent : Progress σ) (held : List UInt8) (error : ExportError) :
    (sink.breakOff sent held error).accepted = sent.accepted ++ held ∧
      (sink.breakOff sent held error).outcome = .failed error := by
  have complete := accepting.send_ending sent.state held
  have whole := sink.accepted_of_complete sent.state held complete
  rw [breakOff]
  simp only [complete, whole, reduceCtorEq, if_false, and_self]

theorem delivers (state : σ) {document : Document} (encodable : document.failure? = none) :
    (sink.deliver state document).outcome = .delivered := by
  rw [deliver, encodable]
  simp only [accepting.sendBlocks_stop, accepting.finish_outcome]

theorem breaks (state : σ) {document : Document} {error : ExportError} (failure : document.failure? = some error) :
    (sink.deliver state document).accepted = Text.utf8 document.text ∧
      (sink.deliver state document).outcome = .failed error := by
  have stop := accepting.sendBlocks_stop state document.packing.blocks
  have whole := (sendBlocks_accepted sink state document.packing.blocks).2 stop
  rw [deliver, failure, ← document.bytes_packing, Packing.bytes, ← whole]
  simp only [stop]
  exact accepting.breakOff_eq _ _ error

theorem accepted_eq (state : σ) (document : Document) :
    (sink.deliver state document).accepted = Text.utf8 document.text := by
  cases failure : document.failure? with
  | none => exact ((sink.deliver_faithful state document).text_of_success (accepting.delivers state failure)).2
  | some error => exact (accepting.breaks state failure).1

/-- The outcome depends on the document alone. -/
theorem outcome_eq (state : σ) (document : Document) :
    (sink.deliver state document).outcome = document.failure?.elim .delivered .failed := by
  cases failure : document.failure? with
  | none => exact accepting.delivers state failure
  | some error => exact (accepting.breaks state failure).2

end Accepting

structure Welcoming (sink : Sink σ) : Prop where
  write_eq : ∀ state offered, (sink.write state offered).1 = .accepted offered.length
  flush_eq : ∀ state, (sink.flush state).1 = .done

namespace Welcoming

variable {sink : Sink σ} (welcoming : sink.Welcoming)

include welcoming

theorem accepting : sink.Accepting := by
  refine ⟨?_, welcoming.flush_eq⟩
  intro state offered something
  obtain ⟨byte, bytes, rfl⟩ := List.exists_cons_of_ne_nil something
  exact .inr ⟨bytes.length, welcoming.write_eq state (byte :: bytes)⟩

theorem delivers (state : σ) {document : Document} (encodable : document.failure? = none) :
    (sink.deliver state document).outcome = .delivered :=
  welcoming.accepting.delivers state encodable

end Welcoming

end Telemetry.Sink
