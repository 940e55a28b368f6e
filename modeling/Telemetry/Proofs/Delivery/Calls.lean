import Telemetry.Delivery

/-! The calls of a delivery. A recorded sink answers as the sink itself does and keeps a log of every call
with its reply. Recording changes nothing of what a delivery shows, so the log is the list of the calls
that the delivery makes on the sink. -/
namespace Telemetry

inductive SinkCall where
  | write (offered : List UInt8) (reply : WriteReply)
  | flush (reply : FlushReply)

namespace SinkCall

def accepted : SinkCall → List UInt8
  | .write offered (.accepted count) => offered.take count
  | _ => []

def isFlush : SinkCall → Bool
  | .flush _ => true
  | .write _ _ => false

def Harmless : SinkCall → Prop
  | .write _ (.accepted count) => count ≠ 0
  | .write _ .interrupted => True
  | _ => False

structure Writes (calls : List SinkCall) (bytes : List UInt8) (well : Prop) : Prop where
  isFlush_eq : ∀ call ∈ calls, call.isFlush = false
  accepted_eq : calls.flatMap (·.accepted) = bytes
  harmless : well → ∀ call ∈ calls, call.Harmless

theorem Writes.nil (well : Prop) : Writes [] [] well := by
  refine ⟨?_, rfl, ?_⟩
  · intro call member
    exact absurd member List.not_mem_nil
  · intro _ call member
    exact absurd member List.not_mem_nil

theorem Writes.single (offered : List UInt8) (reply : WriteReply) {well : Prop}
    (harmless : well → Harmless (.write offered reply)) :
    Writes [.write offered reply] (accepted (.write offered reply)) well := by
  refine ⟨?_, List.flatMap_singleton _ _, ?_⟩
  · intro call member
    rw [List.mem_singleton.mp member]
    rfl
  · intro all call member
    rw [List.mem_singleton.mp member]
    exact harmless all

theorem Writes.append {calls more : List SinkCall} {bytes rest : List UInt8} {well first second : Prop}
    (before : Writes calls bytes first) (after : Writes more rest second) (both : well → first ∧ second) :
    Writes (calls ++ more) (bytes ++ rest) well := by
  refine ⟨?_, ?_, ?_⟩
  · intro call member
    rcases List.mem_append.mp member with here | there
    · exact before.isFlush_eq call here
    · exact after.isFlush_eq call there
  · rw [List.flatMap_append, before.accepted_eq, after.accepted_eq]
  · intro all call member
    rcases List.mem_append.mp member with here | there
    · exact before.harmless (both all).1 call here
    · exact after.harmless (both all).2 call there

theorem Writes.weaken {calls : List SinkCall} {bytes : List UInt8} {well other : Prop}
    (writes : Writes calls bytes well) (stronger : other → well) : Writes calls bytes other :=
  ⟨writes.isFlush_eq, writes.accepted_eq, fun all => writes.harmless (stronger all)⟩

end SinkCall

variable {σ : Type}

namespace Sink

def recorded (sink : Sink σ) : Sink (σ × List SinkCall) where
  write state offered :=
    ((sink.write state.1 offered).1, (sink.write state.1 offered).2,
      state.2 ++ [.write offered (sink.write state.1 offered).1])
  flush state :=
    ((sink.flush state.1).1, (sink.flush state.1).2, state.2 ++ [.flush (sink.flush state.1).1])
  patience state := sink.patience state.1
  patience_lt state offered next reply := by
    obtain ⟨interrupted, rfl⟩ := Prod.mk.inj reply
    exact sink.patience_lt state.1 offered _ (Prod.ext interrupted rfl)

end Sink

def Transfer.withLog (sent : Transfer σ) (log : List SinkCall) : Transfer (σ × List SinkCall) :=
  ⟨sent.accepted, sent.left, (sent.state, log), sent.ending⟩

def Progress.withLog (sent : Progress σ) (log : List SinkCall) : Progress (σ × List SinkCall) :=
  ⟨sent.accepted, (sent.state, log), sent.stop⟩

def Delivery.withLog (delivery : Delivery σ) (log : List SinkCall) : Delivery (σ × List SinkCall) :=
  ⟨delivery.accepted, delivery.flushes, (delivery.state, log), delivery.outcome⟩

namespace Sink

open SinkCall

theorem send_cons (sink : Sink σ) (state : σ) (byte : UInt8) (bytes : List UInt8) :
    sink.send state (byte :: bytes) =
      match sink.write state (byte :: bytes) with
      | (.accepted 0, next) => ⟨[], byte :: bytes, next, .stalled⟩
      | (.accepted (count + 1), next) =>
        { sink.send next (bytes.drop count) with
          accepted := byte :: (bytes.take count ++ (sink.send next (bytes.drop count)).accepted) }
      | (.interrupted, next) => sink.send next (byte :: bytes)
      | (.failed error, next) => ⟨[], byte :: bytes, next, .failed error⟩
      | (.crashed, next) => ⟨[], byte :: bytes, next, .crashed⟩ := by
  rw [send]
  split <;> rename_i reply <;> simp only [reply]

/-- What is accepted of bytes that are sent is their beginning, and what is left is the rest. -/
theorem accepted_append_left (sink : Sink σ) (state : σ) (bytes : List UInt8) :
    (sink.send state bytes).accepted ++ (sink.send state bytes).left = bytes := by
  induction state, bytes using Sink.send.induct sink with
  | case1 state => rw [send]; rfl
  | case3 state byte bytes count next reply ih =>
    rw [send_cons, reply]
    calc byte :: (bytes.take count ++ (sink.send next (bytes.drop count)).accepted) ++
          (sink.send next (bytes.drop count)).left
        = byte :: (bytes.take count ++ ((sink.send next (bytes.drop count)).accepted ++
          (sink.send next (bytes.drop count)).left)) := by rw [List.cons_append, List.append_assoc]
      _ = byte :: bytes := by rw [ih, List.take_append_drop]
  | case4 state byte bytes next reply _ ih => rw [send_cons, reply]; exact ih
  | _ => rw [send_cons]; simp only [*, List.nil_append]

theorem left_of_complete (sink : Sink σ) (state : σ) (bytes : List UInt8)
    (complete : (sink.send state bytes).ending = .complete) : (sink.send state bytes).left = [] := by
  induction state, bytes using Sink.send.induct sink with
  | case1 state => rw [send]
  | case3 state byte bytes count next reply ih =>
    rw [send_cons, reply] at complete ⊢
    exact ih complete
  | case4 state byte bytes next reply _ ih =>
    rw [send_cons, reply] at complete ⊢
    exact ih complete
  | _ => rw [send_cons] at complete; simp only [*] at complete; contradiction

theorem accepted_of_complete (sink : Sink σ) (state : σ) (bytes : List UInt8)
    (complete : (sink.send state bytes).ending = .complete) : (sink.send state bytes).accepted = bytes := by
  have whole := sink.accepted_append_left state bytes
  rw [sink.left_of_complete state bytes complete, List.append_nil] at whole
  exact whole

private theorem write_recorded {sink : Sink σ} {state next : σ} {offered : List UInt8} {reply : WriteReply}
    (answer : sink.write state offered = (reply, next)) (log : List SinkCall) :
    sink.recorded.write (state, log) offered = (reply, next, log ++ [.write offered reply]) := by
  simp only [recorded, answer]

/-- The calls of a transfer are writes. In a complete one they are all harmless. -/
theorem send_recorded (sink : Sink σ) (state : σ) (log : List SinkCall) (bytes : List UInt8) :
    ∃ calls, sink.recorded.send (state, log) bytes = (sink.send state bytes).withLog (log ++ calls) ∧
      Writes calls (sink.send state bytes).accepted ((sink.send state bytes).ending = .complete) := by
  induction state, bytes using Sink.send.induct sink generalizing log with
  | case1 state =>
    refine ⟨[], ?_, ?_⟩
    · rw [send, send, List.append_nil]
      rfl
    · rw [send]
      exact Writes.nil _
  | case2 state byte bytes next reply =>
    refine ⟨[.write (byte :: bytes) (.accepted 0)], ?_, ?_⟩
    · rw [send_cons, send_cons, reply, write_recorded reply]
      rfl
    · rw [send_cons, reply]
      exact Writes.single _ _ fun complete => nomatch complete
  | case3 state byte bytes count next reply ih =>
    obtain ⟨calls, run, writes⟩ := ih (log ++ [.write (byte :: bytes) (.accepted (count + 1))])
    refine ⟨.write (byte :: bytes) (.accepted (count + 1)) :: calls, ?_, ?_⟩
    · rw [send_cons, send_cons, reply, write_recorded reply]
      simp only [run, Transfer.withLog, List.append_assoc, List.singleton_append]
    · rw [send_cons, reply]
      have first := Writes.single (byte :: bytes) (.accepted (count + 1)) fun _ : True => Nat.succ_ne_zero count
      exact first.append writes fun complete => ⟨trivial, complete⟩
  | case4 state byte bytes next reply _ ih =>
    obtain ⟨calls, run, writes⟩ := ih (log ++ [.write (byte :: bytes) .interrupted])
    refine ⟨.write (byte :: bytes) .interrupted :: calls, ?_, ?_⟩
    · rw [send_cons, send_cons, reply, write_recorded reply]
      simp only [run, List.append_assoc, List.singleton_append]
    · rw [send_cons, reply]
      have first := Writes.single (byte :: bytes) .interrupted fun _ : True => trivial
      exact first.append writes fun complete => ⟨trivial, complete⟩
  | case5 state byte bytes error next reply =>
    refine ⟨[.write (byte :: bytes) (.failed error)], ?_, ?_⟩
    · rw [send_cons, send_cons, reply, write_recorded reply]
      rfl
    · rw [send_cons, reply]
      exact Writes.single _ _ fun complete => nomatch complete
  | case6 state byte bytes next reply =>
    refine ⟨[.write (byte :: bytes) .crashed], ?_, ?_⟩
    · rw [send_cons, send_cons, reply, write_recorded reply]
      rfl
    · rw [send_cons, reply]
      exact Writes.single _ _ fun complete => nomatch complete

section Abandon

variable (sink : Sink σ) (block : Block) (sent : Transfer σ) (error : SinkError)

theorem abandon_stop : (sink.abandon block sent error).stop ≠ none := by
  unfold abandon
  split <;> exact fun same => nomatch same

/-- Offering what is left once more only continues what was accepted. -/
theorem abandon_accepted : (sink.abandon block sent error).accepted <+: sent.accepted ++ sent.left := by
  have again := sink.accepted_append_left sent.state sent.left
  unfold abandon
  split
  · refine ⟨(sink.send sent.state sent.left).left, ?_⟩
    rw [List.append_assoc, again]
  · exact List.prefix_append _ _

theorem abandon_recorded {calls : List SinkCall} {well : Prop} (writes : Writes calls sent.accepted well)
    (log : List SinkCall) :
    ∃ more, sink.recorded.abandon block (sent.withLog (log ++ calls)) error =
        (sink.abandon block sent error).withLog (log ++ more) ∧
      Writes more (sink.abandon block sent error).accepted False := by
  unfold abandon
  split
  · obtain ⟨more, run, again⟩ := sink.send_recorded sent.state (log ++ calls) sent.left
    refine ⟨calls ++ more, ?_, writes.append again False.elim⟩
    simp only [Transfer.withLog, run, Progress.withLog, List.append_assoc]
  · exact ⟨calls, rfl, writes.weaken False.elim⟩

end Abandon

section Blocks

variable (sink : Sink σ)

/-- What is accepted of a block is its beginning, and all of it unless the delivery stops. -/
theorem sendBlock_accepted (state : σ) (block : Block) :
    (sink.sendBlock state block).accepted <+: block.bytes ∧
      ((sink.sendBlock state block).stop = none → (sink.sendBlock state block).accepted = block.bytes) := by
  have whole := sink.accepted_append_left state block.bytes
  have all := sink.accepted_of_complete state block.bytes
  unfold sendBlock
  generalize sink.send state block.bytes = sent at whole all ⊢
  have continued : ∀ error, (sink.abandon block sent error).accepted <+: block.bytes ∧
      ((sink.abandon block sent error).stop = none →
        (sink.abandon block sent error).accepted = block.bytes) := by
    intro error
    rw [← whole]
    exact ⟨abandon_accepted sink block sent error, fun stop => absurd stop (abandon_stop sink block sent error)⟩
  obtain ⟨accepted, left, next, ending⟩ := sent
  cases ending with
  | complete => exact ⟨⟨left, whole⟩, fun _ => all rfl⟩
  | stalled => exact continued block.stall
  | failed error => exact continued error
  | crashed => exact ⟨⟨left, whole⟩, fun stop => nomatch stop⟩

theorem sendBlock_recorded (state : σ) (log : List SinkCall) (block : Block) :
    ∃ calls, sink.recorded.sendBlock (state, log) block =
        (sink.sendBlock state block).withLog (log ++ calls) ∧
      Writes calls (sink.sendBlock state block).accepted ((sink.sendBlock state block).stop = none) := by
  obtain ⟨calls, run, writes⟩ := sink.send_recorded state log block.bytes
  unfold sendBlock
  rw [run]
  generalize sink.send state block.bytes = sent at writes ⊢
  have continued : ∀ error, ∃ more, sink.recorded.abandon block (sent.withLog (log ++ calls)) error =
        (sink.abandon block sent error).withLog (log ++ more) ∧
      Writes more (sink.abandon block sent error).accepted ((sink.abandon block sent error).stop = none) := by
    intro error
    obtain ⟨more, again, both⟩ := abandon_recorded sink block sent error writes log
    exact ⟨more, again, both.weaken (abandon_stop sink block sent error)⟩
  obtain ⟨accepted, left, next, ending⟩ := sent
  cases ending with
  | complete => exact ⟨calls, rfl, writes.weaken fun _ => rfl⟩
  | stalled => exact continued block.stall
  | failed error => exact continued error
  | crashed => exact ⟨calls, rfl, writes.weaken fun stop => nomatch stop⟩

theorem sendBlocks_accepted (state : σ) (blocks : List Block) :
    (sink.sendBlocks state blocks).accepted <+: blocks.flatMap (·.bytes) ∧
      ((sink.sendBlocks state blocks).stop = none →
        (sink.sendBlocks state blocks).accepted = blocks.flatMap (·.bytes)) := by
  induction blocks generalizing state with
  | nil => exact ⟨List.prefix_refl _, fun _ => rfl⟩
  | cons block blocks ih =>
    obtain ⟨partly, whole⟩ := sendBlock_accepted sink state block
    obtain ⟨later, rest⟩ := ih (sink.sendBlock state block).state
    rw [sendBlocks, List.flatMap_cons]
    cases stop : (sink.sendBlock state block).stop with
    | none =>
      simp only [whole stop]
      refine ⟨List.prefix_append_right_inj _ |>.mpr later, ?_⟩
      intro complete
      rw [rest complete]
    | some stop =>
      simp only [stop]
      exact ⟨partly.trans (List.prefix_append _ _), fun complete => nomatch complete⟩

theorem sendBlocks_recorded (state : σ) (log : List SinkCall) (blocks : List Block) :
    ∃ calls, sink.recorded.sendBlocks (state, log) blocks =
        (sink.sendBlocks state blocks).withLog (log ++ calls) ∧
      Writes calls (sink.sendBlocks state blocks).accepted ((sink.sendBlocks state blocks).stop = none) := by
  induction blocks generalizing state log with
  | nil => exact ⟨[], by rw [List.append_nil]; rfl, Writes.nil _⟩
  | cons block blocks ih =>
    obtain ⟨calls, run, writes⟩ := sendBlock_recorded sink state log block
    obtain ⟨more, later, rest⟩ := ih (sink.sendBlock state block).state (log ++ calls)
    rw [sendBlocks, sendBlocks, run]
    cases stop : (sink.sendBlock state block).stop with
    | none =>
      refine ⟨calls ++ more, ?_, ?_⟩
      · simp only [Progress.withLog, stop, later, List.append_assoc]
      · exact writes.append rest fun complete => ⟨stop, complete⟩
    | some halt =>
      refine ⟨calls, ?_, writes.weaken fun complete => nomatch stop.symm.trans complete⟩
      simp only [Progress.withLog, stop]

end Blocks

end Sink

end Telemetry
