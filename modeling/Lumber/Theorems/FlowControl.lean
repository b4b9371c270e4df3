import Lumber.Theorems.Progress

/-!
# How the ACK task paces the read task

`h.ch` is unbuffered and the ACK task takes a batch from it only once the batch before it is ACKed, so until `Stop`
closes the signal, and while no write on the transport has failed, ReadBatch is never more than two batches ahead of the
ACKs on the transport: the one `waitACK` holds, and the one the read task holds at the handoff
(`reads_ahead_of_acks`).

A failed write makes `ackLoop` return to its deferred drain loop, which takes every batch the read task hands over and
writes nothing: "Stop ACKing batches in case of error, forcing client to reconnect". From then on, whatever the tasks,
the consumer, `Stop` and the peer do, no frame is written on the transport again (`no_write_after_drain`).
-/

namespace Lumber

namespace FlowControlAux

section
variable {cfg : HandlerConfig} {s t : Handler}

/-- A move from a state where the ACK task is in the drain loop, or has returned, writes nothing and leaves it there. -/
theorem step_drained (h : Step cfg s t) (ha : s.ack = .drain ∨ s.ack = .returned) :
    t.wire = s.wire ∧ (t.ack = .drain ∨ t.ack = .returned) := by
  cases h <;> simp_all only [Handler.wire_mk, Handler.filterMap_write?, List.filterMap_append, List.filterMap_cons,
    List.filterMap_nil, Event.write?, List.append_nil, reduceCtorEq, or_self, or_true, true_or, and_self]

end

end FlowControlAux

open FlowControlAux

section
variable {cfg : HandlerConfig} {s : Handler}

/-- Flow control: before `Stop` closes the signal, while the ACK task is not in the drain loop (no write has failed),
ReadBatch has returned at most two batches that are not ACKed on the transport. -/
theorem reads_ahead_of_acks (hr : Reachable cfg s) (hn : .closeSignal ∉ s.history) (ha : s.ack ≠ .drain) :
    s.reads.length ≤ s.ackedOnWire.length + 2 := by
  have hi := hr.inv
  have hio := hi.inOrder hn
  have hh : s.reads.length ≤ s.handed.length + 1 := by
    unfold Handler.handed
    split
    · rw [List.length_dropLast]; omega
    · omega
  unfold Handler.InOrder at hio
  split at hio
  · rw [hio]; omega
  · rw [← hio, List.length_append, List.length_singleton] at hh; omega
  · exact absurd ‹s.ack = .drain› ha
  · have hc := hi.stopped_closed (.inr (hi.chClosed_iff.mp (hi.ack_returned ‹s.ack = .returned›)))
    exact absurd (hi.open_iff.mpr hn) (by rw [hc]; exact fun h => StopState.noConfusion h)

/-- Once a write has failed and the ACK task has left for the drain loop, no run writes a frame on the transport again,
and the ACK task stays in the drain loop or returns. -/
theorem no_write_after_drain {as : List Action} {t : Handler} (ha : s.ack = .drain) (h : exec cfg s as = some t) :
    t.wire = s.wire ∧ (t.ack = .drain ∨ t.ack = .returned) :=
  exec_invariant cfg (P := fun u => u.wire = s.wire ∧ (u.ack = .drain ∨ u.ack = .returned))
    (fun hu hst => (step_drained hst hu.2).imp_left (·.trans hu.1)) ⟨rfl, .inl ha⟩ h

end

namespace FlowControlWitness

/-- After `windowsRun`, the consumer takes the first batch and acknowledges it, and writing its ACK fails. -/
def failedAck : List Action := [.receive, .acknowledge ⟨0, 1, by decide⟩, .waitAwait false]

/-- The read task then hands the second batch to the drain loop, the consumer acknowledges it, and ReadBatch returns
the window of three events, which the drain loop takes too. -/
def afterFail : List Action :=
  [.handoff, .onEventsSend, .receive, .acknowledge ⟨1, 2, by decide⟩, .readBatch, .handoff]

end FlowControlWitness

open DeliveryWitness FlowControlWitness

/-- After `windowsRun` ReadBatch has returned two batches and none is ACKed: the bound is reached. -/
theorem reads_ahead_of_acks_two :
    ∃ s, exec cfg Handler.init windowsRun = some s ∧ s.reads.length = 2 ∧ s.ackedOnWire = [] ∧
      s.reads.length ≤ s.ackedOnWire.length + 2 :=
  ⟨_, rfl, rfl, rfl, @reads_ahead_of_acks cfg _ ⟨windowsRun, rfl⟩ (by decide) (by decide)⟩

/-- After the failed ACK, a third batch is read and a second acknowledged, and nothing is written. -/
theorem no_write_after_drain_failed_ack :
    ∃ s t, exec cfg Handler.init (windowsRun ++ failedAck) = some s ∧ s.ack = .drain ∧
      exec cfg s afterFail = some t ∧ t.reads.length = 3 ∧ .acknowledge ⟨1, 2, by decide⟩ ∈ t.history ∧
      (t.wire = s.wire ∧ (t.ack = .drain ∨ t.ack = .returned)) :=
  ⟨_, _, rfl, rfl, rfl, rfl, by decide, @no_write_after_drain cfg _ afterFail _ rfl rfl⟩

end Lumber
