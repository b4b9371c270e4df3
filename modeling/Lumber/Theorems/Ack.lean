import Lumber.Lemmas.HandlerInv

/-!
# What the ACK task writes

Over every interleaving of the two tasks, `Stop`, the consumer and the keep-alive timer, the batches ACKed on the
transport are the first batches ReadBatch returned, in the order read, none skipped or repeated; each `ACK` is written
for the batch `waitACK` holds once the consumer has acknowledged it, and each keep-alive while keep-alives are on, for
the batch `waitACK` holds and has not ACKed (`ack_frames_in_read_order`). Until `Stop` closes the signal this holds in a
sharper form, the ACKed batches being all the batches handed to the ACK task but the one it waits on (`Inv.inOrder`),
which gives the prefix law at once (`ackCounts_prefix_before_signal`). The consumer receives the batches in the order
they were read (`received_isPrefix_reads`).

The signal does not stop the ACK task at once. `waitACK` may pick its batch's `Await` over the closed signal, so between
`close(h.signal)` and `h.client.Close()` the ACK task can write `ACK(len)` for a batch the consumer acknowledged after
the signal closed (`ack_written_after_signal_for_late_acknowledge`). That batch is the only one: the ACK task takes no
batch from `h.ch` once the signal is closed, so after the signal the wire gains at most the `ACK` of the batch `waitACK`
held then, and once the transport is closed it gains nothing (`ack_after_signal_only_held_batch`).
-/

namespace Lumber

open scoped List

namespace AckAux

/-- The counts of the non-zero frames are the lengths of the batches the `ACK` frames acknowledge. -/
theorem nonzero_counts_eq : ∀ w : List AckFrame,
    (w.filter fun f => f.count ≠ 0).map AckFrame.count = (w.filterMap AckFrame.acked?).map Batch.len
  | [] => rfl
  | .ack b :: w => by
    rw [List.filter_cons_of_pos (by simp [Nat.pos_iff_ne_zero.mp b.len_pos])]
    simp only [List.map_cons, List.filterMap_cons, AckFrame.acked?, nonzero_counts_eq w]
    rfl
  | .keepalive _ :: w => by
    rw [List.filter_cons_of_neg (by simp)]
    simp only [List.filterMap_cons, AckFrame.acked?, nonzero_counts_eq w]

end AckAux

open AckAux

section
variable {cfg : HandlerConfig} {s s' : Handler}

/-- What a move writes on the transport: nothing, the `ACK` of the batch `waitACK` holds once the consumer has
acknowledged it, or a keep-alive for that batch while keep-alives are on. -/
theorem Step.wire_cases (h : Step cfg s s') : s'.wire = s.wire ∨
    (∃ b, s.ack = .waitACK b ∧ b ∈ s.acked ∧ s'.wire = s.wire ++ [.ack b]) ∨
    (∃ b, s.ack = .waitACK b ∧ 0 < cfg.keepalive ∧ s'.wire = s.wire ++ [.keepalive b]) := by
  cases h
  case waitAck b ha hb _ => exact .inr (.inl ⟨b, ha, hb, by simp⟩)
  case keepalive b ha hk _ => exact .inr (.inr ⟨b, ha, hk, by simp⟩)
  all_goals exact .inl (by simp)

/-- A move after the signal: the ACK task takes no new batch, so it either keeps the batch `waitACK` holds, drops it, or
ACKs it; and once the transport is closed nothing is written. -/
theorem Step.after_signal (h : Step cfg s s') (hs : s.stop ≠ .open) :
    s'.stop ≠ .open ∧ s.ackedOnWire <+: s'.ackedOnWire ∧ s'.ackedOnWire ++ s'.pending <+: s.ackedOnWire ++ s.pending ∧
      (s.stop = .closed → s'.stop = .closed ∧ s'.wire = s.wire) := by
  cases h
  case handoff hs' | closeSignal hs' => exact absurd hs' hs
  case waitSignal ha _ | waitAckFail ha _ | keepaliveFail ha _ =>
    exact ⟨hs, List.prefix_refl _, by simp [Handler.pending, ha], fun hc => ⟨hc, rfl⟩⟩
  case waitAck b ha _ hc =>
    exact ⟨hs, by simp, by simp [Handler.pending, ha], fun h => absurd h hc⟩
  case keepalive ha _ hc => exact ⟨hs, by simp, by simp [Handler.pending, ha], fun h => absurd h hc⟩
  all_goals simp_all [Handler.pending]

/-- After the signal, a run adds to the batches ACKed on the wire at most the batch `waitACK` held at the signal, and
once the transport is closed it writes nothing. -/
theorem exec_after_signal (hs : s.stop ≠ .open) {as : List Action} {t : Handler} (h : exec cfg s as = some t) :
    s.ackedOnWire <+: t.ackedOnWire ∧ t.ackedOnWire <+: s.ackedOnWire ++ s.pending ∧
      (s.stop = .closed → t.wire = s.wire) := by
  have hP := exec_invariant cfg (P := fun u => u.stop ≠ .open ∧ s.ackedOnWire <+: u.ackedOnWire ∧
      u.ackedOnWire ++ u.pending <+: s.ackedOnWire ++ s.pending ∧ (s.stop = .closed → u.stop = .closed ∧ u.wire = s.wire))
    (fun ⟨hu, h1, h2, h3⟩ hst =>
      let ⟨hu', h1', h2', h3'⟩ := hst.after_signal hu
      ⟨hu', h1.trans h1', h2'.trans h2, fun hc => ⟨(h3' (h3 hc).1).1, (h3' (h3 hc).1).2.trans (h3 hc).2⟩⟩)
    ⟨hs, List.prefix_refl _, List.prefix_refl _, fun hc => ⟨hc, rfl⟩⟩ h
  exact ⟨hP.2.1, (List.prefix_append _ _).trans hP.2.2.1, fun hc => (hP.2.2.2 hc).2⟩

/-- Every batch ACKed on the wire was acknowledged by the consumer. -/
theorem Inv.ackedOnWire_subset_acked (hi : Inv cfg s) {b : Batch} (hb : b ∈ s.ackedOnWire) : b ∈ s.acked := by
  obtain ⟨j, hj⟩ := List.mem_iff_getElem?.mp (Handler.mem_ackedOnWire.mp hb)
  exact Handler.mem_acked.mpr (List.mem_of_mem_take (hi.history j _ hj).1)

end

section
variable {cfg : HandlerConfig} {s : Handler}

/-- The batches ACKed on the transport are batches ReadBatch returned, in the order it returned them, each at most
once. -/
theorem ackedOnWire_sublist_reads (hr : Reachable cfg s) : s.ackedOnWire <+ s.reads ∧ s.ackedOnWire.Nodup := by
  have hsub := hr.inv.ackedOnWire_isPrefix_reads.sublist
  exact ⟨hsub, hr.inv.reads_nodup.sublist hsub⟩

/-- ACK ordering over every interleaving. The batches ACKed on the transport are the first batches ReadBatch returned,
and the non-zero counts written are their lengths, in order: none skipped, repeated or reordered. Each move writes
nothing, or the `ACK` of the batch `waitACK` holds, which the consumer has acknowledged, or a keep-alive for that batch,
while keep-alives are on and before it is ACKed. -/
theorem ack_frames_in_read_order (hr : Reachable cfg s) :
    s.ackedOnWire <+: s.reads ∧ (s.wire.filter fun f => f.count ≠ 0).map AckFrame.count <+: s.reads.map Batch.len ∧
    ∀ a t, step cfg s a = some t → t.wire = s.wire ∨
      (∃ b, s.ack = .waitACK b ∧ b ∈ s.acked ∧ t.wire = s.wire ++ [.ack b]) ∨
      (∃ b, s.ack = .waitACK b ∧ b ∉ s.ackedOnWire ∧ 0 < cfg.keepalive ∧ t.wire = s.wire ++ [.keepalive b]) := by
  have hi := hr.inv
  have hpre := hi.ackedOnWire_isPrefix_reads
  refine ⟨hpre, nonzero_counts_eq s.wire ▸ hpre.map Batch.len, fun a t ht => ?_⟩
  rcases (Step.of_step cfg ht).wire_cases with h | h | ⟨b, ha, hk, hw⟩
  · exact .inl h
  · exact .inr (.inl h)
  · exact .inr (.inr ⟨b, ha, (hi.waiting ha).2, hk, hw⟩)

/-- Until `Stop` closes the signal, the non-zero counts written on the transport are the lengths of the first batches
ReadBatch returned, in order: no batch is skipped, repeated or reordered. -/
theorem ackCounts_prefix_before_signal (hr : Reachable cfg s) (hn : .closeSignal ∉ s.history) :
    (s.wire.filter fun f => f.count ≠ 0).map AckFrame.count <+: s.reads.map Batch.len := by
  rw [nonzero_counts_eq]
  exact ((hr.inv.inOrder hn).isPrefix_handed.trans s.handed_isPrefix_reads).map Batch.len

/-- The consumer receives the batches in the order ReadBatch returned them, none skipped or repeated, and the server's
channel holds the ones that follow. -/
theorem received_isPrefix_reads (hr : Reachable cfg s) : s.received ++ s.sink <+: s.reads :=
  hr.inv.delivered.isPrefix_reads

/-- No ACK after the signal but for the batch `waitACK` holds. From any state after `Stop` has closed the signal, the
batches ACKed on the wire gain at most the batch `waitACK` holds in that state, and every batch ACKed was acknowledged
by the consumer, maybe after the signal; from any state after `Stop` has closed the transport, nothing more is
written. -/
theorem ack_after_signal_only_held_batch (hr : Reachable cfg s) (hs : s.stop ≠ .open) {as : List Action} {t : Handler}
    (h : exec cfg s as = some t) :
    s.ackedOnWire <+: t.ackedOnWire ∧ t.ackedOnWire <+: s.ackedOnWire ++ s.pending ∧
      (∀ b ∈ t.ackedOnWire, b ∈ t.acked) ∧ (s.stop = .closed → t.wire = s.wire) :=
  let ⟨h1, h2, h3⟩ := exec_after_signal hs h
  ⟨h1, h2, fun _ hb => (hr.exec h).inv.ackedOnWire_subset_acked hb, h3⟩

/-- A keep-alive is written only when keep-alives are on, for a batch ReadBatch returned that has not been ACKed. -/
theorem keepalive_only_while_waiting (hr : Reachable cfg s) {j : Nat} {b : Batch}
    (hj : s.history[j]? = some (.write (.keepalive b))) :
    0 < cfg.keepalive ∧ .read b ∈ s.history.take j ∧ .write (.ack b) ∉ s.history.take j :=
  let ⟨hk, hb, hw, _⟩ := hr.inv.history j _ hj
  ⟨hk, hb, hw⟩

end

namespace AckWitness

/-- The server's channel as `NewWithListener` makes it, keep-alives off. -/
def cfg : HandlerConfig := ⟨0, 128⟩

/-- The same channel, with keep-alives on. -/
def cfgKeepalive : HandlerConfig := ⟨1, 128⟩

/-- The first batch read on a connection: one event. -/
def b1 : Batch := ⟨0, 1, by decide⟩

/-- The second batch read on a connection: two events. -/
def b2 : Batch := ⟨1, 2, by decide⟩

/-- Two windows, of one and two events. The first batch is handed to the ACK task, acknowledged and ACKed; the second is
handed to it, and `Stop` closes the signal while `waitACK` holds it; `waitACK` returns. -/
def stopRun : List Action :=
  [.peerSend (.batch 1 (by decide)), .peerSend (.batch 2 (by decide)), .readBatch, .handoff, .onEventsSend, .receive,
    .acknowledge b1, .waitAwait true, .readBatch, .handoff, .onEventsSend, .closeSignal, .waitSignal]

/-- One window of one event, handed to the ACK task; `Stop` closes the signal while `waitACK` holds its batch. -/
def signalRun : List Action := [.peerSend (.batch 1 (by decide)), .readBatch, .handoff, .onEventsSend, .closeSignal]

/-- After `signalRun`: the consumer receives and acknowledges the batch, and `waitACK` takes its `Await`. -/
def lateAckRun : List Action := [.receive, .acknowledge b1, .waitAwait true]

/-- One window of one event. `Stop` closes the signal while `waitACK` holds its batch; the consumer then acknowledges
it, and `waitACK` takes its `Await`. -/
def lateRun : List Action := signalRun ++ lateAckRun

/-- One window of one event, acknowledged and ACKed before any `Stop`. -/
def ackRun : List Action :=
  [.peerSend (.batch 1 (by decide)), .readBatch, .handoff, .onEventsSend, .receive, .acknowledge b1, .waitAwait true]

/-- One window of one event; the keep-alive timer fires while `waitACK` holds its batch. -/
def keepaliveRun : List Action :=
  [.peerSend (.batch 1 (by decide)), .readBatch, .handoff, .waitKeepalive true]

/-- Two windows; the consumer has received the first batch while the read task holds the second at the handoff. -/
def receiveRun : List Action :=
  [.peerSend (.batch 1 (by decide)), .peerSend (.batch 2 (by decide)), .readBatch, .handoff, .onEventsSend, .receive,
    .readBatch]

end AckWitness

open AckWitness

/-- After `Stop` closes the signal, `ACK(1)` is written for a batch the consumer acknowledged only after the signal
closed. -/
theorem ack_written_after_signal_for_late_acknowledge :
    ∃ s, exec cfg Handler.init lateRun = some s ∧
      s.history = [.read b1, .closeSignal, .acknowledge b1, .write (.ack b1)] :=
  ⟨_, rfl, by decide⟩

/-- The first batch ACKed, the second held when the signal closes and never ACKed: the wire carries the first
batch's count, a prefix of the two lengths. -/
theorem ack_frames_in_read_order_stop :
    ∃ s, exec cfg Handler.init stopRun = some s ∧ s.reads = [b1, b2] ∧ s.ackedOnWire = [b1] ∧
      (s.ackedOnWire <+: s.reads ∧ (s.wire.filter fun f => f.count ≠ 0).map AckFrame.count <+: s.reads.map Batch.len ∧
      ∀ a t, step cfg s a = some t → t.wire = s.wire ∨
        (∃ b, s.ack = .waitACK b ∧ b ∈ s.acked ∧ t.wire = s.wire ++ [.ack b]) ∨
        (∃ b, s.ack = .waitACK b ∧ b ∉ s.ackedOnWire ∧ 0 < cfg.keepalive ∧ t.wire = s.wire ++ [.keepalive b])) :=
  ⟨_, rfl, by decide, by decide, @ack_frames_in_read_order cfg _ ⟨stopRun, rfl⟩⟩

/-- The same run: the batch ACKed is the first of the two read. -/
theorem ackedOnWire_sublist_reads_stop :
    ∃ s, exec cfg Handler.init stopRun = some s ∧ s.ackedOnWire = [b1] ∧ s.reads = [b1, b2] ∧
      (s.ackedOnWire <+ s.reads ∧ s.ackedOnWire.Nodup) :=
  ⟨_, rfl, by decide, by decide, @ackedOnWire_sublist_reads cfg _ ⟨stopRun, rfl⟩⟩

/-- From the signal on, the one batch ACKed is the one `waitACK` held at the signal, acknowledged after it. -/
theorem ack_after_signal_only_held_batch_late :
    ∃ s t, exec cfg Handler.init signalRun = some s ∧ exec cfg s lateAckRun = some t ∧ s.stop ≠ .open ∧
      s.pending = [b1] ∧ s.ackedOnWire = [] ∧ t.ackedOnWire = [b1] ∧
      (s.ackedOnWire <+: t.ackedOnWire ∧ t.ackedOnWire <+: s.ackedOnWire ++ s.pending ∧
        (∀ b ∈ t.ackedOnWire, b ∈ t.acked) ∧ (s.stop = .closed → t.wire = s.wire)) :=
  ⟨_, _, rfl, rfl, by decide, by decide, by decide, by decide,
    @ack_after_signal_only_held_batch cfg _ ⟨signalRun, rfl⟩ (by decide) lateAckRun _ rfl⟩

/-- Before any `Stop`, the one batch ACKed is the first read. -/
theorem ackCounts_prefix_before_signal_ack :
    ∃ s, exec cfg Handler.init ackRun = some s ∧ .closeSignal ∉ s.history ∧ s.wire = [.ack b1] ∧
      (s.wire.filter fun f => f.count ≠ 0).map AckFrame.count <+: s.reads.map Batch.len :=
  ⟨_, rfl, by decide, by decide, @ackCounts_prefix_before_signal cfg _ ⟨ackRun, rfl⟩ (by decide)⟩

/-- The consumer has the first batch; the second is read and not yet on the server's channel. -/
theorem received_isPrefix_reads_first :
    ∃ s, exec cfg Handler.init receiveRun = some s ∧ s.received = [b1] ∧ s.reads = [b1, b2] ∧
      s.received ++ s.sink <+: s.reads :=
  ⟨_, rfl, by decide, by decide, @received_isPrefix_reads cfg _ ⟨receiveRun, rfl⟩⟩

/-- A keep-alive for the batch `waitACK` holds. -/
theorem keepalive_only_while_waiting_first :
    ∃ s, exec cfgKeepalive Handler.init keepaliveRun = some s ∧ s.history[1]? = some (.write (.keepalive b1)) ∧
      (0 < cfgKeepalive.keepalive ∧ .read b1 ∈ s.history.take 1 ∧ .write (.ack b1) ∉ s.history.take 1) :=
  ⟨_, rfl, by decide, @keepalive_only_while_waiting cfgKeepalive _ ⟨keepaliveRun, rfl⟩ _ _ (by decide)⟩

end Lumber
