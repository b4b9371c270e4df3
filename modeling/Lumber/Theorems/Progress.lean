import Lumber.Theorems.Delivery

/-!
# Progress in normal operation

While `Stop` has not been called, the server runs, ReadBatch has returned no error and no write on the transport has
failed, the read task, the ACK task and the consumer never wait on one another for good. From any such state, moves of
theirs alone (no new window, no `Stop`, no keep-alive) read every window buffered, hand each batch to the consumer, and
ACK it once the consumer has acknowledged it, until ReadBatch waits for the next window with every batch read ACKed
(`pipeline_drains`). As everywhere in the handler's model, each ReadBatch call is taken to return, which the reader
does when compressed frames nest boundedly (`readBatch_terminates_of_bounded_nesting`).

The batch `waitACK` holds is always with the consumer, on the server's channel or in `OnEvents`
(`ProgressAux.waiting_held`): `h.ch` is unbuffered, so the ACK task takes a batch only after the one before it was ACKed.
Some move is then always ready, and each lowers `drainMeasure` (`ProgressAux.progress`): a buffered window costs seven
moves until it is ACKed, and the two tasks' places and the server's channel count what is left of that.
-/

namespace Lumber

/-- Normal operation: `Stop` has not been called, the server's stop signal is open, ReadBatch has returned no error
(the read task is not in the deferred `Stop`), no write on the transport has failed (the ACK task has not left for the
drain loop), and no window buffered makes ReadBatch fail. -/
structure Normal (s : Handler) : Prop where
  stop : s.stop = .open
  done : s.done = false
  read : s.read ≠ .stop
  ack : s.ack ≠ .drain
  inbox : .error ∉ s.inbox

/-- The moves a buffered window costs until it is ACKed: ReadBatch, the handoff, `OnEvents`, the consumer's receive and
acknowledgement, `waitACK`'s `ACK`, and one to spare; an empty window costs ReadBatch alone. -/
def Outcome.drainCost : Outcome → Nat
  | .batch _ _ => 7
  | .empty => 1
  | .error => 0

/-- What is left of that cost to the read task: the handoff pays for the ACK task's `waitACK` too. -/
def ReadPC.drainCost : ReadPC → Nat
  | .handoff _ => 6
  | .onEvents _ => 2
  | _ => 0

/-- What is left to the ACK task and the consumer of the batch `waitACK` holds. -/
def Handler.ackCost (s : Handler) : Nat :=
  match s.ack with
  | .waitACK b => if b ∈ s.acked then 1 else if b ∈ s.received then 2 else 3
  | _ => 0

/-- What the windows buffered cost. -/
def inboxCost : List Outcome → Nat
  | [] => 0
  | o :: os => o.drainCost + inboxCost os

/-- A bound on the moves left until every window buffered is read and every batch read is ACKed. -/
def drainMeasure (s : Handler) : Nat :=
  inboxCost s.inbox + s.read.drainCost + s.sink.length + s.ackCost

namespace ProgressAux

section
variable {cfg : HandlerConfig} {s : Handler}

theorem ackCost_le_three (s : Handler) : s.ackCost ≤ 3 := by
  unfold Handler.ackCost
  split
  · split_ifs <;> omega
  · omega

/-- What is left to the ACK task depends only on its place, the acknowledgements and the batches received. -/
theorem ackCost_congr {s t : Handler} (ha : t.ack = s.ack) (hk : t.acked = s.acked) (hr : t.received = s.received) :
    t.ackCost = s.ackCost := by
  simp only [Handler.ackCost, ha, hk, hr]

/-- Receiving a batch does not raise what is left to the ACK task. -/
theorem ackCost_receive {s t : Handler} {c : Batch} (ha : t.ack = s.ack) (hk : t.acked = s.acked)
    (hr : t.received = s.received ++ [c]) : t.ackCost ≤ s.ackCost := by
  simp only [Handler.ackCost, ha, hk, hr, List.mem_append, List.mem_singleton]
  split
  · split_ifs <;> simp_all
  · exact le_rfl

/-- A move of the read task or of the consumer is not the peer's. -/
theorem sent?_eq_none {a : Action} (ha : (a.isTask || a.isConsumer) = true) : a.sent? = none := by
  cases a with
  | peerSend o => cases ha
  | _ => rfl

/-- In normal operation the read task is in ReadBatch, at the handoff or in `OnEvents`. -/
theorem Normal.read_cases (hi : Inv cfg s) (hn : Normal s) :
    s.read = .readBatch ∨ (∃ b, s.read = .handoff b) ∨ ∃ b, s.read = .onEvents b := by
  have hclosed : ¬ (s.read = .closeCh ∨ s.read = .returned) := fun h => by
    have := hi.stopped_closed h
    rw [hn.stop] at this
    cases this
  match hr : s.read with
  | .readBatch => exact .inl rfl
  | .handoff b => exact .inr (.inl ⟨b, rfl⟩)
  | .onEvents b => exact .inr (.inr ⟨b, rfl⟩)
  | .stop => exact absurd hr hn.read
  | .closeCh => exact absurd (.inl hr) hclosed
  | .returned => exact absurd (.inr hr) hclosed

/-- The batch `waitACK` holds that the consumer has not received, with the server's channel empty, is the one `OnEvents`
is sending. -/
theorem waiting_held (hi : Inv cfg s) (hn : Normal s) {b : Batch} (ha : s.ack = .waitACK b) (hb : b ∉ s.received)
    (hk : s.sink = []) : s.read = .onEvents b := by
  have hio := hi.inOrder (hi.open_iff.mp hn.stop)
  have hdel := hi.delivered
  unfold Handler.InOrder at hio
  unfold Handler.Delivered at hdel
  rw [ha] at hio
  have hh : b ∈ s.handed := hio ▸ List.mem_append_right _ (List.mem_singleton_self b)
  unfold Handler.handed at hh
  rcases Normal.read_cases hi hn with hr | ⟨c, hr⟩ | ⟨c, hr⟩ <;> rw [hr] at hdel hh <;> dsimp only at hdel hh
  · rw [← hdel, hk, List.append_nil] at hh
    exact absurd hh hb
  · rw [← hdel, hk, List.append_nil, List.dropLast_concat] at hh
    exact absurd hh hb
  · rw [← hdel, hk, List.append_nil, List.mem_append, List.mem_singleton] at hh
    exact hr ▸ congrArg ReadPC.onEvents (hh.resolve_left hb).symm

/-- `OnEvents` hands its batch on: to the server's channel when it has room, else, for a channel of no capacity, to the
consumer directly. -/
theorem progress_onEvents (hn : Normal s) {b : Batch} (hr : s.read = .onEvents b) (hk : s.sink = []) :
    ∃ a t, (a.isTask || a.isConsumer) = true ∧ step cfg s a = some t ∧ Normal t ∧
      drainMeasure t < drainMeasure s := by
  by_cases hcap : 0 < cfg.sinkCap
  · refine ⟨.onEventsSend, { s with read := .readBatch, sink := s.sink ++ [b] }, rfl, ?_,
      ⟨hn.stop, hn.done, by simp, hn.ack, hn.inbox⟩, ?_⟩
    · simp [step, hr, hk, hcap]
    · have hc := ackCost_congr (s := s) (t := { s with read := .readBatch, sink := s.sink ++ [b] }) rfl rfl rfl
      unfold drainMeasure
      rw [hc]
      simp only [hr, hk, ReadPC.drainCost, List.nil_append, List.length_singleton, List.length_nil]
      omega
  · refine ⟨.receive, { s with read := .readBatch, received := s.received ++ [b] }, rfl, ?_,
      ⟨hn.stop, hn.done, by simp, hn.ack, hn.inbox⟩, ?_⟩
    · simp [step, hr, hk, Nat.eq_zero_of_not_pos hcap]
    · have hle := ackCost_receive (s := s) (t := { s with read := .readBatch, received := s.received ++ [b] }) rfl rfl rfl
      unfold drainMeasure
      simp only [hr, hk, ReadPC.drainCost] at hle ⊢
      omega

/-- The consumer takes the first batch off a non-empty server channel. -/
theorem progress_receive (hn : Normal s) {c : Batch} {rest : List Batch} (hk : s.sink = c :: rest) :
    ∃ a t, (a.isTask || a.isConsumer) = true ∧ step cfg s a = some t ∧ Normal t ∧
      drainMeasure t < drainMeasure s := by
  refine ⟨.receive, { s with sink := rest, received := s.received ++ [c] }, rfl, by simp [step, hk],
    ⟨hn.stop, hn.done, hn.read, hn.ack, hn.inbox⟩, ?_⟩
  have hle := ackCost_receive (s := s) (t := { s with sink := rest, received := s.received ++ [c] }) rfl rfl rfl
  unfold drainMeasure
  simp only [hk, List.length_cons] at hle ⊢
  omega

/-- While `waitACK` holds a batch, the consumer or `OnEvents` can move it on, or `waitACK` can ACK it. -/
theorem progress_waitACK (hi : Inv cfg s) (hn : Normal s) {b : Batch} (ha : s.ack = .waitACK b) :
    ∃ a t, (a.isTask || a.isConsumer) = true ∧ step cfg s a = some t ∧ Normal t ∧
      drainMeasure t < drainMeasure s := by
  by_cases hack : b ∈ s.acked
  · refine ⟨.waitAwait true, { s with ack := .select, history := s.history ++ [.write (.ack b)] }, rfl, ?_,
      ⟨hn.stop, hn.done, hn.read, by simp, hn.inbox⟩, ?_⟩
    · simp [step, ha, hack, hn.stop]
    · simp only [drainMeasure, Handler.ackCost, ha, hack, if_true]
      omega
  by_cases hrec : b ∈ s.received
  · refine ⟨.acknowledge b, { s with history := s.history ++ [.acknowledge b] }, rfl, ?_,
      ⟨hn.stop, hn.done, hn.read, hn.ack, hn.inbox⟩, ?_⟩
    · simp [step, hrec, hack]
    · rw [Handler.mem_acked] at hack
      simp only [drainMeasure, Handler.ackCost, ha, Handler.mem_acked, hack, hrec, List.mem_append,
        List.mem_singleton, or_true, if_true, if_false]
      omega
  match hk : s.sink with
  | c :: rest => exact progress_receive hn hk
  | [] => exact progress_onEvents hn (waiting_held hi hn ha hrec hk) hk

/-- With the ACK task in its `select`, the read task can read the next buffered window, hand its batch over, or pass it
to `OnEvents`'s receiver, unless ReadBatch waits on an empty inbox. -/
theorem progress_select (hn : Normal s) (hi : Inv cfg s) (ha : s.ack = .select)
    (hne : ¬ (s.read = .readBatch ∧ s.inbox = [])) :
    ∃ a t, (a.isTask || a.isConsumer) = true ∧ step cfg s a = some t ∧ Normal t ∧
      drainMeasure t < drainMeasure s := by
  rcases Normal.read_cases hi hn with hr | ⟨b, hr⟩ | ⟨b, hr⟩
  · match hin : s.inbox with
    | [] => exact absurd ⟨hr, hin⟩ hne
    | .batch n hpos :: rest =>
      have hrest : .error ∉ rest := fun h => hn.inbox (hin ▸ List.mem_cons_of_mem _ h)
      let b : Batch := ⟨s.reads.length, n, hpos⟩
      refine ⟨.readBatch, { s with read := .handoff b, inbox := rest, history := s.history ++ [.read b] }, rfl,
        by simp [step, hr, hin, b, hn.stop], ⟨hn.stop, hn.done, by simp, hn.ack, hrest⟩, ?_⟩
      simp only [drainMeasure, Handler.ackCost, ha, hr, hin, ReadPC.drainCost, Outcome.drainCost, inboxCost]
      omega
    | .empty :: rest =>
      have hrest : .error ∉ rest := fun h => hn.inbox (hin ▸ List.mem_cons_of_mem _ h)
      refine ⟨.readBatch, { s with inbox := rest }, rfl, by simp [step, hr, hin],
        ⟨hn.stop, hn.done, hn.read, hn.ack, hrest⟩, ?_⟩
      have hc := ackCost_congr (s := s) (t := { s with inbox := rest }) rfl rfl rfl
      unfold drainMeasure
      rw [hc]
      simp only [hin, Outcome.drainCost, inboxCost]
      omega
    | .error :: _ => exact absurd (hin ▸ List.mem_cons_self _ _) hn.inbox
  · refine ⟨.handoff, { s with read := .onEvents b, ack := .waitACK b }, rfl, by simp [step, hr, ha, hn.stop],
      ⟨hn.stop, hn.done, by simp, by simp, hn.inbox⟩, ?_⟩
    have hle := ackCost_le_three { s with read := .onEvents b, ack := .waitACK b }
    simp only [drainMeasure, Handler.ackCost, ha, hr, ReadPC.drainCost] at hle ⊢
    omega
  · match hk : s.sink with
    | c :: rest => exact progress_receive hn hk
    | [] => exact progress_onEvents hn hr hk

/-- In normal operation some move of the tasks or the consumer lowers the measure, unless ReadBatch waits on an empty
inbox with the ACK task in its `select`. -/
theorem progress (hi : Inv cfg s) (hn : Normal s) (hne : ¬ (s.read = .readBatch ∧ s.inbox = [] ∧ s.ack = .select)) :
    ∃ a t, (a.isTask || a.isConsumer) = true ∧ step cfg s a = some t ∧ Normal t ∧
      drainMeasure t < drainMeasure s := by
  match ha : s.ack with
  | .select => exact progress_select hn hi ha fun ⟨hr, hin⟩ => hne ⟨hr, hin, ha⟩
  | .waitACK b => exact progress_waitACK hi hn ha
  | .drain => exact absurd ha hn.ack
  | .returned =>
    have := hi.stopped_closed (.inr (hi.chClosed_iff.mp (hi.ack_returned ha)))
    rw [hn.stop] at this
    cases this

/-- With ReadBatch waiting on an empty inbox and the ACK task in its `select`, every batch read has been ACKed. -/
theorem ackedOnWire_eq_reads (hi : Inv cfg s) (hn : Normal s) (hr : s.read = .readBatch) (ha : s.ack = .select) :
    s.ackedOnWire = s.reads := by
  have hio := hi.inOrder (hi.open_iff.mp hn.stop)
  simp only [Handler.InOrder, Handler.handed, ha, hr] at hio
  exact hio

/-- The run `pipeline_drains` builds, by strong induction on the measure. -/
theorem drain_run : ∀ (n : Nat) {s : Handler}, drainMeasure s = n → Reachable cfg s → Normal s →
    ∃ as t, (∀ a ∈ as, (a.isTask || a.isConsumer) = true) ∧ exec cfg s as = some t ∧ as.length ≤ drainMeasure s ∧
      t.read = .readBatch ∧ t.inbox = [] ∧ t.ack = .select ∧ t.ackedOnWire = t.reads ∧
      t.reads.map Batch.len = s.reads.map Batch.len ++ batchLens s.inbox := by
  intro n
  induction n using Nat.strong_induction_on with
  | _ n ih =>
    intro s hm hr hn
    by_cases hdone : s.read = .readBatch ∧ s.inbox = [] ∧ s.ack = .select
    · obtain ⟨hread, hin, ha⟩ := hdone
      exact ⟨[], s, by simp, rfl, by simp, hread, hin, ha, ackedOnWire_eq_reads hr.inv hn hread ha,
        by simp [hin]⟩
    · obtain ⟨a, t, hint, hst, hnt, hlt⟩ := progress hr.inv hn hdone
      have hexec : exec cfg s [a] = some t := by simp [exec, hst]
      obtain ⟨as, u, has, hexu, hlen, hread, hin, ha, hacked, hreads⟩ :=
        ih _ (hm ▸ hlt) rfl (hr.exec hexec) hnt
      have hsent := DeliveryAux.step_sent (by simp [hn.stop]) hst
      rw [sent?_eq_none hint, Option.toList_none, batchLens_nil, List.append_nil] at hsent
      exact ⟨a :: as, u, List.forall_mem_cons.mpr ⟨hint, has⟩, by simp [exec, hst, hexu],
        by simp only [List.length_cons]; omega, hread, hin, ha, hacked, by rw [hreads, hsent]⟩

end

end ProgressAux

open ProgressAux

/-- No internal deadlock: in normal operation (`Stop` not called, the server running, no error from ReadBatch, no failed
write), and when every ReadBatch call returns, as the model's ReadBatch does, from every reachable state some run of moves of the read task, the ACK task and the consumer alone, at most
`drainMeasure s` long, ends with
1. ReadBatch waiting for the next window, with every window that was buffered read;
2. the ACK task in its `select`, every batch ReadBatch returned ACKed on the transport;
3. the batches read being those before, then one for each non-empty window that was buffered, in order. -/
theorem pipeline_drains {cfg : HandlerConfig} {s : Handler} (hr : Reachable cfg s) (hn : Normal s) :
    ∃ as t, (∀ a ∈ as, (a.isTask || a.isConsumer) = true) ∧ exec cfg s as = some t ∧ as.length ≤ drainMeasure s ∧
      t.read = .readBatch ∧ t.inbox = [] ∧ t.ack = .select ∧ t.ackedOnWire = t.reads ∧
      t.reads.map Batch.len = s.reads.map Batch.len ++ batchLens s.inbox :=
  drain_run _ rfl hr hn

open DeliveryWitness

/-- After `windowsRun`, with one batch waiting to be ACKed, one at the handoff and a window buffered, the tasks and the
consumer ACK all three batches. -/
theorem pipeline_drains_windows :
    ∃ s, exec cfg Handler.init windowsRun = some s ∧ Normal s ∧ s.inbox.length = 1 ∧
      ∃ as t, (∀ a ∈ as, (a.isTask || a.isConsumer) = true) ∧ exec cfg s as = some t ∧ as.length ≤ drainMeasure s ∧
        t.read = .readBatch ∧ t.inbox = [] ∧ t.ack = .select ∧ t.ackedOnWire = t.reads ∧
        t.reads.map Batch.len = s.reads.map Batch.len ++ batchLens s.inbox :=
  ⟨_, rfl, ⟨rfl, rfl, by decide, by decide, by decide⟩, rfl,
    pipeline_drains ⟨windowsRun, rfl⟩ ⟨rfl, rfl, by decide, by decide, by decide⟩⟩

end Lumber
