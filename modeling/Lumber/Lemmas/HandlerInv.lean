import Mathlib.Data.List.Nodup
import Lumber.Lemmas.HandlerStep

/-!
# Invariants of the handler

What holds in every state a connection reaches, proved one field at a time from `Step`. The ids of the batches read
count up from 0; the batch the read task holds at the handoff is the last one it read; `h.ch` is closed exactly when
`handle` has returned; how far `Stop` has got is what the history says. Two facts tie the ACK task to the read task:
the batches acknowledged on the wire, then the one `waitACK` holds, are the first batches handed over on `h.ch`
(`Inv.acked_first`), and until the stop signal closes they are all of them (`Inv.inOrder`). The handoff to `ackLoop`'s
`select` is made only while the signal is open, so the ACK task never takes a batch past one it dropped. Every event of the
history is allowed by the events before it (`Justified`).
-/

namespace Lumber

open scoped List

/-! ### Histories -/

/-- Every event of a history is allowed, by `P`, given the events before it. -/
def HistoryOK (P : List Event → Event → Prop) (h : List Event) : Prop :=
  ∀ j e, h[j]? = some e → P (h.take j) e

namespace HistoryOK
variable {P : List Event → Event → Prop}

theorem nil : HistoryOK P [] := fun _ _ h => by simp at h

/-- An event allowed by the whole history before it extends a history whose events are allowed. -/
theorem append {h : List Event} {e : Event} (hh : HistoryOK P h) (he : P h e) : HistoryOK P (h ++ [e]) := by
  intro j e' hj
  rcases Nat.lt_or_ge j h.length with hlt | hge
  · rw [List.getElem?_append_left hlt] at hj
    rw [List.take_append_of_le_length hlt.le]
    exact hh j e' hj
  · rw [List.getElem?_append_right hge] at hj
    obtain ⟨hj0, rfl⟩ : j - h.length = 0 ∧ e = e' := by
      cases hk : j - h.length <;> simp_all
    rw [List.take_left' (by omega)]
    exact he

end HistoryOK

/-- What allows an event of the handler's history, given the events before it. The consumer acknowledges a batch once.
An `ACK` is written for a batch the consumer has acknowledged; a keep-alive, when keep-alives are on, for a batch read and
not yet ACKed; neither once the transport is closed. `Stop` closes the signal, then the transport, once each. -/
def Justified (cfg : HandlerConfig) (pre : List Event) : Event → Prop
  | .read _ => True
  | .acknowledge b => .acknowledge b ∉ pre
  | .write (.ack b) => .acknowledge b ∈ pre ∧ .closeClient ∉ pre
  | .write (.keepalive b) => 0 < cfg.keepalive ∧ .read b ∈ pre ∧ .write (.ack b) ∉ pre ∧ .closeClient ∉ pre
  | .closeSignal => .closeSignal ∉ pre
  | .closeClient => .closeSignal ∈ pre ∧ .closeClient ∉ pre

/-! ### Views of a state -/

@[simp] theorem Event.read?_eq_some {e : Event} {b : Batch} : e.read? = some b ↔ e = .read b := by
  cases e <;> simp [Event.read?]

@[simp] theorem Event.acknowledge?_eq_some {e : Event} {b : Batch} : e.acknowledge? = some b ↔ e = .acknowledge b := by
  cases e <;> simp [Event.acknowledge?]

@[simp] theorem Event.write?_eq_some {e : Event} {f : AckFrame} : e.write? = some f ↔ e = .write f := by
  cases e <;> simp [Event.write?]

@[simp] theorem AckFrame.acked?_eq_some {f : AckFrame} {b : Batch} : f.acked? = some b ↔ f = .ack b := by
  cases f <;> simp [AckFrame.acked?]

namespace Handler

theorem mem_reads {s : Handler} {b : Batch} : b ∈ s.reads ↔ .read b ∈ s.history := by
  simp only [reads, List.mem_filterMap, Event.read?_eq_some, exists_eq_right]

theorem mem_acked {s : Handler} {b : Batch} : b ∈ s.acked ↔ .acknowledge b ∈ s.history := by
  simp only [acked, List.mem_filterMap, Event.acknowledge?_eq_some, exists_eq_right]

theorem mem_ackedOnWire {s : Handler} {b : Batch} : b ∈ s.ackedOnWire ↔ .write (.ack b) ∈ s.history := by
  simp only [ackedOnWire, wire, List.mem_filterMap, Event.write?_eq_some, AckFrame.acked?_eq_some, exists_eq_right,
    exists_eq_right_right]

/-! The views of a state after a move, in terms of the views before it. -/

@[simp] theorem reads_mk {r a st c d i k rc h} : (⟨r, a, st, c, d, i, k, rc, h⟩ : Handler).reads =
    h.filterMap Event.read? := rfl

@[simp] theorem wire_mk {r a st c d i k rc h} : (⟨r, a, st, c, d, i, k, rc, h⟩ : Handler).wire =
    h.filterMap Event.write? := rfl

@[simp] theorem ackedOnWire_mk {r a st c d i k rc h} : (⟨r, a, st, c, d, i, k, rc, h⟩ : Handler).ackedOnWire =
    (h.filterMap Event.write?).filterMap AckFrame.acked? := rfl

@[simp] theorem filterMap_read? (s : Handler) : s.history.filterMap Event.read? = s.reads := rfl

@[simp] theorem filterMap_write? (s : Handler) : s.history.filterMap Event.write? = s.wire := rfl

@[simp] theorem filterMap_acked? (s : Handler) : s.wire.filterMap AckFrame.acked? = s.ackedOnWire := rfl

/-- The batches the read task has handed to the ACK task on `h.ch`: all it has read, but the one it holds at the
handoff. -/
def handed (s : Handler) : List Batch :=
  match s.read with
  | .handoff _ => s.reads.dropLast
  | _ => s.reads

/-- The batch `waitACK` holds, while it waits. -/
def pending (s : Handler) : List Batch :=
  match s.ack with
  | .waitACK b => [b]
  | _ => []

/-- The ACK task takes the batches handed to it in order: it has ACKed all of them, or all but the one it waits on; once
it has left for the drain loop, a prefix of them. -/
def InOrder (s : Handler) : Prop :=
  match s.ack with
  | .select => s.ackedOnWire = s.handed
  | .waitACK b => s.ackedOnWire ++ [b] = s.handed
  | .drain | .returned => s.ackedOnWire <+: s.handed

/-- What the consumer has received, then what waits on the server's channel, are the batches read, in order: all of
them while the read task runs, but the one it holds at the handoff or in `OnEvents`; a prefix of them once it has
stopped. -/
def Delivered (s : Handler) : Prop :=
  match s.read with
  | .readBatch => s.received ++ s.sink = s.reads
  | .handoff b | .onEvents b => s.received ++ s.sink ++ [b] = s.reads
  | .stop | .closeCh | .returned => s.received ++ s.sink <+: s.reads

theorem Delivered.isPrefix_reads {s : Handler} (h : s.Delivered) : s.received ++ s.sink <+: s.reads := by
  unfold Delivered at h
  split at h
  · exact h ▸ List.prefix_refl _
  · exact h ▸ List.prefix_append _ _
  · exact h ▸ List.prefix_append _ _
  all_goals exact h

theorem handed_isPrefix_reads (s : Handler) : s.handed <+: s.reads := by
  unfold handed
  split
  · exact List.dropLast_prefix _
  · exact List.prefix_refl _

theorem InOrder.isPrefix_handed {s : Handler} (h : s.InOrder) : s.ackedOnWire <+: s.handed := by
  unfold InOrder at h
  split at h
  · exact h ▸ List.prefix_refl _
  · exact h ▸ List.prefix_append _ _
  · exact h
  · exact h

end Handler

/-! ### The invariant -/

/-- What holds in every state a connection reaches. -/
structure Inv (cfg : HandlerConfig) (s : Handler) : Prop where
  history : HistoryOK (Justified cfg) s.history
  ids : s.reads.map Batch.id = List.range s.reads.length
  handoff_last : ∀ b, s.read = .handoff b → s.reads.getLast? = some b
  chClosed_iff : s.chClosed = true ↔ s.read = .returned
  open_iff : s.stop = .open ↔ .closeSignal ∉ s.history
  closed_iff : s.stop = .closed ↔ .closeClient ∈ s.history
  acked_first : s.ackedOnWire ++ s.pending <+: s.handed
  inOrder : .closeSignal ∉ s.history → s.InOrder
  delivered : s.Delivered
  stopped_closed : s.read = .closeCh ∨ s.read = .returned → s.stop = .closed
  ack_returned : s.ack = .returned → s.chClosed = true

section
variable {cfg : HandlerConfig} {s s' : Handler}

/-- No batch is read twice. -/
theorem Inv.reads_nodup (hi : Inv cfg s) : s.reads.Nodup :=
  List.Nodup.of_map Batch.id (hi.ids ▸ List.nodup_range _)

/-- The batches ACKed on the wire are the first batches read. -/
theorem Inv.ackedOnWire_isPrefix_reads (hi : Inv cfg s) : s.ackedOnWire <+: s.reads :=
  (List.prefix_append _ _).trans (hi.acked_first.trans s.handed_isPrefix_reads)

/-- The batch `waitACK` holds has been read and has not been ACKed. -/
theorem Inv.waiting (hi : Inv cfg s) {b : Batch} (h : s.ack = .waitACK b) : b ∈ s.reads ∧ b ∉ s.ackedOnWire := by
  have hsub : s.ackedOnWire ++ [b] <+ s.reads := by
    simpa only [Handler.pending, h] using (hi.acked_first.trans s.handed_isPrefix_reads).sublist
  refine ⟨hsub.subset (by simp), fun hb => ?_⟩
  exact List.disjoint_of_nodup_append (hi.reads_nodup.sublist hsub) hb (List.mem_singleton_self b)

theorem Inv.ids_step (h : Step cfg s s') (hi : s.reads.map Batch.id = List.range s.reads.length) :
    s'.reads.map Batch.id = List.range s'.reads.length := by
  cases h
  case readBatch hid _ => simp_all only [Handler.reads_mk, Handler.filterMap_read?, List.filterMap_append,
    List.filterMap_cons_none, List.filterMap_cons_some, List.filterMap_nil, List.append_nil, Event.read?,
    Option.some.injEq, List.map_append, List.map_cons, List.map_nil, List.length_append, List.length_singleton,
    List.range_succ]
  all_goals simpa only [Handler.reads_mk, Handler.filterMap_read?, List.filterMap_append, List.filterMap_cons_none,
    List.filterMap_cons_some, List.filterMap_nil, List.append_nil, Event.read?, Option.some.injEq] using hi

theorem Inv.handoff_last_step (h : Step cfg s s') (hi : ∀ b, s.read = .handoff b → s.reads.getLast? = some b) :
    ∀ b, s'.read = .handoff b → s'.reads.getLast? = some b := by
  cases h <;> simp_all only [Handler.reads_mk, Handler.filterMap_read?, List.filterMap_append, List.filterMap_cons_none,
    List.filterMap_cons_some, List.filterMap_nil, List.append_nil, Event.read?, Option.some.injEq, List.getLast?_concat,
    ne_eq, true_iff, ReadPC.handoff.injEq, reduceCtorEq, false_implies, implies_true, forall_eq']

theorem Inv.chClosed_iff_step (h : Step cfg s s') (hi : s.chClosed = true ↔ s.read = .returned) :
    s'.chClosed = true ↔ s'.read = .returned := by
  cases h <;> simp_all only [ne_eq, true_iff, reduceCtorEq, iff_false, Bool.not_eq_true]

theorem Inv.stop_step (h : Step cfg s s') (ho : s.stop = .open ↔ .closeSignal ∉ s.history)
    (hc : s.stop = .closed ↔ .closeClient ∈ s.history) :
    (s'.stop = .open ↔ .closeSignal ∉ s'.history) ∧ (s'.stop = .closed ↔ .closeClient ∈ s'.history) := by
  cases h <;> simp_all only [Decidable.not_not, List.mem_append, List.mem_singleton, and_self, and_true, false_iff,
    false_or, iff_false, iff_self_and, iff_self_or, ne_eq, not_or, not_true_eq_false, or_true, true_iff, reduceCtorEq,
    or_false, not_false_eq_true, iff_true]

/-- The handoff to `ackLoop`'s `select` is made while the signal is open, when the ACK task has ACKed every batch
handed to it: the batch handed over is the next one. -/
theorem Inv.acked_first_step (h : Step cfg s s') (hl : ∀ b, s.read = .handoff b → s.reads.getLast? = some b)
    (ho : s.stop = .open ↔ .closeSignal ∉ s.history) (hin : .closeSignal ∉ s.history → s.InOrder)
    (hi : s.ackedOnWire ++ s.pending <+: s.handed) : s'.ackedOnWire ++ s'.pending <+: s'.handed := by
  cases h
  case handoffSignal | handoffDrain => exact hi.trans s.handed_isPrefix_reads
  case handoff b hr ha hs =>
    have h1 : s.ackedOnWire = s.reads.dropLast := by simpa [Handler.InOrder, Handler.handed, ha, hr] using hin (ho.mp hs)
    have h2 : s.ackedOnWire ++ [b] = s.reads := h1 ▸ List.dropLast_append_getLast? b (hl b hr)
    simpa [Handler.pending, Handler.handed] using h2 ▸ List.prefix_refl _
  case waitSignal ha _ | waitAckFail ha _ | keepaliveFail ha _ =>
    simpa [Handler.pending, ha] using (List.prefix_append _ _).trans (by simpa [Handler.pending, ha] using hi)
  all_goals clear ho hin; simp_all only [Handler.pending, Handler.handed, Handler.ackedOnWire_mk, Handler.reads_mk,
    Handler.filterMap_write?, Handler.filterMap_acked?, Handler.filterMap_read?, List.filterMap_append,
    List.filterMap_cons_none, List.filterMap_cons_some, List.filterMap_nil, List.append_nil, Event.write?, Event.read?,
    AckFrame.acked?, Option.some.injEq, ne_eq, List.dropLast_concat]

theorem Inv.inOrder_step (h : Step cfg s s') (hl : ∀ b, s.read = .handoff b → s.reads.getLast? = some b)
    (ho : s.stop = .open ↔ .closeSignal ∉ s.history) (hi : .closeSignal ∉ s.history → s.InOrder) :
    .closeSignal ∉ s'.history → s'.InOrder := by
  cases h
  case handoffSignal hs | ackLoopSignal hs | waitSignal hs => exact fun hn => absurd (ho.mpr hn) hs
  case closeSignal => simp
  case handoff b hr ha _ =>
    intro hn
    have h1 : s.ackedOnWire = s.reads.dropLast := by simpa [Handler.InOrder, Handler.handed, ha, hr] using hi hn
    simpa [Handler.InOrder, Handler.handed, h1] using List.dropLast_append_getLast? b (hl b hr)
  case handoffDrain b hr ha =>
    intro hn
    have h1 := (hi hn).isPrefix_handed
    simp only [Handler.handed, hr] at h1
    simpa [Handler.InOrder, Handler.handed, ha] using h1.trans <| List.dropLast_prefix _
  case ackLoopClosed | waitAckFail | keepaliveFail | drainClosed =>
    exact fun hn => (hi hn).isPrefix_handed
  all_goals simp_all only [Handler.InOrder, Handler.handed, Handler.ackedOnWire_mk, Handler.reads_mk,
    Handler.filterMap_write?, Handler.filterMap_acked?, Handler.filterMap_read?, List.filterMap_append,
    List.filterMap_cons_none, List.filterMap_cons_some, List.filterMap_nil, List.append_nil, Event.write?, Event.read?,
    AckFrame.acked?, Option.some.injEq, List.mem_append, List.mem_singleton, not_or, ne_eq, List.dropLast_concat,
    not_false_eq_true, implies_true]

theorem Inv.delivered_step (h : Step cfg s s') (hi : s.Delivered) : s'.Delivered := by
  cases h
  case handoffSignal hr _ | onEventsDone hr _ =>
    simp only [Handler.Delivered, hr] at hi
    show s.received ++ s.sink <+: s.reads
    exact hi ▸ List.prefix_append _ _
  all_goals simp_all only [Handler.Delivered, List.append_assoc, List.cons_append, List.singleton_append,
    List.nil_append, Handler.reads_mk, Handler.filterMap_read?, List.filterMap_append, List.filterMap_cons_none,
    List.filterMap_cons_some, List.filterMap_nil, List.append_nil, Event.read?, Option.some.injEq, List.prefix_rfl]

theorem Inv.stopped_closed_step (h : Step cfg s s') (hi : s.read = .closeCh ∨ s.read = .returned → s.stop = .closed) :
    s'.read = .closeCh ∨ s'.read = .returned → s'.stop = .closed := by
  cases h <;> simp_all only [forall_const, imp_false, imp_self, implies_true, ne_eq, not_or, or_self, or_true, true_or,
    reduceCtorEq, false_or, or_false, false_implies, not_false_eq_true, and_self]

theorem Inv.ack_returned_step (h : Step cfg s s') (hi : s.ack = .returned → s.chClosed = true) :
    s'.ack = .returned → s'.chClosed = true := by
  cases h <;> simp_all only [imp_self, implies_true, ne_eq, reduceCtorEq, false_implies, forall_const]

/-- Once `Stop` has started, the history holds the closing of the signal. -/
theorem Inv.signal_closed (hi : Inv cfg s) (hs : s.stop ≠ .open) : .closeSignal ∈ s.history :=
  not_not.mp (mt hi.open_iff.mpr hs)

/-- Until `Stop` has closed the transport, the history does not hold its closing. -/
theorem Inv.client_open (hi : Inv cfg s) (hs : s.stop ≠ .closed) : .closeClient ∉ s.history :=
  mt hi.closed_iff.mpr hs

theorem Inv.history_step (hi : Inv cfg s) (h : Step cfg s s') : HistoryOK (Justified cfg) s'.history := by
  cases h
  case readBatch => exact hi.history.append trivial
  case closeSignal hs => exact hi.history.append (hi.open_iff.mp hs)
  case closeClient hs =>
    exact hi.history.append ⟨hi.signal_closed (by simp [hs]), hi.client_open (by simp [hs])⟩
  case waitAck hb hs => exact hi.history.append ⟨Handler.mem_acked.mp hb, hi.client_open hs⟩
  case keepalive ha hk hs =>
    obtain ⟨hr, hw⟩ := hi.waiting ha
    exact hi.history.append ⟨hk, Handler.mem_reads.mp hr, mt Handler.mem_ackedOnWire.mpr hw, hi.client_open hs⟩
  case acknowledge hb => exact hi.history.append (mt Handler.mem_acked.mpr hb)
  all_goals exact hi.history

/-- Every move keeps the invariant. -/
theorem Inv.step (hi : Inv cfg s) (h : Step cfg s s') : Inv cfg s' where
  history := hi.history_step h
  ids := Inv.ids_step h hi.ids
  handoff_last := Inv.handoff_last_step h hi.handoff_last
  chClosed_iff := Inv.chClosed_iff_step h hi.chClosed_iff
  open_iff := (Inv.stop_step h hi.open_iff hi.closed_iff).1
  closed_iff := (Inv.stop_step h hi.open_iff hi.closed_iff).2
  acked_first := Inv.acked_first_step h hi.handoff_last hi.open_iff hi.inOrder hi.acked_first
  inOrder := Inv.inOrder_step h hi.handoff_last hi.open_iff hi.inOrder
  delivered := Inv.delivered_step h hi.delivered
  stopped_closed := Inv.stopped_closed_step h hi.stopped_closed
  ack_returned := Inv.ack_returned_step h hi.ack_returned

end

/-- A new connection satisfies the invariant. -/
theorem Inv.init (cfg : HandlerConfig) : Inv cfg Handler.init where
  history := HistoryOK.nil
  ids := rfl
  handoff_last := by simp [Handler.init]
  chClosed_iff := by simp [Handler.init]
  open_iff := by simp [Handler.init]
  closed_iff := by simp [Handler.init]
  acked_first := List.prefix_refl _
  inOrder := fun _ => rfl
  delivered := rfl
  stopped_closed := by simp [Handler.init]
  ack_returned := by simp [Handler.init]

/-- The invariant holds in every state a connection reaches. -/
theorem Reachable.inv {cfg : HandlerConfig} {s : Handler} (h : Reachable cfg s) : Inv cfg s :=
  let ⟨_, h⟩ := h
  exec_invariant cfg (fun hi hs => Inv.step hi hs) (Inv.init cfg) h

end Lumber
