import Lumber.Lemmas.HandlerInv

/-!
# Where the peer's windows go

ReadBatch takes the windows the peer sent one at a time, from the front: each non-empty window becomes the next batch,
numbered in order, and an empty window or an error makes none. So while the transport is open the batches ReadBatch
returned, then the windows still buffered, are the peer's non-empty windows in the order sent, and the consumer receives
a prefix of them (`reads_of_sent`). The law is proved once per move (`DeliveryAux.step_sent`) and summed over a run
(`DeliveryAux.exec_sent`). Once `Stop` has closed the transport, the first non-empty window still buffered makes
ReadBatch fail, and it and the windows after it are never read.
-/

namespace Lumber

/-- The number of events of a window the peer sent, when ReadBatch makes a batch of it. -/
@[simp] def Outcome.batchLen? : Outcome → Option Nat
  | .batch n _ => some n
  | _ => none

/-- The numbers of events of the batches a list of windows makes, in order. -/
def batchLens (os : List Outcome) : List Nat := os.filterMap Outcome.batchLen?

/-- The window a move of the peer sends. -/
@[simp] def Action.sent? : Action → Option Outcome
  | .peerSend o => some o
  | _ => none

@[simp] theorem batchLens_nil : batchLens [] = [] := rfl

@[simp] theorem batchLens_append (os os' : List Outcome) : batchLens (os ++ os') = batchLens os ++ batchLens os' :=
  List.filterMap_append _ _ _

@[simp] theorem batchLens_cons (o : Outcome) (os : List Outcome) :
    batchLens (o :: os) = o.batchLen?.toList ++ batchLens os := by
  cases o <;> rfl

namespace DeliveryAux

section
variable {cfg : HandlerConfig} {s t : Handler}

/-- One move with the transport open keeps the batches read, then the windows buffered, as they were, followed by the
window the move sends: ReadBatch takes the first buffered window, and only the peer appends one. -/
theorem step_sent (hs : s.stop ≠ .closed) {a : Action} (h : step cfg s a = some t) :
    s.reads.map Batch.len ++ batchLens s.inbox ++ batchLens a.sent?.toList =
      t.reads.map Batch.len ++ batchLens t.inbox := by
  cases a <;> simp only [step] at h <;> (repeat' split at h) <;> cases h <;>
    simp_all only [Handler.reads_mk, Handler.filterMap_read?, List.filterMap_append, List.filterMap_cons,
      List.filterMap_nil, Event.read?, Action.sent?, Option.toList_some, Option.toList_none, batchLens_nil,
      batchLens_cons, batchLens_append, Outcome.batchLen?, List.map_append, List.map_cons, List.map_nil,
      List.append_nil, List.nil_append, List.append_assoc, List.singleton_append, List.cons_append, ne_eq,
      not_true_eq_false]

/-- A closed transport stays closed. -/
theorem exec_closed {as : List Action} (hs : s.stop = .closed) (h : exec cfg s as = some t) : t.stop = .closed :=
  exec_invariant cfg (P := fun u => u.stop = .closed) (fun hu hst => by cases hst <;> simp_all) hs h

/-- A run that ends with the transport open keeps the batches read, then the windows buffered, as they were, followed
by the windows the peer sends. -/
theorem exec_sent : ∀ {as : List Action} {s t : Handler}, t.stop ≠ .closed → exec cfg s as = some t →
    s.reads.map Batch.len ++ batchLens s.inbox ++ batchLens (as.filterMap Action.sent?) =
      t.reads.map Batch.len ++ batchLens t.inbox
  | [], _, _, _, h => by cases h; simp
  | a :: as, s, t, ht, h => by
    obtain ⟨u, hsu, hut⟩ := Option.bind_eq_some.mp h
    have hs : s.stop ≠ .closed := fun hs =>
      ht (exec_closed (exec_closed hs (show exec cfg s [a] = some u by simp [exec, hsu])) hut)
    rw [← exec_sent ht hut, ← step_sent hs hsu, List.filterMap_cons]
    cases a.sent? <;> simp

end

end DeliveryAux

open DeliveryAux

/-- ReadBatch loses, repeats and reorders no window while the transport is open. Over every run from a new connection
that ends with the transport open:
1. the numbers of events of the batches ReadBatch returned, then of the windows still buffered, are those of the peer's
   non-empty windows, in the order sent;
2. the batches the consumer received, then those on the server's channel, are a prefix of them;
3. the batches are numbered `0, 1, 2, …` in the order read. -/
theorem reads_of_sent {cfg : HandlerConfig} {as : List Action} {s : Handler} (h : exec cfg Handler.init as = some s)
    (hs : s.stop ≠ .closed) :
    s.reads.map Batch.len ++ batchLens s.inbox = batchLens (as.filterMap Action.sent?) ∧
    (s.received ++ s.sink).map Batch.len <+: batchLens (as.filterMap Action.sent?) ∧
    s.reads.map Batch.id = List.range s.reads.length := by
  have hi := (show Reachable cfg s from ⟨as, h⟩).inv
  have hsent := exec_sent hs h
  simp only [Handler.init, Handler.reads_mk, List.filterMap_nil, List.map_nil, batchLens_nil, List.append_nil,
    List.nil_append] at hsent
  refine ⟨hsent.symm, ?_, hi.ids⟩
  rw [hsent]
  exact (hi.delivered.isPrefix_reads.map Batch.len).trans (List.prefix_append _ _)

namespace DeliveryWitness

/-- The server's channel as `NewWithListener` makes it, keep-alives off. -/
def cfg : HandlerConfig := ⟨0, 128⟩

/-- The peer sends windows of one event, none and two events; ReadBatch reads all three, and the first batch is handed
over and on the server's channel; then the peer sends a window of three events. -/
def windowsRun : List Action :=
  [.peerSend (.batch 1 (by decide)), .peerSend .empty, .peerSend (.batch 2 (by decide)), .readBatch, .handoff,
    .onEventsSend, .readBatch, .readBatch, .peerSend (.batch 3 (by decide))]

end DeliveryWitness

end Lumber
