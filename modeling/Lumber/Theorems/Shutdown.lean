import Lumber.Theorems.Ack

/-!
# Shutdown

Once the server's stop signal, the handler's signal and the transport are closed, every blocking point of the two tasks
has a case that is ready: ReadBatch fails at the first non-empty window the reader buffered, or once they are read, the
handoff and `OnEvents` see a closed signal, `waitACK` sees `h.signal`, and the drain loop ends once `handle` has closed `h.ch`
(`ShutdownAux.task_enabled`). No move of either task undoes that, and each lowers `shutdownMeasure`: the windows still
buffered, weighted by the moves the read task makes for each, and how far each task is from returning
(`ShutdownAux.task_step`). So the two tasks alone run for a bounded number of moves, end only when both have returned,
and can always get there (`shutdown_cannot_deadlock`).

Here, as everywhere in the handler's model, ReadBatch is seen by what it returns: every call is taken to return. The
reader itself need not (`readBatch_zlib_quine_diverges`), and a read task stuck in ReadBatch does not return; the
results below hold for runs whose ReadBatch calls return, which `readBatch_terminates_of_bounded_nesting` gives when
compressed frames nest boundedly.
-/

namespace Lumber

/-- How far the read task is from returning, along its longest path: `ReadBatch` reaches the handoff and `OnEvents` only
by reading a window. -/
def ReadPC.rank : ReadPC → Nat
  | .returned => 0
  | .closeCh => 1
  | .stop => 2
  | .readBatch => 3
  | .onEvents _ => 4
  | .handoff _ => 5

/-- How far the ACK task is from returning, along its longest path: `waitACK` is entered only with a batch handed over. -/
def AckPC.rank : AckPC → Nat
  | .returned => 0
  | .drain => 1
  | .select => 2
  | .waitACK _ => 3

/-- A bound on the moves the two tasks have left once the transport is closed. Each buffered window costs a read, a
handoff and an `OnEvents`; the ACK task's `select` and `waitACK` are paid for by the handoff that feeds them. -/
def shutdownMeasure (s : Handler) : Nat := 4 * (3 * s.inbox.length + s.read.rank) + s.ack.rank

namespace ShutdownAux

section
variable {cfg : HandlerConfig} {s s' : Handler}

/-- A move of either task, once the transport is closed, lowers the measure and leaves the signals as they are. -/
theorem task_step {a : Action} (hs : s.stop = .closed) (ha : a.isTask = true) (h : step cfg s a = some s') :
    shutdownMeasure s' < shutdownMeasure s ∧ s'.stop = .closed ∧ s'.done = s.done := by
  cases a <;> simp only [Action.isTask, Bool.false_eq_true] at ha <;> simp only [step, hs] at h <;>
    (repeat' split at h) <;> cases h <;>
    simp_all only [shutdownMeasure, ReadPC.rank, AckPC.rank, List.length_cons, ne_eq, and_true, reduceCtorEq,
      not_false_eq_true, and_self] <;> omega

/-- With the three signals closed, one of the tasks can move until both have returned. -/
theorem task_enabled (hi : Inv cfg s) (hd : s.done = true) (hs : s.stop = .closed)
    (hne : ¬ (s.read = .returned ∧ s.ack = .returned)) : ∃ a, a.isTask = true ∧ step cfg s a ≠ none := by
  match hr : s.read with
  | .readBatch =>
    refine ⟨.readBatch, rfl, ?_⟩
    cases hib : s.inbox with
    | nil => simp [step, hr, hib, hs]
    | cons o _ => cases o <;> simp [step, hr, hib, hs]
  | .handoff _ => exact ⟨.handoffSignal, rfl, by simp [step, hr, hs]⟩
  | .onEvents _ => exact ⟨.onEventsDone, rfl, by simp [step, hr, hd]⟩
  | .stop => exact ⟨.stop, rfl, by simp [step, hr, hs]⟩
  | .closeCh => exact ⟨.closeCh, rfl, by simp [step, hr]⟩
  | .returned =>
    match ha : s.ack with
    | .select => exact ⟨.ackLoopSignal, rfl, by simp [step, ha, hs]⟩
    | .waitACK _ => exact ⟨.waitSignal, rfl, by simp [step, ha, hs]⟩
    | .drain => exact ⟨.drainClosed, rfl, by simp [step, ha, hi.chClosed_iff.mpr hr]⟩
    | .returned => exact absurd ⟨hr, ha⟩ hne

/-- A run of the tasks alone, once the transport is closed, is no longer than the measure, and leaves the signals as
they are. -/
theorem task_run : ∀ {as : List Action} {s s' : Handler}, s.stop = .closed → (∀ a ∈ as, a.isTask = true) →
    exec cfg s as = some s' → as.length + shutdownMeasure s' ≤ shutdownMeasure s ∧ s'.stop = .closed ∧ s'.done = s.done
  | [], _, _, hs, _, h => by cases h; exact ⟨by simp, hs, rfl⟩
  | a :: as, s, s', hs, ht, h => by
    obtain ⟨t, hst, h⟩ := Option.bind_eq_some.mp h
    obtain ⟨hlt, hts, htd⟩ := task_step hs (ht a (List.mem_cons_self a as)) hst
    obtain ⟨hle, hs', hd'⟩ := task_run hts (fun b hb => ht b (List.mem_cons_of_mem a hb)) h
    exact ⟨by simp only [List.length_cons]; omega, hs', hd'.trans htd⟩

/-- From a reachable state with the three signals closed, some run of the tasks alone ends with both returned. -/
theorem complete_run : ∀ (n : Nat) {s : Handler}, shutdownMeasure s ≤ n → Reachable cfg s → s.done = true →
    s.stop = .closed → ∃ as s', (∀ a ∈ as, a.isTask = true) ∧ exec cfg s as = some s' ∧
      s'.read = .returned ∧ s'.ack = .returned := by
  intro n
  induction n with
  | zero =>
    intro s hn hr hd hs
    by_cases hret : s.read = .returned ∧ s.ack = .returned
    · exact ⟨[], s, by simp, rfl, hret⟩
    · obtain ⟨a, ha, hstep⟩ := task_enabled hr.inv hd hs hret
      obtain ⟨t, ht⟩ := Option.ne_none_iff_exists'.mp hstep
      have := (task_step hs ha ht).1
      omega
  | succ n ih =>
    intro s hn hr hd hs
    by_cases hret : s.read = .returned ∧ s.ack = .returned
    · exact ⟨[], s, by simp, rfl, hret⟩
    · obtain ⟨a, ha, hstep⟩ := task_enabled hr.inv hd hs hret
      obtain ⟨t, ht⟩ := Option.ne_none_iff_exists'.mp hstep
      obtain ⟨hlt, hts, htd⟩ := task_step hs ha ht
      obtain ⟨as, s', has, hexec, hfin⟩ :=
        ih (by omega) (hr.exec (show exec cfg s [a] = some t by simp [exec, ht])) (htd.trans hd) hts
      refine ⟨a :: as, s', ?_, by simp [exec, ht, hexec], hfin⟩
      simpa [ha] using has

end

end ShutdownAux

open ShutdownAux

section
variable {cfg : HandlerConfig} {s : Handler}

/-- Once the server's stop signal, the handler's signal and the transport are closed, the read task and the ACK task
alone cannot deadlock, when every ReadBatch call returns, as the model's ReadBatch does. Every run of theirs is at most `shutdownMeasure s` moves long; a run after which neither can move
ends with `handle` returned after closing `h.ch`, and `ackLoop` returned; and some run ends there. -/
theorem shutdown_cannot_deadlock (hr : Reachable cfg s) (hd : s.done = true) (hs : s.stop = .closed) :
    (∀ as s', (∀ a ∈ as, a.isTask = true) → exec cfg s as = some s' → as.length ≤ shutdownMeasure s) ∧
    (∀ as s', (∀ a ∈ as, a.isTask = true) → exec cfg s as = some s' → (∀ a, a.isTask = true → step cfg s' a = none) →
      s'.read = .returned ∧ s'.chClosed = true ∧ s'.ack = .returned) ∧
    ∃ as s', (∀ a ∈ as, a.isTask = true) ∧ exec cfg s as = some s' ∧ s'.read = .returned ∧ s'.ack = .returned := by
  refine ⟨fun as s' ht h => by have := (task_run hs ht h).1; omega, fun as s' ht h hstuck => ?_,
    complete_run _ le_rfl hr hd hs⟩
  obtain ⟨-, hs', hd'⟩ := task_run hs ht h
  have hi := (hr.exec h).inv
  by_contra hne
  have hret : ¬ (s'.read = .returned ∧ s'.ack = .returned) := fun ⟨h1, h2⟩ =>
    hne ⟨h1, hi.chClosed_iff.mpr h1, h2⟩
  obtain ⟨a, ha, hstep⟩ := task_enabled hi (hd'.trans hd) hs' hret
  exact hstep (hstuck a ha)

/-- `ackLoop` returns only after `handle` has returned, and `handle` returns only after it has closed `h.ch` and `Stop`
has closed the signal and the transport. -/
theorem shutdown_order (hr : Reachable cfg s) :
    (s.ack = .returned → s.read = .returned) ∧ (s.read = .returned → s.chClosed = true ∧ s.stop = .closed) :=
  have hi := hr.inv
  ⟨fun h => hi.chClosed_iff.mp (hi.ack_returned h), fun h => ⟨hi.chClosed_iff.mpr h, hi.stopped_closed (.inr h)⟩⟩

end

namespace ShutdownWitness

/-- Two windows sent; the first is read and handed over, so `waitACK` holds its batch and `OnEvents` is about to send it;
then the server closes its stop signal and a `Stop` call closes the signal and the transport. The second window is still
buffered in the reader. -/
def closedRun : List Action :=
  [.peerSend (.batch 1 (by decide)), .peerSend (.batch 2 (by decide)), .readBatch, .handoff, .closeDone, .closeSignal,
    .closeClient]

/-- A connection the server shuts down before any window: both tasks return. -/
def shutdownRun : List Action :=
  [.closeDone, .closeSignal, .closeClient, .readBatch, .stop, .closeCh, .ackLoopSignal, .drainClosed]

end ShutdownWitness

open ShutdownWitness

/-- Shutdown with a batch in `waitACK`, one in `OnEvents` and a window still buffered. -/
theorem shutdown_cannot_deadlock_in_flight :
    ∃ s, exec AckWitness.cfg Handler.init closedRun = some s ∧ (s.done = true ∧ s.stop = .closed) ∧
      ((∀ as s', (∀ a ∈ as, a.isTask = true) → exec AckWitness.cfg s as = some s' → as.length ≤ shutdownMeasure s) ∧
      (∀ as s', (∀ a ∈ as, a.isTask = true) → exec AckWitness.cfg s as = some s' →
        (∀ a, a.isTask = true → step AckWitness.cfg s' a = none) →
        s'.read = .returned ∧ s'.chClosed = true ∧ s'.ack = .returned) ∧
      ∃ as s', (∀ a ∈ as, a.isTask = true) ∧ exec AckWitness.cfg s as = some s' ∧ s'.read = .returned ∧
        s'.ack = .returned) :=
  ⟨_, rfl, ⟨rfl, rfl⟩, @shutdown_cannot_deadlock AckWitness.cfg _ ⟨closedRun, rfl⟩ rfl rfl⟩

/-- Both tasks returned, in order. -/
theorem shutdown_order_returned :
    ∃ s, exec AckWitness.cfg Handler.init shutdownRun = some s ∧ s.ack = .returned ∧
      ((s.ack = .returned → s.read = .returned) ∧ (s.read = .returned → s.chClosed = true ∧ s.stop = .closed)) :=
  ⟨_, rfl, rfl, @shutdown_order AckWitness.cfg _ ⟨shutdownRun, rfl⟩⟩

end Lumber
