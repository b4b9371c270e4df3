import Lumber.Handler

/-!
# What one move of the handler does

`Step cfg s s'` lists the moves of `step` one constructor each, with the guard as hypotheses and the state after as a
record update: the one inversion lemma (`Step.of_step`) that every invariant of the handler is proved from, by cases on
the move. Moves that change nothing the invariants read are grouped at the end.
-/

namespace Lumber

section
variable (cfg : HandlerConfig)

/-- The moves of the handler, by what they change. -/
inductive Step : Handler → Handler → Prop where
  | readBatch {s : Handler} {b : Batch} {rest : List Outcome} :
      s.read = .readBatch → s.inbox = .batch b.len b.len_pos :: rest → b.id = s.reads.length → s.stop ≠ .closed →
      Step s { s with read := .handoff b, inbox := rest, history := s.history ++ [.read b] }
  | readLate {s : Handler} {n : Nat} {hn : 0 < n} {rest : List Outcome} :
      s.read = .readBatch → s.inbox = .batch n hn :: rest → s.stop = .closed → Step s { s with read := .stop, inbox := rest }
  | readEmpty {s : Handler} {rest : List Outcome} :
      s.read = .readBatch → s.inbox = .empty :: rest → Step s { s with inbox := rest }
  | readError {s : Handler} {rest : List Outcome} :
      s.read = .readBatch → s.inbox = .error :: rest → Step s { s with read := .stop, inbox := rest }
  | readClosed {s : Handler} :
      s.read = .readBatch → s.inbox = [] → s.stop = .closed → Step s { s with read := .stop }
  | handoffSignal {s : Handler} {b : Batch} :
      s.read = .handoff b → s.stop ≠ .open → Step s { s with read := .stop }
  | handoff {s : Handler} {b : Batch} :
      s.read = .handoff b → s.ack = .select → s.stop = .open → Step s { s with read := .onEvents b, ack := .waitACK b }
  | handoffDrain {s : Handler} {b : Batch} :
      s.read = .handoff b → s.ack = .drain → Step s { s with read := .onEvents b }
  | onEventsDone {s : Handler} {b : Batch} :
      s.read = .onEvents b → s.done = true → Step s { s with read := .stop }
  | onEventsSend {s : Handler} {b : Batch} :
      s.read = .onEvents b → s.sink.length < cfg.sinkCap → Step s { s with read := .readBatch, sink := s.sink ++ [b] }
  | closeSignal {s : Handler} :
      s.stop = .open → Step s { s with stop := .signalled, history := s.history ++ [.closeSignal] }
  | closeClient {s : Handler} :
      s.stop = .signalled → Step s { s with stop := .closed, history := s.history ++ [.closeClient] }
  | stopDone {s : Handler} : s.read = .stop → s.stop = .closed → Step s { s with read := .closeCh }
  | closeCh {s : Handler} : s.read = .closeCh → Step s { s with read := .returned, chClosed := true }
  | ackLoopSignal {s : Handler} : s.ack = .select → s.stop ≠ .open → Step s { s with ack := .drain }
  | ackLoopClosed {s : Handler} : s.ack = .select → s.chClosed = true → Step s { s with ack := .drain }
  | waitSignal {s : Handler} {b : Batch} : s.ack = .waitACK b → s.stop ≠ .open → Step s { s with ack := .select }
  | waitAck {s : Handler} {b : Batch} :
      s.ack = .waitACK b → b ∈ s.acked → s.stop ≠ .closed →
      Step s { s with ack := .select, history := s.history ++ [.write (.ack b)] }
  | waitAckFail {s : Handler} {b : Batch} : s.ack = .waitACK b → b ∈ s.acked → Step s { s with ack := .drain }
  | keepalive {s : Handler} {b : Batch} :
      s.ack = .waitACK b → 0 < cfg.keepalive → s.stop ≠ .closed →
      Step s { s with history := s.history ++ [.write (.keepalive b)] }
  | keepaliveFail {s : Handler} {b : Batch} : s.ack = .waitACK b → 0 < cfg.keepalive → Step s { s with ack := .drain }
  | drainClosed {s : Handler} : s.ack = .drain → s.chClosed = true → Step s { s with ack := .returned }
  | acknowledge {s : Handler} {b : Batch} :
      b ∈ s.received → b ∉ s.acked → Step s { s with history := s.history ++ [.acknowledge b] }
  | receiveDirect {s : Handler} {b : Batch} :
      s.sink = [] → s.read = .onEvents b → cfg.sinkCap = 0 →
      Step s { s with read := .readBatch, received := s.received ++ [b] }
  | receive {s : Handler} {b : Batch} {rest : List Batch} :
      s.sink = b :: rest → Step s { s with sink := rest, received := s.received ++ [b] }
  /-- the moves that touch only the peer's windows and the server's stop signal -/
  | quiet {s : Handler} (inbox : List Outcome) (done : Bool) : Step s { s with inbox := inbox, done := done }

/-- Every move of `step` is a `Step`. -/
theorem Step.of_step {s s' : Handler} {a : Action} (h : step cfg s a = some s') : Step cfg s s' := by
  cases a with
  | readBatch =>
    simp only [step] at h
    split at h
    · split at h
      · cases h; exact .readLate ‹_› ‹_› ‹_›
      · cases h; exact .readBatch (b := ⟨_, _, _⟩) ‹_› ‹_› rfl ‹_›
    · cases h; exact .readEmpty ‹_› ‹_›
    · cases h; exact .readError ‹_› ‹_›
    · split at h
      · cases h; exact .readClosed ‹_› ‹_› ‹_›
      · cases h
    · cases h
  | handoffSignal =>
    simp only [step] at h
    split at h
    · split at h
      · cases h; exact .handoffSignal ‹_› ‹_›
      · cases h
    · cases h
  | handoff =>
    simp only [step] at h
    split at h
    · split at h
      · cases h; exact .handoff ‹_› ‹_› ‹_›
      · cases h
    · cases h; exact .handoffDrain ‹_› ‹_›
    · cases h
  | onEventsDone =>
    simp only [step] at h
    split at h
    · split at h
      · cases h; exact .onEventsDone ‹_› ‹_›
      · cases h
    · cases h
  | onEventsSend =>
    simp only [step] at h
    split at h
    · split at h
      · cases h; exact .onEventsSend ‹_› ‹_›
      · cases h
    · cases h
  | stop =>
    simp only [step] at h
    split at h
    · cases h; exact .closeSignal ‹_›
    · cases h; exact .closeClient ‹_›
    · cases h; exact .stopDone ‹_› ‹_›
    · cases h
  | closeCh =>
    simp only [step] at h
    split at h
    · cases h; exact .closeCh ‹_›
    · cases h
  | ackLoopSignal =>
    simp only [step] at h
    split at h
    · split at h
      · cases h; exact .ackLoopSignal ‹_› ‹_›
      · cases h
    · cases h
  | ackLoopClosed =>
    simp only [step] at h
    split at h
    · split at h
      · cases h; exact .ackLoopClosed ‹_› ‹_›
      · cases h
    · cases h
  | waitSignal =>
    simp only [step] at h
    split at h
    · split at h
      · cases h; exact .waitSignal ‹_› ‹_›
      · cases h
    · cases h
  | waitAwait ok =>
    simp only [step] at h
    split at h
    · rename_i b hack
      split at h
      · cases h
      rename_i hb
      split at h
      · split at h
        · cases h
        · cases h; exact .waitAck hack (not_not.mp hb) ‹_›
      · cases h; exact .waitAckFail hack (not_not.mp hb)
    · cases h
  | waitKeepalive ok =>
    simp only [step] at h
    split at h
    · rename_i b hack
      split at h
      · cases h
      rename_i hk
      split at h
      · split at h
        · cases h
        · cases h; exact .keepalive hack (not_le.mp hk) ‹_›
      · cases h; exact .keepaliveFail hack (not_le.mp hk)
    · cases h
  | drainClosed =>
    simp only [step] at h
    split at h
    · split at h
      · cases h; exact .drainClosed ‹_› ‹_›
      · cases h
    · cases h
  | peerSend o =>
    simp only [step] at h
    split at h
    · cases h
    · cases h; exact .quiet _ _
  | closeSignal =>
    simp only [step] at h
    split at h
    · cases h; exact .closeSignal ‹_›
    · cases h
  | closeClient =>
    simp only [step] at h
    split at h
    · cases h; exact .closeClient ‹_›
    · cases h
  | closeDone =>
    simp only [step] at h
    split at h
    · cases h
    · cases h; exact .quiet _ _
  | receive =>
    simp only [step] at h
    split at h
    · cases h; exact .receive ‹_›
    · split at h
      · cases h; exact .receiveDirect ‹_› ‹_› ‹_›
      · cases h
    · cases h
  | acknowledge b =>
    simp only [step] at h
    split at h
    · rename_i hb
      cases h; exact .acknowledge hb.1 hb.2
    · cases h

/-- A run of two parts is the first part, then the second from where it ended. -/
theorem exec_append (s : Handler) (as bs : List Action) :
    exec cfg s (as ++ bs) = (exec cfg s as).bind (exec cfg · bs) := by
  induction as generalizing s with
  | nil => rfl
  | cons a as ih => simp only [List.cons_append, exec, List.append_eq, ih, Option.bind_assoc]

/-- What every move keeps holds after every run. -/
theorem exec_invariant {P : Handler → Prop} (hP : ∀ {s s'}, P s → Step cfg s s' → P s') :
    ∀ {as : List Action} {s s' : Handler}, P s → exec cfg s as = some s' → P s'
  | [], _, _, hs, h => Option.some.inj h ▸ hs
  | _ :: _, _, _, hs, h => by
    obtain ⟨t, ht, h⟩ := Option.bind_eq_some.mp h
    exact exec_invariant hP (hP hs (.of_step cfg ht)) h

end

/-- A state a run reaches from a reachable state is reachable. -/
theorem Reachable.exec {cfg : HandlerConfig} {s s' : Handler} {as : List Action} (hs : Reachable cfg s)
    (h : exec cfg s as = some s') : Reachable cfg s' :=
  let ⟨bs, hbs⟩ := hs
  ⟨bs ++ as, by rw [exec_append, hbs]; exact h⟩

end Lumber
