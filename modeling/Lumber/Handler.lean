import Mathlib.Data.List.Basic
import Mathlib.Data.Int.Order.Basic
import Mathlib.Algebra.Group.Nat.Basic
import Mathlib.Algebra.Group.Int

/-!
# The connection handler

`server/internal/handler.go`: `defaultHandler.Run` starts the ACK task (`ackLoop`, which calls `waitACK` for each batch)
and runs the read task (`handle`) on one connection; `chanCallback.OnEvents` hands batches to the server's channel.
The two tasks, the `Stop` calls, the server's stop signal, the peer and the consumer are one state machine: `step` is
one move of one of them, and Go's `select` is a choice among the cases that are ready, one action each.

What each task waits on is a field: the read task's place in `handle` (`ReadPC`), the ACK task's place in `ackLoop`
(`AckPC`), how far `Stop` has got (`StopState`), whether `h.ch` and the server's stop signal are closed, the windows
the peer has sent that ReadBatch has not read (`inbox`), the server's channel (`sink`), and the batches the consumer
took from it. What the handler is observed to do is a history of events: the batches ReadBatch returned, the consumer's
acknowledgements, the frames written on the transport, and the two steps of `Stop`.

ReadBatch is the v2 reader of `Reader.lean`, seen here by what it returns for each window: a batch of at least one event,
`nil` for an empty window, or an error. Once the transport is closed the peer sends nothing more, and the windows the
reader had already buffered are still read: an empty one is still `nil`, but a non-empty one makes ReadBatch fail at the
second `SetReadDeadline`, which fails on a closed connection; after them ReadBatch fails. A write on the transport fails
once it is closed, and may fail before (a peer that went away).

`h.ch` is unbuffered, and the `select`s of `handle` and `ackLoop` both wait on `h.signal`: once the signal is closed, a
`select` parked on `h.ch` is woken by the close, and one entered later takes the signal, so the handoff to `ackLoop`'s
`select` is made only while the signal is open. The drain loop `for range h.ch` does not wait on the signal, and the
handoff to it is made whenever `handle`'s `select` picks it. The keep-alive timer may fire at any moment: real time is not modelled. Batches other
connections put on the server's channel are not modelled.
-/

namespace Lumber

/-- A batch as the handler sees it: the `id`-th batch ReadBatch returned on the connection, and its number of events,
which is at least one (an empty window makes no batch). -/
structure Batch where
  id : Nat
  len : Nat
  len_pos : 0 < len
  deriving DecidableEq, Repr

/-- What ReadBatch returns for the next window the peer sent. -/
inductive Outcome where
  /-- a batch of `len` events -/
  | batch (len : Nat) (len_pos : 0 < len)
  /-- `nil`: an empty window -/
  | empty
  /-- an error: a protocol error, a decoder's error, the transport's -/
  | error
  deriving DecidableEq, Repr

/-- A frame the ACK writer puts on the transport: `ACK(len(b.Events))` for the batch `b`, or `Keepalive(0)` while the
ACK task waits on `b` (the model records which batch, to say what the keep-alive was for). -/
inductive AckFrame where
  | ack (b : Batch)
  | keepalive (b : Batch)
  deriving DecidableEq, Repr

/-- The count a frame carries on the wire. -/
@[simp] def AckFrame.count : AckFrame → Nat
  | .ack b => b.len
  | .keepalive _ => 0

/-- The batch an ACK frame acknowledges; keep-alives acknowledge none. -/
@[simp] def AckFrame.acked? : AckFrame → Option Batch
  | .ack b => some b
  | .keepalive _ => none

/-- What the handler is observed to do. -/
inductive Event where
  /-- ReadBatch returned a batch -/
  | read (b : Batch)
  /-- the consumer acknowledged a batch -/
  | acknowledge (b : Batch)
  /-- the ACK writer wrote a frame on the transport -/
  | write (f : AckFrame)
  /-- `Stop` closed `h.signal` -/
  | closeSignal
  /-- `Stop` closed the transport, `h.client` -/
  | closeClient
  deriving DecidableEq, Repr

/-- The batch of a `read` event. -/
@[simp] def Event.read? : Event → Option Batch
  | .read b => some b
  | _ => none

/-- The batch of an `acknowledge` event. -/
@[simp] def Event.acknowledge? : Event → Option Batch
  | .acknowledge b => some b
  | _ => none

/-- The frame of a `write` event. -/
@[simp] def Event.write? : Event → Option AckFrame
  | .write f => some f
  | _ => none

/-- Where the read task is in `handle`. -/
inductive ReadPC where
  /-- calling `h.reader.ReadBatch()` -/
  | readBatch
  /-- in the `select` that hands `b` to the ACK task over `h.ch`, or sees `h.signal` closed -/
  | handoff (b : Batch)
  /-- in `chanCallback.OnEvents(b)`: the `select` that sends `b` on the server's channel, or sees its stop signal -/
  | onEvents (b : Batch)
  /-- in the deferred `h.Stop()` -/
  | stop
  /-- at the deferred `close(h.ch)` -/
  | closeCh
  /-- `handle` has returned -/
  | returned
  deriving DecidableEq, Repr

/-- Where the ACK task is. -/
inductive AckPC where
  /-- in the `select` of `ackLoop`: `h.signal` closed, or a batch (or the close) on `h.ch` -/
  | select
  /-- in `waitACK(b)`: `h.signal` closed, `b.Await()`, or the keep-alive timer -/
  | waitACK (b : Batch)
  /-- in the deferred `for range h.ch {}` that drains `h.ch` -/
  | drain
  /-- `ackLoop` has returned -/
  | returned
  deriving DecidableEq, Repr

/-- How far `Stop`'s guarded function has got: nothing closed, `h.signal` closed, or `h.signal` and the transport
closed. -/
inductive StopState where
  | open
  | signalled
  | closed
  deriving DecidableEq, Repr

/-- The handler's configuration: `h.keepalive` (a duration; only its sign matters here) and the capacity of the
server's channel (128 when the server makes it). -/
structure HandlerConfig where
  keepalive : Int
  sinkCap : Nat

/-- The state of one connection's handler and of what it talks to. -/
structure Handler where
  read : ReadPC
  ack : AckPC
  stop : StopState
  /-- `h.ch` closed -/
  chClosed : Bool
  /-- the server's stop signal, `chanCallback.done`, closed -/
  done : Bool
  /-- the windows the peer sent that ReadBatch has not read, by what ReadBatch makes of them -/
  inbox : List Outcome
  /-- the batches on the server's channel -/
  sink : List Batch
  /-- the batches the consumer took from the server's channel -/
  received : List Batch
  history : List Event
  deriving DecidableEq, Repr

namespace Handler

/-- The batches ReadBatch returned, in order. -/
def reads (s : Handler) : List Batch := s.history.filterMap Event.read?

/-- The batches the consumer acknowledged, in order. -/
def acked (s : Handler) : List Batch := s.history.filterMap Event.acknowledge?

/-- The frames written on the transport, in order. -/
def wire (s : Handler) : List AckFrame := s.history.filterMap Event.write?

/-- The batches the frames on the transport acknowledge, in order: one for each `ACK` frame, which has a non-zero
count. -/
def ackedOnWire (s : Handler) : List Batch := s.wire.filterMap AckFrame.acked?

/-- A new connection: `Run` has started both tasks; nothing is closed, nothing sent. -/
def init : Handler := ⟨.readBatch, .select, .open, false, false, [], [], [], []⟩

end Handler

/-- The moves of the handler's two tasks and of what they talk to. -/
inductive Action where
  /-- `h.reader.ReadBatch()` returns -/
  | readBatch
  /-- `handle`'s `select` takes `<-h.signal`, and `handle` returns -/
  | handoffSignal
  /-- `handle`'s `select` sends the batch on `h.ch`, to `ackLoop`'s `select` or to the drain loop -/
  | handoff
  /-- `OnEvents` takes `<-c.done` and returns `io.EOF`, and `handle` returns -/
  | onEventsDone
  /-- `OnEvents` sends the batch on the server's channel -/
  | onEventsSend
  /-- one step of the deferred `h.Stop()` -/
  | stop
  /-- the deferred `close(h.ch)` -/
  | closeCh
  /-- `ackLoop`'s `select` takes `<-h.signal`, and `ackLoop` returns -/
  | ackLoopSignal
  /-- `ackLoop`'s `select` finds `h.ch` closed, and `ackLoop` returns -/
  | ackLoopClosed
  /-- `waitACK`'s `select` takes `<-h.signal`, and `waitACK` returns `nil` -/
  | waitSignal
  /-- `waitACK`'s `select` takes `<-batch.Await()`; `h.writer.ACK(n)` succeeds (`true`) or fails -/
  | waitAwait (ok : Bool)
  /-- `waitACK`'s `select` takes the keep-alive timer; `h.writer.Keepalive(0)` succeeds (`true`) or fails -/
  | waitKeepalive (ok : Bool)
  /-- the drain loop finds `h.ch` closed, and the deferred function returns -/
  | drainClosed
  /-- the peer's next window reaches the reader -/
  | peerSend (o : Outcome)
  /-- a `Stop` call closes `h.signal` -/
  | closeSignal
  /-- the `Stop` call closes the transport -/
  | closeClient
  /-- the server closes its stop signal -/
  | closeDone
  /-- the consumer takes the next batch off the server's channel -/
  | receive
  /-- the consumer acknowledges a batch it took -/
  | acknowledge (b : Batch)
  deriving DecidableEq, Repr

/-- The moves of the read task and of the ACK task. -/
def Action.isTask : Action → Bool
  | .readBatch | .handoffSignal | .handoff | .onEventsDone | .onEventsSend | .stop | .closeCh
  | .ackLoopSignal | .ackLoopClosed | .waitSignal | .waitAwait _ | .waitKeepalive _ | .drainClosed => true
  | _ => false

/-- The moves of the consumer: taking a batch from the server's channel, acknowledging a batch it took. -/
def Action.isConsumer : Action → Bool
  | .receive | .acknowledge _ => true
  | _ => false

section
variable (cfg : HandlerConfig)

/-- One move, when it can be made. -/
def step (s : Handler) : Action → Option Handler
  | .readBatch =>
    match s.read, s.inbox with
    | .readBatch, .batch n hn :: rest =>
      if s.stop = .closed then some { s with read := .stop, inbox := rest }
      else
        let b : Batch := ⟨s.reads.length, n, hn⟩
        some { s with read := .handoff b, inbox := rest, history := s.history ++ [.read b] }
    | .readBatch, .empty :: rest => some { s with inbox := rest }
    | .readBatch, .error :: rest => some { s with read := .stop, inbox := rest }
    | .readBatch, [] => if s.stop = .closed then some { s with read := .stop } else none
    | _, _ => none
  | .handoffSignal =>
    match s.read with
    | .handoff _ => if s.stop ≠ .open then some { s with read := .stop } else none
    | _ => none
  | .handoff =>
    match s.read, s.ack with
    | .handoff b, .select => if s.stop = .open then some { s with read := .onEvents b, ack := .waitACK b } else none
    | .handoff b, .drain => some { s with read := .onEvents b }
    | _, _ => none
  | .onEventsDone =>
    match s.read with
    | .onEvents _ => if s.done then some { s with read := .stop } else none
    | _ => none
  | .onEventsSend =>
    match s.read with
    | .onEvents b => if s.sink.length < cfg.sinkCap then some { s with read := .readBatch, sink := s.sink ++ [b] } else none
    | _ => none
  | .stop =>
    match s.read, s.stop with
    | .stop, .open => some { s with stop := .signalled, history := s.history ++ [.closeSignal] }
    | .stop, .signalled => some { s with stop := .closed, history := s.history ++ [.closeClient] }
    | .stop, .closed => some { s with read := .closeCh }
    | _, _ => none
  | .closeCh =>
    match s.read with
    | .closeCh => some { s with read := .returned, chClosed := true }
    | _ => none
  | .ackLoopSignal =>
    match s.ack with
    | .select => if s.stop ≠ .open then some { s with ack := .drain } else none
    | _ => none
  | .ackLoopClosed =>
    match s.ack with
    | .select => if s.chClosed then some { s with ack := .drain } else none
    | _ => none
  | .waitSignal =>
    match s.ack with
    | .waitACK _ => if s.stop ≠ .open then some { s with ack := .select } else none
    | _ => none
  | .waitAwait ok =>
    match s.ack with
    | .waitACK b =>
      if b ∉ s.acked then none
      else if ok then
        if s.stop = .closed then none else some { s with ack := .select, history := s.history ++ [.write (.ack b)] }
      else some { s with ack := .drain }
    | _ => none
  | .waitKeepalive ok =>
    match s.ack with
    | .waitACK b =>
      if cfg.keepalive ≤ 0 then none
      else if ok then
        if s.stop = .closed then none else some { s with history := s.history ++ [.write (.keepalive b)] }
      else some { s with ack := .drain }
    | _ => none
  | .drainClosed =>
    match s.ack with
    | .drain => if s.chClosed then some { s with ack := .returned } else none
    | _ => none
  | .peerSend o => if s.stop = .closed then none else some { s with inbox := s.inbox ++ [o] }
  | .closeSignal =>
    if s.stop = .open then some { s with stop := .signalled, history := s.history ++ [.closeSignal] } else none
  | .closeClient =>
    if s.stop = .signalled then some { s with stop := .closed, history := s.history ++ [.closeClient] } else none
  | .closeDone => if s.done then none else some { s with done := true }
  | .receive =>
    match s.sink, s.read with
    | b :: rest, _ => some { s with sink := rest, received := s.received ++ [b] }
    | [], .onEvents b => if cfg.sinkCap = 0 then some { s with read := .readBatch, received := s.received ++ [b] } else none
    | [], _ => none
  | .acknowledge b =>
    if b ∈ s.received ∧ b ∉ s.acked then some { s with history := s.history ++ [.acknowledge b] } else none

/-- A run: the moves in order, as long as each can be made. -/
def exec : Handler → List Action → Option Handler
  | s, [] => some s
  | s, a :: as => (step cfg s a).bind (exec · as)

/-- A state some run reaches from a new connection. -/
def Reachable (s : Handler) : Prop := ∃ as, exec cfg Handler.init as = some s

end

end Lumber
