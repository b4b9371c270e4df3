import Lumber.Handler

/-!
# The internal server

`internal.Server` accepts connections on its listener and starts a handler for each (`run`, `startConnHandler`). All the
handlers send their batches on the one channel `s.ch`, through `chanCallback.OnEvents`, where the consumer takes them
(`Receive`), and all watch the one stop signal `s.sig`. The server's state is the handlers of the connections accepted,
in order, the connection each batch on `s.ch` came from, in channel order, whether `run` still accepts, and whether
`Close` has closed the listener and `s.sig`.

A move is a move of one connection's handler, of its peer or of a `Stop` call on it (an `Action` that touches nothing
shared), `OnEvents` of one connection sending on `s.ch`, `Receive` taking the first batch on `s.ch`, an `Accept` that
returns or fails, or a step of `Close`. `Close`'s `close(s.ch)` is left out: it comes after `s.sig.Close()`, whose
code is not in the source.
-/

namespace Lumber

/-- The moves of a handler that touch what the connections share, `s.ch` and `s.sig`: the server makes them. -/
def Action.isShared : Action → Bool
  | .onEventsSend | .receive | .closeDone => true
  | _ => false

namespace Internal

/-- The state of an `internal.Server`. -/
structure Server where
  /-- the handlers of the connections accepted, in the order `Accept` returned them -/
  conns : List Handler
  /-- `s.ch`: the connection each batch on it came from, in channel order -/
  chan : List Nat
  /-- `run`'s loop still calls `Accept` -/
  accepting : Bool
  /-- `Close` has closed the listener -/
  listenerClosed : Bool
  /-- `Close` has closed `s.sig` -/
  sigClosed : Bool
  deriving DecidableEq, Repr

/-- `NewWithListener`: `run` accepting, no connection, nothing on `s.ch`, nothing closed. -/
def Server.init : Server := ⟨[], [], true, false, false⟩

/-- The moves of the server, of its connections' handlers and peers, and of the consumer. -/
inductive ServerAction where
  /-- `s.listener.Accept()` returns a connection, and `startConnHandler` starts its handler -/
  | accept
  /-- `s.listener.Accept()` fails, and `run`'s loop ends -/
  | acceptFail
  /-- a move of connection `i`'s handler, of its peer or of a `Stop` call on it -/
  | conn (i : Nat) (a : Action)
  /-- `OnEvents` of connection `i` sends its batch on `s.ch` -/
  | send (i : Nat)
  /-- `Receive` takes the first batch on `s.ch`, which connection `i` sent, or, on a channel of no capacity, the batch
  connection `i`'s `OnEvents` is sending -/
  | receive (i : Nat)
  /-- `Close` closes the listener -/
  | closeListener
  /-- `Close` closes `s.sig` -/
  | closeSig
  deriving DecidableEq, Repr

section
variable (cfg : HandlerConfig)

/-- Connection `i`'s handler after the move `a`, put back in its place among the others; `none` when there is no
connection `i` or the move cannot be made. -/
def Server.update (S : Server) (i : Nat) (a : Action) : Option (List Handler) :=
  match S.conns[i]? with
  | some c => (step cfg c a).map (S.conns.set i)
  | none => none

/-- One move of the server, when it can be made. After `Close` has closed the listener, the one `Accept` that had
returned can still start its handler, and `run`'s next `Accept` fails; a handler started after `s.sig` closed finds it
closed. -/
def Server.step (S : Server) : ServerAction → Option Server
  | .accept =>
    let c : Handler := { Handler.init with done := S.sigClosed }
    if S.accepting then some { S with conns := S.conns ++ [c], accepting := !S.listenerClosed } else none
  | .acceptFail => if S.accepting then some { S with accepting := false } else none
  | .conn i a => if a.isShared then none else (S.update cfg i a).map fun cs => { S with conns := cs }
  | .send i =>
    if S.chan.length < cfg.sinkCap then
      (S.update cfg i .onEventsSend).map fun cs => { S with conns := cs, chan := S.chan ++ [i] }
    else none
  | .receive i =>
    match S.chan with
    | j :: rest => if j = i then (S.update cfg i .receive).map fun cs => { S with conns := cs, chan := rest } else none
    | [] => (S.update cfg i .receive).map fun cs => { S with conns := cs }
  | .closeListener => if S.listenerClosed then none else some { S with listenerClosed := true }
  | .closeSig =>
    if S.listenerClosed ∧ !S.sigClosed then
      some { S with sigClosed := true, conns := S.conns.map fun c => { c with done := true } }
    else none

/-- A run of the server: the moves in order, as long as each can be made. -/
def Server.exec : Server → List ServerAction → Option Server
  | S, [] => some S
  | S, a :: as => (S.step cfg a).bind (Server.exec · as)

/-- A state some run of the server reaches from `NewWithListener`. -/
def Server.Reachable (S : Server) : Prop := ∃ as, Server.exec cfg Server.init as = some S

end

end Internal

end Lumber
