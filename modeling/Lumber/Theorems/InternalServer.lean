import Lumber.InternalServer
import Lumber.Lemmas.HandlerInv

/-!
# Many connections on one server

Every move of `internal.Server` is a move of one connection's handler in its own model, or, when `Close` closes
`s.sig`, the same move `closeDone` of every handler; `Accept` starts a handler in the state `Run` starts it in. So in
every state the server reaches, each connection's handler is in a state its own model reaches, with the server's
channel capacity (`server_conns_reachable`): every result about one connection holds of each connection of a server
with any number of connections interleaving on `s.ch`. For instance the consumer takes each connection's batches in the
order that connection read them, none lost or repeated, and each connection's `ACK`s follow its reads
(`server_conn_order`).

The shared channel holds exactly the batches the connections' `OnEvents` have sent and the consumer has not taken, as
many of each connection as its handler has on it, and never more than its capacity (`server_chan_counts`). This is what
makes each handler's own check on its batches a consequence of the check on `s.ch`.
-/

namespace Lumber

open scoped List

namespace Internal

/-- How many batches connection `i`'s handler has on `s.ch`; none for a connection that does not exist. -/
def Server.sinkLen (S : Server) (i : Nat) : Nat := (S.conns[i]?.map fun c => c.sink.length).getD 0

/-- What every state of the server reaches satisfies. -/
structure Server.Inv (cfg : HandlerConfig) (S : Server) : Prop where
  /-- each connection's handler is in a state its own model reaches -/
  conns : ∀ c ∈ S.conns, Lumber.Reachable cfg c
  /-- each handler sees `s.sig` as it is -/
  done : ∀ c ∈ S.conns, c.done = S.sigClosed
  /-- `s.ch` holds as many batches of each connection as its handler has on it -/
  chan : ∀ i, S.chan.count i = S.sinkLen i
  /-- and no more than its capacity -/
  cap : S.chan.length ≤ cfg.sinkCap

namespace InternalServerAux

section
variable {cfg : HandlerConfig} {S : Server} {c c' : Handler}

/-- A move of one connection: its handler before and after, put back in its place. -/
theorem update_eq_some {i : Nat} {a : Action} {cs : List Handler} (h : S.update cfg i a = some cs) :
    ∃ c c', S.conns[i]? = some c ∧ step cfg c a = some c' ∧ cs = S.conns.set i c' := by
  unfold Server.update at h
  split at h
  · obtain ⟨c', hc', rfl⟩ := Option.map_eq_some'.mp h
    exact ⟨_, c', ‹_›, hc', rfl⟩
  · cases h

/-- A move of the server made by one connection's handler. -/
theorem map_update_eq_some {S' : Server} {i : Nat} {a : Action} {f : List Handler → Server}
    (h : (S.update cfg i a).map f = some S') :
    ∃ c c', S.conns[i]? = some c ∧ step cfg c a = some c' ∧ S' = f (S.conns.set i c') := by
  obtain ⟨cs, hu, rfl⟩ := Option.map_eq_some'.mp h
  obtain ⟨c, c', hc, hs, rfl⟩ := update_eq_some hu
  exact ⟨c, c', hc, hs, rfl⟩

/-- A move that touches nothing shared keeps the handler's batches on `s.ch` and its view of `s.sig`. -/
theorem step_unshared {a : Action} (ha : a.isShared = false) (h : step cfg c a = some c') :
    c'.sink = c.sink ∧ c'.done = c.done := by
  cases a <;> simp only [Action.isShared, reduceCtorEq] at ha <;> simp only [step] at h <;> (repeat' split at h) <;>
    cases h <;> exact ⟨rfl, rfl⟩

/-- `OnEvents` sending on `s.ch` adds one batch there. -/
theorem step_onEventsSend (h : step cfg c .onEventsSend = some c') :
    ∃ b, c'.sink = c.sink ++ [b] ∧ c'.done = c.done := by
  simp only [step] at h
  split at h
  · split at h
    · cases h; exact ⟨_, rfl, rfl⟩
    · cases h
  · cases h

/-- `Receive` takes the first of the handler's batches on `s.ch`, or, when it has none there, one from `OnEvents`. -/
theorem step_receive (h : step cfg c .receive = some c') :
    c'.done = c.done ∧ ((∃ b, c.sink = b :: c'.sink) ∨ c.sink = [] ∧ c'.sink = []) := by
  simp only [step] at h
  split at h
  · cases h; exact ⟨rfl, .inl ⟨_, ‹c.sink = _ :: _›⟩⟩
  · split at h
    · cases h; exact ⟨rfl, .inr ⟨‹c.sink = []›, ‹c.sink = []›⟩⟩
    · cases h
  · cases h

/-- A handler `startConnHandler` starts: in `Run`'s state, seeing `s.sig` closed if it is. -/
theorem reachable_started (d : Bool) : Reachable cfg { Handler.init with done := d } := by
  cases d
  · exact ⟨[], rfl⟩
  · exact ⟨[.closeDone], rfl⟩

theorem sinkLen_set {i j : Nat} (hc : S.conns[i]? = some c) (c' : Handler) :
    ({ S with conns := S.conns.set i c' } : Server).sinkLen j = if i = j then c'.sink.length else S.sinkLen j := by
  have hi : i < S.conns.length := (List.getElem?_eq_some_iff.mp hc).1
  unfold Server.sinkLen
  rw [List.getElem?_set]
  split_ifs <;> simp [hi]

theorem sinkLen_of_get {i : Nat} (hc : S.conns[i]? = some c) : S.sinkLen i = c.sink.length := by
  simp [Server.sinkLen, hc]

theorem mem_of_get {i : Nat} (hc : S.conns[i]? = some c) : c ∈ S.conns :=
  List.mem_iff_getElem?.mpr ⟨i, hc⟩

/-- The handlers after a move of connection `i` are the others, and the one moved. -/
theorem mem_set {i : Nat} {c'' : Handler} (h : c'' ∈ S.conns.set i c') : c'' ∈ S.conns ∨ c'' = c' :=
  List.mem_or_eq_of_mem_set h

end

end InternalServerAux

open InternalServerAux

section
variable {cfg : HandlerConfig} {S S' : Server} {c c' : Handler}

/-- One move of connection `i`'s handler keeps the invariant when it keeps what `s.ch` holds of it, or changes both
alike. -/
theorem Server.Inv.update (hi : S.Inv cfg) {i : Nat} {a : Action} (hc : S.conns[i]? = some c)
    (hs : Lumber.step cfg c a = some c') (hd : c'.done = c.done) {chan : List Nat}
    (hchan : ∀ j, chan.count j = if i = j then c'.sink.length else S.sinkLen j)
    (hcap : chan.length ≤ cfg.sinkCap) : ({ S with conns := S.conns.set i c', chan := chan } : Server).Inv cfg where
  conns c'' h := (mem_set h).elim (hi.conns c'') fun h => h ▸ (hi.conns c (mem_of_get hc)).exec
    (show Lumber.exec cfg c [a] = some c' by simp [Lumber.exec, hs])
  done c'' h := (mem_set h).elim (hi.done c'') fun h => h ▸ hd.trans (hi.done c (mem_of_get hc))
  chan j := (hchan j).trans (sinkLen_set hc c').symm
  cap := hcap

/-- A new server satisfies the invariant. -/
theorem Server.Inv.init : Server.init.Inv cfg where
  conns _ h := by cases h
  done _ h := by cases h
  chan _ := rfl
  cap := Nat.zero_le _

/-- `Accept` keeps the invariant: the new handler has nothing on `s.ch`. -/
theorem Server.Inv.accept (hi : S.Inv cfg) (h : S.step cfg .accept = some S') : S'.Inv cfg := by
  simp only [Server.step] at h
  split at h
  · cases h
    refine ⟨fun c hc => ?_, fun c hc => ?_, fun j => ?_, hi.cap⟩
    · rcases List.mem_append.mp hc with hc | hc
      · exact hi.conns c hc
      · exact List.mem_singleton.mp hc ▸ reachable_started _
    · rcases List.mem_append.mp hc with hc | hc
      · exact hi.done c hc
      · rw [List.mem_singleton.mp hc]
    · rw [hi.chan j]
      unfold Server.sinkLen
      rcases Nat.lt_or_ge j S.conns.length with hj | hj
      · rw [List.getElem?_append_left hj]
      · rw [List.getElem?_eq_none hj, List.getElem?_append_right hj]
        cases j - S.conns.length <;> rfl
  · cases h

/-- A move of one connection that touches nothing shared keeps the invariant. -/
theorem Server.Inv.conn (hi : S.Inv cfg) {i : Nat} {a : Action} (h : S.step cfg (.conn i a) = some S') :
    S'.Inv cfg := by
  simp only [Server.step] at h
  split at h
  · cases h
  next hsh =>
    obtain ⟨c, c', hc, hs, rfl⟩ := map_update_eq_some h
    obtain ⟨hsink, hd⟩ := step_unshared (Bool.eq_false_iff.mpr hsh) hs
    refine hi.update hc hs hd (fun j => ?_) hi.cap
    split_ifs with hij
    · rw [← hij, hi.chan i, sinkLen_of_get hc, hsink]
    · exact hi.chan j

/-- `OnEvents` sending keeps the invariant: its batch goes on `s.ch`, which has room for it. -/
theorem Server.Inv.send (hi : S.Inv cfg) {i : Nat} (h : S.step cfg (.send i) = some S') : S'.Inv cfg := by
  simp only [Server.step] at h
  split at h
  next hlt =>
    obtain ⟨c, c', hc, hs, rfl⟩ := map_update_eq_some h
    obtain ⟨b, hsink, hd⟩ := step_onEventsSend hs
    refine hi.update hc hs hd (fun j => ?_) (by rw [List.length_append, List.length_singleton]; exact hlt)
    rw [List.count_append, List.count_singleton, hi.chan j]
    by_cases hij : i = j
    · subst hij
      rw [if_pos (beq_self_eq_true i), if_pos rfl, sinkLen_of_get hc, hsink, List.length_append,
        List.length_singleton]
    · rw [if_neg (by simpa using hij), if_neg hij, Nat.add_zero]
  · cases h

/-- `Receive` keeps the invariant: the first batch on `s.ch` is the first its connection has there, and on `s.ch`
empty it takes a batch from `OnEvents` directly. -/
theorem Server.Inv.receive (hi : S.Inv cfg) {i : Nat} (h : S.step cfg (.receive i) = some S') : S'.Inv cfg := by
  simp only [Server.step] at h
  split at h
  next j rest hchan =>
    split at h
    next hj =>
      subst hj
      obtain ⟨c, c', hc, hs, rfl⟩ := map_update_eq_some h
      have hcount := hi.chan j
      rw [hchan, List.count_cons, sinkLen_of_get hc, beq_self_eq_true, if_pos rfl] at hcount
      obtain ⟨hd, ⟨b, hsink⟩ | ⟨hsink, -⟩⟩ := step_receive hs
      · refine hi.update hc hs hd (fun k => ?_) (by have := hi.cap; rw [hchan, List.length_cons] at this; omega)
        by_cases hjk : j = k
        · subst hjk
          rw [hsink, List.length_cons] at hcount
          rw [if_pos rfl]
          omega
        · have hk := hi.chan k
          rw [hchan, List.count_cons, if_neg (by simpa using hjk), Nat.add_zero] at hk
          rw [if_neg hjk, hk]
      · rw [hsink, List.length_nil] at hcount
        omega
    · cases h
  next hchan =>
    obtain ⟨c, c', hc, hs, rfl⟩ := map_update_eq_some h
    have hcount := hi.chan i
    rw [hchan, List.count_nil, sinkLen_of_get hc] at hcount
    obtain ⟨hd, ⟨b, hsink⟩ | ⟨-, hsink'⟩⟩ := step_receive hs
    · rw [hsink, List.length_cons] at hcount
      omega
    · refine hi.update hc hs hd (fun k => ?_) hi.cap
      split_ifs with hik
      · rw [hchan, List.count_nil, hsink', List.length_nil]
      · exact hi.chan k

/-- `Close` closing `s.sig` keeps the invariant: every handler makes its move `closeDone`. -/
theorem Server.Inv.closeSig (hi : S.Inv cfg) (h : S.step cfg .closeSig = some S') : S'.Inv cfg := by
  simp only [Server.step] at h
  split at h
  · cases h
    rename_i hs
    have hopen : S.sigClosed = false := by simpa using hs.2
    refine ⟨fun c hc => ?_, fun c hc => ?_, fun j => ?_, hi.cap⟩
    · obtain ⟨c₀, hc₀, rfl⟩ := List.mem_map.mp hc
      exact (hi.conns c₀ hc₀).exec (show Lumber.exec cfg c₀ [.closeDone] = some { c₀ with done := true } by
        simp [Lumber.exec, Lumber.step, hi.done c₀ hc₀, hopen])
    · obtain ⟨c₀, -, rfl⟩ := List.mem_map.mp hc
      rfl
    · rw [hi.chan j]
      simp only [Server.sinkLen, List.getElem?_map, Option.map_map]
      rfl
  · cases h

/-- Every move of the server keeps the invariant. -/
theorem Server.Inv.step (hi : S.Inv cfg) {a : ServerAction} (h : S.step cfg a = some S') : S'.Inv cfg := by
  cases a with
  | accept => exact hi.accept h
  | conn i a => exact hi.conn h
  | send i => exact hi.send h
  | receive i => exact hi.receive h
  | closeSig => exact hi.closeSig h
  | acceptFail | closeListener =>
    simp only [Server.step] at h
    split at h <;> cases h
    exact ⟨hi.conns, hi.done, hi.chan, hi.cap⟩

/-- What every move keeps holds after every run of the server. -/
theorem Server.exec_invariant {P : Server → Prop}
    (hP : ∀ {S S'} {a : ServerAction}, P S → S.step cfg a = some S' → P S') :
    ∀ {as : List ServerAction} {S S' : Server}, P S → Server.exec cfg S as = some S' → P S'
  | [], _, _, hS, h => Option.some.inj h ▸ hS
  | _ :: _, _, _, hS, h => by
    obtain ⟨T, hT, h⟩ := Option.bind_eq_some.mp h
    exact Server.exec_invariant hP (hP hS hT) h

/-- The invariant holds in every state the server reaches. -/
theorem Server.Reachable.inv (hr : S.Reachable cfg) : S.Inv cfg :=
  let ⟨_, h⟩ := hr
  Server.exec_invariant (fun hi hs => Server.Inv.step hi hs) Server.Inv.init h

/-- The shared channel. In every state a server reaches, `s.ch` holds as many batches of each connection as that
connection's handler has on it (none of a connection that does not exist), and never more than its capacity. -/
theorem server_chan_counts (hr : S.Reachable cfg) :
    (∀ i, S.chan.count i = (S.conns[i]?.map fun c => c.sink.length).getD 0) ∧ S.chan.length ≤ cfg.sinkCap :=
  ⟨hr.inv.chan, hr.inv.cap⟩

/-- The shared channel never blocks a move it should allow. In every state a server reaches:
1. `Receive` can take the first batch on `s.ch`;
2. a connection whose `OnEvents` is sending can send whenever `s.ch` has room: its handler's own check, on its own
   batches, follows from the check on `s.ch`. -/
theorem server_chan_moves (hr : S.Reachable cfg) :
    (∀ i rest, S.chan = i :: rest → ∃ S', S.step cfg (.receive i) = some S') ∧
    (∀ i c b, S.conns[i]? = some c → c.read = .onEvents b → S.chan.length < cfg.sinkCap →
      ∃ S', S.step cfg (.send i) = some S') := by
  have hi := hr.inv
  refine ⟨fun i rest hchan => ?_, fun i c b hc hread hlt => ?_⟩
  · have hcount := hi.chan i
    rw [hchan, List.count_cons, beq_self_eq_true, if_pos rfl] at hcount
    unfold Server.sinkLen at hcount
    match hc : S.conns[i]?, hcount with
    | some c, hcount =>
      match hsink : c.sink, hcount with
      | b :: sink, _ => exact ⟨_, by simp [Server.step, hchan, Server.update, hc, Lumber.step, hsink]; rfl⟩
      | [], hcount => simp [hsink] at hcount
    | none, hcount => simp at hcount
  · have hle : c.sink.length < cfg.sinkCap := calc
      c.sink.length = S.chan.count i := (sinkLen_of_get hc).symm.trans (hi.chan i).symm
      _ ≤ S.chan.length := List.count_le_length _ _
      _ < cfg.sinkCap := hlt
    exact ⟨_, by simp [Server.step, hlt, Server.update, hc, Lumber.step, hread, hle]; rfl⟩

/-- Each connection's batches reach the consumer in order through the shared channel. In every state a server
reaches, for each connection:
1. the batches the consumer took from it, then those it has on `s.ch`, are the batches its ReadBatch returned, in
   order, none skipped or repeated;
2. the batches its `ACK` frames acknowledge are batches it read, in the order read, each at most once. -/
theorem server_conn_order (hr : S.Reachable cfg) :
    ∀ c ∈ S.conns, c.received ++ c.sink <+: c.reads ∧ c.ackedOnWire <+ c.reads ∧ c.ackedOnWire.Nodup := by
  intro c hc
  have hi := (hr.inv.conns c hc).inv
  have hsub := hi.ackedOnWire_isPrefix_reads.sublist
  exact ⟨hi.delivered.isPrefix_reads, hsub, hi.reads_nodup.sublist hsub⟩

end

namespace InternalServerWitness

/-- The server's own channel, keep-alives off. -/
def cfg : HandlerConfig := ⟨0, 128⟩

/-- Two connections, each sending a window; both batches go on `s.ch`, the second connection's first, and the
consumer takes that one. -/
def twoConns : List ServerAction :=
  [.accept, .accept, .conn 0 (.peerSend (.batch 1 (by decide))), .conn 1 (.peerSend (.batch 2 (by decide))),
    .conn 0 .readBatch, .conn 1 .readBatch, .conn 1 .handoff, .conn 0 .handoff, .send 1, .send 0, .receive 1]

end InternalServerWitness

open InternalServerWitness

/-- After `twoConns`, the consumer has the second connection's batch, and the first connection's is on `s.ch`. -/
theorem server_conn_order_two :
    ∃ S, Server.exec cfg Server.init twoConns = some S ∧ (S.conns.map fun c => c.received.length) = [0, 1] ∧
      ∀ c ∈ S.conns, c.received ++ c.sink <+: c.reads ∧ c.ackedOnWire <+ c.reads ∧ c.ackedOnWire.Nodup :=
  ⟨_, rfl, rfl, @server_conn_order cfg _ ⟨twoConns, rfl⟩⟩

end Internal

end Lumber
