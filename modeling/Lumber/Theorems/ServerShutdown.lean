import Lumber.Theorems.InternalServer
import Lumber.Theorems.Shutdown

/-!
# Closing the server

`startConnHandler` leaves each connection a goroutine that, once `s.sig` closes, calls the handler's `Stop`. Once
`Close` has closed `s.sig`, those `Stop` calls and the handlers' own moves alone, with no `Receive` by the consumer and
no new connection, bring every connection's read task and ACK task to return (`server_shutdown_completes`). A handler
is never left blocked on the shared channel: its `OnEvents` takes the closed signal instead of sending. As in the
handler's model, every ReadBatch call is taken to return; a read task stuck in ReadBatch would not return.

The proof lifts the one-connection shutdown run (`Theorems/Shutdown.lean`) to the server. Its moves touch nothing the
connections share, but for `OnEvents`' send, which the closed signal makes unnecessary
(`ServerShutdownAux.unshared_task_enabled`); a run of such moves of one connection is a run of the server
(`ServerShutdownAux.exec_conn`), and the connections are shut down one after another.
-/

namespace Lumber

namespace Internal

namespace ServerShutdownAux

section
variable {cfg : HandlerConfig} {s : Handler}

/-- With the server's signal and the transport closed, one of the tasks can move by a move that touches nothing shared,
until both have returned: where `OnEvents` could send, it can take the closed signal. -/
theorem unshared_task_enabled (hi : Inv cfg s) (hd : s.done = true) (hs : s.stop = .closed)
    (hne : ¬ (s.read = .returned ∧ s.ack = .returned)) :
    ∃ a, a.isTask = true ∧ a.isShared = false ∧ step cfg s a ≠ none := by
  obtain ⟨a, ha, hstep⟩ := ShutdownAux.task_enabled hi hd hs hne
  cases hsh : a.isShared
  · exact ⟨a, ha, hsh, hstep⟩
  obtain rfl : a = .onEventsSend := by cases a <;> simp_all [Action.isShared, Action.isTask]
  obtain ⟨b, hr⟩ : ∃ b, s.read = .onEvents b := by
    simp only [step, ne_eq] at hstep
    split at hstep
    · exact ⟨_, ‹_›⟩
    · exact absurd rfl hstep
  exact ⟨.onEventsDone, rfl, rfl, by simp [step, hr, hd]⟩

/-- From a reachable state with the server's signal and the transport closed, some run of the tasks, by moves that
touch nothing shared, ends with both returned. -/
theorem unshared_shutdown_run : ∀ (n : Nat) {s : Handler}, shutdownMeasure s = n → Reachable cfg s →
    s.done = true → s.stop = .closed → ∃ as s', (∀ a ∈ as, a.isShared = false) ∧ exec cfg s as = some s' ∧
      s'.read = .returned ∧ s'.ack = .returned := by
  intro n
  induction n using Nat.strong_induction_on with
  | _ n ih =>
    intro s hm hr hd hs
    by_cases hret : s.read = .returned ∧ s.ack = .returned
    · exact ⟨[], s, by simp, rfl, hret⟩
    obtain ⟨a, ha, hsh, hstep⟩ := unshared_task_enabled hr.inv hd hs hret
    obtain ⟨t, ht⟩ := Option.ne_none_iff_exists'.mp hstep
    obtain ⟨hlt, hts, htd⟩ := ShutdownAux.task_step hs ha ht
    obtain ⟨as, s', has, hexec, hfin⟩ :=
      ih _ (hm ▸ hlt) rfl (hr.exec (show exec cfg s [a] = some t by simp [exec, ht])) (htd.trans hd) hts
    exact ⟨a :: as, s', List.forall_mem_cons.mpr ⟨hsh, has⟩, by simp [exec, ht, hexec], hfin⟩

/-- The `Stop` call of a connection's shutdown goroutine closes the handler's signal and then the transport, or what
of that is left to do. -/
theorem stop_run (s : Handler) : ∃ as s', (∀ a ∈ as, a.isShared = false) ∧ exec cfg s as = some s' ∧
    s'.stop = .closed ∧ s'.done = s.done := by
  match hs : s.stop with
  | .open =>
    exact ⟨[.closeSignal, .closeClient],
      { s with stop := .closed, history := s.history ++ [.closeSignal] ++ [.closeClient] },
      by simp [Action.isShared], by simp [exec, step, hs], rfl, rfl⟩
  | .signalled =>
    exact ⟨[.closeClient], { s with stop := .closed, history := s.history ++ [.closeClient] },
      by simp [Action.isShared], by simp [exec, step, hs], rfl, rfl⟩
  | .closed => exact ⟨[], s, by simp, rfl, hs, rfl⟩

/-- Once the server's signal is closed, a reachable handler's `Stop` call and tasks, by moves that touch nothing shared,
bring both tasks to return. -/
theorem conn_shutdown (hr : Reachable cfg s) (hd : s.done = true) :
    ∃ as s', (∀ a ∈ as, a.isShared = false) ∧ exec cfg s as = some s' ∧
      s'.read = .returned ∧ s'.ack = .returned := by
  obtain ⟨as₁, s₁, h₁, hexec₁, hs₁, hd₁⟩ := @stop_run cfg s
  obtain ⟨as₂, s₂, h₂, hexec₂, hfin⟩ :=
    unshared_shutdown_run _ rfl (hr.exec hexec₁) (hd₁.trans hd) hs₁
  refine ⟨as₁ ++ as₂, s₂, fun a ha => ?_, by rw [exec_append, hexec₁]; exact hexec₂, hfin⟩
  rcases List.mem_append.mp ha with ha | ha
  · exact h₁ a ha
  · exact h₂ a ha

/-- Putting back the handler that is in place changes nothing. -/
theorem set_self {l : List Handler} {i : Nat} {c : Handler} (hc : l[i]? = some c) : l.set i c = l :=
  List.ext_getElem? fun j => by
    rw [List.getElem?_set]
    split_ifs with hij
    · subst hij; rw [hc]
    · subst hij; exact (List.getElem?_eq_none (by omega)).symm
    · rfl

end

section
variable {cfg : HandlerConfig} {S : Server}

/-- A run of two parts is the first part, then the second from where it ended. -/
theorem exec_append (S : Server) (as bs : List ServerAction) :
    Server.exec cfg S (as ++ bs) = (Server.exec cfg S as).bind (Server.exec cfg · bs) := by
  induction as generalizing S with
  | nil => rfl
  | cons a as ih => simp only [List.cons_append, Server.exec, List.append_eq, ih, Option.bind_assoc]

theorem Reachable.exec {S' : Server} {as : List ServerAction} (hr : S.Reachable cfg)
    (h : Server.exec cfg S as = some S') : S'.Reachable cfg :=
  let ⟨bs, hbs⟩ := hr
  ⟨bs ++ as, by rw [exec_append, hbs]; exact h⟩

/-- A run of connection `i`'s handler by moves that touch nothing shared is a run of the server, which leaves the
other connections and the rest of the server as they were. -/
theorem exec_conn {i : Nat} : ∀ {as : List Action} {S : Server} {c c' : Handler},
    (∀ a ∈ as, a.isShared = false) → S.conns[i]? = some c → exec cfg c as = some c' →
    Server.exec cfg S (as.map (.conn i)) = some { S with conns := S.conns.set i c' }
  | [], S, c, c', _, hc, h => by
    cases h
    rw [set_self hc]
    rfl
  | a :: as, S, c, c', hsh, hc, h => by
    obtain ⟨t, ht, h⟩ := Option.bind_eq_some.mp h
    have hi : i < S.conns.length := (List.getElem?_eq_some_iff.mp hc).1
    have hS : S.step cfg (.conn i a) = some { S with conns := S.conns.set i t } := by
      simp [Server.step, hsh a (List.mem_cons_self a as), Server.update, hc, ht]
    have hrest := exec_conn (S := { S with conns := S.conns.set i t })
      (fun b hb => hsh b (List.mem_cons_of_mem _ hb)) (List.getElem?_set_self hi) h
    simp only [List.map_cons, Server.exec, hS, Option.some_bind, hrest, List.set_set]

/-- The connections shut down one after another: after the first `k`, those have returned and the others are as they
were. -/
theorem shutdown_prefix (hr : S.Reachable cfg) (hsig : S.sigClosed = true) :
    ∀ k, k ≤ S.conns.length → ∃ as S', (∀ a ∈ as, ∃ i b, a = .conn i b) ∧
      Server.exec cfg S as = some S' ∧ S'.Reachable cfg ∧ S'.sigClosed = true ∧
      S'.conns.length = S.conns.length ∧
      (∀ j (c : Handler), j < k → S'.conns[j]? = some c → c.read = .returned ∧ c.ack = .returned) ∧
      ∀ j, k ≤ j → S'.conns[j]? = S.conns[j]?
  | 0, _ => ⟨[], S, by simp, rfl, hr, hsig, rfl, fun _ _ h => absurd h (Nat.not_lt_zero _), fun _ _ => rfl⟩
  | k + 1, hk => by
    obtain ⟨as, S', has, hexec, hr', hsig', hlen, hdone, hsame⟩ := shutdown_prefix hr hsig k (by omega)
    have hkS : k < S'.conns.length := by omega
    obtain ⟨c, hc⟩ : ∃ c, S'.conns[k]? = some c := ⟨_, List.getElem?_eq_getElem hkS⟩
    have hmem := InternalServerAux.mem_of_get hc
    obtain ⟨bs, c', hbs, hexec', hread, hack⟩ :=
      conn_shutdown (hr'.inv.conns c hmem) ((hr'.inv.done c hmem).trans hsig')
    have hrun := exec_conn hbs hc hexec'
    refine ⟨as ++ bs.map (.conn k), { S' with conns := S'.conns.set k c' }, fun a ha => ?_,
      by rw [exec_append, hexec]; exact hrun, Reachable.exec hr' hrun, hsig', by rw [List.length_set, hlen],
      fun j d hj hd => ?_, fun j hj => ?_⟩
    · rcases List.mem_append.mp ha with ha | ha
      · exact has a ha
      · obtain ⟨b, -, rfl⟩ := List.mem_map.mp ha
        exact ⟨k, b, rfl⟩
    · rw [List.getElem?_set] at hd
      split_ifs at hd with hkj
      · cases hd; exact ⟨hread, hack⟩
      · exact hdone j d (by omega) hd
    · rw [List.getElem?_set_ne (by omega), hsame j (by omega)]

end

end ServerShutdownAux

open ServerShutdownAux

/-- `Close` cannot leave a connection stuck, when every ReadBatch call returns, as the model's ReadBatch does. From
every state a server reaches once `Close` has closed `s.sig`, some run of moves of the connections' handlers and of
their shutdown goroutines' `Stop` calls alone (no `Receive`, no `Accept`) ends with every connection's read task and
ACK task returned. -/
theorem server_shutdown_completes {cfg : HandlerConfig} {S : Server} (hr : S.Reachable cfg)
    (hsig : S.sigClosed = true) :
    ∃ as S', (∀ a ∈ as, ∃ i b, a = .conn i b) ∧ Server.exec cfg S as = some S' ∧
      S'.conns.length = S.conns.length ∧ ∀ c ∈ S'.conns, c.read = .returned ∧ c.ack = .returned := by
  obtain ⟨as, S', has, hexec, -, -, hlen, hdone, -⟩ := shutdown_prefix hr hsig _ le_rfl
  refine ⟨as, S', has, hexec, hlen, fun c hc => ?_⟩
  obtain ⟨j, hj⟩ := List.mem_iff_getElem?.mp hc
  exact hdone j c (by rw [← hlen]; exact (List.getElem?_eq_some_iff.mp hj).1) hj

open InternalServerWitness

/-- After `twoConns`, `Close` closes the listener and `s.sig` while the first connection's batch is still on `s.ch`
and no one will take it: the two connections can still shut down. -/
theorem server_shutdown_completes_closed :
    ∃ S, Server.exec cfg Server.init (twoConns ++ [.closeListener, .closeSig]) = some S ∧ S.sigClosed = true ∧
      S.chan = [0] ∧ ∃ as S', (∀ a ∈ as, ∃ i b, a = .conn i b) ∧ Server.exec cfg S as = some S' ∧
        S'.conns.length = S.conns.length ∧ ∀ c ∈ S'.conns, c.read = .returned ∧ c.ack = .returned :=
  ⟨_, rfl, rfl, rfl,
    @server_shutdown_completes cfg _ ⟨twoConns ++ [ServerAction.closeListener, .closeSig], rfl⟩ rfl⟩

end Internal

end Lumber
