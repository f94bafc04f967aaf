import Ezsockets.Status

/-!
# Signals after the end of a client

When a client's actor and all its tasks are over, the only place where a
signal can still be is the queue of the handle, and that lives on with the
last `Client`. So what is queued when the actor takes its last step stays
`sending`.
-/

namespace Ezsockets

variable {C : Type}

namespace Socket

/-- The socket has been dropped and its tasks have ended. -/
structure Over (s : Socket) : Prop where
  dropped : s.owned = false
  stream : s.streaming = false
  sink : s.sink.isClosed = true
  heartbeat : s.beating = false
  supervisor : s.supervisor = .done

theorem Over.holds {s : Socket} (h : s.Over) (g : s.Freed) (hc : s.sinkClones = 0) (n : Nat) :
    s.holds n = (s.writes.map Prod.fst).count (.handle n) := by
  have hf : s.freed = true := by
    apply g.mpr
    refine ⟨h.sink, ?_⟩
    simp [sinkSenders, h.dropped, h.heartbeat, hc]
  have hi : s.inFlight = [] := by
    have hs := h.sink
    unfold inFlight
    split
    · rename_i he; rw [he] at hs; cases hs
    · rfl
  rw [holds_eq, hf, hi]
  simp

end Socket

namespace Ledger

theorem over_holds {l : Ledger} (h : ∀ x ∈ l.socks, ∀ n, x.holds n = (x.writes.map Prod.fst).count (.handle n))
    (n : Nat) : l.holds n = l.pending.count (.handle n) + (l.written.map Prod.fst).count (.handle n) := by
  have hsum : ∀ socks : List Socket, (∀ x ∈ socks, ∀ n, x.holds n = (x.writes.map Prod.fst).count (.handle n)) →
      (socks.map (·.holds n)).sum = ((socks.flatMap (·.writes)).map Prod.fst).count (.handle n) := by
    intro socks
    induction socks with
    | nil => intro _; rfl
    | cons x socks ih =>
      intro hx
      rw [List.map_cons, List.sum_cons, List.flatMap_cons, List.map_append, List.count_append,
        ih fun y hy => hx y (List.mem_cons_of_mem _ hy), hx x List.mem_cons_self]
  rw [holds, written, List.map_append, List.count_append, hsum _ h]
  omega

/-- The signals that are still `sending` are those of what is queued. -/
theorem Good.settled_iff {l : Ledger} (g : l.Good) (hd : l.dropped = false)
    (h : ∀ x ∈ l.socks, ∀ n, x.holds n = (x.writes.map Prod.fst).count (.handle n)) :
    (∀ n < l.queue.hist.length, l.status n ≠ .sending) ↔ l.queue.queue = [] := by
  constructor
  · intro hs
    cases hq : l.queue.queue with
    | nil => rfl
    | cons m q =>
      exfalso
      have hn : l.queue.got.length < l.queue.hist.length := by simp [Chan.hist, hq]
      have hm : l.queue.hist[l.queue.got.length]? = some m := by simp [Chan.hist, hq]
      have hpend : 1 ≤ l.pending.count (.handle l.queue.got.length) := by
        rw [pending, hd, hq]
        simp [(g.numbers _ m hm).1]
      have hall := over_holds h l.queue.got.length
      rw [g.once, if_pos hn] at hall
      apply hs _ hn
      apply Writes.status_none
      rw [← List.count_eq_zero]
      omega
  · intro hq n hn
    have hpend : l.pending.count (.handle n) = 0 := by simp [pending, hq]
    have hall := over_holds h n
    rw [g.once, if_pos hn, hpend] at hall
    have hmem : Signal.handle n ∈ l.written.map Prod.fst := by
      apply List.count_pos_iff.mp
      omega
    obtain ⟨⟨sg, state⟩, hw, rfl⟩ := List.mem_map.mp hmem
    have hset := g.settled hw
    rw [(g.status_iff hset).mpr hw]; exact hset

end Ledger

namespace ClientActor

variable {s t u : ClientActor C} {config : ClientConfig}

/-- What is queued behind the message that a step takes, if it takes one. -/
def behind (s : ClientActor C) : ClientAct C → List InMessage
  | .tryRecv | .outgoing => s.toSocket.queue.tail
  | _ => s.toSocket.queue

/-- What the last step of the actor leaves in the queue. -/
theorem last_step {a : ClientAct C} (hl : s.isDone = false) (h : s.step a = some t) (hd : t.isDone = true) :
    t.toSocket.queue = s.behind a := by
  have stays : t.isDone = s.isDone → t.toSocket.queue = s.behind a := by
    intro he
    rw [hd, hl] at he; cases he
  have running : ∀ {p : ClientPhase}, t.phase = p → (∀ res, p ≠ .done res) → t.toSocket.queue = s.behind a := by
    intro p hp hn
    cases hd.symm.trans (isDone_of_phase hp hn)
  cases step_cases h with
  | text m | binary m | close m => exact stays (by unfold isDone; rw [send_phase])
  | call c => exact stays (by unfold isDone; rw [call_phase])
  | dropClients => apply stays; simp [isDone]
  | dropCallSenders | socket => exact stays rfl
  | drainMessage hp => exact running hp (by simp)
  | drainEmpty | connected | connectFailed | onConnectOk | retry | slept | closeSlept | sendFailed | takeCall
  | handlerOk | onCloseReconnect | onDisconnectReconnect => exact running rfl (by simp)
  | handOver hp => exact running hp (by simp)
  | @incoming x y item hp hx hr => rcases item with _ | (_ | (_ | _ | _)) <;> cases hd
  | drainClose hp hq => simp [behind, (Chan.pop?_some.mp hq).1]
  | drainDead hp hq => simp [behind, hq]
  | handOverClose hp hq => simp [behind, setSocket, (Chan.pop?_some.mp hq).1]
  | onConnectErr | exhausted | connectFailClose | connectFailErr | outgoingClosed | callsClosed | handlerErr
  | onCloseClose | onCloseErr | onDisconnectClose | onDisconnectErr | panic => simp [behind]
  | @sinkClosed x y res closedSelf hp =>
    rcases sinkClosed_cases (s.setSocket y) closedSelf res with ⟨r, he⟩ | ⟨-, -, he⟩ | he
    · rw [he]; simp [behind, setSocket]
    · rw [he]; rfl
    · rw [he]; rfl

/-- When the client and all its tasks are over and a `Client` is left, every signal is settled if and only if the
last step of the actor has left nothing queued. -/
theorem signals_settled_iff {a : ClientAct C} (hs : Lts.Reach step (create config) s) (hl : s.isDone = false)
    (ha : s.step a = some t) (hd : t.isDone = true) (hu : Lts.Reach step t u) (hc : u.clients = true)
    (ho : ∀ x ∈ u.socks, x.Over) :
    (∀ n < u.toSocket.hist.length, u.ledger.status n ≠ .sending) ↔ s.behind a = [] := by
  have hr := (hs.tail ha).trans hu
  obtain ⟨-, -, hq⟩ := done_reach hd hu
  obtain ⟨as, has⟩ := hr
  obtain ⟨g, hspent⟩ := run_ledger has
  have hf : u.freed = false := by
    apply Bool.eq_false_iff.mpr
    intro hf
    cases hc.symm.trans (hspent hf).2
  have hclones : ∀ (k : Nat) (x : Socket), u.socks[k]? = some x → x.sinkClones = 0 :=
    socks_inv (P := fun x => x.sinkClones = 0) rfl (fun _ _ hu hx => by rw [hu.frame]; exact hx)
      (fun _ _ _ hx hs => (Socket.step_sinkClones hs).trans hx) ⟨as, has⟩
  have hover : ∀ x ∈ u.socks, ∀ n, x.holds n = (x.writes.map Prod.fst).count (.handle n) := by
    intro x hx n
    obtain ⟨k, hk⟩ := List.getElem?_of_mem hx
    exact (ho x hx).holds (g.freed hk) (hclones k x hk) n
  have hsettled := g.settled_iff hf hover
  rw [show u.ledger.queue = u.toSocket from rfl, hq, last_step hl ha hd] at hsettled
  rw [hq]; exact hsettled

/-- A text that is queued behind the `Close` stays `sending`. -/
theorem signal_pending : ∃ (as : List (ClientAct Nat)) (s : ClientActor Nat),
    Lts.exec step (create ⟨1, 1, none⟩) as = some s ∧ s.isDone = true ∧ s.clients = true ∧ (∀ x ∈ s.socks, x.Over) ∧
      1 < s.toSocket.hist.length ∧ s.ledger.status 1 = .sending := by
  have h : Lts.exec step (create ⟨1, 1, none⟩ : ClientActor Nat) [
    .tryRecv, .connected, .onConnectReturn (.ok ()), .close none, .text "x", .outgoing, .socket 0 .sinkRecv,
    .socket 0 (.sinkSend (.ok ())), .socket 0 .streamEnd, .socket 0 .supervise, .socket 0 .supervise,
    .socket 0 .sinkAborted, .socket 0 .supervise, .socket 0 .heartbeatAborted, .socket 0 .supervise,
    .socket 0 .supervise] = some _ := rfl
  refine ⟨_, _, h, rfl, rfl, ?_, by decide, rfl⟩
  intro x hx
  cases List.mem_singleton.mp hx
  exact ⟨rfl, rfl, rfl, rfl, rfl⟩

/-- A `Close` with nothing behind it. -/
theorem signals_settled_one : ∃ (as bs : List (ClientAct Nat)) (s t u : ClientActor Nat),
    Lts.exec step (create ⟨1, 1, none⟩) as = some s ∧ s.step .outgoing = some t ∧ t.isDone = true ∧
      Lts.exec step t bs = some u ∧ u.toSocket.hist.length = 1 ∧
      ∀ n < u.toSocket.hist.length, u.ledger.status n ≠ .sending := by
  have h : Lts.exec step (create ⟨1, 1, none⟩ : ClientActor Nat) [
    .tryRecv, .connected, .onConnectReturn (.ok ()), .close none] = some _ := rfl
  let bs : List (ClientAct Nat) := [
    .socket 0 .sinkRecv, .socket 0 (.sinkSend (.ok ())), .socket 0 .streamEnd, .socket 0 .supervise,
    .socket 0 .supervise, .socket 0 .sinkAborted, .socket 0 .supervise, .socket 0 .heartbeatAborted,
    .socket 0 .supervise, .socket 0 .supervise]
  refine ⟨_, bs, _, _, _, h, rfl, rfl, rfl, rfl, ?_⟩
  refine (signals_settled_iff (a := .outgoing) ⟨_, h⟩ rfl rfl rfl ⟨bs, rfl⟩ rfl ?_).mpr rfl
  intro x hx
  cases List.mem_singleton.mp hx
  exact ⟨rfl, rfl, rfl, rfl, rfl⟩

end ClientActor

end Ezsockets
