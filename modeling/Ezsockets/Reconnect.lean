import Ezsockets.ClientQueue

/-!
# Messages and reconnects

A message is put into one sink at most. What was enqueued before the callback
of a connection that is over is not put into a later one: the next attempt
to connect begins when the queue has been empty.
-/

namespace Ezsockets

variable {C : Type}

/-- The client has no connection to hand a message to, and connects only after it has found its queue empty. -/
def ClientPhase.idle : ClientPhase → Bool
  | .onClose | .onDisconnect | .closeSleep | .drain _ _ | .done _ => true
  | _ => false

theorem ClientPhase.idle_sending {p : ClientPhase} (h : p.idle = true) : p.sending = false := by
  cases p with
  | onClose | closeSleep | onDisconnect | drain | done => rfl
  | _ => cases h

namespace ClientActor

variable {s t : ClientActor C}

theorem idle_step {a : ClientAct C} (hp : s.phase.idle = true) (h : s.step a = some t) :
    (t.phase.idle = true ∧ t.socks.length = s.socks.length) ∨ t.toSocket.queue = [] := by
  cases step_cases h with
  | text m | binary m | close m => unfold send; split <;> exact .inl ⟨hp, rfl⟩
  | call c => unfold call; split <;> exact .inl ⟨hp, rfl⟩
  | dropClients keep => exact .inl ⟨by simpa using hp, by simp⟩
  | dropCallSenders => exact .inl ⟨hp, rfl⟩
  | drainMessage => exact .inl ⟨hp, rfl⟩
  | drainEmpty _ hq => exact .inr hq
  | closeSlept => exact .inl ⟨rfl, rfl⟩
  | onCloseReconnect | onDisconnectReconnect => exact .inl ⟨rfl, by simp [dropSocket, event]⟩
  | drainClose | drainDead | onConnectErr | exhausted | connectFailClose | connectFailErr | outgoingClosed
  | callsClosed | handlerErr | onCloseClose | onCloseErr | onDisconnectClose | onDisconnectErr | panic =>
    refine .inl ⟨?_, by simp [dropSocket]⟩
    rw [finish_phase]; rfl
  | socket => exact .inl ⟨hp, by simp⟩
  | connected hs | connectFailed _ hs | onConnectOk hs | retry hs | slept hs | handOver hs | handOverClose hs
  | sendFailed hs | takeCall hs | incoming hs | sinkClosed hs | handlerOk hs => rw [hs] at hp; cases hp

/-- A number that a connection has been handed was there before, or is that of the message at the head of the
queue. -/
theorem Moved.number (hn : Numbered s) (h : Moved s t) (j : Nat) {l : List Nat}
    (hj : t.handed[j]? = some l) {n : Nat}
    (hm : n ∈ l) : (∃ l', s.handed[j]? = some l' ∧ n ∈ l') ∨ (n = s.toSocket.got.length ∧ s.SinkOpen) := by
  have old : ∀ {k : Nat} {l : List InRawMessage}, s.sinks[k]? = some l → ∀ r ∈ l, r.number = some n →
      ∃ l', s.handed[k]? = some l' ∧ n ∈ l' := by
    intro k l hl r hr hn
    exact ⟨l.filterMap InRawMessage.number, by rw [handed_sinks, List.getElem?_map, hl]; rfl,
      List.mem_filterMap.mpr ⟨r, hr, hn⟩⟩
  rw [handed_sinks, List.getElem?_map] at hj
  obtain ⟨l, hl, rfl⟩ := Option.map_eq_some_iff.mp hj
  obtain ⟨r, hr, hrn⟩ := List.mem_filterMap.mp hm
  cases h with
  | same _ hs | accepted _ _ hs | dropped _ _ hs => rw [hs] at hl; exact .inl (old hl r hr hrn)
  | @handedOver m c l' hp _ ho hl' hs =>
    rw [hs, List.getElem?_set_of hl'] at hl
    split at hl
    · rename_i hjc
      subst hjc
      cases hl
      rcases List.mem_append.mp hr with hr | hr
      · exact .inl (old hl' r hr hrn)
      · rw [List.mem_singleton.mp hr, toRaw_number (hn.numbers _ m (Chan.pop?_getElem hp))] at hrn
        cases hrn
        exact .inr ⟨rfl, ho⟩
    · exact .inl (old hl r hr hrn)
  | connected _ hs =>
    rw [hs] at hl
    have hlt : j < s.sinks.length := by
      apply Classical.byContradiction
      intro hge
      rw [List.getElem?_append_right (by omega)] at hl
      have := List.mem_singleton.mp (List.mem_of_getElem? hl)
      rw [this] at hr; cases hr
    rw [List.getElem?_append_left hlt] at hl
    exact .inl (old hl r hr hrn)
  | @beat k x bs _ hx hs hb =>
    rw [hs, List.getElem?_set_of (sinks_get hx)] at hl
    split at hl
    · rename_i hjk
      subst hjk
      cases hl
      rcases List.mem_append.mp hr with hr | hr
      · exact .inl (old (sinks_get hx) r hr hrn)
      · rw [(hb r hr).number] at hrn; cases hrn
    · exact .inl (old hl r hr hrn)

/-- No connection from the `K`th on is handed one of the first `N` messages. -/
structure Fresh (N K : Nat) (s : ClientActor C) : Prop where
  hist : N ≤ s.toSocket.hist.length
  conns : K ≤ s.socks.length
  cut : s.phase.idle = true ∧ s.socks.length = K ∨ N ≤ s.toSocket.got.length
  later : ∀ (j : Nat) (l : List Nat), K ≤ j → s.handed[j]? = some l → ∀ n ∈ l, N ≤ n

theorem Fresh.step {N K : Nat} {a : ClientAct C} (hn : Numbered s) (g : Fresh N K s) (h : s.step a = some t) :
    Fresh N K t := by
  have hm := step_moved h
  obtain ⟨hh, hg, hc⟩ := hm.later
  have hist : N ≤ t.toSocket.hist.length := Nat.le_trans g.hist hh
  refine ⟨hist, Nat.le_trans g.conns hc, ?_, fun j l hj hl n hnl => ?_⟩
  · rcases g.cut with ⟨hp, hk⟩ | hN
    · rcases idle_step hp h with ⟨hp', hl⟩ | hq
      · exact .inl ⟨hp', hl.trans hk⟩
      · right
        rw [Chan.hist_eq_got hq] at hist; exact hist
    · exact .inr (Nat.le_trans hN hg)
  · rcases hm.number hn j hl hnl with ⟨l', hl', hm'⟩ | ⟨rfl, ho⟩
    · exact g.later j l' hj hl' n hm'
    · -- a client that may hand over a message is past its drain
      rcases g.cut with ⟨hp, -⟩ | hN
      · have hs := ho.1
        rw [ClientPhase.idle_sending hp] at hs; cases hs
      · exact hN

/-- A message is put into the sink of one connection at most, and once; one that was enqueued before the callback
for the end of a connection is not put into the sink of a later one. -/
theorem messages_never_cross {config : ClientConfig} (hs : Lts.Reach step (create config) s)
    (ht : Lts.Reach step s t) :
    (∀ n, (s.socks.flatMap Socket.handed).count n ≤ 1) ∧
    (∀ x ∈ s.socks, ∀ r ∈ x.toSink.hist, ∀ n, r.signal = some (.handle n) →
      ∃ m, s.toSocket.hist[n]? = some m ∧ m.signal = some (.handle n) ∧ r = m.toRaw) ∧
    (s.phase = .onClose ∨ s.phase = .onDisconnect → ∀ k x, s.socks.length ≤ k → t.socks[k]? = some x →
      ∀ n ∈ x.handed, s.toSocket.hist.length ≤ n) := by
  obtain ⟨hn, b, hb⟩ := reach_handing hs
  refine ⟨fun n => ?_, fun x hx r hr n hrn => ?_, fun hp k x hk hx n hxn => ?_⟩
  · have hflat : s.socks.flatMap Socket.handed = b.cuts.flatMap Block.indices := by
      rw [List.flatMap_def, List.flatMap_def]
      exact congrArg List.flatten hb.handed
    rw [hflat]
    exact List.nodup_iff_count_le_one.mp b.nodup n
  · obtain ⟨k, hk⟩ := List.getElem?_of_mem hx
    obtain ⟨m, hm, he⟩ := hn.sources k _ (sinks_get hk) r hr n (by simp [InRawMessage.number, hrn])
    exact ⟨m, hm, hn.numbers n m hm, he⟩
  · have hidle : s.phase.idle = true := by rcases hp with hp | hp <;> rw [hp] <;> rfl
    have h₀ : Fresh s.toSocket.hist.length s.socks.length s := by
      refine ⟨Nat.le_refl _, Nat.le_refl _, .inl ⟨hidle, rfl⟩, fun j l hj hl => ?_⟩
      rw [handed, List.getElem?_map, List.getElem?_eq_none hj] at hl
      cases hl
    have hf : Fresh s.toSocket.hist.length s.socks.length t :=
      Lts.reach_inv h₀ (fun _ _ _ hr g h => g.step (reach_handing (hs.trans hr)).1 h) ht
    exact hf.later k _ hk (by rw [handed, List.getElem?_map, hx]; rfl) n hxn

/-- The second of two messages is still queued when the stream ends; the connection after that one gets the
third. -/
theorem messages_never_cross_three : ∃ (as bs : List (ClientAct Nat)) (s t : ClientActor Nat) (x : Socket),
    Lts.exec step (create ⟨1, 1, none⟩) as = some s ∧ s.phase = .onDisconnect ∧ s.toSocket.hist.length = 2 ∧
      Lts.exec step s bs = some t ∧ t.socks[1]? = some x ∧ x.handed = [2] ∧
      ∀ n ∈ x.handed, s.toSocket.hist.length ≤ n := by
  have h : Lts.exec step (create ⟨1, 1, none⟩ : ClientActor Nat) [
    .tryRecv, .connected, .onConnectReturn (.ok ()), .text "a", .outgoing, .text "b", .socket 0 .streamEnd,
    .incoming] = some _ := rfl
  let bs : List (ClientAct Nat) := [
    .onDisconnectReturn (.ok .reconnect), .tryRecv, .tryRecv, .connected, .onConnectReturn (.ok ()), .text "c",
    .outgoing]
  exact ⟨_, bs, _, _, _, h, rfl, rfl, rfl, rfl, rfl,
    (messages_never_cross ⟨_, h⟩ ⟨bs, rfl⟩).2.2 (.inr rfl) 1 _ (by decide) rfl⟩

end ClientActor

end Ezsockets
