import Ezsockets.Status

/-!
# The last handle

A connection that goes well ends when the last `Client` is dropped, and then
either queue of the handle ends the loop of the actor, whatever is left in
the other one. While the loop runs the connection has been handed all that
the actor has taken (`Serving`).
-/

namespace Ezsockets

variable {C : Type}

/-- Neither half of the connection fails, and the remote does not close it. -/
def SocketAct.healthy : SocketAct → Bool
  | .sinkSend (.error _) | .sinkPanic | .streamNext (.error _) | .streamNext (.ok (.close _)) | .streamEnd
  | .streamPanic => false
  | _ => true

def isData : Except WSError Message → Bool
  | .ok (.text _) | .ok (.binary _) => true
  | _ => false

namespace Socket

variable {s t : Socket}

structure Healthy (s : Socket) : Prop where
  owned : s.owned = true
  streaming : s.streaming = true
  sink : s.sink.isClosed = false
  data : ∀ item ∈ s.toOwner.queue, isData item = true

theorem new_healthy (config : SocketConfig) : Healthy (new config) :=
  ⟨rfl, rfl, rfl, fun item hi => by cases hi⟩

theorem forward_healthy {item : Except WSError RawMessage} (g : s.Healthy)
    (ha : (SocketAct.streamNext item).healthy = true) : (s.forward item).Healthy := by
  rcases forward_owned g.owned item with hf | ⟨m, rfl, hf⟩
  · rw [hf]; exact g
  · have hm : isData m = true := by
      rcases m with err | (_ | _ | _)
      · cases ha
      · rfl
      · rfl
      · cases ha
    rw [hf]
    refine ⟨g.owned, g.streaming, g.sink, ?_⟩
    intro i hi
    rcases List.mem_append.mp hi with hi | hi
    · exact g.data i hi
    · rw [List.mem_singleton.mp hi]; exact hm

theorem step_healthy {a : SocketAct} (g : s.Healthy) (gs : s.Supervised) (ha : a.healthy = true)
    (h : s.step a = some t) : t.Healthy := by
  have alive : ¬ (s.sinkAbort = true ∨ s.supervised = false) := by
    intro hb
    cases (gs.aborted hb).symm.trans g.streaming
  have keep : ∀ {u : Socket}, u.owned = s.owned → u.streaming = s.streaming → u.sink = s.sink →
      u.toOwner = s.toOwner → u.Healthy := by
    intro u ho hs hk hq
    exact ⟨ho.trans g.owned, hs.trans g.streaming, by rw [hk]; exact g.sink, by rw [hq]; exact g.data⟩
  cases step_cases h with
  | sinkRecvNone => exact keep rfl rfl rfl rfl
  | sinkRecv | sinkSent => exact ⟨g.owned, g.streaming, rfl, g.data⟩
  | sinkRecvClosed _ _ hn => simp [sinkSenders, g.owned] at hn
  | sinkFailed | sinkPanic | streamEnd | streamPanic => cases ha
  | sinkAborted _ hb => exact absurd hb alive
  | streamNext item _ => exact forward_healthy (keep rfl rfl rfl rfl) ha
  | heartbeat _ he => rw [handleHeartbeat_frame he]; exact keep rfl rfl rfl rfl
  | heartbeatEnd _ he =>
    apply keep
    · rw [free_owned, handleHeartbeat_frame he]
    · rw [free_streaming, handleHeartbeat_frame he]
    · rw [free_sink, handleHeartbeat_frame he]
    · rw [free_toOwner, handleHeartbeat_frame he]
  | heartbeatAborted => exact keep (by simp) (by simp) (by simp) (by simp)
  | supervise h => rw [supervise_frame h]; exact keep rfl rfl rfl rfl

theorem step_handed {a : SocketAct} (h : s.step a = some t) : t.handed = s.handed := by
  obtain ⟨l, hl, hb⟩ := step_adds h
  unfold handed
  rw [hl, List.filterMap_append, List.filterMap_eq_nil_iff.mpr fun m hm => (hb m hm).number, List.append_nil]

/-- With data in the queue only and the stream going on, what the owner gets is data. -/
theorem recv_healthy {item : Option (Except WSError Message)} (g : s.Healthy) (h : s.recv = some (item, t)) :
    t.Healthy ∧ ∃ m, item = some m ∧ isData m = true := by
  obtain ⟨l, hl, hq⟩ := recv_queue h
  have ht : t.Healthy := by
    rw [recv_frame h]
    refine ⟨g.owned, g.streaming, g.sink, fun i hi => g.data i ?_⟩
    rw [hq]; exact List.mem_append_right _ hi
  cases item with
  | some m => exact ⟨ht, m, rfl, g.data m (by rw [hq, hl]; exact List.mem_cons_self)⟩
  | none =>
    exfalso
    unfold recv at h
    split at h
    · cases h
    · rw [g.streaming] at h; cases h

end Socket

namespace ClientActor

variable {r s t : ClientActor C} {config : ClientConfig}

def called (s : ClientActor C) : List C := s.log.filterMap (·.2.call)

/-- The handler does not fail, nobody closes, and the connection stays healthy. -/
def Healthy (s : ClientActor C) : ClientAct C → Prop
  | .close _ | .handlerReturn (.error _) | .panic => False
  | .socket k a => k = s.conn → a.healthy = true
  | _ => True

/-- The loop of the actor on a healthy connection, which has been handed all messages from the `n`th on. -/
structure Serving (n : Nat) (s : ClientActor C) : Prop where
  phase : s.phase = .select ∨ s.phase = .handler
  start : n ≤ s.toSocket.got.length
  unclosed : ∀ m ∈ s.toSocket.queue, m.closeFrame = none
  conn : ∃ x, s.socks[s.conn]? = some x ∧ x.Healthy ∧ x.handed = List.range' n (s.toSocket.got.length - n)

theorem finish_called (s : ClientActor C) (res : Except Error Unit) : (s.finish res).called = s.called := by
  unfold called
  rw [finish_log]

theorem finish_conn (s : ClientActor C) (res : Except Error Unit) : (s.finish res).conn = s.conn := by
  simp [conn, dropSocket]

theorem step_called {a : ClientAct C} (g : s.called = s.calls.got) (h : s.step a = some t) :
    t.called = t.calls.got := by
  unfold called at g ⊢
  cases step_logs h with
  | nothing hl hc => rw [hl, hc]; exact g
  | attempt _ _ _ hl hc =>
    rw [hl, List.filterMap_append, hc, g]
    exact List.append_nil _
  | @event e _ hl hc =>
    rw [hl, List.filterMap_append, hc, g]
    cases he : e.call <;> simp [he]

theorem reach_called (h : Lts.Reach step (create config) s) : s.called = s.calls.got :=
  Lts.reach_inv (I := fun s : ClientActor C => s.called = s.calls.got) rfl (fun _ _ _ _ g h => step_called g h) h

/-! ## The loop -/

variable {n : Nat}

theorem Serving.keep (g : Serving n s) (hp : t.phase = .select ∨ t.phase = .handler) (hq : t.toSocket = s.toSocket)
    (hs : t.socks = s.socks) : Serving n t := by
  have hc : t.conn = s.conn := by
    unfold ClientActor.conn
    rw [hs]
  refine ⟨hp, ?_, ?_, ?_⟩
  · rw [hq]; exact g.start
  · rw [hq]; exact g.unclosed
  · rw [hq, hs, hc]; exact g.conn

theorem send_serving {m : Message} (g : Serving n s) (hm : ∀ frame, m ≠ .close frame) : Serving n (s.send m) := by
  unfold send
  split
  · refine ⟨g.phase, g.start, ?_, g.conn⟩
    intro i hi
    rcases List.mem_append.mp hi with hi | hi
    · exact g.unclosed i hi
    · rw [List.mem_singleton.mp hi]
      cases m with
      | text | binary => rfl
      | close frame => exact absurd rfl (hm frame)
  · exact g

theorem handOver_serving {m : InMessage} {c : Chan InMessage} {x : Socket} (hn : Numbered s) (g : Serving n s)
    (hp : s.phase = .select) (hq : s.toSocket.pop? = some (m, c)) (hx : s.socks[s.conn]? = some x) :
    Serving n ({ s with toSocket := c }.setSocket { x with toSink := x.toSink.push m.toRaw }) := by
  obtain ⟨hqueue, hgot⟩ := Chan.pop?_some.mp hq
  obtain ⟨x', hx', hxh, hxn⟩ := g.conn
  cases hx.symm.trans hx'
  have hlen : c.got.length = s.toSocket.got.length + 1 := Chan.pop?_length hq
  have hstart := g.start
  refine ⟨.inl hp, ?_, ?_, _, setSocket_conn (s := { s with toSocket := c }) hx,
    ⟨hxh.owned, hxh.streaming, hxh.sink, hxh.data⟩, ?_⟩
  · show n ≤ c.got.length
    omega
  · intro i hi
    apply g.unclosed
    rw [hqueue]
    exact List.mem_cons_of_mem _ hi
  · have hnum := toRaw_number (hn.numbers _ m (Chan.pop?_getElem hq))
    show Socket.handed { x with toSink := x.toSink.push m.toRaw } = List.range' n (c.got.length - n)
    unfold Socket.handed at hxn ⊢
    rw [Chan.push_hist, List.filterMap_append, hxn, List.filterMap_cons, hnum, List.filterMap_nil, hlen,
      Nat.sub_add_comm hstart, List.range'_1_concat, Nat.add_sub_cancel' hstart]

/-- The loop goes on, or it is left with `Ok` because a channel is closed. -/
theorem step_serving {a : ClientAct C} (hs : Lts.Reach step (create config) s) (g : Serving n s) (ha : s.Healthy a)
    (h : s.step a = some t) : Serving n t ∨ t = s.finish (.ok ()) := by
  have off : ∀ {p : ClientPhase}, s.phase = p → p ≠ .select → p ≠ .handler → False := by
    intro p hp hsel hhan
    rcases g.phase with hp' | hp'
    · exact hsel (hp.symm.trans hp')
    · exact hhan (hp.symm.trans hp')
  cases step_cases h with
  | text m => exact .inl (send_serving g fun _ hf => by cases hf)
  | binary m => exact .inl (send_serving g fun _ hf => by cases hf)
  | close => exact ha.elim
  | call c =>
    left
    unfold call
    split
    · exact g.keep g.phase rfl rfl
    · exact g
  | dropClients =>
    exact .inl (g.keep (by rw [free_phase]; exact g.phase) (by rw [free_toSocket]) (by rw [free_socks]))
  | dropCallSenders => exact .inl (g.keep g.phase rfl rfl)
  | drainClose hp | drainMessage hp | drainEmpty hp | drainDead hp | connected hp | connectFailed _ hp
  | onConnectOk hp
  | onConnectErr _ hp | retry hp | exhausted hp | connectFailClose hp | connectFailErr _ hp | slept hp
  | closeSlept hp
  | sinkClosed hp | onCloseReconnect hp | onCloseClose hp | onCloseErr _ hp | onDisconnectReconnect hp
  | onDisconnectClose hp | onDisconnectErr _ hp =>
    exact (off hp (fun he => by cases he) fun he => by cases he).elim
  | handlerErr | panic => exact ha.elim
  | handOver hp hq hx => exact .inl (handOver_serving (reach_handing hs).1 g hp hq hx)
  | @handOverClose m c _ _ _ hq _ _ hm =>
    have hmem : m ∈ s.toSocket.queue := by
      rw [(Chan.pop?_some.mp hq).1]
      exact List.mem_cons_self
    cases (g.unclosed m hmem).symm.trans hm
  | sendFailed _ _ hx hc =>
    obtain ⟨x', hx', hxh, -⟩ := g.conn
    cases hx.symm.trans hx'
    cases hxh.sink.symm.trans hc
  | outgoingClosed | callsClosed => exact .inr rfl
  | takeCall => exact .inl (g.keep (.inr rfl) rfl rfl)
  | @incoming x y item hp hx hr =>
    left
    obtain ⟨x', hx', hxh, hxn⟩ := g.conn
    cases hx.symm.trans hx'
    obtain ⟨hy, m, rfl, hm⟩ := Socket.recv_healthy hxh hr
    have hyn : y.handed = x.handed := by
      rw [Socket.recv_frame hr]; rfl
    have served : ∀ e : ClientEvent C, Serving n { (s.setSocket y).event e with phase := .handler } := by
      intro e
      exact ⟨.inr rfl, g.start, g.unclosed, y, setSocket_conn hx, hy, hyn.trans hxn⟩
    rcases m with _ | (_ | _ | _)
    · cases hm
    · exact served _
    · exact served _
    · cases hm
  | handlerOk => exact .inl (g.keep (.inl rfl) rfl rfl)
  | @socket k x y b hx hxy =>
    left
    obtain ⟨x', hx', hxh, hxn⟩ := g.conn
    refine ⟨g.phase, g.start, g.unclosed, ?_⟩
    rw [set_conn rfl hx hx']
    refine ⟨_, rfl, ?_⟩
    by_cases hk : s.conn = k
    · subst hk
      cases hx.symm.trans hx'
      rw [if_pos rfl]
      exact ⟨Socket.step_healthy hxh (socks_supervised hs hx) (ha rfl) hxy, (Socket.step_handed hxy).trans hxn⟩
    · rw [if_neg hk]
      exact ⟨hxh, hxn⟩

/-- On a healthy connection the loop runs until it is left because a channel is closed. -/
theorem run_serving {as : List (ClientAct C)} (hs : Lts.Reach step (create config) s) (g : Serving n s)
    (hc : Lts.Along step Healthy s as) (h : Lts.exec step s as = some t) : t.isDone = true ∨ Serving n t := by
  refine Lts.along_inv (I := fun t : ClientActor C => t.isDone = true ∨ Serving n t) (.inr g) ?_ hc h
  intro u a v hu hi ha huv
  rcases hi with hd | gu
  · left
    obtain ⟨res, hp⟩ := done_phase hd
    rw [done_frame hd huv]
    unfold isDone
    rw [hp]
  · rcases step_serving (hs.trans hu) gu ha huv with gv | rfl
    · exact .inr gv
    · left
      unfold isDone
      rw [finish_phase]

theorem onConnect_serving (hq : ∀ m ∈ t.toSocket.queue, m.closeFrame = none)
    (h : s.step (.onConnectReturn (.ok ())) = some t) : Serving t.toSocket.got.length t := by
  cases step_cases h with
  | onConnectOk hp =>
    refine ⟨.inl rfl, Nat.le_refl _, hq, .new s.config.socket, ?_, Socket.new_healthy _, ?_⟩
    · simp [ClientActor.conn]
    · simp [Socket.handed, Socket.new]

theorem Serving.not_done (g : Serving n s) : s.isDone = false := by
  rcases g.phase with hp | hp
  · exact isDone_of_phase hp (by simp)
  · exact isDone_of_phase hp (by simp)

/-- The actor leaves its loop with the messages handed over that it has taken. -/
theorem Serving.finish_handed {k : Nat} {res : Except Error Unit} (g : Serving n s) :
    (∃ y, (s.finish res).socks[(s.finish res).conn]? = some y ∧ k ∈ y.handed) ↔
      n ≤ k ∧ k < s.toSocket.got.length := by
  obtain ⟨x, hx, -, hxn⟩ := g.conn
  have hy : (s.finish res).socks[(s.finish res).conn]? = some x.drop := by
    rw [finish_socks, finish_conn, dropSocket, List.getElem?_modify, hx]
    simp
  have hdrop : x.drop.handed = x.handed := by
    unfold Socket.handed
    rw [drop_hist]
  have hstart := g.start
  rw [hy]
  constructor
  · rintro ⟨y, he, hk⟩
    cases he
    rw [hdrop, hxn, List.mem_range'_1] at hk
    omega
  · intro hk
    refine ⟨_, rfl, ?_⟩
    rw [hdrop, hxn, List.mem_range'_1]
    omega

/-- A client that is connected to a healthy remote, whose handlers do not fail and that nobody closes ends with
everything handed over and every call passed on if and only if both queues are empty when it leaves its loop. -/
theorem nothing_lost_iff {as : List (ClientAct C)} {a : ClientAct C} {s₀ : ClientActor C}
    (hr : Lts.Reach step (create config) r) (h₀ : r.step (.onConnectReturn (.ok ())) = some s₀)
    (hq : ∀ m ∈ s₀.toSocket.queue, m.closeFrame = none) (hc : Lts.Along step Healthy s₀ as)
    (h : Lts.exec step s₀ as = some s) (hl : s.isDone = false) (ha : s.Healthy a) (hst : s.step a = some t)
    (hd : t.isDone = true) :
    ((∀ n, s₀.toSocket.got.length ≤ n → n < t.toSocket.hist.length →
        ∃ x, t.socks[t.conn]? = some x ∧ n ∈ x.handed) ∧ t.called = t.calls.hist) ↔
      s.toSocket.queue = [] ∧ s.calls.queue = [] := by
  have hr₀ : Lts.Reach step (create config) s₀ := hr.tail h₀
  have hrs : Lts.Reach step (create config) s := hr₀.trans ⟨as, h⟩
  have g : Serving s₀.toSocket.got.length s := by
    rcases run_serving hr₀ (onConnect_serving hq h₀) hc h with hd | g
    · cases hl.symm.trans hd
    · exact g
  have ht : t = s.finish (.ok ()) := by
    rcases step_serving hrs g ha hst with gt | ht
    · cases hd.symm.trans gt.not_done
    · exact ht
  subst ht
  have hcalled : (s.finish (.ok ())).called = (s.finish (.ok ())).calls.hist ↔ s.calls.queue = [] := by
    rw [finish_called, finish_calls, reach_called hrs, Chan.hist]
    exact List.self_eq_append_right
  rw [hcalled, finish_toSocket]
  refine and_congr_left' ⟨?_, ?_⟩
  · intro hall
    by_cases he : s.toSocket.queue = []
    · exact he
    · exfalso
      have hpos : 0 < s.toSocket.queue.length := List.length_pos_iff.mpr he
      have hlen : s.toSocket.hist.length = s.toSocket.got.length + s.toSocket.queue.length := List.length_append
      have hmem := g.finish_handed.mp (hall s.toSocket.got.length g.start (by omega))
      omega
  · intro he n hn hlt
    rw [Chan.hist_eq_got he] at hlt
    exact g.finish_handed.mpr ⟨hn, hlt⟩

/-- A text is handed over and a call passed on before the client is dropped. -/
theorem nothing_lost_two : ∃ (as bs : List (ClientAct Nat)) (s₀ s t : ClientActor Nat),
    Lts.exec step (create ⟨1, 1, none⟩) as = some s₀ ∧ Lts.exec step s₀ bs = some s ∧
      s.step .outgoingClosed = some t ∧ t.toSocket.hist.length = 1 ∧ t.calls.hist = [7] ∧
      (∀ n, s₀.toSocket.got.length ≤ n → n < t.toSocket.hist.length →
        ∃ x, t.socks[t.conn]? = some x ∧ n ∈ x.handed) ∧ t.called = t.calls.hist := by
  have h : Lts.exec step (create ⟨1, 1, none⟩ : ClientActor Nat) [.tryRecv, .connected] = some _ := rfl
  have hb : Lts.exec step ({ (create ⟨1, 1, none⟩ : ClientActor Nat) with
      socks := [.new .default], phase := .select, log := [(0, .connect 1), (0, .onConnect)] }) [
    .text "a", .call 7, .takeCall, .handlerReturn (.ok ()), .outgoing, .dropClients false] = some _ := rfl
  refine ⟨[.tryRecv, .connected, .onConnectReturn (.ok ())], _, _, _, _, rfl, hb, rfl, rfl, rfl, ?_⟩
  refine (nothing_lost_iff (a := .outgoingClosed) ⟨_, h⟩ rfl ?_ ?_ hb rfl trivial rfl rfl).mpr ⟨rfl, rfl⟩
  · intro m hm; cases hm
  · exact ⟨trivial, fun _ _ => ⟨trivial, fun _ _ => ⟨trivial, fun _ _ => ⟨trivial, fun _ _ => ⟨trivial, fun _ _ =>
      ⟨trivial, fun _ _ => trivial⟩⟩⟩⟩⟩⟩

/-- The last `Client` is dropped with a call still queued, and the select takes the other channel's end. -/
theorem call_lost : ∃ (as : List (ClientAct Nat)) (s t : ClientActor Nat),
    Lts.exec step (create ⟨1, 1, none⟩) as = some s ∧ s.clients = false ∧ s.callSenders = false ∧
      s.step .outgoingClosed = some t ∧ t.phase = .done (.ok ()) ∧ t.calls.hist = [7] ∧ t.called = [] :=
  ⟨[.tryRecv, .connected, .onConnectReturn (.ok ()), .call 7, .dropClients false], _, _, rfl, rfl, rfl,
    rfl, rfl, rfl,
    rfl⟩

end ClientActor

end Ezsockets
