import Ezsockets.Client
import Ezsockets.ListLemmas
import Ezsockets.SocketLemmas

/-!
# What a step of the client can do

`ClientActor.Step` lists the branches of `ClientActor.step`, each with its
guard; every invariant is proved by cases on it (`step_cases`).
-/

namespace Ezsockets

variable {C : Type}

def ClientEvent.isConnect : ClientEvent C → Bool
  | .connect _ => true
  | _ => false

def ClientEvent.call : ClientEvent C → Option C
  | .onCall c => some c
  | _ => none

namespace ClientActor

variable {s t : ClientActor C}

@[simp] theorem free_config : s.free.config = s.config := by unfold free; split <;> rfl
@[simp] theorem free_log : s.free.log = s.log := by unfold free; split <;> rfl
@[simp] theorem free_socks : s.free.socks = s.socks := by unfold free; split <;> rfl
@[simp] theorem free_phase : s.free.phase = s.phase := by unfold free; split <;> rfl
@[simp] theorem free_toSocket : s.free.toSocket = s.toSocket := by unfold free; split <;> rfl

@[simp] theorem finish_config {res : Except Error Unit} : (s.finish res).config = s.config := by
  simp [finish, dropSocket]
@[simp] theorem finish_log {res : Except Error Unit} : (s.finish res).log = s.log := by simp [finish, dropSocket]
@[simp] theorem finish_phase {res : Except Error Unit} : (s.finish res).phase = .done res := by simp [finish]
@[simp] theorem finish_socks {res : Except Error Unit} :
    (s.finish res).socks = s.dropSocket.socks := by simp [finish]
@[simp] theorem finish_toSocket {res : Except Error Unit} : (s.finish res).toSocket = s.toSocket := by
  simp [finish, dropSocket]

@[simp] theorem free_calls : s.free.calls = s.calls := by unfold free; split <;> rfl
@[simp] theorem finish_calls {res : Except Error Unit} : (s.finish res).calls = s.calls := by
  simp [finish, dropSocket]

@[simp] theorem send_config (m : Message) : (s.send m).config = s.config := by unfold send; split <;> rfl
@[simp] theorem send_log (m : Message) : (s.send m).log = s.log := by unfold send; split <;> rfl
@[simp] theorem send_phase (m : Message) : (s.send m).phase = s.phase := by unfold send; split <;> rfl
@[simp] theorem send_socks (m : Message) : (s.send m).socks = s.socks := by unfold send; split <;> rfl
@[simp] theorem send_calls (m : Message) : (s.send m).calls = s.calls := by unfold send; split <;> rfl
@[simp] theorem send_got (m : Message) : (s.send m).toSocket.got = s.toSocket.got := by unfold send; split <;> rfl

@[simp] theorem call_config (c : C) : (s.call c).config = s.config := by unfold call; split <;> rfl
@[simp] theorem call_log (c : C) : (s.call c).log = s.log := by unfold call; split <;> rfl
@[simp] theorem call_phase (c : C) : (s.call c).phase = s.phase := by unfold call; split <;> rfl
@[simp] theorem call_socks (c : C) : (s.call c).socks = s.socks := by unfold call; split <;> rfl
@[simp] theorem call_toSocket (c : C) : (s.call c).toSocket = s.toSocket := by unfold call; split <;> rfl
@[simp] theorem call_got (c : C) : (s.call c).calls.got = s.calls.got := by unfold call; split <;> rfl

theorem setSocket_conn {x y : Socket} (hx : s.socks[s.conn]? = some x) :
    (s.setSocket y).socks[(s.setSocket y).conn]? = some y := by
  unfold setSocket conn
  rw [List.length_set]
  exact (List.getElem?_set_of hx y _).trans (if_pos rfl)

theorem set_conn {k : Nat} {x y z : Socket} (ht : t = { s with socks := s.socks.set k y })
    (hx : s.socks[k]? = some x) (hz : s.socks[s.conn]? = some z) :
    t.socks[t.conn]? = some (if s.conn = k then y else z) := by
  have hc : t.conn = s.conn := by
    subst ht
    unfold conn
    rw [List.length_set]
  rw [hc, ht]
  refine (List.getElem?_set_of hx y _).trans ?_
  by_cases hk : s.conn = k
  · rw [if_pos hk, if_pos hk]
  · rw [if_neg hk, if_neg hk]; exact hz

/-! ## What all sockets agree on -/

theorem setSocket_map {β : Type} {f : Socket → β} {u : ClientActor C} {x y : Socket} (hu : u.socks = s.socks)
    (hx : s.socks[s.conn]? = some x) (hf : f y = f x) : (u.setSocket y).socks.map f = s.socks.map f := by
  unfold setSocket conn
  rw [hu]
  exact List.map_set_of hx hf

theorem dropSocket_map {β : Type} {f : Socket → β} (s : ClientActor C) (hf : ∀ x, f x.drop = f x) :
    s.dropSocket.socks.map f = s.socks.map f := List.map_modify_of hf

theorem finish_map {β : Type} {f : Socket → β} (s : ClientActor C) (res : Except Error Unit)
    (hf : ∀ x, f x.drop = f x) : (s.finish res).socks.map f = s.socks.map f := by
  rw [finish_socks]
  exact dropSocket_map s hf

/-! ## The branches -/

theorem handleIncomingMsg_frame (s : ClientActor C) (item : Option (Except WSError Message)) :
    s.handleIncomingMsg item =
      { s with log := (s.handleIncomingMsg item).log, phase := (s.handleIncomingMsg item).phase } := by
  rcases item with _ | (_ | (_ | _ | _)) <;> rfl

/-- The client is over, `on_disconnect` is called, or it goes back to its loop. -/
theorem sinkClosed_cases (s : ClientActor C) (closedSelf : Bool) (res : Except WSError Unit) :
    (∃ r, s.sinkClosed closedSelf res = s.finish r) ∨
    (closedSelf = false ∧ (∃ err, res = .error err ∧ isDisconnect err = true) ∧
      s.sinkClosed closedSelf res = s.handleDisconnect) ∨
    s.sinkClosed closedSelf res = { s with phase := .select } := by
  unfold sinkClosed
  split
  · rename_i err
    split
    · exact .inl ⟨_, rfl⟩
    · rename_i hc
      split
      · rename_i hd; exact .inr (.inl ⟨by simpa using hc, ⟨err, rfl, hd⟩, rfl⟩)
      · exact .inl ⟨_, rfl⟩
  · split
    · exact .inl ⟨_, rfl⟩
    · exact .inr (.inr rfl)

inductive Step (s : ClientActor C) : ClientAct C → ClientActor C → Prop
  | text (m : Utf8Bytes) : Step s (.text m) (s.send (.text m))
  | binary (m : Bytes) : Step s (.binary m) (s.send (.binary m))
  | close (frame : Option CloseFrame) : Step s (.close frame) (s.send (.close frame))
  | call (c : C) : Step s (.call c) (s.call c)
  | dropClients (keep : Bool) : s.clients = true →
      Step s (.dropClients keep) (free { s with clients := false, callSenders := keep })
  | dropCallSenders : Step s .dropCallSenders { s with callSenders := false }
  | drainClose {attempt max m c frame} : s.phase = .drain attempt max → s.toSocket.pop? = some (m, c) →
      m.closeFrame = some frame →
      Step s .tryRecv ({ s with toSocket := c, writes := s.writes ++ m.drop }.finish (.ok ()))
  | drainMessage {attempt max m c} : s.phase = .drain attempt max → s.toSocket.pop? = some (m, c) →
      m.closeFrame = none → Step s .tryRecv { s with toSocket := c, writes := s.writes ++ m.drop }
  | drainEmpty {attempt max} : s.phase = .drain attempt max → s.toSocket.queue = [] → s.clients = true →
      Step s .tryRecv { s.event (.connect attempt) with phase := .connecting attempt max }
  | drainDead {attempt max} : s.phase = .drain attempt max → s.toSocket.queue = [] → s.clients = false →
      Step s .tryRecv (s.finish (.error clientDied))
  | connected {attempt max} : s.phase = .connecting attempt max →
      Step s .connected { s.event .onConnect with phase := .onConnect }
  | connectFailed {attempt max} (error : WSError) : s.phase = .connecting attempt max →
      Step s (.connectFailed error) { s.event (.onConnectFail error) with phase := .onConnectFail attempt max }
  | onConnectOk : s.phase = .onConnect →
      Step s (.onConnectReturn (.ok ())) { s with socks := s.socks ++ [.new s.config.socket], phase := .select }
  | onConnectErr (err : Error) :
      s.phase = .onConnect → Step s (.onConnectReturn (.error err)) (s.finish (.error err))
  | retry {attempt max} : s.phase = .onConnectFail attempt max → attempt < max →
      Step s (.onConnectFailReturn (.ok .reconnect)) { s.event .sleep with phase := .sleeping attempt max }
  | exhausted {attempt max} : s.phase = .onConnectFail attempt max → max ≤ attempt →
      Step s (.onConnectFailReturn (.ok .reconnect)) (s.finish (.error (attemptsExhausted attempt)))
  | connectFailClose {attempt max} : s.phase = .onConnectFail attempt max →
      Step s (.onConnectFailReturn (.ok .close)) (s.finish (.ok ()))
  | connectFailErr {attempt max} (err : Error) : s.phase = .onConnectFail attempt max →
      Step s (.onConnectFailReturn (.error err)) (s.finish (.error err))
  | slept {attempt max} :
      s.phase = .sleeping attempt max → Step s .slept { s with phase := .drain (attempt + 1) max }
  | closeSlept : s.phase = .closeSleep → Step s .slept { s with phase := .drain 1 s.config.maxReconnectAttempts }
  | handOver {m c x} : s.phase = .select → s.toSocket.pop? = some (m, c) → s.socks[s.conn]? = some x →
      x.sink.isClosed = false → m.closeFrame = none →
      Step s .outgoing ({ s with toSocket := c }.setSocket { x with toSink := x.toSink.push m.toRaw })
  | handOverClose {m c x frame} : s.phase = .select → s.toSocket.pop? = some (m, c) → s.socks[s.conn]? = some x →
      x.sink.isClosed = false → m.closeFrame = some frame →
      Step s .outgoing
        (({ s with toSocket := c }.setSocket { x with toSink := x.toSink.push m.toRaw }).finish (.ok ()))
  | sendFailed {m c x} : s.phase = .select → s.toSocket.pop? = some (m, c) → s.socks[s.conn]? = some x →
      x.sink.isClosed = true →
      Step s .outgoing { { s with toSocket := c }.setSocket { x with writes := x.writes ++ m.drop } with
        phase := .awaitSink m.closeFrame.isSome }
  | outgoingClosed : s.phase = .select → s.toSocket.queue = [] → s.clients = false →
      Step s .outgoingClosed (s.finish (.ok ()))
  | takeCall {c q} : s.phase = .select → s.calls.pop? = some (c, q) →
      Step s .takeCall { { s with calls := q }.event (.onCall c) with phase := .handler }
  | callsClosed : s.phase = .select → s.calls.queue = [] → s.clients = false → s.callSenders = false →
      Step s .callsClosed (s.finish (.ok ()))
  | incoming {x y item} : s.phase = .select → s.socks[s.conn]? = some x → x.recv = some (item, y) →
      Step s .incoming ((s.setSocket y).handleIncomingMsg item)
  | sinkClosed {x y res closedSelf} : s.phase = .awaitSink closedSelf → s.socks[s.conn]? = some x →
      x.awaitSinkClose = some (res, y) → Step s .sinkClosed ((s.setSocket y).sinkClosed closedSelf res)
  | handlerOk : s.phase = .handler → Step s (.handlerReturn (.ok ())) { s with phase := .select }
  | handlerErr (err : Error) : s.phase = .handler → Step s (.handlerReturn (.error err)) (s.finish (.error err))
  | onCloseReconnect : s.phase = .onClose →
      Step s (.onCloseReturn (.ok .reconnect)) { s.dropSocket.event .sleep with phase := .closeSleep }
  | onCloseClose : s.phase = .onClose → Step s (.onCloseReturn (.ok .close)) (s.finish (.ok ()))
  | onCloseErr (err : Error) : s.phase = .onClose → Step s (.onCloseReturn (.error err)) (s.finish (.error err))
  | onDisconnectReconnect : s.phase = .onDisconnect →
      Step s (.onDisconnectReturn (.ok .reconnect)) { s.dropSocket with
        phase := .drain 1 s.config.maxReconnectAttempts }
  | onDisconnectClose : s.phase = .onDisconnect → Step s (.onDisconnectReturn (.ok .close)) (s.finish (.ok ()))
  | onDisconnectErr (err : Error) : s.phase = .onDisconnect →
      Step s (.onDisconnectReturn (.error err)) (s.finish (.error err))
  | panic : s.phase.isCallback = true → Step s .panic (s.finish (.error clientCrashed))
  | socket {k x y} (a : SocketAct) : s.socks[k]? = some x → x.step a = some y →
      Step s (.socket k a) { s with socks := s.socks.set k y }

theorem tryRecv_cases {attempt max : Nat} (hp : s.phase = .drain attempt max) :
    Step s .tryRecv (s.tryRecv attempt max) := by
  unfold tryRecv
  split
  · rename_i m c hq
    split
    · rename_i hm; exact .drainClose hp hq hm
    · rename_i hm; exact .drainMessage hp hq hm
  · rename_i hq
    have hq := Chan.pop?_none.mp hq
    split
    · rename_i hc; exact .drainEmpty hp hq hc
    · rename_i hc; exact .drainDead hp hq (by simpa using hc)

theorem outgoing_cases {m : InMessage} {c : Chan InMessage} {x : Socket} (hp : s.phase = .select)
    (hq : s.toSocket.pop? = some (m, c)) (hx : s.socks[s.conn]? = some x) :
    Step s .outgoing ({ s with toSocket := c }.handleOutgoingMsg m x) := by
  unfold handleOutgoingMsg
  have hsend : x.send m = x.sendRaw m.toRaw := rfl
  cases hc : x.sink.isClosed with
  | true =>
    rw [hsend, Socket.sendRaw_closed m.toRaw hc]
    exact .sendFailed hp hq hx hc
  | false =>
    rw [hsend, Socket.sendRaw_open m.toRaw hc]
    cases hm : m.closeFrame with
    | none => exact .handOver hp hq hx hc hm
    | some frame => exact .handOverClose hp hq hx hc hm

theorem step_cases {a : ClientAct C} (h : s.step a = some t) : Step s a t := by
  cases a with
  | text m => cases h; exact .text m
  | binary m => cases h; exact .binary m
  | close frame => cases h; exact .close frame
  | call c => cases h; exact .call c
  | dropClients keep =>
    simp only [step] at h
    split at h
    · rename_i hc; cases h; exact .dropClients keep hc
    · cases h
  | dropCallSenders => cases h; exact .dropCallSenders
  | tryRecv =>
    simp only [step] at h
    split at h
    · rename_i hp; cases h; exact tryRecv_cases hp
    · cases h
  | connected =>
    simp only [step] at h
    split at h
    · rename_i hp; cases h; exact .connected hp
    · cases h
  | connectFailed error =>
    simp only [step] at h
    split at h
    · rename_i hp; cases h; exact .connectFailed error hp
    · cases h
  | onConnectReturn res =>
    simp only [step] at h
    split at h
    · rename_i hp; cases h; exact .onConnectOk hp
    · rename_i hp; cases h; exact .onConnectErr _ hp
    · cases h
  | onConnectFailReturn res =>
    simp only [step] at h
    split at h
    · rename_i attempt max mode hp
      cases h
      cases mode with
      | reconnect =>
        simp only [onConnectFailReturn]
        split
        · rename_i hn; exact .exhausted hp hn
        · rename_i hn; exact .retry hp (by omega)
      | close => exact .connectFailClose hp
    · rename_i hp; cases h; exact .connectFailErr _ hp
    · cases h
  | slept =>
    simp only [step] at h
    split at h
    · rename_i hp; cases h; exact .slept hp
    · rename_i hp; cases h; exact .closeSlept hp
    · cases h
  | outgoing =>
    simp only [step] at h
    split at h
    · rename_i hp hq hx; cases h; exact outgoing_cases hp hq hx
    · cases h
  | outgoingClosed =>
    simp only [step] at h
    split at h
    · rename_i hp hq
      split at h
      · cases h
      · rename_i hc; cases h; exact .outgoingClosed hp hq (by simpa using hc)
    · cases h
  | takeCall =>
    simp only [step] at h
    split at h
    · rename_i hp hq; cases h; exact .takeCall hp hq
    · cases h
  | callsClosed =>
    simp only [step] at h
    split at h
    · rename_i hp hq
      split at h
      · cases h
      · rename_i hc
        simp only [Bool.or_eq_true, not_or, Bool.not_eq_true] at hc
        cases h; exact .callsClosed hp hq hc.1 hc.2
    · cases h
  | incoming =>
    simp only [step] at h
    split at h
    · rename_i hp hx
      split at h
      · rename_i hr; cases h; exact .incoming hp hx hr
      · cases h
    · cases h
  | sinkClosed =>
    simp only [step] at h
    split at h
    · rename_i hp hx
      split at h
      · rename_i hr; cases h; exact .sinkClosed hp hx hr
      · cases h
    · cases h
  | handlerReturn res =>
    simp only [step] at h
    split at h
    · rename_i hp; cases h; exact .handlerOk hp
    · rename_i hp; cases h; exact .handlerErr _ hp
    · cases h
  | onCloseReturn res =>
    simp only [step] at h
    split at h
    · rename_i hp; cases h; exact .onCloseReconnect hp
    · rename_i hp; cases h; exact .onCloseClose hp
    · rename_i hp; cases h; exact .onCloseErr _ hp
    · cases h
  | onDisconnectReturn res =>
    simp only [step] at h
    split at h
    · rename_i hp; cases h; exact .onDisconnectReconnect hp
    · rename_i hp; cases h; exact .onDisconnectClose hp
    · rename_i hp; cases h; exact .onDisconnectErr _ hp
    · cases h
  | panic =>
    simp only [step] at h
    split at h
    · rename_i hp; cases h; exact .panic hp
    · cases h
  | socket k a =>
    simp only [step] at h
    split at h
    · rename_i hx
      obtain ⟨y, hy, rfl⟩ := Option.map_eq_some_iff.mp h
      exact .socket a hx hy
    · cases h

/-! ## The log -/

/-- What a step adds to the log, and what it takes off the queue of calls: an attempt begins only when the drain has
found the queue of messages empty, and a call is taken only to be passed on. -/
inductive Logs (s t : ClientActor C) : Prop
  | nothing : t.log = s.log → t.calls.got = s.calls.got → Logs s t
  | attempt {attempt max} : s.phase = .drain attempt max → s.toSocket.queue = [] →
      t.phase = .connecting attempt max → t.log = s.log ++ [(s.socks.length, .connect attempt)] →
      t.calls.got = s.calls.got → Logs s t
  | event {e} : e.isConnect = false → t.log = s.log ++ [(s.socks.length, e)] →
      t.calls.got = s.calls.got ++ e.call.toList → Logs s t

theorem step_logs {a : ClientAct C} (h : s.step a = some t) : Logs s t := by
  have ended : ∀ (u : ClientActor C) (res : Except Error Unit), u.log = s.log → u.calls = s.calls →
      Logs s (u.finish res) := fun u res hl hc => .nothing (finish_log.trans hl) (by rw [finish_calls, hc])
  have quiet : ∀ (u : ClientActor C) (e : ClientEvent C) (p : ClientPhase), e.isConnect = false → e.call = none →
      u.log = s.log → u.socks.length = s.socks.length → u.calls = s.calls →
      Logs s { u.event e with phase := p } := by
    intro u e p hn he hl hs hc
    refine .event hn (e := e) ?_ ?_
    · show u.log ++ [(u.socks.length, e)] = _
      rw [hl, hs]
    · rw [he]
      exact (congrArg Chan.got hc).trans (List.append_nil _).symm
  cases step_cases h with
  | text m | binary m | close m => exact .nothing (send_log _) (by rw [send_calls])
  | call c => exact .nothing (call_log _) (call_got _)
  | dropClients => exact .nothing free_log (by rw [free_calls])
  | dropCallSenders | drainMessage | onConnectOk | slept | closeSlept | handOver | sendFailed | handlerOk
  | onDisconnectReconnect | socket => exact .nothing rfl rfl
  | drainClose | drainDead | onConnectErr | exhausted | connectFailClose | connectFailErr | handOverClose
  | outgoingClosed | callsClosed | handlerErr | onCloseClose | onCloseErr | onDisconnectClose | onDisconnectErr
  | panic => exact ended _ _ rfl rfl
  | drainEmpty hp hq => exact .attempt hp hq rfl rfl rfl
  | connected | connectFailed | retry => exact quiet s _ _ rfl rfl rfl rfl rfl
  | onCloseReconnect => exact quiet s.dropSocket _ _ rfl rfl rfl (List.length_modify ..) rfl
  | takeCall _ hq => exact .event rfl rfl (Chan.pop?_some.mp hq).2
  | @incoming x y item =>
    rcases item with _ | (_ | (_ | _ | _)) <;> exact quiet (s.setSocket y) _ _ rfl rfl rfl List.length_set rfl
  | @sinkClosed x y res closedSelf =>
    rcases sinkClosed_cases (s.setSocket y) closedSelf res with ⟨r, he⟩ | ⟨-, -, he⟩ | he
    · rw [he]; exact ended _ _ rfl rfl
    · rw [he]; exact quiet (s.setSocket y) _ _ rfl rfl rfl List.length_set rfl
    · rw [he]; exact .nothing rfl rfl

/-! ## After the last step -/

theorem isDone_of_phase {p : ClientPhase} (hp : s.phase = p) (hn : ∀ res, p ≠ .done res) : s.isDone = false := by
  unfold isDone
  split
  · rename_i res hr; exact absurd (hp.symm.trans hr) (hn res)
  · rfl

theorem done_phase (hd : s.isDone = true) : ∃ res, s.phase = .done res := by
  unfold isDone at hd
  split at hd
  · rename_i res hp; exact ⟨res, hp⟩
  · cases hd

theorem done_frame {a : ClientAct C} (hd : s.isDone = true) (h : s.step a = some t) : t = { s with
    clients := t.clients, callSenders := t.callSenders, socks := t.socks, freed := t.freed,
    writes := t.writes } := by
  obtain ⟨res, hp⟩ := done_phase hd
  cases step_cases h with
  | text m | binary m | close m => simp [send, hd]
  | call c => simp [call, hd]
  | dropClients => unfold free; split <;> rfl
  | dropCallSenders | socket => rfl
  | drainClose hs | drainMessage hs | drainEmpty hs | drainDead hs | connected hs | connectFailed _ hs
  | onConnectOk hs | onConnectErr _ hs | retry hs | exhausted hs | connectFailClose hs | connectFailErr _ hs
  | slept hs | closeSlept hs | handOver hs | handOverClose hs | sendFailed hs | outgoingClosed hs | takeCall hs
  | callsClosed hs | incoming hs | sinkClosed hs | handlerOk hs | handlerErr _ hs | onCloseReconnect hs
  | onCloseClose hs | onCloseErr _ hs | onDisconnectReconnect hs | onDisconnectClose hs | onDisconnectErr _ hs =>
    cases hp.symm.trans hs
  | panic hs => rw [hp] at hs; cases hs

theorem done_reach (hd : s.isDone = true) (h : Lts.Reach step s t) :
    t.phase = s.phase ∧ t.log = s.log ∧ t.toSocket = s.toSocket := by
  refine Lts.reach_inv
    (I := fun t => t.phase = s.phase ∧ t.log = s.log ∧ t.toSocket = s.toSocket) ⟨rfl, rfl, rfl⟩ ?_ h
  intro u a v _ ⟨hp, hl, hq⟩ h
  have hdu : u.isDone = true := by
    unfold isDone at hd ⊢
    rw [hp]; exact hd
  rw [done_frame hdu h]
  exact ⟨hp, hl, hq⟩

end ClientActor

end Ezsockets
