import Ezsockets.Socket

/-!
# What a step of a socket's tasks can do

`Socket.Step` lists the branches of `Socket.step`, each with its guard
(`step_cases`). The owner's flags and what it has taken change only through
the owner.
-/

namespace Ezsockets.Socket

variable {s t : Socket}

theorem free_eq (s : Socket) : s.free = { s with freed := s.free.freed, writes := s.free.writes } := by
  unfold free; split <;> rfl

@[simp] theorem free_config : s.free.config = s.config := by rw [free_eq]
@[simp] theorem free_toSink : s.free.toSink = s.toSink := by rw [free_eq]
@[simp] theorem free_sink : s.free.sink = s.sink := by rw [free_eq]
@[simp] theorem free_yielded : s.free.yielded = s.yielded := by rw [free_eq]
@[simp] theorem free_streaming : s.free.streaming = s.streaming := by rw [free_eq]
@[simp] theorem free_toOwner : s.free.toOwner = s.toOwner := by rw [free_eq]
@[simp] theorem free_owned : s.free.owned = s.owned := by rw [free_eq]
@[simp] theorem free_resultTaken : s.free.resultTaken = s.resultTaken := by rw [free_eq]
@[simp] theorem free_sinkResult : s.free.sinkResult = s.sinkResult := by rw [free_eq]
@[simp] theorem free_supervisor : s.free.supervisor = s.supervisor := by rw [free_eq]

@[simp] theorem drop_owned : s.drop.owned = false := by simp [drop]

theorem sendRaw_closed (m : InRawMessage) (h : s.sink.isClosed = true) :
    s.sendRaw m = ({ s with writes := s.writes ++ m.setSignal .failed }, false) := by simp [sendRaw, h]

theorem sendRaw_open (m : InRawMessage) (h : s.sink.isClosed = false) :
    s.sendRaw m = ({ s with toSink := s.toSink.push m }, true) := by simp [sendRaw, h]

theorem sendRaw_frame (s : Socket) (m : InRawMessage) :
    (s.sendRaw m).1 = { s with toSink := (s.sendRaw m).1.toSink, writes := (s.sendRaw m).1.writes } := by
  cases h : s.sink.isClosed with
  | true => rw [sendRaw_closed m h]
  | false => rw [sendRaw_open m h]

@[simp] theorem sendRaw_owned (m : InRawMessage) : (s.sendRaw m).1.owned = s.owned := by rw [sendRaw_frame]

@[simp] theorem send_owned (m : InMessage) : (s.send m).1.owned = s.owned := sendRaw_owned m.toRaw

@[simp] theorem sendRaw_toOwner (m : InRawMessage) : (s.sendRaw m).1.toOwner = s.toOwner := by rw [sendRaw_frame]

@[simp] theorem send_toOwner (m : InMessage) : (s.send m).1.toOwner = s.toOwner := sendRaw_toOwner m.toRaw

@[simp] theorem drop_toOwner : s.drop.toOwner = s.toOwner := by simp [drop]

@[simp] theorem dropSink_owned : s.dropSink.owned = s.owned := by simp [dropSink]

inductive Step (s : Socket) : SocketAct → Socket → Prop
  | sinkRecvNone {m c} : s.sink = .running → s.toSink.pop? = some (m, c) → m.message = none →
      Step s .sinkRecv { s with toSink := c, writes := s.writes ++ m.setSignal .failed }
  | sinkRecv {m c raw} : s.sink = .running → s.toSink.pop? = some (m, c) → m.message = some raw →
      Step s .sinkRecv { s with toSink := c, sink := .sending raw m.signal }
  | sinkRecvClosed : s.sink = .running → s.toSink.queue = [] → s.sinkSenders = 0 →
      Step s .sinkRecvClosed (free { s with sink := .ended (.ok ()) })
  | sinkSent {raw signal} : s.sink = .sending raw signal →
      Step s (.sinkSend (.ok ())) { s with
        sink := .running, writes := s.writes ++ InRawMessage.setSignal ⟨none, signal⟩ .sent }
  | sinkFailed {raw signal} (err : WSError) : s.sink = .sending raw signal →
      Step s (.sinkSend (.error err)) (free { s with
        sink := .ended (.error err), writes := s.writes ++ InRawMessage.setSignal ⟨none, signal⟩ .failed })
  | sinkAborted : s.sink = .running → s.sinkAbort = true ∨ s.supervised = false →
      Step s .sinkAborted (free { s with sink := .ended (.ok ()) })
  | sinkPanic {raw signal} : s.sink = .sending raw signal →
      Step s .sinkPanic (free { s with
        sink := .crashed, writes := s.writes ++ InRawMessage.setSignal ⟨none, signal⟩ .failed })
  | streamNext (item : Except WSError RawMessage) : s.streaming = true →
      Step s (.streamNext item) (forward { s with yielded := s.yielded ++ [item] } item)
  | streamEnd : s.streaming = true → Step s .streamEnd { s with streaming := false }
  | streamPanic : s.streaming = true → Step s .streamPanic { s with streaming := false }
  | heartbeat {elapsed timestamp sleep u} : s.beating = true →
      s.handleHeartbeatSleepElapsed elapsed timestamp = (u, some sleep) →
      Step s (.heartbeat elapsed timestamp) { u with sleep := sleep }
  | heartbeatEnd {elapsed timestamp u} : s.beating = true →
      s.handleHeartbeatSleepElapsed elapsed timestamp = (u, none) →
      Step s (.heartbeat elapsed timestamp) (free { u with beating := false })
  | heartbeatAborted : s.beating = true → s.heartbeatAbort = true ∨ s.supervised = false →
      Step s .heartbeatAborted (free { s with beating := false })
  | supervise {u} : s.supervise = some u → Step s .supervise u

theorem step_cases {a : SocketAct} (h : s.step a = some t) : Step s a t := by
  cases a with
  | sinkRecv =>
    simp only [step] at h
    split at h
    · rename_i hs hp
      split at h
      · rename_i hm; cases h; exact .sinkRecvNone hs hp hm
      · rename_i hm; cases h; exact .sinkRecv hs hp hm
    · cases h
  | sinkRecvClosed =>
    simp only [step] at h
    split at h
    · rename_i hs hq
      split at h
      · rename_i hn; cases h; exact .sinkRecvClosed hs hq hn
      · cases h
    · cases h
  | sinkSend res =>
    simp only [step] at h
    split at h
    · rename_i hs
      split at h
      · cases h; exact .sinkSent hs
      · cases h; exact .sinkFailed _ hs
    · cases h
  | sinkAborted =>
    simp only [step] at h
    split at h
    · rename_i hs
      split at h
      · rename_i ha; cases h; exact .sinkAborted hs (by simpa using ha)
      · cases h
    · cases h
  | sinkPanic =>
    simp only [step] at h
    split at h
    · rename_i hs; cases h; exact .sinkPanic hs
    · cases h
  | streamNext item =>
    simp only [step] at h
    split at h
    · rename_i hs; cases h; exact .streamNext item hs
    · cases h
  | streamEnd =>
    simp only [step] at h
    split at h
    · rename_i hs; cases h; exact .streamEnd hs
    · cases h
  | streamPanic =>
    simp only [step] at h
    split at h
    · rename_i hs; cases h; exact .streamPanic hs
    · cases h
  | heartbeat elapsed timestamp =>
    simp only [step] at h
    split at h
    · rename_i hb
      split at h
      · rename_i he; cases h; exact .heartbeat hb he
      · rename_i he; cases h; exact .heartbeatEnd hb he
    · cases h
  | heartbeatAborted =>
    simp only [step] at h
    split at h
    · rename_i hb
      simp only [Bool.and_eq_true, Bool.or_eq_true, Bool.not_eq_true'] at hb
      cases h; exact .heartbeatAborted hb.1 hb.2
    · cases h
  | supervise => exact .supervise h

/-! ## What the heartbeat sends -/

def Beat (s : Socket) (m : InRawMessage) : Prop :=
  m = .new (.close (some ⟨.abnormal, "remote partner is inactive"⟩)) ∨
    ∃ timestamp, m = .new (s.config.heartbeatPingMsgFn timestamp)

/-- The heartbeat sends one of its messages, or nothing. -/
theorem handleHeartbeat_cases {elapsed timestamp : Nat} {u : Socket} {o : Option Nat}
    (h : s.handleHeartbeatSleepElapsed elapsed timestamp = (u, o)) :
    u = s ∨ ∃ m, s.Beat m ∧ u = (s.sendRaw m).1 := by
  unfold handleHeartbeatSleepElapsed at h
  split at h
  · obtain ⟨rfl, -⟩ := Prod.mk.inj h; exact .inr ⟨_, .inl rfl, rfl⟩
  · split at h
    · obtain ⟨rfl, -⟩ := Prod.mk.inj h; exact .inl rfl
    · right
      refine ⟨.new (s.config.heartbeatPingMsgFn timestamp), .inr ⟨timestamp, rfl⟩, ?_⟩
      split at h
      · rename_i he; rw [he]; exact (Prod.mk.inj h).1.symm
      · rename_i he; rw [he]; exact (Prod.mk.inj h).1.symm

theorem handleHeartbeat_frame {elapsed timestamp : Nat} {u : Socket} {o : Option Nat}
    (h : s.handleHeartbeatSleepElapsed elapsed timestamp = (u, o)) :
    u = { s with toSink := u.toSink, writes := u.writes } := by
  rcases handleHeartbeat_cases h with rfl | ⟨m, -, rfl⟩
  · rfl
  · exact sendRaw_frame s m

theorem sendRaw_got (s : Socket) (m : InRawMessage) : (s.sendRaw m).1.toSink.got = s.toSink.got := by
  cases h : s.sink.isClosed with
  | true => rw [sendRaw_closed m h]
  | false => rw [sendRaw_open m h]; rfl

theorem handleHeartbeat_got {elapsed timestamp : Nat} {u : Socket} {o : Option Nat}
    (h : s.handleHeartbeatSleepElapsed elapsed timestamp = (u, o)) : u.toSink.got = s.toSink.got := by
  rcases handleHeartbeat_cases h with rfl | ⟨m, -, rfl⟩
  · rfl
  · exact sendRaw_got s m

/-- To what has been sent to `s`'s sink, `t` adds messages of the heartbeat. -/
def Adds (s t : Socket) : Prop := ∃ l, t.toSink.hist = s.toSink.hist ++ l ∧ ∀ m ∈ l, s.Beat m

theorem Adds.same (h : t.toSink.hist = s.toSink.hist) : Adds s t := ⟨[], by simp [h], fun m hm => by cases hm⟩

theorem sendRaw_adds {m : InRawMessage} (h : s.Beat m) : Adds s (s.sendRaw m).1 := by
  cases hc : s.sink.isClosed with
  | true => rw [sendRaw_closed m hc]; exact .same rfl
  | false =>
    rw [sendRaw_open m hc]
    refine ⟨[m], by simp, fun n hn => ?_⟩
    rw [List.mem_singleton.mp hn]; exact h

theorem handleHeartbeat_adds {elapsed timestamp : Nat} {u : Socket} {o : Option Nat}
    (h : s.handleHeartbeatSleepElapsed elapsed timestamp = (u, o)) : Adds s u := by
  rcases handleHeartbeat_cases h with rfl | ⟨m, hm, rfl⟩
  · exact .same rfl
  · exact sendRaw_adds hm

/-! ## What the tasks leave alone -/

theorem forward_frame (s : Socket) (item : Except WSError RawMessage) :
    s.forward item = { s with streaming := (s.forward item).streaming, toOwner := (s.forward item).toOwner } := by
  rcases item with _ | (_ | _ | _ | _ | _) <;> simp only [forward] <;> first | rfl | (split <;> rfl)

theorem forward_got (s : Socket) (item : Except WSError RawMessage) :
    (s.forward item).toOwner.got = s.toOwner.got := by
  rcases item with _ | (_ | _ | _ | _ | _) <;> simp only [forward] <;> first | rfl | (split <;> rfl)

/-- What the stream of a socket yields is passed on to its owner, or it is a Ping or a Pong. -/
theorem forward_owned (ho : s.owned = true) (item : Except WSError RawMessage) : s.forward item = s ∨
    ∃ m : Except WSError Message, item = m.map Message.toRaw ∧
      s.forward item = { s with toOwner := s.toOwner.push m } := by
  rcases item with err | (t | b | b | b | frame)
  · exact .inr ⟨.error err, rfl, if_pos ho⟩
  · exact .inr ⟨.ok (.text t), rfl, if_pos ho⟩
  · exact .inr ⟨.ok (.binary b), rfl, if_pos ho⟩
  · exact .inl rfl
  · exact .inl rfl
  · exact .inr ⟨.ok (.close frame), rfl, if_pos ho⟩

theorem supervise_frame (h : s.supervise = some t) : t = { s with
    supervisor := t.supervisor, sinkAbort := t.sinkAbort, heartbeatAbort := t.heartbeatAbort,
    sinkResult := t.sinkResult } := by
  unfold supervise at h
  split at h <;> (try split at h) <;> (try split at h) <;> first | (cases h; rfl) | cases h

theorem step_owner {a : SocketAct} (h : s.step a = some t) :
    t.owned = s.owned ∧ t.resultTaken = s.resultTaken ∧ t.toOwner.got = s.toOwner.got ∧ t.config = s.config := by
  cases step_cases h with
  | streamNext item _ =>
    rw [forward_got, forward_frame]
    exact ⟨rfl, rfl, rfl, rfl⟩
  | heartbeat _ he => rw [handleHeartbeat_frame he]; exact ⟨rfl, rfl, rfl, rfl⟩
  | heartbeatEnd _ he =>
    simp only [free_owned, free_resultTaken, free_toOwner, free_config]
    rw [handleHeartbeat_frame he]
    exact ⟨rfl, rfl, rfl, rfl⟩
  | supervise h => rw [supervise_frame h]; exact ⟨rfl, rfl, rfl, rfl⟩
  | _ => simp

theorem recv_got {item : Option (Except WSError Message)} (h : s.recv = some (item, t)) :
    t.toOwner.got = s.toOwner.got ++ item.toList := by
  unfold recv at h
  split at h
  · rename_i x c hp
    cases h
    exact (Chan.pop?_some.mp hp).2
  · split at h
    · cases h
    · cases h; simp

theorem recv_queue {item : Option (Except WSError Message)} (h : s.recv = some (item, t)) :
    ∃ l, l = item.toList ∧ s.toOwner.queue = l ++ t.toOwner.queue := by
  unfold recv at h
  split at h
  · rename_i x c hp
    cases h
    exact ⟨_, rfl, (Chan.pop?_some.mp hp).1⟩
  · split at h
    · cases h
    · cases h; exact ⟨_, rfl, rfl⟩

theorem recv_frame {item : Option (Except WSError Message)} (h : s.recv = some (item, t)) :
    t = { s with toOwner := t.toOwner } := by
  unfold recv at h
  split at h
  · cases h; rfl
  · split at h <;> cases h; rfl

theorem awaitSinkClose_frame {res : Except WSError Unit} (h : s.awaitSinkClose = some (res, t)) :
    t = { s with resultTaken := t.resultTaken, sinkResult := t.sinkResult } := by
  unfold awaitSinkClose at h
  split at h
  · cases h; rfl
  · split at h <;> cases h <;> rfl

theorem step_adds {a : SocketAct} (h : s.step a = some t) : Adds s t := by
  cases step_cases h with
  | sinkRecvNone _ hp _ | sinkRecv _ hp _ => exact .same (Chan.pop?_hist hp)
  | streamNext item _ => rw [forward_frame]; exact .same rfl
  | heartbeat _ he =>
    have ha := handleHeartbeat_adds he
    exact ha
  | heartbeatEnd _ he =>
    obtain ⟨l, hl, hb⟩ := handleHeartbeat_adds he
    exact ⟨l, by simpa using hl, hb⟩
  | supervise h => rw [supervise_frame h]; exact .same rfl
  | _ => exact .same (by simp)

theorem step_hist {a : SocketAct} (h : s.step a = some t) : s.toSink.hist <+: t.toSink.hist := by
  obtain ⟨l, hl, -⟩ := step_adds h
  exact ⟨l, hl.symm⟩

theorem step_isClosed {a : SocketAct} (h : s.step a = some t) (hc : s.sink.isClosed = true) :
    t.sink.isClosed = true := by
  cases step_cases h with
  | sinkRecvNone hs | sinkRecv hs | sinkRecvClosed hs | sinkSent hs | sinkFailed _ hs | sinkAborted hs
  | sinkPanic hs => rw [hs] at hc; cases hc
  | streamNext item _ => rw [forward_frame]; exact hc
  | heartbeat _ he => rw [handleHeartbeat_frame he]; exact hc
  | heartbeatEnd _ he =>
    rw [free_sink, handleHeartbeat_frame he]
    exact hc
  | heartbeatAborted => rw [free_sink]; exact hc
  | streamEnd | streamPanic => exact hc
  | supervise h => rw [supervise_frame h]; exact hc

theorem step_yielded {a : SocketAct} (h : s.step a = some t) :
    t.yielded = s.yielded ∨ ∃ item, a = .streamNext item ∧ t.yielded = s.yielded ++ [item] := by
  cases step_cases h with
  | streamNext item _ => exact .inr ⟨item, rfl, by rw [forward_frame]⟩
  | heartbeat _ he => rw [handleHeartbeat_frame he]; exact .inl rfl
  | heartbeatEnd _ he => rw [free_yielded, handleHeartbeat_frame he]; exact .inl rfl
  | supervise h => rw [supervise_frame h]; exact .inl rfl
  | _ => exact .inl (by simp)

end Ezsockets.Socket
