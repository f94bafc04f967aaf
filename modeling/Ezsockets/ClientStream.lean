import Ezsockets.ClientStep
import Ezsockets.Lts

/-!
# What a client reads

The callbacks of a connection are given what the client takes off its
stream, in order (`Reading`). A connection that ends with `on_disconnect`
loses nothing exactly when only errors are left in its stream queue.
-/

namespace Ezsockets

variable {C : Type}

/-- What a callback is given of the stream. -/
def ClientEvent.message : ClientEvent C → Option Message
  | .onText t => some (.text t)
  | .onBinary b => some (.binary b)
  | .onClose frame => some (.close frame)
  | _ => none

/-- The client has a connection that it has not been told to be over, or it is just told so by `on_disconnect`. -/
def ClientPhase.connected : ClientPhase → Bool
  | .select | .awaitSink _ | .handler | .onDisconnect => true
  | _ => false

namespace ClientActor

variable {s t : ClientActor C}

/-- What the callbacks of connection `k` were given. -/
def passed (s : ClientActor C) (k : Nat) : List Message :=
  (s.log.filter fun e => e.1 == k + 1).filterMap (·.2.message)

def gots (s : ClientActor C) : List (List (Except WSError Message)) := s.socks.map (·.toOwner.got)

theorem passed_append {k : Nat} {l : List (Nat × ClientEvent C)} (h : t.log = s.log ++ l) :
    t.passed k = s.passed k ++ (l.filter fun e => e.1 == k + 1).filterMap (·.2.message) := by
  unfold passed
  rw [h, List.filter_append, List.filterMap_append]

structure Reading (s : ClientActor C) : Prop where
  tags : ∀ e ∈ s.log, e.1 ≤ s.socks.length
  passed : ∀ (k : Nat) l, s.gots[k]? = some l → s.passed k = l.filterMap Except.toOption
  ready : s.phase.connected = true → 0 < s.socks.length
  unclosed : s.phase.connected = true → ∀ e ∈ s.log, e.1 = s.socks.length → ∀ frame, e.2 ≠ .onClose frame

theorem Reading.keep (g : Reading s) {l : List (Nat × ClientEvent C)} (hl : t.log = s.log ++ l)
    (hm : ∀ e ∈ l, e.1 = s.socks.length ∧ e.2.message = none) (hs : t.gots = s.gots)
    (hp : t.phase.connected = true → s.phase.connected = true) : Reading t := by
  have hlen : t.socks.length = s.socks.length := by
    have := congrArg List.length hs
    simpa [gots] using this
  refine ⟨fun e he => ?_, fun k x hx => ?_, fun h => by rw [hlen]; exact g.ready (hp h), fun h e he ht frame => ?_⟩
  · rw [hl, List.mem_append] at he
    rw [hlen]
    rcases he with he | he
    · exact g.tags e he
    · exact Nat.le_of_eq (hm e he).1
  · have hn : (l.filter fun e => e.1 == k + 1).filterMap (·.2.message) = [] :=
      List.filterMap_eq_nil_iff.mpr fun e he => (hm e (List.mem_of_mem_filter he)).2
    rw [passed_append hl, hn, List.append_nil]
    rw [hs] at hx
    exact g.passed k x hx
  · rw [hl, List.mem_append] at he
    rw [hlen] at ht
    rcases he with he | he
    · exact g.unclosed (hp h) e he ht frame
    · intro hf
      have := (hm e he).2
      rw [hf] at this; cases this

theorem drop_got (x : Socket) : x.drop.toOwner.got = x.toOwner.got := by rw [Socket.drop_toOwner]

theorem Reading.finish (g : Reading s) (res : Except Error Unit) : Reading (s.finish res) :=
  g.keep (l := []) (by simp) (fun e he => by cases he) (finish_map s res drop_got) (by simp [ClientPhase.connected])

theorem create_reading (config : ClientConfig) : Reading (create config : ClientActor C) :=
  ⟨(fun e he => by cases he), (fun k l h => by simp [gots, create] at h), (fun h => by cases h),
    fun h => by cases h⟩

theorem onConnectOk_reading (g : Reading s) :
    Reading { s with socks := s.socks ++ [.new s.config.socket], phase := .select } := by
  have hgots : ({ s with socks := s.socks ++ [.new s.config.socket], phase := .select } : ClientActor C).gots =
      s.gots ++ [[]] := by simp [gots, Socket.new]
  refine ⟨fun e he => ?_, fun k l hk => ?_, fun _ => by simp, fun _ e he ht => ?_⟩
  · have := g.tags e he
    simp only [List.length_append, List.length_singleton]
    omega
  · rw [hgots] at hk
    refine List.forall_append_one (P := fun k l => s.passed k = l.filterMap Except.toOption) ?_ g.passed k l hk
    -- no callback of the new connection has run
    rw [List.filterMap_nil, passed, List.filterMap_eq_nil_iff]
    intro e he
    have ht := g.tags e (List.mem_of_mem_filter he)
    have hk := (List.mem_filter.mp he).2
    simp only [gots, List.length_map, beq_iff_eq] at hk
    omega
  · have := g.tags e he
    simp only [List.length_append, List.length_singleton] at ht
    omega

theorem handleIncomingMsg_cases (s : ClientActor C) (item : Option (Except WSError Message)) :
    ∃ e p, s.handleIncomingMsg item = { s.event e with phase := p } ∧ e.message = item.bind Except.toOption ∧
      (p.connected = true → ∀ frame, e ≠ .onClose frame) := by
  rcases item with _ | (err | (x | x | frame))
  · exact ⟨.onDisconnect, .onDisconnect, rfl, rfl, fun _ _ h => by cases h⟩
  · exact ⟨.onDisconnect, .onDisconnect, rfl, rfl, fun _ _ h => by cases h⟩
  · exact ⟨.onText x, .handler, rfl, rfl, fun _ _ h => by cases h⟩
  · exact ⟨.onBinary x, .handler, rfl, rfl, fun _ _ h => by cases h⟩
  · exact ⟨.onClose frame, .onClose, rfl, rfl, fun h => by cases h⟩

theorem conn_length (g : Reading s) (hp : s.phase.connected = true) : s.conn + 1 = s.socks.length := by
  have := g.ready hp
  unfold conn; omega

theorem incoming_reading (g : Reading s) {x y : Socket} {item : Option (Except WSError Message)}
    (hp : s.phase = .select) (hx : s.socks[s.conn]? = some x) (hr : x.recv = some (item, y)) :
    Reading ((s.setSocket y).handleIncomingMsg item) := by
  have hc : s.phase.connected = true := by rw [hp]; rfl
  have hlen := conn_length g hc
  obtain ⟨e, p, he, hm, hf⟩ := handleIncomingMsg_cases (s.setSocket y) item
  have hlog : ((s.setSocket y).handleIncomingMsg item).log = s.log ++ [(s.socks.length, e)] := by
    rw [he]; simp [event, setSocket]
  have hsocks : ((s.setSocket y).handleIncomingMsg item).socks = s.socks.set s.conn y := by rw [he]; rfl
  refine ⟨fun e he => ?_, fun k l hk => ?_, fun _ => ?_, fun h e' he' ht frame => ?_⟩
  · rw [hsocks, List.length_set]
    rw [hlog, List.mem_append, List.mem_singleton] at he
    rcases he with he | rfl
    · exact g.tags e he
    · exact Nat.le_refl _
  · rw [passed_append hlog]
    rw [gots, hsocks, List.getElem?_map, List.getElem?_set_of hx] at hk
    by_cases hkc : k = s.conn
    · subst hkc
      rw [if_pos rfl] at hk
      simp only [Option.map_some, Option.some.injEq] at hk
      have hgot := Socket.recv_got hr
      have hold := g.passed s.conn x.toOwner.got (by rw [gots, List.getElem?_map, hx]; rfl)
      rw [← hk, hgot, List.filterMap_append, ← hold, hlen]
      cases item with
      | none => simp [hm]
      | some item => cases item <;> simp [hm, Except.toOption]
    · rw [if_neg hkc] at hk
      have hold := g.passed k l (by rw [gots, List.getElem?_map]; exact hk)
      have hne : (s.socks.length == k + 1) = false := by
        rw [beq_eq_false_iff_ne]; omega
      rw [hold]
      simp [hne]
  · rw [hsocks, List.length_set]; exact g.ready hc
  · rw [hsocks, List.length_set] at ht
    rw [hlog, List.mem_append, List.mem_singleton] at he'
    rcases he' with he' | rfl
    · exact g.unclosed hc e' he' ht frame
    · rw [he] at h; exact hf h frame

theorem sinkClosed_reading (g : Reading s) {x y : Socket} {res : Except WSError Unit} {closedSelf : Bool}
    (hp : s.phase = .awaitSink closedSelf) (hx : s.socks[s.conn]? = some x)
    (hr : x.awaitSinkClose = some (res, y)) : Reading ((s.setSocket y).sinkClosed closedSelf res) := by
  have hc : s.phase.connected = true := by rw [hp]; rfl
  have hs : (s.setSocket y).gots = s.gots := setSocket_map rfl hx (by rw [Socket.awaitSinkClose_frame hr])
  have hlen : (s.setSocket y).socks.length = s.socks.length := List.length_set
  have g' : Reading (s.setSocket y) :=
    g.keep (l := []) (by simp [setSocket]) (fun e he => by cases he) hs fun h => h
  rcases sinkClosed_cases (s.setSocket y) closedSelf res with ⟨r, he⟩ | ⟨-, -, he⟩ | he
  · rw [he]; exact g'.finish r
  · rw [he]
    refine g.keep (l := [(s.socks.length, .onDisconnect)]) ?_ (fun e he => ?_) hs fun _ => hc
    · simp [handleDisconnect, event, setSocket]
    · rw [List.mem_singleton.mp he]; exact ⟨rfl, rfl⟩
  · rw [he]
    exact g.keep (l := []) (by simp [setSocket]) (fun e he => by cases he) hs fun _ => hc

theorem step_reading {a : ClientAct C} (g : Reading s) (h : s.step a = some t) : Reading t := by
  have event : ∀ {u : ClientActor C} {p : ClientPhase} (e : ClientEvent C), u.log = s.log → u.gots = s.gots →
      e.message = none → (p.connected = true → s.phase.connected = true) →
      Reading { u.event e with phase := p } := by
    intro u p e hl hs he hp
    have hlen : u.socks.length = s.socks.length := by
      have := congrArg List.length hs
      simpa [gots] using this
    refine g.keep (l := [(s.socks.length, e)]) ?_ (fun e' he' => ?_) hs hp
    · simp [ClientActor.event, hl, hlen]
    · rw [List.mem_singleton.mp he']; exact ⟨rfl, he⟩
  have same : ∀ {u : ClientActor C}, u.log = s.log → u.gots = s.gots →
      (u.phase.connected = true → s.phase.connected = true) → Reading u := by
    intro u hl hs hp
    exact g.keep (l := []) (by simp [hl]) (fun e he => by cases he) hs hp
  cases step_cases h with
  | text m | binary m | close m => unfold send; split <;> exact same rfl rfl fun h => h
  | call c => unfold call; split <;> exact same rfl rfl fun h => h
  | dropClients keep => exact same (by simp) (by simp [gots]) (by simp)
  | dropCallSenders => exact same rfl rfl fun h => h
  | @drainClose _ _ m c frame hp =>
    exact (same (u := { s with toSocket := c, writes := s.writes ++ m.drop }) rfl rfl fun h => h).finish _
  | drainMessage hp => exact same rfl rfl fun h => h
  | drainEmpty hp | connected hp | connectFailed _ hp | retry hp => exact event _ rfl rfl rfl fun h => by cases h
  | drainDead | onConnectErr | exhausted | connectFailClose | connectFailErr | outgoingClosed | callsClosed
  | handlerErr | onCloseClose | onCloseErr | onDisconnectClose | onDisconnectErr | panic => exact g.finish _
  | onConnectOk hp => exact onConnectOk_reading g
  | slept hp | closeSlept hp => exact same rfl rfl fun h => by cases h
  | handOver hp hq hx => exact same rfl (setSocket_map rfl hx rfl) fun h => h
  | @handOverClose m c x frame hp hq hx =>
    have hs : ({ s with toSocket := c }.setSocket { x with toSink := x.toSink.push m.toRaw }).gots = s.gots :=
      setSocket_map rfl hx rfl
    have g' := same (u := { s with toSocket := c }.setSocket { x with toSink := x.toSink.push m.toRaw }) rfl hs
      fun h => h
    exact g'.finish _
  | sendFailed hp hq hx => exact same rfl (setSocket_map rfl hx rfl) fun _ => by rw [hp]; rfl
  | takeCall hp => exact event _ rfl rfl rfl fun _ => by rw [hp]; rfl
  | incoming hp hx hr => exact incoming_reading g hp hx hr
  | sinkClosed hp hx hr => exact sinkClosed_reading g hp hx hr
  | handlerOk hp => exact same rfl rfl fun _ => by rw [hp]; rfl
  | onCloseReconnect hp => exact event _ rfl (dropSocket_map s drop_got) rfl fun h => by cases h
  | onDisconnectReconnect hp => exact same rfl (dropSocket_map s drop_got) fun h => by cases h
  | socket a hx hs => exact same rfl (List.map_set_of hx (Socket.step_owner hs).2.2.1) fun h => h

theorem reach_reading {config : ClientConfig} (h : Lts.Reach step (create config : ClientActor C) s) : Reading s :=
  Lts.reach_inv (create_reading config) (fun _ _ _ _ g hs => step_reading g hs) h

/-! ## A connection that dies -/

/-- The stream has ended and its queue is empty, or an error is next. -/
def StreamOver (x : Socket) : Prop :=
  (x.toOwner.queue = [] ∧ x.streaming = false) ∨ ∃ err rest, x.toOwner.queue = .error err :: rest

/-- `await_sink_close` was answered before, or it is now with an error of a dead connection. -/
def SinkOver (x : Socket) : Prop :=
  x.resultTaken = true ∨ (∃ err, x.sinkResult = some (.error err) ∧ isDisconnect err = true) ∨
    (x.sinkResult = none ∧ x.supervisor = .done)

theorem recv_over {x y : Socket} {item : Option (Except WSError Message)} (h : x.recv = some (item, y)) :
    StreamOver x ↔ item.bind Except.toOption = none := by
  unfold Socket.recv at h
  split at h
  · rename_i m c hp
    obtain ⟨hq, -⟩ := Chan.pop?_some.mp hp
    cases h
    cases m with
    | error err => exact iff_of_true (.inr ⟨err, c.queue, hq⟩) rfl
    | ok m =>
      refine iff_of_false (fun ho => ?_) (by simp [Except.toOption])
      rcases ho with ⟨he, -⟩ | ⟨err, rest, he⟩ <;> rw [hq] at he <;> cases he
  · rename_i hp
    split at h
    · cases h
    · rename_i hs
      cases h
      exact iff_of_true (.inl ⟨Chan.pop?_none.mp hp, by simpa using hs⟩) rfl

theorem over_recv {x : Socket} (h : StreamOver x) : ∃ item y, x.recv = some (item, y) := by
  unfold Socket.recv
  rcases h with ⟨hq, hs⟩ | ⟨err, rest, hq⟩
  · rw [Chan.pop?_none.mpr hq]
    exact ⟨none, x, by simp [hs]⟩
  · have hp : x.toOwner.pop? = some (.error err, ⟨x.toOwner.got ++ [.error err], rest⟩) :=
      Chan.pop?_some.mpr ⟨hq, rfl⟩
    rw [hp]
    exact ⟨_, _, rfl⟩

theorem awaitSinkClose_over {x : Socket} :
    SinkOver x ↔ ∃ err y, x.awaitSinkClose = some (.error err, y) ∧ isDisconnect err = true := by
  unfold SinkOver Socket.awaitSinkClose
  by_cases ht : x.resultTaken = true
  · rw [if_pos ht]
    exact iff_of_true (.inl ht) ⟨.alreadyClosed, x, rfl, rfl⟩
  · rw [if_neg ht]
    rcases hr : x.sinkResult with _ | (err | _) <;> cases hs : x.supervisor <;> simp [ht, isDisconnect]

/-- The step calls `on_disconnect`: the stream is over, or a send failed and the sink's result is taken for the end
of the connection. -/
def Disconnects (s : ClientActor C) (a : ClientAct C) : Prop :=
  ∃ x, s.socks[s.conn]? = some x ∧
    ((a = .incoming ∧ s.phase = .select ∧ StreamOver x) ∨
    (a = .sinkClosed ∧ s.phase = .awaitSink false ∧ SinkOver x))

/-- A step that calls `on_disconnect` comes after every message of the connection's stream has been passed on, and
none of them was a `Close`. -/
def Lossless (s : ClientActor C) (a : ClientAct C) : Prop :=
  ∀ t, s.step a = some t → s.phase ≠ .onDisconnect → t.phase = .onDisconnect → ∀ x, t.socks[t.conn]? = some x →
    t.passed t.conn = x.toOwner.hist.filterMap Except.toOption ∧ ∀ frame, .ok (.close frame) ∉ x.toOwner.hist

/-- A step that calls `on_disconnect` finds only errors in the stream queue, as it does where the stream has
ended. -/
def Quiet (s : ClientActor C) (a : ClientAct C) : Prop :=
  s.Disconnects a → ∀ x, s.socks[s.conn]? = some x → ∀ item ∈ x.toOwner.queue, ∃ err, item = .error err

theorem step_disconnects {a : ClientAct C} (h : s.step a = some t) (hn : s.phase ≠ .onDisconnect)
    (hp : t.phase = .onDisconnect) : s.Disconnects a := by
  cases step_cases h with
  | text m | binary m | close m => unfold send at hp; split at hp <;> exact absurd hp hn
  | call c => unfold call at hp; split at hp <;> exact absurd hp hn
  | dropClients => rw [free_phase] at hp; exact absurd hp hn
  | drainMessage | dropCallSenders | handOver | socket => exact absurd hp hn
  | drainClose | drainDead | onConnectErr | exhausted | connectFailClose | connectFailErr | outgoingClosed
  | callsClosed | handlerErr | onCloseClose | onCloseErr | onDisconnectClose | onDisconnectErr | panic
  | handOverClose => rw [finish_phase] at hp; cases hp
  | @incoming x y item hs hx hr =>
    refine ⟨x, hx, .inl ⟨rfl, hs, (recv_over hr).mpr ?_⟩⟩
    rcases item with _ | (err | (m | m | m))
    · rfl
    · rfl
    all_goals cases hp
  | @sinkClosed x y res closedSelf hs hx hr =>
    rcases sinkClosed_cases (s.setSocket y) closedSelf res with ⟨r, he⟩ | ⟨hc, ⟨err, rfl, hd⟩, -⟩ | he
    · rw [he, finish_phase] at hp; cases hp
    · rw [hc] at hs
      exact ⟨x, hx, .inr ⟨rfl, hs, awaitSinkClose_over.mpr ⟨err, y, hr, hd⟩⟩⟩
    · rw [he] at hp; cases hp
  | _ => cases hp

theorem sinkClosed_disconnect (s : ClientActor C) {err : WSError} (h : isDisconnect err = true) :
    s.sinkClosed false (.error err) = s.handleDisconnect := by
  simp [sinkClosed, h]

/-- The stream queue before and after a step that calls `on_disconnect`. -/
theorem disconnects_step {a : ClientAct C} (hd : s.Disconnects a) : ∃ t x y, s.step a = some t ∧
    s.phase ≠ .onDisconnect ∧ t.phase = .onDisconnect ∧ s.socks[s.conn]? = some x ∧ t.socks[t.conn]? = some y ∧
    ∃ l, x.toOwner.queue = l ++ y.toOwner.queue ∧ ∀ item ∈ l, ∃ err, item = .error err := by
  obtain ⟨x, hx, ⟨rfl, hp, ho⟩ | ⟨rfl, hp, ho⟩⟩ := hd
  · obtain ⟨item, y, hr⟩ := over_recv ho
    have hi := (recv_over hr).mp ho
    obtain ⟨l, hl, hq⟩ := Socket.recv_queue hr
    refine ⟨(s.setSocket y).handleIncomingMsg item, x, y, ?_, by rw [hp]; simp, ?_, hx, ?_, l, hq, fun i hm => ?_⟩
    · simp [step, hp, hx, hr]
    · rcases item with _ | (err | m)
      · rfl
      · rfl
      · cases hi
    · have hs := setSocket_conn (y := y) hx
      rcases item with _ | (err | m)
      · exact hs
      · exact hs
      · cases hi
    · rw [hl, Option.mem_toList] at hm
      subst hm
      cases i with
      | error err => exact ⟨err, rfl⟩
      | ok m => cases hi
  · obtain ⟨err, y, hr, hd⟩ := awaitSinkClose_over.mp ho
    have hq : y.toOwner = x.toOwner := by rw [Socket.awaitSinkClose_frame hr]
    refine ⟨(s.setSocket y).handleDisconnect, x, y, ?_, by rw [hp]; simp, rfl, hx, ?_, [], ?_,
      fun i hm => by cases hm⟩
    · rw [← sinkClosed_disconnect _ hd]
      simp [step, hp, hx, hr]
    · exact setSocket_conn (y := y) hx
    · rw [hq]; rfl

theorem message_close {e : ClientEvent C} {frame : Option CloseFrame} (h : e.message = some (.close frame)) :
    e = .onClose frame := by
  cases e <;> simp [ClientEvent.message] at h
  rw [h]

theorem Reading.no_close (g : Reading s) (hp : s.phase.connected = true) (frame : Option CloseFrame) :
    .close frame ∉ s.passed s.conn := by
  intro hm
  obtain ⟨e, he, hf⟩ := List.mem_filterMap.mp hm
  obtain ⟨he, hk⟩ := List.mem_filter.mp he
  rw [beq_iff_eq, conn_length g hp] at hk
  exact g.unclosed hp e he hk frame (message_close hf)

theorem Reading.passed_conn (g : Reading s) {x : Socket} (hx : s.socks[s.conn]? = some x) :
    s.passed s.conn = x.toOwner.got.filterMap Except.toOption :=
  g.passed s.conn _ (by rw [gots, List.getElem?_map, hx]; rfl)

/-- What was taken was passed on and was no `Close`, so only the queue counts. -/
theorem Reading.rest (g : Reading s) (hp : s.phase = .onDisconnect) {x : Socket} (hx : s.socks[s.conn]? = some x) :
    (s.passed s.conn = x.toOwner.hist.filterMap Except.toOption ∧ ∀ frame, .ok (.close frame) ∉ x.toOwner.hist) ↔
      ∀ item ∈ x.toOwner.queue, ∃ err, item = .error err := by
  have hall : s.passed s.conn = x.toOwner.hist.filterMap Except.toOption ↔
      ∀ item ∈ x.toOwner.queue, item.toOption = none := by
    rw [g.passed_conn hx, Chan.hist, List.filterMap_append, List.self_eq_append_right, List.filterMap_eq_nil_iff]
  constructor
  · rintro ⟨h, -⟩ item hi
    have hn := hall.mp h item hi
    cases item with
    | error err => exact ⟨err, rfl⟩
    | ok m => cases hn
  · intro h
    refine ⟨hall.mpr fun item hi => ?_, fun frame hf => ?_⟩
    · obtain ⟨err, rfl⟩ := h item hi
      rfl
    · rcases List.mem_append.mp hf with hg | hq
      · apply g.no_close (by rw [hp]; rfl) frame
        rw [g.passed_conn hx, List.mem_filterMap]
        exact ⟨_, hg, rfl⟩
      · obtain ⟨err, he⟩ := h _ hq
        cases he

theorem lossless_iff_quiet (g : Reading s) (a : ClientAct C) : s.Lossless a ↔ s.Quiet a := by
  constructor
  · intro h hd x hx item hi
    obtain ⟨t, x', y, hs, hn, hp, hx', hy, l, hq, hl⟩ := disconnects_step hd
    cases hx.symm.trans hx'
    rw [hq, List.mem_append] at hi
    rcases hi with hi | hi
    · exact hl item hi
    · exact ((step_reading g hs).rest hp hy).mp (h t hs hn hp y hy) item hi
  · intro h t ht hn hp y hy
    have hd := step_disconnects ht hn hp
    obtain ⟨t', x, y', hs, -, -, hx, hy', l, hq, -⟩ := disconnects_step hd
    cases ht.symm.trans hs
    cases hy.symm.trans hy'
    refine ((step_reading g hs).rest hp hy).mpr fun item hi => h hd x hx item ?_
    rw [hq]
    exact List.mem_append_right l hi

/-- The runs of a client that lose nothing to `on_disconnect` are those in which it finds only errors. -/
theorem client_lossless_iff (config : ClientConfig) (as : List (ClientAct C)) :
    Lts.Along step Lossless (create config) as ↔ Lts.Along step Quiet (create config) as :=
  Lts.along_congr (fun _ a hr => lossless_iff_quiet (reach_reading hr) a) as

/-- The server's text and `Close` are queued when the supervisor has stopped the sink. The client's first send is
told so and goes back to the loop; after the second one `on_disconnect` runs, and neither is read. -/
theorem close_unread : ∃ (as : List (ClientAct Nat)) (s t : ClientActor Nat) (x : Socket) (frame : CloseFrame),
    Lts.exec step (create ⟨1, 1, none⟩) as = some s ∧ s.step .sinkClosed = some t ∧ s.phase = .awaitSink false ∧
      t.phase = .onDisconnect ∧ t.socks[t.conn]? = some x ∧ .ok (.text "hi") ∈ x.toOwner.queue ∧
      .ok (.close (some frame)) ∈ x.toOwner.queue ∧ t.passed t.conn = [] ∧ ¬ s.Lossless .sinkClosed := by
  have h : Lts.exec step (create ⟨1, 1, none⟩ : ClientActor Nat) [
    .tryRecv, .connected, .onConnectReturn (.ok ()), .socket 0 (.streamNext (.ok (.text "hi"))),
    .socket 0 (.streamNext (.ok (.close (some ⟨.restart, "bye"⟩)))), .socket 0 .streamEnd, .socket 0 .supervise,
    .socket 0 .supervise, .socket 0 .sinkAborted, .socket 0 .supervise, .socket 0 .supervise, .socket 0 .supervise]
    = some _ := rfl
  let bs : List (ClientAct Nat) := [.text "x", .outgoing, .sinkClosed, .text "y", .outgoing]
  have h' : Lts.exec step _ (_ ++ bs) = some _ := Lts.exec_append h rfl
  refine ⟨_, _, _, _, ⟨.restart, "bye"⟩, h', rfl, rfl, rfl, rfl, List.mem_cons_self,
    List.mem_cons_of_mem _ List.mem_cons_self, rfl, fun hl => ?_⟩
  obtain ⟨hp, -⟩ := hl _ rfl (fun h => by cases h) rfl _ rfl
  cases hp

end ClientActor

end Ezsockets
