import Ezsockets.Connect

/-!
# The attempts of a client

A client calls `client_connect` when it starts, with the limit
`max_initial_connect_attempts`, and after each connection that it is to
replace, with `max_reconnect_attempts`. Each of its steps between two
connections is one of such a call (`step_connects`), so over its whole life
the attempts keep to these limits (`attempts_limited`).
-/

namespace Ezsockets

/-- The limit on the attempts that follow the `k`-th connection. -/
def ClientConfig.limit (config : ClientConfig) (k : Nat) : Nat :=
  if k = 0 then config.maxInitialConnectAttempts else config.maxReconnectAttempts

/-- The client has had a connection, and has not begun to replace it. -/
def ClientPhase.serving : ClientPhase → Bool
  | .select | .awaitSink _ | .handler | .onClose | .closeSleep | .onDisconnect => true
  | _ => false

/-- What is only done in `client_connect`, which sleeps as well. -/
def ClientEvent.ofConnect {C : Type} : ClientEvent C → Bool
  | .connect _ | .onConnect | .onConnectFail _ => true
  | _ => false

namespace ClientActor

variable {C : Type} {usizeMax n k : Nat} {checks : Bool} {s t : ClientActor C} {c : Connect}
  {l : List (Nat × ClientEvent C)}

/-- The client is in the phase of its call of `client_connect`, with the limit `n`. -/
inductive At (n : Nat) : ClientPhase → ConnectPhase → Nat → Prop
  | drain (i : Nat) : At n (.drain i n) (.drain i) (i + 1)
  | connecting (i : Nat) : At n (.connecting i n) (.connecting i) (i + 1)
  | onConnect (range : Nat) : At n .onConnect .onConnect range
  | onConnectFail (i : Nat) : At n (.onConnectFail i n) (.onConnectFail i) (i + 1)
  | sleeping (i : Nat) : At n (.sleeping i n) .sleeping (i + 1)

def shown : ConnectEvent → Option (ClientEvent C)
  | .attempt i => some (.connect i)
  | .onConnect => some .onConnect
  | .onConnectFail error => some (.onConnectFail error)
  | .sleep => some .sleep
  | .failed _ | .answered _ => none

/-- With `k` connections so far, and the log `l` before the call, what the client's log is. -/
def Recorded (k : Nat) (l log : List (Nat × ClientEvent C)) (events : List ConnectEvent) : Prop :=
  log = l ++ (events.filterMap shown).map (k, ·)

/-- The call is where the client is. -/
structure Connects (n k : Nat) (l : List (Nat × ClientEvent C)) (s : ClientActor C) (c : Connect) : Prop where
  config : c.config = s.config
  toSocket : c.toSocket = s.toSocket
  clients : c.clients = s.clients
  phase : At n s.phase c.phase c.range
  socks : s.socks.length = k
  log : Recorded k l s.log c.log

/-- The client goes on with what the call has returned. -/
inductive Leaves (s t : ClientActor C) (c : Connect) : Prop
  | connected (socket : Socket) : c.phase = .returned (.connected socket) → t.phase = .select →
      t.socks = s.socks ++ [socket] → Leaves s t c
  | closed {e} : c.phase = .returned e → e.result = .ok none → t.phase = .done (.ok ()) → Leaves s t c
  | failed {e err} : c.phase = .returned e → e.result = .error err → t.phase = .done (.error err) → Leaves s t c
  | crashed : c.phase = .panicked → t.phase = .done (.error clientCrashed) → Leaves s t c

theorem Recorded.snoc {log : List (Nat × ClientEvent C)} {events : List ConnectEvent} {e : ConnectEvent}
    {x : ClientEvent C} (g : Recorded k l log events) (he : shown e = some x) :
    Recorded k l (log ++ [(k, x)]) (events ++ [e]) := by
  unfold Recorded at *
  rw [g, List.filterMap_append, List.map_append, ← List.append_assoc]
  simp [he]

theorem Recorded.hidden {log : List (Nat × ClientEvent C)} {events : List ConnectEvent} {e : ConnectEvent}
    (g : Recorded k l log events) (he : shown (C := C) e = none) : Recorded k l log (events ++ [e]) := by
  unfold Recorded at *
  rw [g, List.filterMap_append, List.map_append, ← List.append_assoc]
  simp [he]

/-- As long as the counter has not come to its end, each step of a client that connects is one of its call of
`client_connect`. -/
theorem step_connects {a : ClientAct C} (g : Connects n k l s c) (hr : c.phase = .sleeping → c.range < usizeMax)
    (h : s.step a = some t) :
    ∃ d, Lts.Reach (Connect.step usizeMax checks n) c d ∧ Recorded k l t.log d.log ∧
      (Connects n k l t d ∨ Leaves s t d) := by
  obtain ⟨config, toSocket, clients, range, overflowed, phase, events⟩ := c
  obtain ⟨hconf, hq, hc, hp, hk, hl⟩ := g
  simp only at hconf hq hc hp hl hr
  subst hconf hq hc hk
  have sent : ∀ message : Message, ∃ d, Lts.Reach (Connect.step usizeMax checks n)
      ⟨s.config, s.toSocket, s.clients, range, overflowed, phase, events⟩ d ∧
      Recorded s.socks.length l (s.send message).log d.log ∧
        (Connects n s.socks.length l (s.send message) d ∨ Leaves s (s.send message) d) := by
    intro message
    by_cases hs : (s.clients && !s.isDone) = true
    · have hcl : s.clients = true := by
        rw [Bool.and_eq_true] at hs
        exact hs.1
      have hsend : s.send message = { s with
          toSocket := s.toSocket.push (.new message (.handle s.toSocket.hist.length)) } := if_pos hs
      rw [hsend]
      refine ⟨_, .single (a := .send (.new message (.handle s.toSocket.hist.length))) (if_pos hcl), hl, .inl ?_⟩
      exact ⟨rfl, rfl, rfl, hp, rfl, hl⟩
    · have hsend : s.send message = s := if_neg hs
      rw [hsend]
      exact ⟨_, .refl _, hl, .inl ⟨rfl, rfl, rfl, hp, rfl, hl⟩⟩
  cases step_cases h with
  | text | binary | close => exact sent _
  | call x =>
    refine ⟨_, .refl _, ?_, .inl ⟨?_, ?_, ?_, ?_, ?_, ?_⟩⟩
    all_goals unfold call; split <;> first | exact hl | exact hp | rfl
  | dropClients keep =>
    refine ⟨_, .single (a := .dropClients) rfl, ?_, .inl ⟨?_, ?_, ?_, ?_, ?_, ?_⟩⟩
    all_goals unfold free; split <;> first | exact hl | exact hp | rfl
  | dropCallSenders => exact ⟨_, .refl _, hl, .inl ⟨rfl, rfl, rfl, hp, rfl, hl⟩⟩
  | @drainClose attempt _ m c frame hs hpop hm =>
    rw [hs] at hp
    cases hp
    have hd : Connect.step usizeMax checks n
      ⟨s.config, s.toSocket, s.clients, attempt + 1, overflowed, .drain attempt,
        events⟩ .tryRecv = some _ := congrArg some (Connect.tryRecv_close hpop hm)
    exact ⟨_, .single hd, by rw [finish_log]; exact hl, .inr (.closed rfl rfl finish_phase)⟩
  | @drainMessage attempt _ m c hs hpop hm =>
    rw [hs] at hp
    cases hp
    have hd : Connect.step usizeMax checks n
      ⟨s.config, s.toSocket, s.clients, attempt + 1, overflowed, .drain attempt,
        events⟩ .tryRecv = some _ := congrArg some (Connect.tryRecv_message hpop hm)
    exact ⟨_, .single hd, hl, .inl ⟨rfl, rfl, rfl, by rw [hs]; exact .drain _, rfl, hl⟩⟩
  | @drainEmpty attempt _ hs hemp hcl =>
    rw [hs] at hp
    cases hp
    have hd : Connect.step usizeMax checks n
      ⟨s.config, s.toSocket, s.clients, attempt + 1, overflowed, .drain attempt,
        events⟩ .tryRecv = some _ := congrArg some (Connect.tryRecv_empty hemp hcl)
    have hlog := hl.snoc (e := .attempt attempt) rfl
    exact ⟨_, .single hd, hlog, .inl ⟨rfl, rfl, rfl, .connecting _, rfl, hlog⟩⟩
  | @drainDead attempt _ hs hemp hcl =>
    rw [hs] at hp
    cases hp
    have hd : Connect.step usizeMax checks n
      ⟨s.config, s.toSocket, s.clients, attempt + 1, overflowed, .drain attempt,
        events⟩ .tryRecv = some _ := congrArg some (Connect.tryRecv_dead hemp hcl)
    exact ⟨_, .single hd, by rw [finish_log]; exact hl, .inr (.failed rfl rfl finish_phase)⟩
  | @connected attempt _ hs =>
    rw [hs] at hp
    cases hp
    have hd : Connect.step usizeMax checks n ⟨s.config, s.toSocket, s.clients, attempt + 1, overflowed,
        .connecting attempt, events⟩ (.connect (.ok ())) = some _ := rfl
    have hlog := hl.snoc (e := .onConnect) rfl
    exact ⟨_, .single hd, hlog, .inl ⟨rfl, rfl, rfl, .onConnect _, rfl, hlog⟩⟩
  | @connectFailed attempt _ error hs =>
    rw [hs] at hp
    cases hp
    have hd : Connect.step usizeMax checks n ⟨s.config, s.toSocket, s.clients, attempt + 1, overflowed,
        .connecting attempt, events⟩ (.connect (.error error)) = some _ := rfl
    have hlog := (hl.hidden (e := .failed error) rfl).snoc (e := .onConnectFail error) rfl
    exact ⟨_, .single hd, hlog, .inl ⟨rfl, rfl, rfl, .onConnectFail _, rfl, hlog⟩⟩
  | onConnectOk hs =>
    rw [hs] at hp
    cases hp
    have hd : Connect.step usizeMax checks n
      ⟨s.config, s.toSocket, s.clients, range, overflowed, .onConnect, events⟩
        (.onConnectReturn (.ok ())) = some _ := rfl
    exact ⟨_, .single hd, hl, .inr (.connected _ rfl rfl rfl)⟩
  | onConnectErr err hs =>
    rw [hs] at hp
    cases hp
    have hd : Connect.step usizeMax checks n
      ⟨s.config, s.toSocket, s.clients, range, overflowed, .onConnect, events⟩
        (.onConnectReturn (.error err)) = some _ := rfl
    exact ⟨_, .single hd, by rw [finish_log]; exact hl, .inr (.failed rfl rfl finish_phase)⟩
  | @retry attempt _ hs hlt =>
    rw [hs] at hp
    cases hp
    have hd : Connect.step usizeMax checks n ⟨s.config, s.toSocket, s.clients, attempt + 1, overflowed,
        .onConnectFail attempt, events⟩ (.onConnectFailReturn (.ok .reconnect)) = some _ :=
      congrArg some (Connect.retry_of_lt hlt)
    have hlog := (hl.hidden (e := .answered (.ok .reconnect)) rfl).snoc (e := .sleep) rfl
    exact ⟨_, .single hd, hlog, .inl ⟨rfl, rfl, rfl, .sleeping _, rfl, hlog⟩⟩
  | @exhausted attempt _ hs hle =>
    rw [hs] at hp
    cases hp
    have hd : Connect.step usizeMax checks n ⟨s.config, s.toSocket, s.clients, attempt + 1, overflowed,
        .onConnectFail attempt, events⟩ (.onConnectFailReturn (.ok .reconnect)) = some _ :=
      congrArg some (Connect.exhausted_of_le hle)
    exact ⟨_, .single hd, by rw [finish_log]; exact hl.hidden rfl, .inr (.failed rfl rfl finish_phase)⟩
  | @connectFailClose attempt _ hs =>
    rw [hs] at hp
    cases hp
    have hd : Connect.step usizeMax checks n ⟨s.config, s.toSocket, s.clients, attempt + 1, overflowed,
        .onConnectFail attempt, events⟩ (.onConnectFailReturn (.ok .close)) = some _ := rfl
    exact ⟨_, .single hd, by rw [finish_log]; exact hl.hidden rfl, .inr (.closed rfl rfl finish_phase)⟩
  | @connectFailErr attempt _ err hs =>
    rw [hs] at hp
    cases hp
    have hd : Connect.step usizeMax checks n ⟨s.config, s.toSocket, s.clients, attempt + 1, overflowed,
        .onConnectFail attempt, events⟩ (.onConnectFailReturn (.error err)) = some _ := rfl
    exact ⟨_, .single hd, by rw [finish_log]; exact hl.hidden rfl, .inr (.failed rfl rfl finish_phase)⟩
  | @slept attempt _ hs =>
    rw [hs] at hp
    cases hp
    have hd : Connect.step usizeMax checks n ⟨s.config, s.toSocket, s.clients, attempt + 1, overflowed, .sleeping,
        events⟩ .slept = some _ := rfl
    have hn : Connect.step usizeMax checks n
      ⟨s.config, s.toSocket, s.clients, attempt + 1, overflowed, .next, events⟩
        .next = some _ := congrArg some (Connect.next_of_le (hr rfl))
    exact ⟨_, (Lts.Reach.single hd).tail hn, hl, .inl ⟨rfl, rfl, rfl, .drain _, rfl, hl⟩⟩
  | panic hcb =>
    refine ⟨⟨s.config, s.toSocket, s.clients, range, overflowed, .panicked, events⟩, .single (a := .panic) ?_,
      by rw [finish_log]; exact hl, .inr (.crashed rfl finish_phase)⟩
    cases hp' : s.phase with
    | onConnect | onConnectFail => rw [hp'] at hp; cases hp; rfl
    | drain | connecting | sleeping => rw [hp'] at hcb; cases hcb
    | _ => rw [hp'] at hp; cases hp
  | socket => exact ⟨_, .refl _, hl, .inl ⟨rfl, rfl, rfl, hp, List.length_set, hl⟩⟩
  | closeSlept hs | handOver hs | handOverClose hs | sendFailed hs | outgoingClosed hs | takeCall hs
  | callsClosed hs
  | incoming hs | sinkClosed hs | handlerOk hs | handlerErr _ hs | onCloseReconnect hs | onCloseClose hs
  | onCloseErr _ hs | onDisconnectReconnect hs | onDisconnectClose hs | onDisconnectErr _ hs =>
    rw [hs] at hp
    cases hp

/-! ## Whole lives -/

theorem step_socks {a : ClientAct C} (h : s.step a = some t) :
    t.config = s.config ∧ (t.socks.length = s.socks.length ∨ s.phase = .onConnect ∧ t.phase = .select) := by
  have ended : ∀ (u : ClientActor C) (res : Except Error Unit), u.config = s.config →
      u.socks.length = s.socks.length → (u.finish res).config = s.config ∧
        ((u.finish res).socks.length = s.socks.length ∨ s.phase = .onConnect ∧ (u.finish res).phase = .select) := by
    intro u res hc hs
    refine ⟨finish_config.trans hc, .inl ?_⟩
    rw [finish_socks, dropSocket, List.length_modify]
    exact hs
  cases step_cases h with
  | text m | binary m | close m => exact ⟨send_config _, .inl (by rw [send_socks])⟩
  | call c => exact ⟨call_config c, .inl (by rw [call_socks])⟩
  | dropClients => exact ⟨free_config, .inl (by rw [free_socks])⟩
  | dropCallSenders | drainMessage | drainEmpty | connected | connectFailed | retry | slept | closeSlept | takeCall
  | handlerOk => exact ⟨rfl, .inl rfl⟩
  | onConnectOk hp => exact ⟨rfl, .inr ⟨hp, rfl⟩⟩
  | drainClose | drainDead | onConnectErr | exhausted | connectFailClose | connectFailErr | outgoingClosed
  | callsClosed | handlerErr | onCloseClose | onCloseErr | onDisconnectClose | onDisconnectErr | panic =>
    exact ended _ _ rfl rfl
  | handOverClose => exact ended _ _ rfl List.length_set
  | handOver | sendFailed | socket => exact ⟨rfl, .inl List.length_set⟩
  | onCloseReconnect | onDisconnectReconnect => exact ⟨rfl, .inl (List.length_modify ..)⟩
  | @incoming x y item =>
    rw [handleIncomingMsg_frame]
    exact ⟨rfl, .inl List.length_set⟩
  | @sinkClosed x y res closedSelf =>
    rcases sinkClosed_cases (s.setSocket y) closedSelf res with ⟨r, he⟩ | ⟨-, -, he⟩ | he
    · rw [he]; exact ended _ _ rfl List.length_set
    · rw [he]; exact ⟨rfl, .inl List.length_set⟩
    · rw [he]; exact ⟨rfl, .inl List.length_set⟩

/-- From a connection the client goes on to its end, or to the call that replaces it. -/
theorem step_serves {a : ClientAct C} (hp : s.phase.serving = true) (h : s.step a = some t) :
    (t.phase.serving = true ∨ (∃ res, t.phase = .done res) ∨ t.phase = .drain 1 s.config.maxReconnectAttempts) ∧
      ∀ e ∈ t.log, e ∈ s.log ∨ e.2.ofConnect = false := by
  have off {p : ClientPhase} (hs : s.phase = p) (hn : p.serving = false) : False := by
    rw [hs, hn] at hp
    cases hp
  have quiet {log : List (Nat × ClientEvent C)} (hl : log = s.log) :
      ∀ e ∈ log, e ∈ s.log ∨ e.2.ofConnect = false := by
    rw [hl]
    exact fun e he => .inl he
  have called {k : Nat} {x : ClientEvent C} (hx : x.ofConnect = false) :
      ∀ e ∈ s.log ++ [(k, x)], e ∈ s.log ∨ e.2.ofConnect = false := by
    intro e he
    rcases List.mem_append.mp he with he | he
    · exact .inl he
    · rw [List.mem_singleton.mp he]
      exact .inr hx
  cases step_cases h with
  | text m | binary m | close m => exact ⟨.inl (by rw [send_phase]; exact hp), quiet (send_log _)⟩
  | call c => exact ⟨.inl (by rw [call_phase]; exact hp), quiet (call_log c)⟩
  | dropClients => exact ⟨.inl (by rw [free_phase]; exact hp), quiet free_log⟩
  | dropCallSenders | socket | handOver => exact ⟨.inl hp, quiet rfl⟩
  | sendFailed | handlerOk => exact ⟨.inl rfl, quiet rfl⟩
  | takeCall | onCloseReconnect => exact ⟨.inl rfl, called rfl⟩
  | closeSlept | onDisconnectReconnect => exact ⟨.inr (.inr rfl), quiet rfl⟩
  | drainClose hs | drainMessage hs | drainEmpty hs | drainDead hs | connected hs | connectFailed _ hs
  | onConnectOk hs | onConnectErr _ hs | retry hs | exhausted hs | connectFailClose hs | connectFailErr _ hs
  | slept hs => exact (off hs rfl).elim
  | handOverClose | outgoingClosed | callsClosed | handlerErr | onCloseClose | onCloseErr | onDisconnectClose
  | onDisconnectErr | panic => exact ⟨.inr (.inl ⟨_, finish_phase⟩), quiet finish_log⟩
  | @incoming x y item => rcases item with _ | (_ | (_ | _ | _)) <;> exact ⟨.inl rfl, called rfl⟩
  | @sinkClosed x y res closedSelf =>
    rcases sinkClosed_cases (s.setSocket y) closedSelf res with ⟨r, he⟩ | ⟨-, -, he⟩ | he
    · rw [he]; exact ⟨.inr (.inl ⟨_, finish_phase⟩), quiet finish_log⟩
    · rw [he]; exact ⟨.inl rfl, called rfl⟩
    · rw [he]; exact ⟨.inl rfl, quiet rfl⟩

/-- Behind what the client has done with its `k`-th connection the log has the events of the call. -/
def Told (k : Nat) (log : List (Nat × ClientEvent C)) (events : List ConnectEvent) : Prop :=
  ∃ l, log.filter (·.1 == k) = l ++ (events.filterMap shown).map (k, ·) ∧ ∀ e ∈ l, e.2.ofConnect = false

/-- The call that follows the `k`-th connection, as far as it has got. -/
structure Episode (usizeMax : Nat) (checks : Bool) (n k : Nat) (log : List (Nat × ClientEvent C)) (c : Connect) :
    Prop where
  call : ∃ config toSocket clients, Lts.Reach (Connect.step usizeMax checks n) (.start config toSocket clients) c
  told : Told k log c.log

/-- A client that connects is in a call. Another one has not begun one since its last connection, or that is
over. -/
inductive Now (usizeMax : Nat) (checks : Bool) (config : ClientConfig) (k : Nat) (s : ClientActor C) : Prop
  | connects {c l toSocket clients} :
      Lts.Reach (Connect.step usizeMax checks (config.limit k)) (.start config toSocket clients) c →
      Connects (config.limit k) k l s c → (∀ e ∈ l, e.1 = k → e.2.ofConnect = false) →
        Now usizeMax checks config k s
  | serves : 0 < k → s.phase.serving = true → (∀ e ∈ s.log, e.1 = k → e.2.ofConnect = false) →
      Now usizeMax checks config k s
  | done {res c} : s.phase = .done res → Episode usizeMax checks (config.limit k) k s.log c →
      (∀ socket, c.phase ≠ .returned (.connected socket)) →
      (∀ i, c.phase = .returned (.exhausted i) → res = .error (attemptsExhausted i)) →
      Now usizeMax checks config k s

structure Calling (usizeMax : Nat) (checks : Bool) (config : ClientConfig) (k : Nat) (s : ClientActor C) :
    Prop where
  made : s.config = config
  socks : s.socks.length = k
  tags : ∀ e ∈ s.log, e.1 ≤ k
  past : ∀ j < k, ∃ c socket, Episode usizeMax checks (config.limit j) j s.log c ∧
    c.phase = .returned (.connected socket)
  now : Now usizeMax checks config k s

theorem Told.congr {log log' : List (Nat × ClientEvent C)} {events : List ConnectEvent} (g : Told k log events)
    (h : log'.filter (·.1 == k) = log.filter (·.1 == k)) : Told k log' events := by
  obtain ⟨l, hl, hn⟩ := g
  exact ⟨l, h.trans hl, hn⟩

theorem Recorded.told {log : List (Nat × ClientEvent C)} {events : List ConnectEvent} (g : Recorded k l log events)
    (hn : ∀ e ∈ l, e.1 = k → e.2.ofConnect = false) : Told k log events := by
  refine ⟨l.filter (·.1 == k), ?_, fun e he => ?_⟩
  · rw [g, List.filter_append]
    congr 1
    refine List.filter_eq_self.mpr fun e he => ?_
    obtain ⟨x, -, rfl⟩ := List.mem_map.mp he
    exact beq_self_eq_true k
  · obtain ⟨hm, hk⟩ := List.mem_filter.mp he
    exact hn e hm (eq_of_beq hk)

/-- A client that has not begun a call. -/
theorem told_nil {log : List (Nat × ClientEvent C)} (hn : ∀ e ∈ log, e.1 = k → e.2.ofConnect = false) :
    Told k log [] :=
  Recorded.told (List.append_nil _).symm hn

theorem episode_nil {log : List (Nat × ClientEvent C)} (config : ClientConfig)
    (hn : ∀ e ∈ log, e.1 = k → e.2.ofConnect = false) :
    Episode usizeMax checks n k log (.start config .empty true) :=
  ⟨⟨_, _, _, .refl _⟩, told_nil hn⟩

/-- What a step writes into the log belongs to the last connection. -/
theorem step_tagged {a : ClientAct C} (h : s.step a = some t) :
    ∃ es, t.log = s.log ++ es ∧ ∀ e ∈ es, e.1 = s.socks.length := by
  cases step_logs h with
  | nothing hl => exact ⟨[], by rw [hl, List.append_nil], fun e he => by cases he⟩
  | attempt _ _ _ hl | event _ hl => exact ⟨_, hl, fun e he => by rw [List.mem_singleton.mp he]⟩

/-- The call begins, and its range has yielded the first value. -/
theorem connects_start {config : ClientConfig} (hc : s.config = config) (hs : s.socks.length = k)
    (hu : 2 ≤ usizeMax) (hp : s.phase = .drain 1 (config.limit k))
    (hn : ∀ e ∈ s.log, e.1 = k → e.2.ofConnect = false) :
    Now usizeMax checks config k s := by
  refine .connects (c := ⟨config, s.toSocket, s.clients, 2, false, .drain 1, []⟩)
    (.single (a := .next) (congrArg some (Connect.next_of_le hu))) ⟨hc.symm, rfl, rfl, ?_, hs, ?_⟩ hn
  · rw [hp]
    exact .drain 1
  · exact (List.append_nil _).symm

/-- The calls that have made a connection are told as they were. -/
theorem Calling.later {config : ClientConfig} (g : Calling usizeMax checks config k s) {a : ClientAct C}
    (h : s.step a = some t) : (∀ e ∈ t.log, e.1 ≤ k) ∧
      ∀ j < k, ∃ c socket, Episode usizeMax checks (config.limit j) j t.log c ∧
        c.phase = .returned (.connected socket) := by
  obtain ⟨es, hlog, htag⟩ := step_tagged h
  rw [g.socks] at htag
  rw [hlog]
  refine ⟨fun e he => ?_, fun j hj => ?_⟩
  · rcases List.mem_append.mp he with he | he
    · exact g.tags e he
    · exact Nat.le_of_eq (htag e he)
  · obtain ⟨c, socket, ge, hp⟩ := g.past j hj
    refine ⟨c, socket, ⟨ge.call, ge.told.congr ?_⟩, hp⟩
    have hes : es.filter (·.1 == j) = [] := by
      refine List.filter_eq_nil_iff.mpr fun e he hb => ?_
      have hk := eq_of_beq hb
      rw [htag e he] at hk
      omega
    rw [List.filter_append, hes, List.append_nil]

theorem Calling.stay {config : ClientConfig} (g : Calling usizeMax checks config k s) {a : ClientAct C}
    (h : s.step a = some t) (hs : t.socks.length = k) (hn : Now usizeMax checks config k t) :
    Calling usizeMax checks config k t :=
  ⟨(step_socks h).1.trans g.made, hs, (g.later h).1, (g.later h).2, hn⟩

/-- A client that ends makes no connection any more. -/
theorem Calling.over {config : ClientConfig} (g : Calling usizeMax checks config k s) {a : ClientAct C}
    (h : s.step a = some t) {res : Except Error Unit} {c : Connect} (ht : t.phase = .done res)
    (ge : Episode usizeMax checks (config.limit k) k t.log c)
    (hn : ∀ socket, c.phase ≠ .returned (.connected socket))
    (he : ∀ i, c.phase = .returned (.exhausted i) → res = .error (attemptsExhausted i)) :
    Calling usizeMax checks config k t := by
  refine g.stay h ?_ (.done ht ge hn he)
  rw [← g.socks]
  exact (step_socks h).2.resolve_right fun hs => by cases ht.symm.trans hs.2

theorem Calling.connect {config : ClientConfig} (g : Calling usizeMax checks config k s) {a : ClientAct C}
    (h : s.step a = some t) {socket : Socket} {c : Connect} (ht : t.phase = .select)
    (hs : t.socks = s.socks ++ [socket]) (ge : Episode usizeMax checks (config.limit k) k t.log c)
    (hp : c.phase = .returned (.connected socket)) : Calling usizeMax checks config (k + 1) t := by
  obtain ⟨htags, hpast⟩ := g.later h
  refine ⟨(step_socks h).1.trans g.made, ?_, fun e he => Nat.le_succ_of_le (htags e he), fun j hj => ?_,
    .serves k.succ_pos ?_ fun e he hk => ?_⟩
  · rw [hs, List.length_append, g.socks]
    rfl
  · rcases Nat.lt_succ_iff_lt_or_eq.mp hj with hj | rfl
    · exact hpast j hj
    · exact ⟨c, socket, ge, hp⟩
  · rw [ht]
    rfl
  · have := htags e he
    omega

theorem step_calling {config : ClientConfig} (hl : ∀ k, 0 < config.limit k ∧ config.limit k < usizeMax)
    {a : ClientAct C} (g : Calling usizeMax checks config k s) (h : s.step a = some t) :
    ∃ k', Calling usizeMax checks config k' t := by
  cases g.now with
  | @connects c l toSocket clients hr gc hn =>
    have hcounts := (Connect.reach_tracks (hl k).1 (hl k).2 hr).counts
    have hrange : c.phase = .sleeping → c.range < usizeMax := by
      intro hp
      rw [hp] at hcounts
      obtain ⟨hrange, -, hlt⟩ := hcounts
      have := hl k
      omega
    obtain ⟨d, hd, hrec, gd | hleaves⟩ := step_connects gc hrange h
    · exact ⟨k, g.stay h gd.socks (.connects (hr.trans hd) gd hn)⟩
    have ge : Episode usizeMax checks (config.limit k) k t.log d := ⟨⟨_, _, _, hr.trans hd⟩, hrec.told hn⟩
    cases hleaves with
    | connected socket hp ht hs => exact ⟨k + 1, g.connect h ht hs ge hp⟩
    | closed hp hres ht =>
      refine ⟨k, g.over h ht ge (fun _ hc => ?_) fun _ hc => ?_⟩
      · cases hp.symm.trans hc
        cases hres
      · cases hp.symm.trans hc
        cases hres
    | failed hp hres ht =>
      refine ⟨k, g.over h ht ge (fun _ hc => ?_) fun _ hc => ?_⟩
      · cases hp.symm.trans hc
        cases hres
      · cases hp.symm.trans hc
        cases hres
        rfl
    | crashed hp ht =>
      exact ⟨k, g.over h ht ge (fun _ hc => by cases hp.symm.trans hc) fun _ hc => by cases hp.symm.trans hc⟩
  | serves hk hp hn =>
    obtain ⟨hphase, hnew⟩ := step_serves hp h
    have hn' : ∀ e ∈ t.log, e.1 = k → e.2.ofConnect = false := by
      intro e he hek
      rcases hnew e he with he | he
      · exact hn e he hek
      · exact he
    have hs : t.socks.length = k := by
      rw [← g.socks]
      refine (step_socks h).2.resolve_right fun hs => ?_
      rw [hs.1] at hp
      cases hp
    refine ⟨k, g.stay h hs ?_⟩
    rcases hphase with hp' | ⟨res, hp'⟩ | hp'
    · exact .serves hk hp' hn'
    · exact .done hp' (episode_nil config hn') (fun _ hc => by cases hc) fun _ hc => by cases hc
    · refine connects_start ((step_socks h).1.trans g.made) hs ?_ ?_ hn'
      · have := hl k
        omega
      · rw [hp', g.made, ClientConfig.limit, if_neg (Nat.ne_of_gt hk)]
  | @done res c hp ge hn he =>
    have hd : s.isDone = true := by
      unfold isDone
      rw [hp]
    obtain ⟨hphase, hlog, -⟩ := done_reach hd (.single h)
    refine ⟨k, g.over h (hphase.trans hp) ?_ hn he⟩
    rw [hlog]
    exact ge

theorem reach_calling {config : ClientConfig} (hl : ∀ k, 0 < config.limit k ∧ config.limit k < usizeMax)
    (h : Lts.Reach step (create config) s) : ∃ k, Calling usizeMax checks config k s := by
  refine Lts.reach_inv (I := fun s : ClientActor C => ∃ k, Calling usizeMax checks config k s) ?_
    (fun _ _ _ _ ⟨_, g⟩ h => step_calling hl g h) h
  have hn : ∀ e ∈ (create config : ClientActor C).log, e.1 = 0 → e.2.ofConnect = false := fun e he => by cases he
  have hu : 2 ≤ usizeMax := by
    have := hl 0
    omega
  exact ⟨0, rfl, rfl, (fun e he => by cases he), (fun j hj => absurd hj (Nat.not_lt_zero j)),
    connects_start rfl rfl hu rfl hn⟩

/-- For each connection there is the call that follows it, which has made the next one if there is one. -/
theorem Calling.call {config : ClientConfig} {m : Nat} (g : Calling usizeMax checks config m s) (k : Nat) :
    ∃ c, Episode usizeMax checks (config.limit k) k s.log c ∧
      (k < s.socks.length ↔ ∃ socket, c.phase = .returned (.connected socket)) ∧
      ∀ i, c.phase = .returned (.exhausted i) → s.phase = .done (.error (attemptsExhausted i)) := by
  rw [g.socks]
  -- the call is going on, has not begun, or has not made a connection
  have other {c : Connect} (hk : m ≤ k) (ge : Episode usizeMax checks (config.limit k) k s.log c)
      (hn : ∀ socket, c.phase ≠ .returned (.connected socket))
      (he : ∀ i, c.phase = .returned (.exhausted i) → s.phase = .done (.error (attemptsExhausted i))) :
      ∃ c, Episode usizeMax checks (config.limit k) k s.log c ∧
        (k < m ↔ ∃ socket, c.phase = .returned (.connected socket)) ∧
        ∀ i, c.phase = .returned (.exhausted i) → s.phase = .done (.error (attemptsExhausted i)) :=
    ⟨c, ge, iff_of_false (Nat.not_lt.mpr hk) fun ⟨socket, hs⟩ => hn socket hs, he⟩
  rcases Nat.lt_trichotomy k m with hk | rfl | hk
  · obtain ⟨c, socket, ge, hp⟩ := g.past k hk
    exact ⟨c, ge, iff_of_true hk ⟨socket, hp⟩, fun i hi => by cases hp.symm.trans hi⟩
  · cases g.now with
    | @connects c l toSocket clients hr gc hn =>
      have off (e : ConnectExit) : c.phase ≠ .returned e := by
        intro hp
        generalize hat : s.phase = p
        have := gc.phase
        rw [hp, hat] at this
        cases this
      exact other (Nat.le_refl _) ⟨⟨_, _, _, hr⟩, gc.log.told hn⟩ (fun _ => off _) fun i hi => absurd hi (off _)
    | serves _ _ hn =>
      exact other (Nat.le_refl _) (episode_nil config hn) (fun _ hc => by cases hc) fun _ hc => by cases hc
    | done hp ge hn he =>
      refine other (Nat.le_refl _) ge hn fun i hi => ?_
      rw [hp, he i hi]
  · refine other (Nat.le_of_lt hk) (episode_nil config fun e he hek => ?_) (fun _ hc => by cases hc)
      fun _ hc => by cases hc
    have := g.tags e he
    omega

theorem shown_isConnect (events : List ConnectEvent) :
    (events.filterMap (shown (C := C))).countP ClientEvent.isConnect = events.countP ConnectEvent.isAttempt := by
  rw [List.countP_filterMap]
  refine List.countP_congr fun e _ => ?_
  cases e <;> rfl

/-- The attempts of the log are those of the call. -/
theorem Told.attempts {log : List (Nat × ClientEvent C)} {events : List ConnectEvent} (g : Told k log events) :
    (log.countP fun e => e.2.isConnect && e.1 == k) = events.countP ConnectEvent.isAttempt := by
  obtain ⟨l, hl, hn⟩ := g
  have hz : l.countP (fun e => e.2.isConnect) = 0 := by
    refine List.countP_eq_zero.mpr fun e he hc => ?_
    have hf := hn e he
    obtain ⟨j, _ | _ | _ | _ | _ | _ | _ | _ | _⟩ := e
    · cases hf
    all_goals cases hc
  rw [← List.countP_filter, hl, List.countP_append, hz, List.countP_map, Nat.zero_add]
  exact shown_isConnect events

end ClientActor

end Ezsockets
