import Ezsockets.Supervision
import Ezsockets.Timed

/-!
# The keep-alive of a socket

`Heart` adds the clock to a socket: `last_alive`, which the stream actor sets
with each item, and the sleep between two ticks of the heartbeat. Once the
owner and every clone of the sink are gone only the heartbeat sends, and each
tick that finds the partner alive long enough ago, but not too long ago,
sends a Ping. A partner that answers goes on for ever (`dropped_bounded_iff`).
-/

namespace Ezsockets

structure Heart where
  socket : Socket
  lastAlive : Nat

namespace Heart

def new (config : SocketConfig) : Timed Heart where
  state := ⟨.new config, 0⟩
  now := 0
  alarm := config.heartbeat

/-- One event at the time `now`, and for how long the heartbeat sleeps after it. -/
def beat (now : Nat) (s : Heart) (e : SocketEvent) : Option (Heart × Option Nat) :=
  match e with
  | .task (.heartbeat elapsed _) =>
    if elapsed = now - s.lastAlive then
      (s.socket.run e).map fun t => ({ s with socket := t }, if t.beating then some t.sleep else none)
    else none
  | .task (.streamNext _) => (s.socket.run e).map fun t => (⟨t, now⟩, none)
  | _ => (s.socket.run e).map fun t => ({ s with socket := t }, none)

end Heart

def SocketEvent.waits : SocketEvent → Bool
  | .task (.heartbeat _ _) => true
  | _ => false

def RawMessage.isClose : RawMessage → Bool
  | .close _ => true
  | _ => false

def InRawMessage.isClose (inmessage : InRawMessage) : Bool := inmessage.message.any RawMessage.isClose

namespace Socket

variable {s t : Socket}

/-- Neither have both halves ended nor has a `Close` been queued. -/
def Open (s : Socket) : Prop :=
  (s.streaming = true ∨ s.sink.isClosed = false) ∧ ∀ m ∈ s.toSink.hist, m.isClose = false

def queued (s : Socket) : Nat := s.toSink.hist.countP (!·.isClose)

theorem queued_of_hist (h : t.toSink.hist = s.toSink.hist) : t.queued = s.queued := by
  unfold queued
  rw [h]

theorem queued_push {m : InRawMessage} (h : t.toSink.hist = s.toSink.hist ++ [m]) :
    t.queued = s.queued + if m.isClose = true then 0 else 1 := by
  unfold queued
  rw [h, List.countP_append, List.countP_singleton]
  cases m.isClose <;> rfl

theorem queued_push_le {m : InRawMessage} (h : t.toSink.hist = s.toSink.hist ++ [m]) : t.queued ≤ s.queued + 1 := by
  rw [queued_push h]
  split <;> omega

/-- What a tick of the heartbeat does: it ends, it goes back to sleep, or it sends a Ping. -/
inductive Tick (s : Socket) (elapsed timestamp : Nat) : Socket → Prop
  | ends {u} : u.beating = false → u.queued = s.queued → Tick s elapsed timestamp u
  | early : elapsed < s.config.heartbeat →
      Tick s elapsed timestamp { s with sleep := s.config.heartbeat - elapsed }
  | ping : s.config.heartbeat ≤ elapsed → elapsed ≤ s.config.timeout →
      Tick s elapsed timestamp { s with
        toSink := s.toSink.push (.new (s.config.heartbeatPingMsgFn timestamp)), sleep := s.config.heartbeat }

theorem sendRaw_queued {m : InRawMessage} (hm : s.sink.isClosed = true ∨ m.isClose = true) :
    (s.sendRaw m).1.queued = s.queued := by
  by_cases hc : s.sink.isClosed = true
  · rw [sendRaw_closed m hc]; rfl
  · have hm : m.isClose = true := hm.resolve_left hc
    rw [sendRaw_open m (by simpa using hc), queued_push (s := s) (m := m) (Chan.push_hist _ _), if_pos hm]
    rfl

theorem handleHeartbeat_elapsed {elapsed timestamp : Nat} {u : Socket} {o : Option Nat}
    (h : s.handleHeartbeatSleepElapsed elapsed timestamp = (u, o)) :
    (u.queued = s.queued ∧ o = none) ∨
    (elapsed < s.config.heartbeat ∧ u = s ∧ o = some (s.config.heartbeat - elapsed)) ∨
    (s.config.heartbeat ≤ elapsed ∧ elapsed ≤ s.config.timeout ∧
      u = { s with toSink := s.toSink.push (.new (s.config.heartbeatPingMsgFn timestamp)) } ∧
        o = some s.config.heartbeat) := by
  by_cases hto : elapsed > s.config.timeout
  · rw [handleHeartbeatSleepElapsed, if_pos hto] at h
    cases h
    exact .inl ⟨sendRaw_queued (.inr rfl), rfl⟩
  · by_cases hhb : elapsed < s.config.heartbeat
    · rw [handleHeartbeatSleepElapsed, if_neg hto, if_pos hhb] at h
      cases h
      exact .inr (.inl ⟨hhb, rfl, rfl⟩)
    · by_cases hc : s.sink.isClosed = true
      · rw [handleHeartbeatSleepElapsed, if_neg hto, if_neg hhb, sendRaw_closed _ hc] at h
        cases h
        exact .inl ⟨rfl, rfl⟩
      · rw [handleHeartbeatSleepElapsed, if_neg hto, if_neg hhb, sendRaw_open _ (by simpa using hc)] at h
        cases h
        exact .inr (.inr ⟨by omega, by omega, rfl, rfl⟩)

theorem heartbeat_tick {elapsed timestamp : Nat} (h : s.step (.heartbeat elapsed timestamp) = some t) :
    s.Tick elapsed timestamp t := by
  cases step_cases h with
  | heartbeat _ he =>
    rcases handleHeartbeat_elapsed he with ⟨-, ho⟩ | ⟨hlt, rfl, ho⟩ | ⟨hge, hle, rfl, ho⟩
    · cases ho
    · cases ho; exact .early hlt
    · cases ho; exact .ping hge hle
  | heartbeatEnd _ he =>
    rcases handleHeartbeat_elapsed he with ⟨hq, -⟩ | ⟨-, -, ho⟩ | ⟨-, -, -, ho⟩
    · exact .ends (by simp) ((queued_of_hist (by rw [free_toSink])).trans hq)
    · cases ho
    · cases ho

theorem step_quiet {a : SocketAct} (h : s.step a = some t)
    (ha : ∀ elapsed timestamp, a ≠ .heartbeat elapsed timestamp) : t.toSink.hist = s.toSink.hist := by
  cases step_cases h with
  | sinkRecvNone _ hp | sinkRecv _ hp => exact Chan.pop?_hist hp
  | heartbeat | heartbeatEnd => exact absurd rfl (ha _ _)
  | streamNext item _ => rw [forward_frame]
  | supervise h => rw [supervise_frame h]
  | _ => simp

theorem step_item {item : Except WSError RawMessage} (h : s.step (.streamNext item) = some t) :
    t.yielded = s.yielded ++ [item] := by
  cases step_cases h with
  | streamNext => rw [forward_frame]

theorem step_no_item {a : SocketAct} (h : s.step a = some t) (ha : ∀ item, a ≠ .streamNext item) :
    t.yielded = s.yielded := by
  rcases step_yielded h with he | ⟨item, he, -⟩
  · exact he
  · exact absurd he (ha item)

theorem step_beating_of {a : SocketAct} (h : s.step a = some t) (hb : t.beating = true) : s.beating = true := by
  by_cases hs : s.beating = true
  · exact hs
  · cases (step_beating h (by simpa using hs)).symm.trans hb

/-- Nobody but the heartbeat is left, so only the tasks move. -/
theorem dropped_run {e : SocketEvent} (hd : s.held = false) (h : s.run e = some t) :
    ∃ a, e = .task a ∧ s.step a = some t ∧ t.held = false := by
  have ho : s.owned = false ∧ s.sinkClones = 0 := by simpa [held] using hd
  cases e with
  | task a =>
    refine ⟨a, rfl, h, ?_⟩
    unfold held
    rw [(step_owner h).1, step_sinkClones h]
    exact hd
  | send | sendRaw | cloneSink =>
    simp only [run, hd] at h
    cases h
  | recv | awaitSinkClose | drop =>
    simp only [run, ho.1] at h
    cases h
  | dropSink =>
    simp only [run, ho.2] at h
    cases h

end Socket

namespace Heart

variable {s t : Timed Heart}

def step : Timed Heart → TimedAct SocketEvent → Option (Timed Heart) := Timed.step beat SocketEvent.waits

inductive Step (s : Timed Heart) : TimedAct SocketEvent → Timed Heart → Prop
  | advance (d : Nat) : Step s (.advance d) { s with now := s.now + d }
  | tick {timestamp x} : s.alarm ≤ s.now →
      s.state.socket.step (.heartbeat (s.now - s.state.lastAlive) timestamp) = some x →
      Step s (.act (.task (.heartbeat (s.now - s.state.lastAlive) timestamp)))
        ⟨{ s.state with socket := x }, s.now, if x.beating then s.now + x.sleep else s.alarm⟩
  | item {item x} : s.state.socket.step (.streamNext item) = some x →
      Step s (.act (.task (.streamNext item))) { s with state := ⟨x, s.now⟩ }
  | other {e x} : (∀ elapsed timestamp, e ≠ .task (.heartbeat elapsed timestamp)) →
      (∀ item, e ≠ .task (.streamNext item)) → s.state.socket.run e = some x →
      Step s (.act e) { s with state := { s.state with socket := x } }

theorem beat_cases {now : Nat} {x y : Heart} {e : SocketEvent} {o : Option Nat} (h : beat now x e = some (y, o)) :
    (∃ timestamp u, e = .task (.heartbeat (now - x.lastAlive) timestamp) ∧
      x.socket.step (.heartbeat (now - x.lastAlive) timestamp) = some u ∧ y = { x with socket := u } ∧
        o = if u.beating then some u.sleep else none) ∨
    (∃ item u, e = .task (.streamNext item) ∧ x.socket.step (.streamNext item) = some u ∧ y = ⟨u, now⟩ ∧ o = none) ∨
    ((∀ elapsed timestamp, e ≠ .task (.heartbeat elapsed timestamp)) ∧ (∀ item, e ≠ .task (.streamNext item)) ∧
      ∃ u, x.socket.run e = some u ∧ y = { x with socket := u } ∧ o = none) := by
  unfold beat at h
  split at h
  · rename_i elapsed timestamp
    split at h
    · rename_i he
      subst he
      obtain ⟨u, hu, hy⟩ := Option.map_eq_some_iff.mp h
      cases hy
      exact .inl ⟨timestamp, u, rfl, hu, rfl, rfl⟩
    · cases h
  · rename_i item
    obtain ⟨u, hu, hy⟩ := Option.map_eq_some_iff.mp h
    cases hy
    exact .inr (.inl ⟨item, u, rfl, hu, rfl, rfl⟩)
  · rename_i hh hi
    obtain ⟨u, hu, hy⟩ := Option.map_eq_some_iff.mp h
    cases hy
    exact .inr (.inr ⟨hh, hi, u, hu, rfl, rfl⟩)

theorem step_cases {a : TimedAct SocketEvent} (h : step s a = some t) : Step s a t := by
  cases Timed.step_cases h with
  | advance d => exact .advance d
  | act hw hx =>
    rcases beat_cases hx with ⟨timestamp, u, rfl, hu, rfl, ho⟩ | ⟨item, u, rfl, hu, rfl, -⟩ |
      ⟨hh, hi, u, hu, rfl, -⟩
    · have hb : u.beating = false := by
        by_cases hb : u.beating = true
        · rw [if_pos hb] at ho; cases ho
        · simpa using hb
      have := Step.tick (s := s) (hw rfl) hu
      rw [hb] at this
      exact this
    · exact .item hu
    · exact .other hh hi hu
  | sleep hw hx =>
    rcases beat_cases hx with ⟨timestamp, u, rfl, hu, rfl, ho⟩ | ⟨_, _, _, _, _, ho⟩ | ⟨_, _, _, _, _, ho⟩
    · by_cases hb : u.beating = true
      · rw [if_pos hb] at ho
        cases ho
        have := Step.tick (s := s) (hw rfl) hu
        rw [if_pos hb] at this
        exact this
      · rw [if_neg hb] at ho; cases ho
    · cases ho
    · cases ho

theorem reach_socket (h : Lts.Reach step s t) : Lts.Reach Socket.run s.state.socket t.state.socket := by
  refine Timed.reach_state (p := Heart.socket) ?_ h
  intro now x e y o hx
  rcases beat_cases hx with ⟨timestamp, u, rfl, hu, rfl, -⟩ | ⟨item, u, rfl, hu, rfl, -⟩ | ⟨-, -, u, hu, rfl, -⟩
  · exact hu
  · exact hu
  · exact hu

/-! ## How many Pings -/

variable {config : SocketConfig} {q y : Nat}

/-- Since the drop, with `q` messages queued and `y` items received, the heartbeat has sent a full round of Pings
for each item, and `k` more, a heartbeat apart, since the partner was last alive. -/
structure Counted (config : SocketConfig) (q y : Nat) (s : Timed Heart) : Prop where
  same : s.state.socket.config = config
  dropped : s.state.socket.held = false
  alive : s.state.lastAlive ≤ s.now
  items : y ≤ s.state.socket.yielded.length
  count : ∃ k, k ≤ config.timeout / config.heartbeat ∧
    s.state.socket.queued ≤ q + (s.state.socket.yielded.length - y) * (config.timeout / config.heartbeat) + k ∧
    (k = 0 ∨ (s.state.socket.beating = true → s.state.lastAlive + (k + 1) * config.heartbeat ≤ s.alarm))

/-- An item pays for another round, and the Pings are counted anew. -/
theorem Counted.item {item : Except WSError RawMessage} {x : Socket} (g : Counted config q y s)
    (h : s.state.socket.step (.streamNext item) = some x) : Counted config q y { s with state := ⟨x, s.now⟩ } := by
  obtain ⟨hconf, hd, hl, hy, k, hk, hq, -⟩ := g
  obtain ⟨-, -, -, hdx⟩ := Socket.dropped_run (e := .task (.streamNext item)) hd h
  have hyx : x.yielded.length = s.state.socket.yielded.length + 1 := by
    rw [Socket.step_item h]
    exact List.length_append
  have hitems : y ≤ x.yielded.length := by omega
  have hqx : x.queued = s.state.socket.queued :=
    Socket.queued_of_hist (Socket.step_quiet h fun _ _ he => by cases he)
  have hround : (x.yielded.length - y) * (config.timeout / config.heartbeat) =
      (s.state.socket.yielded.length - y) * (config.timeout / config.heartbeat) +
        config.timeout / config.heartbeat := by
    rw [hyx, Nat.sub_add_comm hy, Nat.succ_mul]
  refine ⟨(Socket.step_owner h).2.2.2.trans hconf, hdx, Nat.le_refl _, hitems, 0, Nat.zero_le _, ?_, .inl rfl⟩
  show x.queued ≤ q + (x.yielded.length - y) * (config.timeout / config.heartbeat) + 0
  omega

theorem Counted.other {e : SocketEvent} {x : Socket} (g : Counted config q y s)
    (hh : ∀ elapsed timestamp, e ≠ .task (.heartbeat elapsed timestamp))
    (hi : ∀ item, e ≠ .task (.streamNext item)) (h : s.state.socket.run e = some x) :
    Counted config q y { s with state := { s.state with socket := x } } := by
  obtain ⟨hconf, hd, hl, hy, k, hk, hq, hka⟩ := g
  obtain ⟨a, rfl, hs, hdx⟩ := Socket.dropped_run hd h
  have hyx : x.yielded = s.state.socket.yielded := Socket.step_no_item hs fun item he => hi item (by rw [he])
  have hqx : x.queued = s.state.socket.queued :=
    Socket.queued_of_hist (Socket.step_quiet hs fun elapsed timestamp he => hh elapsed timestamp (by rw [he]))
  refine ⟨(Socket.step_owner hs).2.2.2.trans hconf, hdx, hl, by rw [hyx]; exact hy, k, hk, ?_, ?_⟩
  · show x.queued ≤ q + (x.yielded.length - y) * _ + k
    rw [hyx, hqx]; exact hq
  · exact hka.imp_right fun hal hbx => hal (Socket.step_beating_of hs hbx)

/-- A tick in time sends one Ping more, a heartbeat after the last one. -/
theorem Counted.tick {timestamp : Nat} {x : Socket} (hb : 0 < config.heartbeat) (g : Counted config q y s)
    (hw : s.alarm ≤ s.now) (h : s.state.socket.step (.heartbeat (s.now - s.state.lastAlive) timestamp) = some x) :
    Counted config q y
      ⟨{ s.state with socket := x }, s.now, if x.beating then s.now + x.sleep else s.alarm⟩ := by
  obtain ⟨hconf, hd, hl, hy, k, hk, hq, hka⟩ := g
  obtain ⟨-, -, -, hdx⟩ := Socket.dropped_run (e := .task (.heartbeat _ timestamp)) hd h
  have hbs : s.state.socket.beating = true := by
    cases Socket.step_cases h with
    | heartbeat hb | heartbeatEnd hb => exact hb
  have hyx : x.yielded = s.state.socket.yielded := Socket.step_no_item h fun _ he => by cases he
  cases Socket.heartbeat_tick h with
  | ends hbx hqx =>
    refine ⟨(Socket.step_owner h).2.2.2.trans hconf, hdx, hl, by rw [hyx]; exact hy, k, hk, ?_, .inr fun hb => ?_⟩
    · show x.queued ≤ q + (x.yielded.length - y) * _ + k
      rw [hyx, hqx]; exact hq
    · cases hbx.symm.trans hb
  | early he =>
    refine ⟨hconf, hd, hl, hy, k, hk, hq, ?_⟩
    rw [hconf] at he
    rcases hka with hk0 | hal
    · exact .inl hk0
    · -- a Ping since the partner was last alive is at least a heartbeat ago
      exfalso
      have hal := hal hbs
      have hmul : config.heartbeat ≤ (k + 1) * config.heartbeat := Nat.le_mul_of_pos_left _ (Nat.succ_pos k)
      omega
  | ping hge hle =>
    rw [hconf] at hge hle
    have hlate : (k + 1) * config.heartbeat ≤ s.now - s.state.lastAlive := by
      rcases hka with rfl | hal
      · omega
      · have hal := hal hbs
        omega
    have hmul : (k + 1 + 1) * config.heartbeat = (k + 1) * config.heartbeat + config.heartbeat := Nat.succ_mul _ _
    refine ⟨hconf, hd, hl, hy, k + 1, ?_, ?_, .inr fun _ => ?_⟩
    · exact (Nat.le_div_iff_mul_le hb).mpr (Nat.le_trans hlate hle)
    · refine Nat.le_trans (Socket.queued_push_le (s := s.state.socket) (Chan.push_hist _ _)) ?_
      exact Nat.succ_le_succ hq
    · show s.state.lastAlive + (k + 1 + 1) * config.heartbeat ≤
        if s.state.socket.beating = true then s.now + s.state.socket.config.heartbeat else s.alarm
      rw [if_pos hbs, hconf]
      omega

theorem step_counted {a : TimedAct SocketEvent} (hb : 0 < config.heartbeat) (g : Counted config q y s)
    (h : step s a = some t) : Counted config q y t := by
  cases step_cases h with
  | advance d => exact ⟨g.same, g.dropped, Nat.le_add_right_of_le g.alive, g.items, g.count⟩
  | tick hw hx => exact g.tick hb hw hx
  | item hx => exact g.item hx
  | other hh hi hx => exact g.other hh hi hx

theorem reach_counted (hb : 0 < config.heartbeat) (g : Counted config q y s) (h : Lts.Reach step s t) :
    Counted config q y t :=
  Lts.reach_inv g (fun _ _ _ _ g h => step_counted hb g h) h

theorem reach_alive (h : Lts.Reach step (new config) s) : s.state.lastAlive ≤ s.now := by
  refine Lts.reach_inv (I := fun s : Timed Heart => s.state.lastAlive ≤ s.now) (Nat.le_refl _) ?_ h
  intro u a v _ hu huv
  cases step_cases huv with
  | advance d => exact Nat.le_add_right_of_le hu
  | tick | other => exact hu
  | item => exact Nat.le_refl _

theorem reach_config (h : Lts.Reach step (new config) s) : s.state.socket.config = config :=
  Socket.reach_config (reach_socket h)

theorem counted_of_drop (hs : Lts.Reach step (new config) s) (hd : s.state.socket.held = false) :
    Counted config s.state.socket.queued s.state.socket.yielded.length s := by
  exact ⟨reach_config hs, hd, reach_alive hs, Nat.le_refl _, 0, Nat.zero_le _, Nat.le_add_right _ _, .inl rfl⟩

/-- After the drop the heartbeat sends a round of Pings, and another one for each item that the stream yields. -/
theorem pings_le (hb : 0 < config.heartbeat) (hs : Lts.Reach step (new config) s)
    (hd : s.state.socket.held = false) (h : Lts.Reach step s t) :
    t.state.socket.queued ≤ s.state.socket.queued +
      (t.state.socket.yielded.length - s.state.socket.yielded.length + 1) *
      (config.timeout / config.heartbeat) := by
  obtain ⟨-, -, -, -, k, hk, hq, -⟩ := reach_counted hb (counted_of_drop hs hd) h
  rw [Nat.succ_mul]
  omega

/-! ## A partner that does not answer -/

/-- The stream yields neither a Ping nor a Pong. -/
def NoAnswer (_ : Timed Heart) : TimedAct SocketEvent → Prop
  | .act (.task (.streamNext (.ok (.ping _)))) | .act (.task (.streamNext (.ok (.pong _)))) => False
  | _ => True

/-- What the stream yields after the drop ends it, if it is no Ping and no Pong. -/
def Silent (y : Nat) (s : Timed Heart) : Prop :=
  s.state.socket.yielded.length ≤ y + 1 ∧ (s.state.socket.streaming = true → s.state.socket.yielded.length = y)

theorem forward_dropped {x : Socket} {item : Except WSError RawMessage} (ho : x.owned = false)
    (ha : NoAnswer s (.act (.task (.streamNext item)))) : (x.forward item).streaming = false := by
  rcases item with err | (_ | _ | _ | _ | _)
  · simp [Socket.forward, ho]
  · simp [Socket.forward, ho]
  · simp [Socket.forward, ho]
  · exact ha.elim
  · exact ha.elim
  · simp [Socket.forward, ho]

theorem step_silent {a : TimedAct SocketEvent} (hd : s.state.socket.held = false) (ha : NoAnswer s a)
    (g : Silent y s) (h : step s a = some t) : Silent y t := by
  have quiet : ∀ {x : Socket} {a : SocketAct}, s.state.socket.step a = some x → (∀ item, a ≠ .streamNext item) →
      x.yielded.length ≤ y + 1 ∧ (x.streaming = true → x.yielded.length = y) := by
    intro x a hx hi
    rw [Socket.step_no_item hx hi]
    refine ⟨g.1, fun hst => g.2 ?_⟩
    by_cases hs : s.state.socket.streaming = true
    · exact hs
    · cases (Socket.step_streaming hx (by simpa using hs)).symm.trans hst
  cases step_cases h with
  | advance => exact g
  | tick _ hx => exact quiet hx fun _ he => by cases he
  | @other e x _ hi hx =>
    obtain ⟨a, rfl, hs, -⟩ := Socket.dropped_run hd hx
    exact quiet hs fun item he => hi item (by rw [he])
  | @item item x hx =>
    have ho : s.state.socket.owned = false := by
      have := hd
      simp only [Socket.held, Bool.or_eq_false_iff] at this
      exact this.1
    cases Socket.step_cases hx with
    | streamNext _ hst =>
      refine ⟨?_, fun hst' => ?_⟩
      · show (Socket.forward _ item).yielded.length ≤ y + 1
        rw [Socket.forward_frame, List.length_append, g.2 hst]
        exact Nat.le_refl _
      · cases (forward_dropped (x := { s.state.socket with yielded := s.state.socket.yielded ++ [item] }) ho
          ha).symm.trans hst'

theorem silent_bounded {as : List (TimedAct SocketEvent)} (hb : 0 < config.heartbeat)
    (hs : Lts.Reach step (new config) s) (hd : s.state.socket.held = false) (hc : Lts.Along step NoAnswer s as)
    (h : Lts.exec step s as = some t) :
    t.state.socket.queued ≤ s.state.socket.queued + 2 * (config.timeout / config.heartbeat) := by
  have hsil : Silent s.state.socket.yielded.length t ∧ t.state.socket.held = false := by
    refine Lts.along_inv (I := fun t => Silent s.state.socket.yielded.length t ∧ t.state.socket.held = false)
      ⟨⟨Nat.le_succ _, fun _ => rfl⟩, hd⟩ ?_ hc h
    intro u a v hu ⟨gu, hdu⟩ ha huv
    exact ⟨step_silent hdu ha gu huv, (step_counted hb (reach_counted hb (counted_of_drop hs hd) hu) huv).dropped⟩
  have hle := pings_le hb hs hd ⟨as, h⟩
  have hround : (t.state.socket.yielded.length - s.state.socket.yielded.length + 1) *
      (config.timeout / config.heartbeat) ≤ 2 * (config.timeout / config.heartbeat) := by
    apply Nat.mul_le_mul_right
    have := hsil.1.1
    omega
  omega

/-! ## A partner that answers -/

/-- After a drop no run queues more than `B` Pings before both halves have ended or a `Close` is queued. -/
def PingsBounded (config : SocketConfig) (B : Nat) : Prop :=
  ∀ s t : Timed Heart, Lts.Reach step (new config) s → s.state.socket.held = false → Lts.Reach step s t →
    t.state.socket.Open → t.state.socket.queued ≤ s.state.socket.queued + B

/-- The heartbeat gives up before it would send, or what it sends is a `Close`. -/
def NoPing (config : SocketConfig) : Prop :=
  config.timeout < config.heartbeat ∨ ∀ timestamp, (config.heartbeatPingMsgFn timestamp).isClose = true

theorem noPing_bounded (hn : NoPing config) : PingsBounded config 0 := by
  intro s t hs hd ht _
  refine Nat.le_of_eq (Lts.reach_inv (I := fun t => t.state.socket.config = config ∧ t.state.socket.held = false ∧
    t.state.socket.queued = s.state.socket.queued) ⟨reach_config hs, hd, rfl⟩ ?_ ht).2.2
  intro u a v _ ⟨hcu, hdu, hqu⟩ huv
  have quiet : ∀ {x : Socket} {a : SocketAct}, u.state.socket.step a = some x → x.queued = u.state.socket.queued →
      x.config = config ∧ x.held = false ∧ x.queued = s.state.socket.queued := by
    intro x a hx hq
    obtain ⟨_, _, hs, hdx⟩ := Socket.dropped_run (e := .task a) hdu hx
    exact ⟨(Socket.step_owner hx).2.2.2.trans hcu, hdx, hq.trans hqu⟩
  cases step_cases huv with
  | advance => exact ⟨hcu, hdu, hqu⟩
  | item hx => exact quiet hx (Socket.queued_of_hist (Socket.step_quiet hx fun _ _ he => by cases he))
  | @other e x hh _ hx =>
    obtain ⟨a, rfl, hs, -⟩ := Socket.dropped_run hdu hx
    refine quiet hs (Socket.queued_of_hist (Socket.step_quiet hs fun elapsed timestamp he => ?_))
    exact hh elapsed timestamp (by rw [he])
  | @tick timestamp x _ hx =>
    apply quiet hx
    cases Socket.heartbeat_tick hx with
    | ends _ hq => exact hq
    | early => rfl
    | ping hge hle =>
      rw [hcu] at hge hle
      have hcl : (InRawMessage.new (u.state.socket.config.heartbeatPingMsgFn timestamp)).isClose = true := by
        rcases hn with hlt | hcl
        · omega
        · rw [hcu]; exact hcl timestamp
      rw [Socket.queued_push (s := u.state.socket) (Chan.push_hist _ _), if_pos hcl]
      rfl

/-- Nobody holds the socket, its tasks run, and `n` Pings have been sent and answered, the last one just now. -/
structure Answering (config : SocketConfig) (n : Nat) (s : Timed Heart) : Prop where
  same : s.state.socket.config = config
  dropped : s.state.socket.held = false
  streaming : s.state.socket.streaming = true
  beating : s.state.socket.beating = true
  sink : s.state.socket.sink = .running
  drained : s.state.socket.toSink.queue = []
  unclosed : ∀ m ∈ s.state.socket.toSink.hist, m.isClose = false
  count : s.state.socket.queued = n
  alive : s.state.lastAlive = s.now
  alarm : s.alarm ≤ s.now + config.heartbeat

theorem tick_step {u : Socket} {timestamp : Nat} (ha : s.alarm ≤ s.now) (hb : u.beating = true)
    (h : s.state.socket.step (.heartbeat (s.now - s.state.lastAlive) timestamp) = some u) :
    step s (.act (.task (.heartbeat (s.now - s.state.lastAlive) timestamp))) =
      some ⟨{ s.state with socket := u }, s.now, s.now + u.sleep⟩ := by
  refine Timed.step_act (o := some u.sleep) (fun _ => ha) ?_
  simp only [beat, if_true, Socket.run, h, Option.map_some, hb]

theorem item_step {u : Socket} {item : Except WSError RawMessage}
    (h : s.state.socket.step (.streamNext item) = some u) :
    step s (.act (.task (.streamNext item))) = some { s with state := ⟨u, s.now⟩ } := by
  refine Timed.step_act (o := none) (fun hw => by cases hw) ?_
  simp only [beat, Socket.run, h, Option.map_some]

theorem task_step {u : Socket} {a : SocketAct} (ht : ∀ elapsed timestamp, a ≠ .heartbeat elapsed timestamp)
    (hi : ∀ item, a ≠ .streamNext item) (h : s.state.socket.step a = some u) :
    step s (.act (.task a)) = some { s with state := { s.state with socket := u } } := by
  have hw : SocketEvent.waits (.task a) = false := by
    cases a with
    | heartbeat => exact absurd rfl (ht _ _)
    | _ => rfl
  refine Timed.step_act (o := none) (fun hw' => by rw [hw] at hw'; cases hw') ?_
  cases a with
  | heartbeat => exact absurd rfl (ht _ _)
  | streamNext => exact absurd rfl (hi _)
  | _ => simp only [beat, Socket.run, h, Option.map_some]

/-- One round: the heartbeat sleeps and sends a Ping, the sink sends it on, and the partner answers. -/
theorem answering_round {n timestamp : Nat} (hle : config.heartbeat ≤ config.timeout)
    (hp : (config.heartbeatPingMsgFn timestamp).isClose = false) (g : Answering config n s) :
    ∃ t, Lts.Reach step s t ∧ Answering config (n + 1) t := by
  obtain ⟨⟨x, lastAlive⟩, now, alarm⟩ := s
  obtain ⟨hc, hd, hst, hb, hk, hq, hu, hn, hl, ha⟩ := g
  simp only at hc hd hst hb hk hq hu hn hl ha
  subst hl hc
  let m := InRawMessage.new (x.config.heartbeatPingMsgFn timestamp)
  let u₁ : Socket := { x with toSink := x.toSink.push m, sleep := x.config.heartbeat }
  let u₂ : Socket := { u₁ with
    toSink := ⟨x.toSink.got ++ [m], []⟩, sink := .sending (x.config.heartbeatPingMsgFn timestamp) (some .own) }
  let u₃ : Socket := { u₂ with sink := .running, writes := x.writes ++ [(.own, .sent)] }
  let u₄ : Socket := { u₃ with yielded := x.yielded ++ [.ok (.pong [])] }
  have h₁ : x.step (.heartbeat (lastAlive + x.config.heartbeat - lastAlive) timestamp) = some u₁ := by
    have hh : x.handleHeartbeatSleepElapsed x.config.heartbeat timestamp =
        ({ x with toSink := x.toSink.push m }, some x.config.heartbeat) := by
      rw [Socket.handleHeartbeatSleepElapsed, if_neg (Nat.not_lt.mpr hle), if_neg (Nat.lt_irrefl _),
        Socket.sendRaw_open _ (by rw [hk]; rfl)]
    rw [Nat.add_sub_cancel_left]
    exact (if_pos hb).trans (by rw [hh])
  have h₂ : u₁.step .sinkRecv = some u₂ := by
    have hpop : u₁.toSink.pop? = some (m, ⟨x.toSink.got ++ [m], []⟩) := by
      simp only [u₁, Chan.pop?, Chan.push_queue, hq, List.nil_append, Chan.push_got]
    have hrun : u₁.sink = .running := hk
    simp only [Socket.step, hrun, hpop]
    rfl
  have h₃ : u₂.step (.sinkSend (.ok ())) = some u₃ := rfl
  have h₄ : u₃.step (.streamNext (.ok (.pong []))) = some u₄ := if_pos hst
  have w₀ : step ⟨⟨x, lastAlive⟩, lastAlive, alarm⟩ (.advance x.config.heartbeat) =
      some ⟨⟨x, lastAlive⟩, lastAlive + x.config.heartbeat, alarm⟩ := rfl
  have w₁ := tick_step (s := ⟨⟨x, lastAlive⟩, lastAlive + x.config.heartbeat, alarm⟩) (u := u₁) ha hb h₁
  let later (u : Socket) : Timed Heart :=
    ⟨⟨u, lastAlive⟩, lastAlive + x.config.heartbeat, lastAlive + x.config.heartbeat + x.config.heartbeat⟩
  have w₂ := task_step (s := later u₁) (by simp) (by simp) h₂
  have w₃ := task_step (s := later u₂) (by simp) (by simp) h₃
  have w₄ := item_step (s := later u₃) h₄
  have hreach := ((((Lts.Reach.single w₀).tail w₁).tail w₂).tail w₃).tail w₄
  refine ⟨_, hreach, rfl, hd, hst, hb, rfl, rfl, ?_, ?_, rfl, Nat.le_refl _⟩
  · intro i hi
    have hi : i ∈ x.toSink.hist ++ [m] := by
      rw [Chan.hist, hq, List.append_nil]
      simpa [u₄, u₃, u₂, Chan.hist] using hi
    rcases List.mem_append.mp hi with hi | hi
    · exact hu i hi
    · rw [List.mem_singleton.mp hi]; exact hp
  · have hpush := Socket.queued_push (s := x) (t := u₄) (m := m) (by simp [u₄, u₃, u₂, Chan.hist, hq])
    rw [if_neg (by show ¬ (x.config.heartbeatPingMsgFn timestamp).isClose = true; rw [hp]; decide), hn] at hpush
    exact hpush

theorem answering_start (config : SocketConfig) : ∃ s, Lts.Reach step (new config) s ∧ Answering config 0 s := by
  have h : step (new config) (.act .drop) = some ⟨⟨(Socket.new config).drop, 0⟩, 0, config.heartbeat⟩ :=
    Timed.step_act (o := none) (fun hw => by cases hw) rfl
  refine ⟨_, .single h, rfl, rfl, rfl, rfl, rfl, rfl, ?_, rfl, rfl, Nat.le_add_left _ _⟩
  intro m hm
  cases hm

theorem answering_reach {timestamp : Nat} (hle : config.heartbeat ≤ config.timeout)
    (hp : (config.heartbeatPingMsgFn timestamp).isClose = false) (g : Answering config 0 s) (n : Nat) :
    ∃ t, Lts.Reach step s t ∧ Answering config n t := by
  induction n with
  | zero => exact ⟨s, .refl s, g⟩
  | succ n ih =>
    obtain ⟨t, ht, gt⟩ := ih
    obtain ⟨u, hu, gu⟩ := answering_round hle hp gt
    exact ⟨u, ht.trans hu, gu⟩

theorem answering_unbounded {timestamp : Nat} (hle : config.heartbeat ≤ config.timeout)
    (hp : (config.heartbeatPingMsgFn timestamp).isClose = false) (B : Nat) : ¬ PingsBounded config B := by
  intro hB
  obtain ⟨s, hs, gs⟩ := answering_start config
  obtain ⟨t, ht, gt⟩ := answering_reach hle hp gs (B + 1)
  have := hB s t hs gs.dropped ht ⟨.inl gt.streaming, gt.unclosed⟩
  rw [gs.count, gt.count] at this
  omega

/-- How often a dropped socket is kept alive is bounded if and only if its heartbeat never sends a Ping; but without
a Ping or Pong from the remote two rounds of Pings are all there is. -/
theorem dropped_bounded_iff (config : SocketConfig) :
    ((∃ B, PingsBounded config B) ↔ NoPing config) ∧
    (0 < config.heartbeat → ∀ (s t : Timed Heart) (as : List (TimedAct SocketEvent)),
    Lts.Reach step (new config) s →
      s.state.socket.held = false → Lts.Along step NoAnswer s as → Lts.exec step s as = some t →
        t.state.socket.queued ≤ s.state.socket.queued + 2 * (config.timeout / config.heartbeat)) := by
  refine ⟨⟨?_, fun hn => ⟨0, noPing_bounded hn⟩⟩, fun hb s t as hs hd hc h => silent_bounded hb hs hd hc h⟩
  rintro ⟨B, hB⟩
  by_cases hlt : config.timeout < config.heartbeat
  · exact .inl hlt
  · right
    intro timestamp
    by_cases hp : (config.heartbeatPingMsgFn timestamp).isClose = true
    · exact hp
    · exact absurd hB (answering_unbounded (Nat.not_lt.mp hlt) (by simpa using hp) B)

/-- A dropped socket whose partner is silent is given two Pings. -/
theorem dropped_bounded_two : ∃ (as : List (TimedAct SocketEvent)) (s t : Timed Heart),
    Lts.Reach step (new ⟨5, 10, fun _ => .ping []⟩) s ∧ s.state.socket.held = false ∧ Lts.exec step s as = some t ∧
      t.state.socket.queued = s.state.socket.queued + 2 ∧
      t.state.socket.queued ≤ s.state.socket.queued + 2 * (10 / 5) := by
  let pings : List (TimedAct SocketEvent) := [
    .advance 5, .act (.task (.heartbeat 5 0)), .advance 5, .act (.task (.heartbeat 10 0)), .advance 5]
  let dropped : Timed Heart := ⟨⟨(Socket.new ⟨5, 10, fun _ => .ping []⟩).drop, 0⟩, 0, 5⟩
  have hs : Lts.Reach step (new ⟨5, 10, fun _ => .ping []⟩) dropped := .single (a := .act .drop) rfl
  have h : Lts.exec step dropped pings = some _ := rfl
  have hc : Lts.Along step NoAnswer dropped pings := by
    refine Lts.along_of_forall (fun a ha u => ?_) _
    simp only [pings, List.mem_cons, List.not_mem_nil, or_false] at ha
    rcases ha with rfl | rfl | rfl | rfl | rfl <;> trivial
  exact ⟨_, _, _, hs, rfl, h, rfl, (dropped_bounded_iff _).2 (by decide) _ _ _ hs rfl hc h⟩

/-- With the default settings a partner that answers is sent Pings without limit. -/
theorem default_unbounded : ¬ ∃ B, PingsBounded .default B := by
  rintro ⟨B, hB⟩
  have hp : (SocketConfig.default.heartbeatPingMsgFn 0).isClose = false := rfl
  exact answering_unbounded (by decide) hp B hB

end Heart

end Ezsockets
