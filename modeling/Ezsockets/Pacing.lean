import Ezsockets.ClientClose
import Ezsockets.DeadSink
import Ezsockets.Timed
import Mathlib.Data.List.Chain

/-!
# The pause between two attempts to connect

The client sleeps after a failed attempt and after the server's `Close`, but
not after `on_disconnect`. A connection that the server closes ends with
`on_disconnect` only when a message is refused while the `Close` is still in
the stream queue; in every other run two attempts are an interval apart.
-/

namespace Ezsockets

variable {C : Type}

def SocketAct.fails : SocketAct → Bool
  | .streamEnd | .streamPanic | .streamNext (.error _) => true
  | _ => false

namespace Socket

variable {s t : Socket}

/-- The stream actor has put the remote's `Close` into the stream queue. -/
def CloseQueued (s : Socket) : Prop := ∃ frame, .ok (.close frame) ∈ s.toOwner.hist

/-- The stream ends, or yields an error, only behind a `Close`. -/
structure Orderly (s : Socket) : Prop where
  ended : s.streaming = false → s.CloseQueued
  errors : ∀ (i : Nat) err, s.toOwner.hist[i]? = some (.error err) →
    ∃ frame, .ok (.close frame) ∈ s.toOwner.hist.take i

theorem new_orderly (config : SocketConfig) : Orderly (new config) :=
  ⟨fun h => (by cases h), fun i err h => by cases h⟩

theorem Orderly.keep (g : s.Orderly) (hq : t.toOwner.hist = s.toOwner.hist) (hs : t.streaming = s.streaming) :
    t.Orderly := by
  refine ⟨fun h => ?_, ?_⟩
  · unfold CloseQueued
    rw [hq]
    exact g.ended (hs.symm.trans h)
  · rw [hq]; exact g.errors

theorem Orderly.push {m : Except WSError Message} (g : s.Orderly)
    (hm : ∀ err, m = .error err → s.CloseQueued) : Orderly { s with toOwner := s.toOwner.push m } := by
  refine ⟨fun h => ?_, ?_⟩
  · obtain ⟨frame, hf⟩ := g.ended h
    refine ⟨frame, ?_⟩
    rw [Chan.push_hist]
    exact List.mem_append_left _ hf
  · intro i err hi
    rw [Chan.push_hist] at hi ⊢
    by_cases hlt : i < s.toOwner.hist.length
    · rw [List.getElem?_append_left hlt] at hi
      obtain ⟨frame, hf⟩ := g.errors i err hi
      exact ⟨frame, by rw [List.take_append_of_le_length (Nat.le_of_lt hlt)]; exact hf⟩
    · have hlast : i = s.toOwner.hist.length := by
        have := (List.getElem?_eq_some_iff.mp hi).1
        rw [List.length_append, List.length_singleton] at this
        omega
      subst hlast
      rw [List.getElem?_concat_length] at hi
      obtain ⟨frame, hf⟩ := hm err (Option.some.inj hi)
      exact ⟨frame, by rw [List.take_left]; exact hf⟩

theorem step_orderly {a : SocketAct} (g : s.Orderly) (ho : s.owned = true) (ha : a.fails = true → s.CloseQueued)
    (h : s.step a = some t) : t.Orderly := by
  cases step_cases h with
  | streamNext item _ =>
    have gn : Orderly { s with yielded := s.yielded ++ [item] } := g.keep rfl rfl
    rcases forward_owned (s := { s with yielded := s.yielded ++ [item] }) ho item with hf | ⟨m, hm, hf⟩
    · rw [hf]; exact gn
    · rw [hf]
      refine gn.push fun err he => ?_
      rw [hm, he] at ha
      exact ha rfl
  | streamEnd | streamPanic => exact ⟨fun _ => ha rfl, g.errors⟩
  | heartbeat _ he => rw [handleHeartbeat_frame he]; exact g.keep rfl rfl
  | heartbeatEnd _ he =>
    refine g.keep ?_ ?_
    · rw [free_toOwner, handleHeartbeat_frame he]
    · rw [free_streaming, handleHeartbeat_frame he]
  | supervise h => rw [supervise_frame h]; exact g.keep rfl rfl
  | _ => exact g.keep (by simp) (by simp)

end Socket

namespace ClientActor

variable {s t : ClientActor C} {config : ClientConfig}

/-- A connection that the actor works on is its own. -/
def Owns (s : ClientActor C) : Prop := s.phase.connected = true → ∃ x, s.socks[s.conn]? = some x ∧ x.owned = true

theorem Owns.keep (g : s.Owns) (hs : t.socks = s.socks) (hp : t.phase.connected = true → s.phase.connected = true) :
    t.Owns := by
  intro h
  unfold conn
  rw [hs]
  exact g (hp h)

theorem setSocket_owns {x y : Socket} (g : s.Owns) (hp : s.phase.connected = true) (hx : s.socks[s.conn]? = some x)
    (hy : y.owned = x.owned) : (s.setSocket y).Owns := by
  intro _
  obtain ⟨x', hx', ho⟩ := g hp
  cases hx.symm.trans hx'
  exact ⟨y, setSocket_conn hx, hy.trans ho⟩

theorem finish_owns (s : ClientActor C) (res : Except Error Unit) : (s.finish res).Owns := by
  intro h
  rw [finish_phase] at h
  cases h

theorem step_owns {a : ClientAct C} (g : s.Owns) (h : s.step a = some t) : t.Owns := by
  cases step_cases h with
  | text m | binary m | close m => exact g.keep (send_socks _) (by rw [send_phase]; exact id)
  | call c => exact g.keep (call_socks c) (by rw [call_phase]; exact id)
  | dropClients => exact g.keep (by simp) (by rw [free_phase]; exact id)
  | dropCallSenders | drainMessage => exact g.keep rfl id
  | drainEmpty | connected | connectFailed | retry | slept | closeSlept | onCloseReconnect
  | onDisconnectReconnect =>
    intro h
    cases h
  | drainClose | drainDead | onConnectErr | exhausted | connectFailClose | connectFailErr | handOverClose
  | outgoingClosed | callsClosed | handlerErr | onCloseClose | onCloseErr | onDisconnectClose | onDisconnectErr
  | panic => exact finish_owns _ _
  | onConnectOk => exact fun _ => ⟨.new s.config.socket, by simp [conn], rfl⟩
  | @handOver m c x hp _ hx =>
    exact setSocket_owns (s := { s with toSocket := c }) g (by rw [hp]; rfl) hx rfl
  | @sendFailed m c x hp _ hx =>
    have hset := setSocket_owns (s := { s with toSocket := c }) (y := { x with writes := x.writes ++ m.drop }) g
      (by rw [hp]; rfl) hx rfl
    exact fun _ => hset (by rw [setSocket, hp]; rfl)
  | takeCall hp | handlerOk hp => exact g.keep rfl fun _ => by rw [hp]; rfl
  | @incoming x y item hp hx hr =>
    have hset := setSocket_owns (s := s) (y := y) g (by rw [hp]; rfl) hx (by rw [Socket.recv_frame hr])
    refine hset.keep ?_ fun _ => ?_
    · rw [handleIncomingMsg_frame]
    · rw [setSocket, hp]; rfl
  | @sinkClosed x y res closedSelf hp hx hr =>
    have hset := setSocket_owns (s := s) (y := y) g (by rw [hp]; rfl) hx (by rw [Socket.awaitSinkClose_frame hr])
    rcases sinkClosed_cases (s.setSocket y) closedSelf res with ⟨r, he⟩ | ⟨-, -, he⟩ | he
    · rw [he]; exact finish_owns _ r
    · rw [he]; exact hset.keep rfl fun _ => by rw [setSocket, hp]; rfl
    · rw [he]; exact hset.keep rfl fun _ => by rw [setSocket, hp]; rfl
  | @socket k x y b hx hxy =>
    intro hp
    obtain ⟨z, hz, ho⟩ := g hp
    refine ⟨_, set_conn rfl hx hz, ?_⟩
    by_cases hk : s.conn = k
    · subst hk
      cases hx.symm.trans hz
      rw [if_pos rfl]
      exact (Socket.step_owner hxy).1.trans ho
    · rw [if_neg hk]
      exact ho

theorem reach_owns (h : Lts.Reach step (create config) s) : s.Owns :=
  Lts.reach_inv (I := Owns) (fun h => by cases h) (fun _ _ _ _ g h => step_owns g h) h

/-! ## A server that closes -/

/-- The connection's stream ends, or yields an error, only when the server's `Close` is in the stream queue. -/
def ServerCloses (s : ClientActor C) : ClientAct C → Prop
  | .socket k b => b.fails = true → ∀ x, s.socks[k]? = some x → x.owned = true → x.CloseQueued
  | _ => True

/-- A step that calls `on_disconnect` leaves no `Close` in the stream queue. -/
def ReadsClose (s : ClientActor C) (a : ClientAct C) : Prop :=
  s.Disconnects a → ∀ x, s.socks[s.conn]? = some x → ∀ frame, .ok (.close frame) ∉ x.toOwner.queue

def Orderly (s : ClientActor C) : Prop :=
  ∀ (k : Nat) (x : Socket), s.socks[k]? = some x → x.owned = true → x.Orderly

theorem step_orderly {a : ClientAct C} (g : s.Orderly) (ha : s.ServerCloses a) (h : s.step a = some t) :
    t.Orderly := by
  intro k y hy ho
  cases hx : s.socks[k]? with
  | none =>
    rw [step_new h hx hy]
    exact Socket.new_orderly _
  | some x =>
    obtain ⟨y', hy', hu⟩ := step_socket h hx
    cases hy.symm.trans hy'
    rcases hu with hu | ⟨b, rfl, hb⟩
    · exact (g k x hx (hu.owned ho)).keep hu.kept.forwarded hu.kept.streaming
    · have hox : x.owned = true := (Socket.step_owner hb).1.symm.trans ho
      exact Socket.step_orderly (g k x hx hox) hox (fun hf => ha hf x hx hox) hb

theorem Reading.got_close (g : Reading s) (hp : s.phase.connected = true) {x : Socket}
    (hx : s.socks[s.conn]? = some x) (frame : Option CloseFrame) : .ok (.close frame) ∉ x.toOwner.got := by
  intro hm
  apply g.no_close hp frame
  rw [g.passed_conn hx, List.mem_filterMap]
  exact ⟨_, hm, rfl⟩

/-- The server's `Close` is read, so `on_disconnect` is never called. -/
theorem no_disconnect {a : ClientAct C} (hs : Lts.Reach step (create config) s) (g : s.Orderly)
    (ha : s.ReadsClose a) (h : s.step a = some t) (hp : s.phase ≠ .onDisconnect) : t.phase ≠ .onDisconnect := by
  intro hpt
  have hd := step_disconnects h hp hpt
  have hread := ha hd
  obtain ⟨x, hx, hcase⟩ := hd
  have hconn : s.phase.connected = true := by
    rcases hcase with ⟨-, hsel, -⟩ | ⟨-, haw, -⟩
    · rw [hsel]; rfl
    · rw [haw]; rfl
  obtain ⟨x', hx', ho⟩ := reach_owns hs hconn
  cases hx.symm.trans hx'
  have hgot := (reach_reading hs).got_close hconn hx
  have hend : x.streaming = false → False := by
    intro hst
    obtain ⟨frame, hf⟩ := (g _ x hx ho).ended hst
    rcases List.mem_append.mp hf with hf | hf
    · exact hgot frame hf
    · exact hread x hx frame hf
  rcases hcase with ⟨-, -, ⟨-, hst⟩ | ⟨err, rest, hq⟩⟩ | ⟨-, -, hover⟩
  · exact hend hst
  · obtain ⟨frame, hf⟩ := (g _ x hx ho).errors x.toOwner.got.length err (by rw [Chan.hist, hq]; simp)
    rw [Chan.hist, List.take_left] at hf
    exact hgot frame hf
  · obtain ⟨err, y, hr, -⟩ := awaitSinkClose_over.mp hover
    exact hend (Socket.dead_result (socks_supervised hs hx) hr)

end ClientActor

/-! ## The clock -/

def ClientPhase.asleep : ClientPhase → Bool
  | .sleeping _ _ | .closeSleep => true
  | _ => false

def ClientPhase.draining : ClientPhase → Bool
  | .drain _ _ => true
  | _ => false

def ClientAct.waits : ClientAct C → Bool
  | .slept => true
  | _ => false

/-- A client, and when its attempts to connect have started. -/
structure Paced (C : Type) where
  client : ClientActor C
  starts : List Nat

namespace Paced

def new (config : ClientConfig) : Timed (Paced C) := ⟨⟨.create config, []⟩, 0, 0⟩

/-- One step at the time `now`; a client that goes to sleep sleeps for the reconnect interval. -/
def pace (reconnectInterval now : Nat) (s : Paced C) (a : ClientAct C) : Option (Paced C × Option Nat) :=
  (s.client.step a).map fun t =>
    (⟨t, if s.client.attempts < t.attempts then s.starts ++ [now] else s.starts⟩,
      if t.phase.asleep && !s.client.phase.asleep then some reconnectInterval else none)

def step (reconnectInterval : Nat) : Timed (Paced C) → TimedAct (ClientAct C) → Option (Timed (Paced C)) :=
  Timed.step (pace reconnectInterval) ClientAct.waits

end Paced

namespace ClientActor

variable {s t : ClientActor C}

/-- A step stays where it is, wakes up, or goes on to something else, to sleep for one. -/
theorem step_phase {a : ClientAct C} (h : s.step a = some t) (hn : s.phase ≠ .onDisconnect) :
    t.phase = s.phase ∨ (a.waits = true ∧ s.phase.asleep = true ∧ t.phase.asleep = false) ∨
      (s.phase.asleep = false ∧ t.phase.draining = false) := by
  have ended : ∀ {u : ClientActor C} {res : Except Error Unit} {p : ClientPhase}, s.phase = p → p.asleep = false →
      s.phase.asleep = false ∧ (u.finish res).phase.draining = false := by
    intro u res p hp hs
    rw [finish_phase, hp]
    exact ⟨hs, rfl⟩
  cases step_cases h with
  | text m | binary m | close m => exact .inl (send_phase _)
  | call c => exact .inl (call_phase c)
  | dropClients => exact .inl free_phase
  | dropCallSenders | drainMessage | handOver | socket => exact .inl rfl
  | slept hp | closeSlept hp => exact .inr (.inl ⟨rfl, by rw [hp]; rfl, rfl⟩)
  | drainEmpty hp | connected hp | connectFailed _ hp | onConnectOk hp | retry hp | sendFailed hp | takeCall hp
  | handlerOk hp | onCloseReconnect hp => exact .inr (.inr ⟨by rw [hp]; rfl, rfl⟩)
  | drainClose hp | drainDead hp | onConnectErr _ hp | exhausted hp | connectFailClose hp | connectFailErr _ hp
  | handOverClose hp | outgoingClosed hp | callsClosed hp | handlerErr _ hp | onCloseClose hp | onCloseErr _ hp =>
    exact .inr (.inr (ended hp rfl))
  | panic hp =>
    refine .inr (.inr (ended rfl ?_))
    unfold ClientPhase.isCallback at hp
    split at hp <;> first | (rename_i he; rw [he]; rfl) | cases hp
  | @incoming x y item hp =>
    refine .inr (.inr ⟨by rw [hp]; rfl, ?_⟩)
    rcases item with _ | (_ | (_ | _ | _)) <;> rfl
  | @sinkClosed x y res closedSelf hp =>
    rcases sinkClosed_cases (s.setSocket y) closedSelf res with ⟨r, he⟩ | ⟨-, -, he⟩ | he
    · rw [he]; exact .inr (.inr (ended hp rfl))
    · rw [he]; exact .inr (.inr ⟨by rw [hp]; rfl, rfl⟩)
    · rw [he]; exact .inr (.inr ⟨by rw [hp]; rfl, rfl⟩)
  | onDisconnectReconnect hp | onDisconnectClose hp | onDisconnectErr _ hp => exact absurd hp hn

end ClientActor

namespace Paced

variable {d : Nat} {s t : Timed (Paced C)} {config : ClientConfig}

theorem step_act {a : ClientAct C} (h : step d s (.act a) = some t) : ∃ u, s.state.client.step a = some u ∧
    (a.waits = true → s.alarm ≤ s.now) ∧
    t = ⟨⟨u, if s.state.client.attempts < u.attempts then s.state.starts ++ [s.now] else s.state.starts⟩, s.now,
      if (u.phase.asleep && !s.state.client.phase.asleep) = true then s.now + d else s.alarm⟩ := by
  cases Timed.step_cases h with
  | act hw hx =>
    obtain ⟨u, hu, he⟩ := Option.map_eq_some_iff.mp hx
    obtain ⟨rfl, ho⟩ := Prod.mk.inj he
    refine ⟨u, hu, hw, ?_⟩
    by_cases hs : (u.phase.asleep && !s.state.client.phase.asleep) = true
    · rw [if_pos hs] at ho; cases ho
    · rw [if_neg hs]
  | sleep hw hx =>
    obtain ⟨u, hu, he⟩ := Option.map_eq_some_iff.mp hx
    obtain ⟨rfl, ho⟩ := Prod.mk.inj he
    refine ⟨u, hu, hw, ?_⟩
    by_cases hs : (u.phase.asleep && !s.state.client.phase.asleep) = true
    · rw [if_pos hs] at ho ⊢
      cases ho; rfl
    · rw [if_neg hs] at ho; cases ho

theorem reach_client (h : Lts.Reach (step d) s t) :
    Lts.Reach ClientActor.step s.state.client t.state.client := by
  refine Timed.reach_state (p := Paced.client) ?_ h
  intro now x a y o hx
  obtain ⟨u, hu, he⟩ := Option.map_eq_some_iff.mp hx
  cases he
  exact hu

theorem reach_starts (h : Lts.Reach (step d) (new config) s) :
    s.state.starts.length = s.state.client.attempts := by
  refine Lts.reach_inv (I := fun s : Timed (Paced C) => s.state.starts.length = s.state.client.attempts) rfl ?_ h
  intro u a v _ hu huv
  cases a with
  | advance => cases huv; exact hu
  | act a =>
    obtain ⟨w, hw, -, rfl⟩ := step_act huv
    rcases ClientActor.step_attempts hw with he | ⟨he, -⟩
    · simp only [he, Nat.lt_irrefl, if_false]; exact hu
    · simp only [he, Nat.lt_succ_self, if_true, List.length_append, List.length_singleton, hu]

/-- The attempts so far are an interval apart, and the next one will be. -/
structure Spaced (d : Nat) (s : Timed (Paced C)) : Prop where
  chain : s.state.starts.IsChain fun a b => a + d ≤ b
  started : ∀ a, s.state.starts.getLast? = some a → a ≤ s.now
  asleep : s.state.client.phase.asleep = true → ∀ a, s.state.starts.getLast? = some a → a + d ≤ s.alarm
  rested : s.state.client.phase.draining = true → ∀ a, s.state.starts.getLast? = some a → a + d ≤ s.now

theorem step_spaced {a : TimedAct (ClientAct C)} (hn : s.state.client.phase ≠ .onDisconnect) (g : Spaced d s)
    (h : step d s a = some t) : Spaced d t := by
  cases a with
  | advance e =>
    cases h
    exact ⟨g.chain, fun a ha => Nat.le_add_right_of_le (g.started a ha), g.asleep,
      fun hp a ha => Nat.le_add_right_of_le (g.rested hp a ha)⟩
  | act a =>
    obtain ⟨u, hu, hw, rfl⟩ := step_act h
    rcases ClientActor.step_attempts hu with he | ⟨he, -, attempt, max, hs, hp⟩
    · simp only [he, Nat.lt_irrefl, if_false]
      rcases ClientActor.step_phase hu hn with hp | ⟨ha, hs, hp⟩ | ⟨hs, hd⟩
      · simp only [hp, Bool.and_not_self, Bool.false_eq_true, if_false]
        exact ⟨g.chain, g.started, by rw [hp]; exact g.asleep, by rw [hp]; exact g.rested⟩
      · -- the alarm has gone off
        simp only [hp, Bool.false_and, Bool.false_eq_true, if_false]
        refine ⟨g.chain, g.started, fun hc => (by rw [hp] at hc; cases hc), fun _ b hb => ?_⟩
        exact Nat.le_trans (g.asleep hs b hb) (hw ha)
      · simp only [hs, Bool.not_false, Bool.and_true]
        refine ⟨g.chain, g.started, fun hc b hb => ?_, fun hc => by rw [hd] at hc; cases hc⟩
        have hle := g.started b hb
        simp only [if_pos hc]
        omega
    · -- an attempt starts, after the drain
      simp only [he, hp, Nat.lt_succ_self, if_true, ClientPhase.asleep, Bool.false_and,
        Bool.false_eq_true, if_false]
      refine ⟨?_, fun b hb => ?_, fun hc => (by rw [hp] at hc; cases hc), fun hc => by rw [hp] at hc; cases hc⟩
      · refine List.isChain_append.mpr ⟨g.chain, .singleton _, fun b hb c hc => ?_⟩
        cases hc
        exact g.rested (by rw [hs]; rfl) b hb
      · rw [List.getLast?_concat] at hb
        cases hb
        exact Nat.le_refl _

/-- What the environment does: the server closes each connection. -/
def ServerCloses (s : Timed (Paced C)) : TimedAct (ClientAct C) → Prop
  | .act a => s.state.client.ServerCloses a
  | .advance _ => True

def ReadsClose (s : Timed (Paced C)) : TimedAct (ClientAct C) → Prop
  | .act a => s.state.client.ReadsClose a
  | .advance _ => True

/-- If the server closes every connection, and no step calls `on_disconnect` with a `Close` still in the stream
queue, then the attempts to connect start at least the reconnect interval apart. -/
theorem attempts_spaced {as : List (TimedAct (ClientAct C))}
    (hc : Lts.Along (step d) (fun s a => ServerCloses s a ∧ ReadsClose s a) (new config) as)
    (h : Lts.exec (step d) (new config) as = some s) :
    s.state.starts.length = s.state.client.attempts ∧ s.state.starts.IsChain fun a b => a + d ≤ b := by
  refine ⟨reach_starts ⟨as, h⟩, ?_⟩
  have hinv : s.state.client.Orderly ∧ s.state.client.phase ≠ .onDisconnect ∧ Spaced d s := by
    refine Lts.along_inv (I := fun s : Timed (Paced C) => s.state.client.Orderly ∧
      s.state.client.phase ≠ .onDisconnect ∧ Spaced d s) ⟨?_, ?_, ?_⟩ ?_ hc h
    · intro k x hx; cases hx
    · intro hp; cases hp
    · exact ⟨.nil, fun _ ha => (by cases ha), fun _ _ ha => (by cases ha), fun _ _ ha => by cases ha⟩
    · intro u a v hu ⟨ho, hp, hs⟩ ⟨hsc, hrc⟩ huv
      refine ⟨?_, ?_, step_spaced hp hs huv⟩
      · cases a with
        | advance => cases huv; exact ho
        | act a =>
          obtain ⟨w, hw, -, rfl⟩ := step_act huv
          exact ClientActor.step_orderly ho hsc hw
      · cases a with
        | advance => cases huv; exact hp
        | act a =>
          obtain ⟨w, hw, -, rfl⟩ := step_act huv
          exact ClientActor.no_disconnect (reach_client hu) ho hrc hw hp
  exact hinv.2.2.chain

theorem reads_of_act {a : ClientAct C} (hi : a ≠ .incoming) (hk : a ≠ .sinkClosed) (s : ClientActor C) :
    s.ReadsClose a := by
  rintro ⟨x, -, ⟨ha, -⟩ | ⟨ha, -⟩⟩
  · exact absurd ha hi
  · exact absurd ha hk

/-- The server's `Close` is read, and after the pause the client connects again. -/
theorem attempts_spaced_two : ∃ (as : List (TimedAct (ClientAct Nat))) (s : Timed (Paced Nat)),
    Lts.exec (step 5) (new ⟨1, 1, none⟩) as = some s ∧ s.state.starts = [0, 5] ∧
      s.state.starts.IsChain fun a b => a + 5 ≤ b := by
  let before : List (TimedAct (ClientAct Nat)) := [
    .act .tryRecv, .act .connected, .act (.onConnectReturn (.ok ())),
    .act (.socket 0 (.streamNext (.ok (.close none))))]
  let after : List (TimedAct (ClientAct Nat)) := [
    .act (.onCloseReturn (.ok .reconnect)), .advance 5, .act .slept, .act .tryRecv]
  have quiet : ∀ as : List (TimedAct (ClientAct Nat)), as = before ∨ as = after →
      ∀ a ∈ as, ∀ s, ServerCloses s a ∧ ReadsClose s a := by
    rintro as (rfl | rfl)
    · intro a ha s
      simp only [before, List.mem_cons, List.not_mem_nil, or_false] at ha
      rcases ha with rfl | rfl | rfl | rfl
      · exact ⟨trivial, reads_of_act (by simp) (by simp) _⟩
      · exact ⟨trivial, reads_of_act (by simp) (by simp) _⟩
      · exact ⟨trivial, reads_of_act (by simp) (by simp) _⟩
      · exact ⟨fun hf => (by cases hf), reads_of_act (by simp) (by simp) _⟩
    · intro a ha s
      simp only [after, List.mem_cons, List.not_mem_nil, or_false] at ha
      rcases ha with rfl | rfl | rfl | rfl
      · exact ⟨trivial, reads_of_act (by simp) (by simp) _⟩
      · exact ⟨trivial, trivial⟩
      · exact ⟨trivial, reads_of_act (by simp) (by simp) _⟩
      · exact ⟨trivial, reads_of_act (by simp) (by simp) _⟩
  have hc : Lts.Along (step 5) (fun s a => ServerCloses s a ∧ ReadsClose s a) (new ⟨1, 1, none⟩)
      (before ++ .act .incoming :: after) := by
    refine Lts.along_append (Lts.along_of_forall (quiet before (.inl rfl)) _) rfl
      (Lts.along_cons ⟨trivial, ?_⟩ rfl (Lts.along_of_forall (quiet after (.inr rfl)) _))
    -- what the client reads here is the `Close`
    rintro ⟨x, hx, ⟨-, -, ⟨hq, -⟩ | ⟨err, rest, hq⟩⟩ | ⟨ha, -⟩⟩
    · cases hx; cases hq
    · cases hx; cases hq
    · cases ha
  exact ⟨before ++ .act .incoming :: after, _, rfl, rfl, (attempts_spaced hc rfl).2⟩

/-- Two messages are refused after the server has closed and before the client reads it: the second one leads to
`on_disconnect`, and the next attempt starts at once. -/
theorem attempts_at_once : ∃ (as : List (TimedAct (ClientAct Nat))) (s : Timed (Paced Nat)),
    Lts.Along (step 5000000000) ServerCloses (new ⟨1, 1, none⟩) as ∧
      Lts.exec (step 5000000000) (new ⟨1, 1, none⟩) as = some s ∧
      (∃ x, s.state.client.socks = [x] ∧ x.toOwner.queue = [.ok (.close none)]) ∧ s.state.starts = [0, 0] ∧
      ¬ s.state.starts.IsChain fun a b => a + 5000000000 ≤ b := by
  let before : List (TimedAct (ClientAct Nat)) := [
    .act .tryRecv, .act .connected, .act (.onConnectReturn (.ok ())), .act (.text "x"), .act (.text "y"),
    .act (.socket 0 (.streamNext (.ok (.close none))))]
  let after : List (TimedAct (ClientAct Nat)) := [
    .act (.socket 0 .supervise), .act (.socket 0 .supervise), .act (.socket 0 .sinkAborted),
    .act (.socket 0 .supervise), .act (.socket 0 .supervise), .act (.socket 0 .supervise), .act .outgoing,
    .act .sinkClosed, .act .outgoing, .act .sinkClosed, .act (.onDisconnectReturn (.ok .reconnect)), .act .tryRecv]
  have quiet : ∀ as : List (TimedAct (ClientAct Nat)), as = before ∨ as = after →
    ∀ a ∈ as, ∀ s, ServerCloses s a := by
    rintro as (rfl | rfl)
    · simp [before, ServerCloses, ClientActor.ServerCloses, SocketAct.fails]
    · simp [after, ServerCloses, ClientActor.ServerCloses, SocketAct.fails]
  have hc : Lts.Along (step 5000000000) ServerCloses (new ⟨1, 1, none⟩)
      (before ++ .act (.socket 0 .streamEnd) :: after) := by
    refine Lts.along_append (Lts.along_of_forall (quiet before (.inl rfl)) _) rfl
      (Lts.along_cons ?_ rfl (Lts.along_of_forall (quiet after (.inr rfl)) _))
    -- the `Close` is in the queue when the stream ends
    intro _ x hx _
    cases hx
    exact ⟨none, List.mem_cons_self⟩
  refine ⟨_, _, hc, rfl, ⟨_, rfl, rfl⟩, rfl, ?_⟩
  show ¬ [0, 0].IsChain fun a b => a + 5000000000 ≤ b
  simp

end Paced

end Ezsockets
