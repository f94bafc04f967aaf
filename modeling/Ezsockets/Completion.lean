import Ezsockets.Deadlock
import Mathlib.Algebra.Order.BigOperators.Group.List
import Mathlib.Algebra.Order.Group.Nat

/-!
# The work that is left

Every step of the actors and of the watchers lowers `rank`, and what comes
from outside raises it by its `cost` at most. When shutdown has begun and none
of them is left, the server actor is gone, every session has been reported and
every caller has its answer (`shutdown_completes`).
-/

namespace Ezsockets

variable {ID C SC : Type}

/-! ## Sessions -/

namespace SessionActor

def phaseRank : SessionPhase C → Nat
  | .select => 2
  | .handler _ _ => 3
  | .finished _ => 1
  | .ended => 0

/-- A waiting item costs the step that takes it and the return of its handler. -/
def rank (a : SessionActor ID C) : Nat :=
  phaseRank a.phase + 2 * (a.toSocket.queue.length + a.calls.queue.length + a.socket.toOwner.queue.length)

end SessionActor

theorem Socket.forward_queue (s : Socket) (item : Except WSError RawMessage) :
    (s.forward item).toOwner.queue.length ≤ s.toOwner.queue.length + 1 := by
  rcases item with err | (t | b | b | b | frame) <;> simp only [Socket.forward] <;>
    first | exact Nat.le_succ _ | (split <;> simp)

theorem Socket.step_arrived {s t : Socket} {a : SocketAct} (h : s.step a = some t) :
    t.toOwner.queue.length ≤ s.toOwner.queue.length + 1 := by
  cases Socket.step_cases h with
  | streamNext item => exact Socket.forward_queue _ item
  | heartbeat _ he => rw [handleHeartbeat_frame he]; exact Nat.le_succ _
  | heartbeatEnd _ he => rw [free_toOwner, handleHeartbeat_frame he]; exact Nat.le_succ _
  | supervise h => rw [supervise_frame h]; exact Nat.le_succ _
  | _ => simp

section
variable {a b : SessionActor ID SC}

theorem SessionActor.send_rank (a : SessionActor ID SC) (m : Message) : (a.send m).rank ≤ a.rank + 2 := by
  unfold send
  split
  · simp only [rank, Chan.push_queue, List.length_append, List.length_singleton]; omega
  · omega

/-- A step of the actor itself takes something off, any other adds two at most. -/
theorem SessionActor.step_rank (C : Type) {x : SessionAct SC} (h : a.step x = some b) :
    ((ServerAct.session 0 x : ServerAct ID C SC).internal = true → b.rank < a.rank) ∧ b.rank ≤ a.rank + 2 := by
  have less : b.rank < a.rank →
      ((ServerAct.session 0 x : ServerAct ID C SC).internal = true → b.rank < a.rank) ∧ b.rank ≤ a.rank + 2 :=
    fun h => ⟨fun _ => h, by omega⟩
  have outside : (ServerAct.session 0 x : ServerAct ID C SC).internal = false → b.rank ≤ a.rank + 2 →
      ((ServerAct.session 0 x : ServerAct ID C SC).internal = true → b.rank < a.rank) ∧ b.rank ≤ a.rank + 2 :=
    fun hx h => ⟨fun hi => absurd (hx.symm.trans hi) Bool.false_ne_true, h⟩
  cases step_cases h with
  | text m | binary m | close m => exact outside rfl (send_rank a _)
  | call c =>
    apply outside rfl
    unfold call
    split
    · simp only [rank, Chan.push_queue, List.length_append, List.length_singleton]; omega
    · omega
  | @handOver m c hp hq =>
    have hlen := congrArg List.length (Chan.pop?_some.mp hq).1
    rw [List.length_cons] at hlen
    apply less
    simp only [rank, Socket.send_toOwner]
    omega
  | @handOverClose m c frame hp hq | @sendFailed m c hp hq =>
    have hlen := congrArg List.length (Chan.pop?_some.mp hq).1
    rw [List.length_cons] at hlen
    apply less
    simp only [rank, finish, Socket.send_toOwner, Socket.drop_toOwner, phaseRank, hp]
    omega
  | @takeCall c q hp _ hq =>
    have hlen := congrArg List.length (Chan.pop?_some.mp hq).1
    rw [List.length_cons] at hlen
    apply less
    simp only [rank, start, phaseRank, hp]
    omega
  | @incoming item y hp _ _ hr =>
    obtain ⟨l, rfl, hq⟩ := Socket.recv_queue hr
    have hlen := congrArg List.length hq
    rw [List.length_append] at hlen
    apply less
    rcases item with _ | (err | (t | t | frame))
    · simp only [rank, incoming, finish, Socket.drop_toOwner, phaseRank, hp]
      omega
    all_goals
      simp only [rank, incoming, start, finish, Socket.drop_toOwner, phaseRank, hp, Option.toList_some,
        List.length_singleton] at hlen ⊢
      omega
  | callWith hp | resume hp => exact outside rfl (by simp only [rank, phaseRank, hp]; omega)
  | handlerOk hp => exact less (by simp only [rank, phaseRank, hp]; omega)
  | handlerErr _ hp | handlerPanic hp =>
    exact less (by simp only [rank, finish, Socket.drop_toOwner, phaseRank, hp]; omega)
  | notify hp => exact less (by simp only [rank, phaseRank, hp]; omega)
  | socket x hs =>
    apply outside rfl
    have := Socket.step_arrived hs
    simp only [rank]
    omega

theorem SessionActor.resume_rank (h : a.step .resume = some b) : b.rank = a.rank := by
  cases step_cases h with
  | resume hp => simp only [rank, phaseRank, hp]

theorem SessionActor.callWith_rank (h : a.step .callWith = some b) : b.rank = a.rank := by
  cases step_cases h with
  | callWith hp => simp only [rank, phaseRank, hp]

end

/-! ## The server -/

namespace Watcher

-- a started watcher will still send its message, and one that is spawned starts a `watch_for_shutdown` before
def rank : Watcher → Nat
  | .spawned => 13
  | .started => 6
  | .awaiting => 5
  | .resolved _ => 4
  | .aborted _ => 3
  | .absent | .done | .panicked => 0

end Watcher

/-- The value is read once more after it was flipped, and the `Close` that follows is taken from the session's
queue. -/
def Closer.rank (value : Bool) : Closer → Nat
  | .borrow => if value then 4 else 6
  | .changed => 5
  | .close => 3
  | .absent | .done | .cancelled => 0

/-- A session may still be created for a socket. -/
def Body.rank : Body ID SC → Nat
  | .socket x => 3 + 2 * x.toOwner.queue.length
  | .session a => a.rank

def Conn.rank (value : Bool) (c : Conn ID SC) : Nat := c.body.rank + c.watcher.rank + c.closer.rank value

-- a session that is accepted gets its watcher
def ServerPhase.rank : ServerPhase C → Nat
  | .onConnect _ => 16
  | .onDisconnect _ | .onCall _ => 3
  | .select => 2
  | .left => 1
  | .dropped => 0

/-- What is left to be done by the actors and the watchers. -/
def Server.rank (s : Server ID C SC) : Nat :=
  (s.conns.map (Conn.rank s.shutdownSignal.value)).sum + s.phase.rank + 15 * s.connections.queue.length +
    2 * s.disconnections.queue.length + 2 * s.calls.queue.length + s.shutdowns.queue.length

/-- The steps of the actors and of the watchers. An `on_call` that uses its reply sender does not end by it. -/
def ServerAct.works : ServerAct ID C SC → Bool
  | .respond => false
  | a => a.internal

/-- What an action from outside adds at most. -/
def ServerAct.cost : ServerAct ID C SC → Nat
  | .accept x => 18 + 2 * x.toOwner.queue.length
  | .respond => 0
  | _ => 2

theorem Body.mapSocket_rank {b : Body ID SC} {f : Socket → Socket} (hf : ∀ x, (f x).toOwner = x.toOwner) :
    (b.mapSocket f).rank = b.rank := by
  cases b with
  | socket x => simp only [Body.mapSocket, Body.rank, hf]
  | session a => simp only [Body.mapSocket, Body.rank, SessionActor.rank, hf]

/-- A flipped value leaves less to do. -/
theorem Conn.rank_flipped {value value' : Bool} (h : value = true → value' = true) (c : Conn ID SC) :
    c.rank value' ≤ c.rank value := by
  have hle : c.closer.rank value' ≤ c.closer.rank value := by
    cases c.closer with
    | borrow =>
      cases value with
      | true => rw [h rfl]
      | false => cases value' <;> simp [Closer.rank]
    | _ => exact Nat.le_refl _
  unfold Conn.rank
  omega

section
variable {s t : Server ID C SC} {i : Nat} {c c' : Conn ID SC}

theorem respond_rank (s : Server ID C SC) (o : Option Nat) : (s.respondOpt o).rank = s.rank := by
  rcases Server.respond_cases s o with h | ⟨i, c, a, b, -, hc, hb, hs, h⟩
  · rw [h]
  · have hr := SessionActor.resume_rank hs
    have hsum := List.sum_map_set_of hc { c with body := .session b } (Conn.rank s.shutdownSignal.value)
    rw [h]
    simp only [Server.rank, Server.setConn, Conn.rank, Body.rank, hb, hr] at hsum ⊢
    omega

theorem dropFields_rank (s : Server ID C SC) : s.dropFields.rank ≤ s.rank - s.phase.rank := by
  have hconns : (s.conns.mapIdx s.discard).map (Conn.rank s.shutdownSignal.value) =
      s.conns.map (Conn.rank s.shutdownSignal.value) := by
    apply List.map_mapIdx_of
    intro j d
    unfold Server.discard
    split
    · simp only [Conn.rank, Body.mapSocket_rank fun _ => Socket.drop_toOwner]
    · rfl
  have hsig : s.shutdownSignal.dropSender.value = s.shutdownSignal.value := rfl
  simp only [Server.rank, Server.dropFields, hsig, hconns, ServerPhase.rank, Chan.clear_queue, List.length_nil]
  omega

theorem dropActor_rank (hp : s.phase = .left) : s.dropActor.rank < s.rank := by
  have hinv : s.dropActor.rank = s.dropFields.rank :=
    Server.foldl_respond_inv (I := fun u => u.rank = s.dropFields.rank)
      (fun u o h => (respond_rank u o).trans h) _ rfl
  have hle := dropFields_rank s
  have hpos : s.phase.rank ≤ s.rank := by simp only [Server.rank]; omega
  have hone : s.phase.rank = 1 := by rw [hp]; rfl
  omega

/-- One connection changes. -/
theorem set_rank (hc : s.conns[i]? = some c) (ht : t.conns = s.conns.set i c')
    (hv : t.shutdownSignal.value = s.shutdownSignal.value) :
    t.rank + c.rank s.shutdownSignal.value + (s.phase.rank + 15 * s.connections.queue.length +
        2 * s.disconnections.queue.length + 2 * s.calls.queue.length + s.shutdowns.queue.length) =
      s.rank + c'.rank s.shutdownSignal.value + (t.phase.rank + 15 * t.connections.queue.length +
        2 * t.disconnections.queue.length + 2 * t.calls.queue.length + t.shutdowns.queue.length) := by
  have hsum := List.sum_map_set_of hc c' (Conn.rank s.shutdownSignal.value)
  simp only [Server.rank, ht, hv]
  omega

theorem takeShutdown_rank {ack : Nat} {q : Chan Nat} (hp : s.shutdowns.pop? = some (ack, q)) :
    ({ s with shutdowns := q }.takeShutdown ack).rank < s.rank := by
  have hlen := congrArg List.length (Chan.pop?_some.mp hp).1
  rw [List.length_cons] at hlen
  unfold Server.takeShutdown
  by_cases hd : s.shuttingDown = true
  · rw [if_pos hd]
    simp only [Server.rank]
    omega
  · rw [if_neg hd]
    have hv : s.shutdownSignal.value = true → (s.shutdownSignal.send true).value = true := by
      intro hv
      unfold Watch.send
      split
      · exact hv
      · rfl
    have hle := List.sum_le_sum (fun c (_ : c ∈ s.conns) => Conn.rank_flipped hv c)
    simp only [Server.rank]
    omega

theorem takeConnection_rank {q : Chan Nat} {x : Socket} (hs : s.selecting = true)
    (hp : s.connections.pop? = some (i, q)) (hc : s.conns[i]? = some c) (hb : c.body = .socket x) :
    ({ s with connections := q }.takeConnection i c x).rank < s.rank := by
  have hlen := congrArg List.length (Chan.pop?_some.mp hp).1
  rw [List.length_cons] at hlen
  have hph := (Server.selecting_iff.mp hs).1
  unfold Server.takeConnection
  by_cases hd : s.shuttingDown = true
  · simp only [hd, if_true]
    have hsum := List.sum_map_set_of hc { c with
      body := .socket (x.send (.new (.close (some awayFrame)) .own)).1.drop,
      stage := .rejected (x.send (.new (.close (some awayFrame)) .own)).2 } (Conn.rank s.shutdownSignal.value)
    simp only [Server.rank, Server.setConn, Conn.rank, Body.rank, hb, Socket.drop_toOwner,
      Socket.send_toOwner] at hsum ⊢
    omega
  · simp only [hd, Bool.false_eq_true, if_false]
    have hsum := List.sum_map_set_of hc { c with body := .socket x.cloneSink, stage := .connecting }
      (Conn.rank s.shutdownSignal.value)
    simp only [Server.rank, Server.setConn, Conn.rank, Body.rank, hb, Socket.cloneSink, ServerPhase.rank,
      hph] at hsum ⊢
    omega

theorem onConnectErr_rank {frame : Option CloseFrame} (hp : s.phase = .onConnect i) (hc : s.conns[i]? = some c) :
    (s.onConnectErr i c frame).rank < s.rank := by
  let refuse (x : Socket) : Socket := (x.send (.new (.close frame) .own)).1.dropSink
  have hf : ∀ x, (refuse x).toOwner = x.toOwner := fun x => by simp [refuse, Socket.dropSink]
  obtain ⟨b, hb, hr⟩ : ∃ b : Body ID SC, (s.onConnectErr i c frame).conns = s.conns.set i
      { c with body := b, stage := .declined } ∧ b.rank = c.body.rank := by
    cases hb : c.body with
    | socket x =>
      refine ⟨.socket (refuse x.drop),
        by simp only [Server.onConnectErr, Server.setConn, hb, Body.mapSocket, refuse], ?_⟩
      simp only [Body.rank, hf, Socket.drop_toOwner]
    | session x =>
      refine ⟨.session { x with socket := refuse x.socket },
        by simp only [Server.onConnectErr, Server.setConn, hb, Body.mapSocket, refuse], ?_⟩
      simp only [Body.rank, SessionActor.rank, hf]
  have hsum := set_rank hc hb rfl
  simp only [Server.onConnectErr, Server.setConn, Conn.rank, hr, ServerPhase.rank, hp] at hsum ⊢
  omega

theorem step_rank {a : ServerAct ID C SC} (g : Broadcast s) (h : s.step a = some t) :
    (a.works = true → t.rank < s.rank) ∧ t.rank ≤ s.rank + a.cost := by
  have less : t.rank < s.rank → (a.works = true → t.rank < s.rank) ∧ t.rank ≤ s.rank + a.cost :=
    fun h => ⟨fun _ => h, by omega⟩
  have outside : a.works = false → t.rank ≤ s.rank + a.cost →
      (a.works = true → t.rank < s.rank) ∧ t.rank ≤ s.rank + a.cost :=
    fun ha h => ⟨fun hi => absurd (ha.symm.trans hi) Bool.false_ne_true, h⟩
  -- a connection is all that changes, and it has less left to do
  have one : ∀ {i : Nat} {c c' : Conn ID SC}, s.conns[i]? = some c → t.conns = s.conns.set i c' →
      t.shutdownSignal.value = s.shutdownSignal.value → t.phase = s.phase → t.connections = s.connections →
      t.disconnections = s.disconnections → t.calls = s.calls → t.shutdowns = s.shutdowns →
      c'.rank s.shutdownSignal.value < c.rank s.shutdownSignal.value → t.rank < s.rank := by
    intro i c c' hc ht hv h₁ h₂ h₃ h₄ h₅ hlt
    have := set_rank hc ht hv
    rw [h₁, h₂, h₃, h₄, h₅] at this
    omega
  cases Server.step_cases h with
  | accept socket =>
    apply outside rfl
    unfold Server.accept
    split
    · omega
    · simp [Server.rank, Conn.new, Conn.rank, Body.rank, Watcher.rank, Closer.rank, ServerAct.cost]
      omega
  | gracefulShutdown =>
    apply outside rfl
    unfold Server.gracefulShutdown
    split
    · simp [Server.rank]
    · simp [Server.rank, ServerAct.cost]
      omega
  | call =>
    apply outside rfl
    simp only [Server.rank, Server.call, Chan.push_queue, List.length_append, List.length_singleton, ServerAct.cost]
    omega
  | callClosed | callWithClosed => exact outside rfl (Nat.le_add_right ..)
  | takeShutdown hs hp => exact less (takeShutdown_rank hp)
  | takeConnection hs hp hc hb => exact less (takeConnection_rank hs hp hc hb)
  | @createSession i c x id hp hc hb =>
    refine less (one hc rfl rfl rfl rfl rfl rfl rfl ?_)
    simp only [Conn.rank, Body.rank, hb, SessionActor.rank, SessionActor.create, SessionActor.phaseRank,
      Chan.empty_queue, List.length_nil]
    omega
  | @onConnectOk i c a hp hc hb =>
    apply less
    have hsum := set_rank (t := s.onConnectOk i c) hc rfl rfl
    have hrank := Body.mapSocket_rank (b := c.body) (f := (·.dropSink)) fun x => by simp [Socket.dropSink]
    simp only [Server.onConnectOk, Server.setConn, Conn.rank, hrank, Watcher.rank, ServerPhase.rank, hp] at hsum ⊢
    omega
  | onConnectErr frame hp hc => exact less (onConnectErr_rank hp hc)
  | @takeCall call q hs hn hp =>
    have hlen := congrArg List.length (Chan.pop?_some.mp hp).1
    rw [List.length_cons] at hlen
    have hph := (Server.selecting_iff.mp hs).1
    apply less
    simp only [Server.rank, ServerPhase.rank, hph]
    omega
  | @respond call hp =>
    apply outside rfl
    have hr := respond_rank s call.respondTo
    have hph : (s.respondOpt call.respondTo).phase = s.phase := Server.respondOpt_phase
    simp only [Server.rank, ServerPhase.rank, hph, hp] at hr ⊢
    omega
  | @onCallReturn call res hp =>
    apply less
    have hr := respond_rank s call.respondTo
    have hph : (s.respondOpt call.respondTo).phase = s.phase := Server.respondOpt_phase
    simp only [Server.rank, ServerPhase.rank, hph, hp] at hr ⊢
    omega
  | @takeDisconnected d q c hs hp hc =>
    have hlen := congrArg List.length (Chan.pop?_some.mp hp).1
    rw [List.length_cons] at hlen
    have hph := (Server.selecting_iff.mp hs).1
    apply less
    have hsum := set_rank (t := { s with disconnections := q }.takeDisconnected d c) hc rfl rfl
    simp only [Server.takeDisconnected, Server.setConn, Conn.rank, ServerPhase.rank, hph] at hsum ⊢
    omega
  | @onDisconnectReturn i c res hp hc =>
    apply less
    have hsum := set_rank (t := { s.setConn i { c with stage := .disconnected } with
      phase := .select, log := s.log ++ [.onDisconnectReturn i] }) hc rfl rfl
    simp only [Server.setConn, Conn.rank, ServerPhase.rank, hp] at hsum ⊢
    omega
  | leave hp =>
    apply less
    simp only [Server.rank, Server.leave, ServerPhase.rank, hp]
    omega
  | dropActor hp => exact less (dropActor_rank hp)
  | @session i c x y a hc hb hs =>
    obtain ⟨hlt, hle⟩ := SessionActor.step_rank C hs
    have hsum := set_rank (t := s.setConn i { c with body := .session y }) hc rfl rfl
    simp only [Server.setConn, Conn.rank, Body.rank, hb] at hsum ⊢
    refine ⟨fun hi => ?_, by simp only [ServerAct.cost]; omega⟩
    have := hlt hi
    omega
  | @callWith i c x y call hc hb hs =>
    apply outside rfl
    have hr := SessionActor.callWith_rank hs
    have hsum := set_rank (t := (s.setConn i { c with body := .session y }).call call (some i)) hc rfl rfl
    simp only [Server.call, Server.setConn, Conn.rank, Body.rank, hb, Chan.push_queue, List.length_append,
      List.length_singleton, ServerAct.cost] at hsum ⊢
    omega
  | @socket i c x y a hc hb hs =>
    apply outside rfl
    have hle := Socket.step_arrived hs
    have hsum := set_rank (t := s.setConn i { c with body := .socket y }) hc rfl rfl
    simp only [Server.setConn, Conn.rank, Body.rank, hb, ServerAct.cost] at hsum ⊢
    omega
  | spawnCloser hc hw =>
    refine less (one hc rfl rfl rfl rfl rfl rfl rfl ?_)
    simp only [Conn.rank, hw, Watcher.rank, Closer.rank]
    split <;> omega
  | takeIndicator hc hb hw | awaitClose hc hb hw =>
    refine less (one hc rfl rfl rfl rfl rfl rfl rfl ?_)
    simp only [Conn.rank, Body.rank, SessionActor.rank, hb, hw, Watcher.rank]
    omega
  | takeIndicatorPanic hc hb hw | abortCloser hc hw =>
    refine less (one hc rfl rfl rfl rfl rfl rfl rfl ?_)
    simp only [Conn.rank, hw, Watcher.rank]
    omega
  | @disconnected i c a r hc hb hw =>
    apply less
    unfold Server.disconnected
    have hsum := set_rank (t := s.setConn i { c with watcher := .done }) hc rfl rfl
    split
    · simp only [Server.setConn, Conn.rank, hw, Watcher.rank] at hsum ⊢
      omega
    · simp only [Server.rank, Server.setConn, Conn.rank, hw, Watcher.rank, Chan.push_queue, List.length_append,
        List.length_singleton] at hsum ⊢
      omega
  | borrow hc hw =>
    refine less (one hc rfl rfl rfl rfl rfl rfl rfl ?_)
    cases hv : s.shutdownSignal.value <;> simp [Conn.rank, hw, Closer.rank]
  | changed hc hw hv =>
    have hval : s.shutdownSignal.value = true := by
      apply g.flipped
      rw [← (g.closing _ _ hc).seen (.inr hw)]
      exact (Watch.changed_ok hv).1
    refine less (one hc rfl rfl rfl rfl rfl rfl rfl ?_)
    simp [Conn.rank, hw, Closer.rank, hval]
  | changedErr hc hw =>
    refine less (one hc rfl rfl rfl rfl rfl rfl rfl ?_)
    simp [Conn.rank, hw, Closer.rank]
  | @close i c a hc hb hw =>
    have hle := SessionActor.send_rank a (.close (some awayFrame))
    refine less (one hc rfl rfl rfl rfl rfl rfl rfl ?_)
    simp only [Conn.rank, Body.rank, hb, hw, Closer.rank, SessionActor.close]
    omega
  | cancel hc ha hw =>
    refine less (one hc rfl rfl rfl rfl rfl rfl rfl ?_)
    rcases hw with hw | hw <;> cases hv : s.shutdownSignal.value <;> simp [Conn.rank, hw, Closer.rank]

/-! ## Nothing left to do -/

/-- Nothing is left in the actor's channels once it is dropped. -/
def Emptied (s : Server ID C SC) : Prop :=
  s.isDropped = true → s.shutdowns.queue = [] ∧ s.connections.queue = []

theorem step_emptied {a : ServerAct ID C SC} (e : Emptied s) (h : s.step a = some t) : Emptied t := by
  have running : ∀ {u : Server ID C SC}, u.inLoop = true → Emptied u := by
    intro u hl hd
    rw [Server.isDropped_inLoop hd] at hl; cases hl
  cases Server.step_cases h with
  | accept socket =>
    unfold Server.accept
    split
    · exact e
    · rename_i hd; exact fun h => absurd h hd
  | gracefulShutdown =>
    unfold Server.gracefulShutdown
    split
    · exact e
    · rename_i hd; exact fun h => absurd h hd
  | takeShutdown hs =>
    have hl : s.inLoop = true := by simp [Server.inLoop, (Server.selecting_iff.mp hs).1]
    unfold Server.takeShutdown
    split <;> exact running hl
  | takeConnection hs =>
    have hl : s.inLoop = true := by simp [Server.inLoop, (Server.selecting_iff.mp hs).1]
    unfold Server.takeConnection
    split
    · exact running hl
    · exact running rfl
  | onConnectOk | onConnectErr | takeDisconnected | onDisconnectReturn | takeCall | onCallReturn =>
    exact running rfl
  | respond hp =>
    rw [Server.respondOpt_eq]
    exact running rfl
  | leave => exact fun hd => by cases hd
  | dropActor => rw [Server.dropActor_eq]; exact fun _ => ⟨rfl, rfl⟩
  | disconnected => unfold Server.disconnected; split <;> exact e
  | _ => exact e

theorem reach_emptied (h : Lts.Reach Server.step .create s) : Emptied s :=
  Lts.reach_inv (I := Emptied) (fun _ => ⟨rfl, rfl⟩) (fun _ _ _ _ e hs => step_emptied e hs) h

/-- Where neither an actor nor a watcher can move and no session waits for the server, the server actor is gone. -/
theorem stuck_dropped (h : Lts.Reach Server.step .create s) (hd : s.shuttingDown = true) (f : Free s)
    (hs : ¬ s.canStep) : s.isDropped = true := by
  have n := reach_accounting h
  have p := reach_halted h
  have ha : s.activeSessions = 0 := by
    apply Classical.byContradiction
    intro ha
    exact hs (draining_canStep n (reach_broadcast h) p f hd (Nat.pos_of_ne_zero ha))
  have hdr : s.drained = true := by simp [Server.drained, hd, ha]
  cases hp : s.phase with
  | select => exact absurd ⟨.leave, rfl, by simp [Server.step, hp, hdr]⟩ hs
  | onDisconnect i =>
    obtain ⟨c, hc⟩ := n.phase_conn (i := i) (by simp [hp, ServerPhase.handler])
    exact absurd ⟨.onDisconnectReturn (.ok ()), rfl, by simp [Server.step, hp, Server.withConn, hc]⟩ hs
  | onConnect i | onCall call => have := p hd; rw [hp] at this; cases this
  | left => exact absurd ⟨.dropActor, rfl, by simp [Server.step, hp]⟩ hs
  | dropped => simp [Server.isDropped, hp]

theorem reach_shuttingDown (h : Lts.Reach Server.step .create s) (hd : s.shuttingDown = true)
    (ht : Lts.Reach Server.step s t) : t.shuttingDown = true :=
  (reach_draining h hd ht).shuttingDown hd

theorem run_free {as : List (ServerAct ID C SC)} (h : Lts.Reach Server.step .create s) (f : Free s)
    (hC : Lts.Along Server.step Uncalled s as) (ht : Lts.exec Server.step s as = some t) : Free t :=
  Lts.along_inv f (fun _ _ _ hr f hC hs => step_free (reach_halted (h.trans hr)) f hC hs) hC ht

/-- What the outside has added in a run. -/
def Server.added (as : List (ServerAct ID C SC)) : Nat := (as.map fun a => if a.works then 0 else a.cost).sum

/-- However the tasks and the outside interleave, the steps that the actors and the watchers make are bounded by
what was left to do and by what comes from outside. -/
theorem work_bounded (h : Lts.Reach Server.step .create s) {as : List (ServerAct ID C SC)}
    (ht : Lts.exec Server.step s as = some t) : as.countP (·.works) + t.rank ≤ s.rank + Server.added as := by
  have bound : ∀ (u v : Server ID C SC) (a : ServerAct ID C SC), Lts.Reach Server.step s u →
      u.step a = some v → (a.works = true → v.rank < u.rank) ∧ v.rank ≤ u.rank + a.cost :=
    fun u v a hu hv => step_rank (reach_broadcast (h.trans hu)) hv
  exact Lts.rank_bound (fun u a v hu hi hv => (bound u v a hu hv).1 hi)
    (fun u a v hu _ hv => (bound u v a hu hv).2) ht

/-- The steps of the actors and the watchers are bounded, in a shutdown as before, so a shutdown comes to its end.
When shutdown has begun, no session waits for the server and none of them can move any more, the server actor is
gone, each caller has its answer and each session has been reported. -/
theorem shutdown_completes (h : Lts.Reach Server.step .create s) (as : List (ServerAct ID C SC))
    (ht : Lts.exec Server.step s as = some t) :
    as.countP (·.works) + t.rank ≤ s.rank + Server.added as ∧
    (s.shuttingDown = true → Free s → Lts.Along Server.step Uncalled s as → ¬ t.canStep → t.isDropped = true ∧
      (∀ c ∈ t.callers, c.reply ≠ .waiting) ∧ ∀ i, t.accepted i = true → ∃ a r, t.session? i = some a ∧
        t.log.filter (·.isDisconnect i) = [.onDisconnect i a.id r] ∧
        t.log.filter (·.isDisconnectReturn i) = [.onDisconnectReturn i]) := by
  refine ⟨work_bounded h ht, fun hd f hC hs => ?_⟩
  · have hr : Lts.Reach Server.step .create t := h.trans ⟨as, ht⟩
    have hdrop := stuck_dropped hr (reach_shuttingDown h hd ⟨as, ht⟩) (run_free h f hC ht) hs
    have hl := Server.isDropped_inLoop hdrop
    refine ⟨hdrop, fun c hc hw => ?_, fun i hi => (reach_accounting hr).drained hl hi⟩
    have g := reach_callers hr
    obtain ⟨k, hk⟩ := List.getElem?_of_mem hc
    have hmem := (g.waiting k c hk).mp hw
    rw [g.acks hl, (reach_emptied hr hdrop).1] at hmem
    cases hmem

/-- The steps that are left for one session that was there when shutdown began. -/
theorem shutdown_completes_one :
    ∃ s t : Server Nat Nat Nat, Lts.Reach Server.step .create s ∧ s.activeSessions = 1 ∧
    s.rank = 17 ∧ t.isDropped = true ∧ t.callers = [⟨true, .ok⟩] ∧ ∀ c ∈ t.callers, c.reply ≠ .waiting := by
  have h : Lts.Reach Server.step (.create : Server Nat Nat Nat) _ := ⟨[
    .accept (.new .default), .takeConnection, .createSession 7, .onConnectReturn (.ok ()), .gracefulShutdown,
    .takeShutdown], rfl⟩
  let rest : List (ServerAct Nat Nat Nat) := [
    .spawnCloser 0, .takeIndicator 0, .borrow 0, .close 0, .session 0 .outgoing, .session 0 .notify, .awaitClose 0,
    .abortCloser 0, .disconnected 0, .takeDisconnected, .onDisconnectReturn (.ok ()), .leave, .dropActor]
  have hrest : ∀ a ∈ rest, ∀ u, Uncalled u a := by
    intro a ha u
    constructor
    · rintro rfl
      simp [rest] at ha
    · rintro i call rfl
      simp [rest] at ha
  obtain ⟨-, hdone⟩ := shutdown_completes h rest rfl
  obtain ⟨hd, hc, -⟩ := by
    refine hdone rfl (fun _ i c hc _ => ?_) (Lts.along_of_forall hrest _) ?_
    · cases i with
      | zero => cases hc; rfl
      | succ i => cases hc
    · rintro ⟨a, ha, hs⟩
      cases a with
      | session i a =>
        cases i with
        | zero => cases a <;> first | exact hs rfl | cases ha
        | succ i => exact hs rfl
      | spawnCloser i | takeIndicator i | awaitClose i | abortCloser i | disconnected i | borrow i
      | changed i | close i | cancel i => cases i <;> exact hs rfl
      | _ => first | exact hs rfl | cases ha
  exact ⟨_, _, h, rfl, rfl, hd, rfl, hc⟩

end

end Ezsockets
