import Ezsockets.CallWith
import Ezsockets.Completion
import Ezsockets.Pacing

/-!
# A client that nobody holds

When the last `Client` is dropped the actor stops by itself, in whatever phase
it is and whatever the server does: it makes a bounded number of steps, and is
over when it cannot make one, unless it waits for a sink whose result does not
come (`client_winds_down`). A reconnect then ends at the head of its first
attempt.
-/

namespace Ezsockets

variable {C : Type}

/-- How much the actor may still do in a phase before it is over or takes something off a queue. -/
def ClientPhase.rank : ClientPhase → Nat
  | .connecting _ _ => 6
  | .onConnect | .handler | .awaitSink _ => 5
  | .select => 4
  | .onConnectFail _ _ | .onClose => 3
  | .sleeping _ _ | .closeSleep | .onDisconnect => 2
  | .drain _ _ => 1
  | .done _ => 0

/-- The steps of the actor: those that it takes by itself, and those that its connector, its timer and its callbacks
let it take. -/
def ClientAct.works : ClientAct C → Bool
  | .text _ | .binary _ | .close _ | .call _ | .dropClients _ | .dropCallSenders | .socket _ _ => false
  | _ => true

namespace ClientActor

variable {s t u : ClientActor C} {config : ClientConfig}

/-- What the sockets have for the actor. -/
def arrived (s : ClientActor C) : Nat := (s.socks.map (·.toOwner.queue.length)).sum

def rank (s : ClientActor C) : Nat :=
  s.phase.rank + 2 * (s.toSocket.queue.length + s.calls.queue.length + s.arrived)

def canWork (s : ClientActor C) : Prop := ∃ a : ClientAct C, a.works = true ∧ s.step a ≠ none

theorem step_clients {a : ClientAct C} (hc : s.clients = false) (h : s.step a = some t) : t.clients = false := by
  cases step_inbox h with
  | call c => exact (call_flags s c).1.trans hc
  | take | dropCallSenders => exact hc
  | dropClients keep _ hn => exact hn
  | other _ _ hn => exact hn.trans hc

theorem reach_clients (hc : s.clients = false) (h : Lts.Reach step s t) : t.clients = false :=
  Lts.reach_inv (I := fun u : ClientActor C => u.clients = false) hc (fun _ _ _ _ g hs => step_clients g hs) h

theorem setSocket_arrived {x y : Socket} (hx : s.socks[s.conn]? = some x) :
    (s.setSocket y).arrived + x.toOwner.queue.length = s.arrived + y.toOwner.queue.length :=
  List.sum_map_set_of hx y fun z => z.toOwner.queue.length

theorem setSocket_rank {x y : Socket} (hx : s.socks[s.conn]? = some x) :
    (s.setSocket y).rank + 2 * x.toOwner.queue.length = s.rank + 2 * y.toOwner.queue.length := by
  have ha := setSocket_arrived (y := y) hx
  simp only [rank, setSocket] at ha ⊢
  omega

theorem dropSocket_arrived (s : ClientActor C) : s.dropSocket.arrived = s.arrived :=
  congrArg List.sum (dropSocket_map s fun x => by rw [Socket.drop_toOwner])

theorem finish_rank (s : ClientActor C) (res : Except Error Unit) :
    (s.finish res).rank + s.phase.rank = s.rank := by
  have ha : (s.finish res).arrived = s.arrived := by
    unfold arrived
    rw [finish_socks]
    exact dropSocket_arrived s
  simp only [rank, ha, finish_phase, finish_toSocket, finish_calls, ClientPhase.rank]
  omega

/-- Only the phase changes, and the log. -/
theorem event_rank (s : ClientActor C) (e : ClientEvent C) (p : ClientPhase) :
    ({ s.event e with phase := p } : ClientActor C).rank + s.phase.rank = s.rank + p.rank := by
  simp only [rank, event, arrived]
  omega

theorem free_rank (s : ClientActor C) : s.free.rank = s.rank := by
  simp only [rank, arrived, free_phase, free_toSocket, free_calls, free_socks]

/-- Without clients each step of the actor leaves it less to do, and a step from outside adds two at most. -/
theorem step_rank {a : ClientAct C} (hc : s.clients = false) (h : s.step a = some t) :
    (a.works = true → t.rank < s.rank) ∧ t.rank ≤ s.rank + 2 := by
  have less : t.rank < s.rank → (a.works = true → t.rank < s.rank) ∧ t.rank ≤ s.rank + 2 :=
    fun h => ⟨fun _ => h, by omega⟩
  have outside : a.works = false → t.rank ≤ s.rank + 2 → (a.works = true → t.rank < s.rank) ∧ t.rank ≤ s.rank + 2 :=
    fun ha h => ⟨fun hi => absurd (ha.symm.trans hi) Bool.false_ne_true, h⟩
  have ends : ∀ (u : ClientActor C) (res : Except Error Unit), t = u.finish res → u.rank ≤ s.rank →
    0 < u.phase.rank →
      t.rank < s.rank := by
    rintro u res rfl hle hpos
    have := finish_rank u res
    omega
  have moves : ∀ (u : ClientActor C) (e : ClientEvent C) (p : ClientPhase), t = { u.event e with phase := p } →
      u.rank + p.rank < s.rank + u.phase.rank → t.rank < s.rank := by
    rintro u e p rfl hlt
    have := event_rank u e p
    omega
  have taken : ∀ {m : InMessage} {c : Chan InMessage}, s.toSocket.pop? = some (m, c) →
      s.toSocket.queue.length = c.queue.length + 1 := by
    intro m c hq
    rw [(Chan.pop?_some.mp hq).1, List.length_cons]
  cases step_cases h with
  | text m | binary m | close m =>
    have hs : ∀ m : Message, s.send m = s := fun m => by simp [send, hc]
    exact outside rfl (by rw [hs]; omega)
  | call c =>
    apply outside rfl
    unfold call
    split
    · simp only [rank, arrived, Chan.push_queue, List.length_append, List.length_singleton]
      omega
    · omega
  | dropClients keep =>
    apply outside rfl
    rw [free_rank]
    exact Nat.le_add_right ..
  | dropCallSenders => exact outside rfl (Nat.le_add_right ..)
  | @drainClose attempt max m c frame hp hq =>
    have := taken hq
    refine less (ends _ _ rfl ?_ (by rw [hp]; simp [ClientPhase.rank]))
    simp only [rank, arrived]
    omega
  | @drainMessage attempt max m c hp hq =>
    have := taken hq
    apply less
    simp only [rank, arrived]
    omega
  | drainEmpty _ _ hn => cases hc.symm.trans hn
  | drainDead hp | onConnectErr _ hp | exhausted hp | connectFailClose hp | connectFailErr _ hp | outgoingClosed hp
  | callsClosed hp | handlerErr _ hp | onCloseClose hp | onCloseErr _ hp | onDisconnectClose hp
  | onDisconnectErr _ hp =>
    exact less (ends s _ rfl (Nat.le_refl _) (by rw [hp]; simp [ClientPhase.rank]))
  | panic hp =>
    refine less (ends s _ rfl (Nat.le_refl _) ?_)
    cases hs : s.phase <;> simp [hs, ClientPhase.isCallback, ClientPhase.rank] at hp ⊢
  | connected hp | connectFailed _ hp | retry hp =>
    exact less (moves s _ _ rfl (by rw [hp]; simp [ClientPhase.rank]))
  | onConnectOk hp =>
    apply less
    simp only [rank, arrived, List.map_append, List.sum_append, List.map_singleton, List.sum_singleton, hp,
      ClientPhase.rank, Socket.new, Chan.empty_queue, List.length_nil]
    omega
  | slept hp | closeSlept hp | handlerOk hp =>
    apply less
    simp only [rank, arrived, hp, ClientPhase.rank]
    omega
  | @handOver m c x hp hq hx =>
    have hlen := taken hq
    have hset := setSocket_rank (s := { s with toSocket := c }) (y := { x with toSink := x.toSink.push m.toRaw }) hx
    apply less
    simp only [rank, arrived] at hset ⊢
    omega
  | @handOverClose m c x frame hp hq hx =>
    have hlen := taken hq
    have hset := setSocket_rank (s := { s with toSocket := c }) (y := { x with toSink := x.toSink.push m.toRaw }) hx
    refine less (ends _ _ rfl ?_ (by simp [setSocket, hp, ClientPhase.rank]))
    simp only [rank, arrived] at hset ⊢
    omega
  | @sendFailed m c x hp hq hx =>
    have hlen := taken hq
    have hset := setSocket_rank (s := { s with toSocket := c }) (y := { x with writes := x.writes ++ m.drop }) hx
    apply less
    simp only [rank, arrived, setSocket, hp, ClientPhase.rank] at hset ⊢
    omega
  | @takeCall c q hp hq =>
    have hlen : s.calls.queue.length = q.queue.length + 1 := by
      rw [(Chan.pop?_some.mp hq).1, List.length_cons]
    refine less (moves { s with calls := q } _ _ rfl ?_)
    simp only [rank, arrived, hp, ClientPhase.rank]
    omega
  | @incoming x y item hp hx hr =>
    obtain ⟨l, rfl, hq⟩ := Socket.recv_queue hr
    have hlen := congrArg List.length hq
    rw [List.length_append] at hlen
    have hset := setSocket_rank (y := y) hx
    have hph : (s.setSocket y).phase = .select := hp
    apply less
    -- only the end of the stream is taken off no queue, and it is not followed by a handler
    rcases item with _ | (err | (z | z | frame))
    · exact moves (s.setSocket y) _ _ rfl (by simp only [hph, ClientPhase.rank]; omega)
    all_goals
      refine moves (s.setSocket y) _ _ rfl ?_
      simp only [hph, ClientPhase.rank, Option.toList_some, List.length_singleton] at hlen ⊢
      omega
  | @sinkClosed x y res closedSelf hp hx hr =>
    have ho : y.toOwner = x.toOwner := by rw [Socket.awaitSinkClose_frame hr]
    have hset := setSocket_rank (y := y) hx
    rw [ho] at hset
    have hph : (s.setSocket y).phase = .awaitSink closedSelf := hp
    apply less
    rcases sinkClosed_cases (s.setSocket y) closedSelf res with ⟨r, he⟩ | ⟨-, -, he⟩ | he
    · exact ends _ r he (by omega) (by rw [hph]; simp [ClientPhase.rank])
    · exact moves (s.setSocket y) _ _ he (by simp only [hph, ClientPhase.rank]; omega)
    · rw [he]
      simp only [rank, arrived, hph, ClientPhase.rank] at hset ⊢
      omega
  | onCloseReconnect hp =>
    have ha := dropSocket_arrived s
    apply less
    simp only [rank, event, arrived, dropSocket, hp, ClientPhase.rank] at ha ⊢
    omega
  | onDisconnectReconnect hp =>
    have ha := dropSocket_arrived s
    apply less
    simp only [rank, arrived, dropSocket, hp, ClientPhase.rank] at ha ⊢
    omega
  | @socket k x y b hx hs =>
    apply outside rfl
    have := Socket.step_arrived hs
    have hsum := List.sum_map_set_of hx y fun z => z.toOwner.queue.length
    simp only [rank, arrived] at hsum ⊢
    omega

/-- The sink that the client waits for does not give its result. -/
def Awaits (s : ClientActor C) : Prop :=
  ∃ closedSelf x, s.phase = .awaitSink closedSelf ∧ s.socks[s.conn]? = some x ∧ x.awaitSinkClose = none

/-- In every other phase there is a step to make. -/
theorem stuck_over (hc : s.clients = false) (g : s.Owns) (hx : ¬ s.canWork) : s.isDone = true ∨ s.Awaits := by
  have stuck : ∀ a : ClientAct C, a.works = true → s.step a = none :=
    fun a ha => by_contra fun hs => hx ⟨a, ha, hs⟩
  cases hp : s.phase with
  | done res => exact .inl (by simp [isDone, hp])
  | drain attempt max => simpa [step, hp] using stuck .tryRecv rfl
  | connecting attempt max => simpa [step, hp] using stuck .connected rfl
  | onConnect => simpa [step, hp] using stuck (.onConnectReturn (.ok ())) rfl
  | onConnectFail attempt max => simpa [step, hp] using stuck (.onConnectFailReturn (.ok .close)) rfl
  | sleeping attempt max | closeSleep => simpa [step, hp] using stuck .slept rfl
  | handler => simpa [step, hp] using stuck (.handlerReturn (.ok ())) rfl
  | onClose => simpa [step, hp] using stuck (.onCloseReturn (.ok .close)) rfl
  | onDisconnect => simpa [step, hp] using stuck (.onDisconnectReturn (.ok .close)) rfl
  | select =>
    obtain ⟨x, hs, -⟩ := g (by rw [hp]; rfl)
    cases hq : s.toSocket.pop? with
    | none => simpa [step, hp, Chan.pop?_none.mp hq, hc] using stuck .outgoingClosed rfl
    | some m => simpa [step, hp, hq, hs] using stuck .outgoing rfl
  | awaitSink closedSelf =>
    obtain ⟨x, hs, -⟩ := g (by rw [hp]; rfl)
    refine .inr ⟨closedSelf, x, hp, hs, ?_⟩
    cases hr : x.awaitSinkClose with
    | none => rfl
    | some r => simpa [step, hp, hs, hr] using stuck .sinkClosed rfl

/-- Once no `Client` is left the steps of the actor, its attempts to connect and its callbacks among them, are
bounded by what was left to do and by what comes from outside. When there is none to make, the actor is over, or it
waits for the result of a sink that does not end. -/
theorem client_winds_down (h : Lts.Reach step (create config) s) (hc : s.clients = false) (as : List (ClientAct C))
    (ht : Lts.exec step s as = some t) :
    as.countP (·.works) + t.rank ≤ s.rank + (as.map fun a => if a.works then 0 else 2).sum ∧
      (¬ t.canWork → t.isDone = true ∨ t.Awaits) := by
  refine ⟨?_, stuck_over (reach_clients hc ⟨as, ht⟩) (reach_owns (h.trans ⟨as, ht⟩))⟩
  have up (u : ClientActor C) (a : ClientAct C) (v : ClientActor C) (hu : Lts.Reach step s u) (_ : a.works = false)
      (hv : u.step a = some v) : v.rank ≤ u.rank + (fun _ => 2) a := (step_rank (reach_clients hc hu) hv).2
  exact Lts.rank_bound (fun u a v hu ha hv => (step_rank (reach_clients hc hu) hv).1 ha) up ht

/-- The last client goes while a text is queued, and the server's stream ends at the same time. -/
theorem client_winds_down_one : ∃ s t : ClientActor Nat, Lts.Reach step (create ⟨1, 1, none⟩) s ∧ s.rank = 6 ∧
    Lts.exec step s [.socket 0 .streamEnd, .incoming, .onDisconnectReturn (.ok .reconnect), .tryRecv, .tryRecv] =
    some t ∧
    t.log.getLast? = some (1, .onDisconnect) ∧ (t.isDone = true ∨ t.Awaits) := by
  have h : Lts.exec step (create ⟨1, 1, none⟩ : ClientActor Nat) [
    .tryRecv, .connected, .onConnectReturn (.ok ()), .text "hi", .dropClients false] = some _ := rfl
  refine ⟨_, _, ⟨_, h⟩, rfl, rfl, rfl, (client_winds_down ⟨_, h⟩ rfl [.socket 0 .streamEnd, .incoming,
    .onDisconnectReturn (.ok .reconnect), .tryRecv, .tryRecv] rfl).2 ?_⟩
  rintro ⟨a, ha, hs⟩
  cases a <;> first | exact hs rfl | cases ha

end ClientActor

end Ezsockets
