import Ezsockets.ClientStep
import Mathlib.Computability.RegularExpressions

/-!
# The life cycle of a client

The callbacks of a client, in order, are a prefix of a word of `lifeCycle`:
each phase of the actor has the words that can lead to it (`traces`), and
every step takes a word of its phase to one of the next.
-/

namespace RegularExpression

variable {α : Type*} {P Q Q' : RegularExpression α} {w : List α} {c : α}

theorem mem_star_mul (h : w ∈ (star P * P).matches') : w ∈ (star P).matches' := by
  rw [matches'_star, ← Language.one_add_kstar_mul_self_eq_kstar]
  exact .inr h

theorem snoc_star (hw : w ∈ (star P).matches') (hc : [c] ∈ P.matches') : w ++ [c] ∈ (star P).matches' :=
  mem_star_mul (Language.append_mem_mul hw hc)

theorem snoc_mul (hw : w ∈ (P * Q).matches') (h : ∀ v ∈ Q.matches', v ++ [c] ∈ Q'.matches') :
    w ++ [c] ∈ (P * Q').matches' := by
  obtain ⟨u, hu, v, hv, rfl⟩ := Language.mem_mul.mp hw
  rw [List.append_assoc]
  exact Language.append_mem_mul hu (h v hv)

theorem char_mem (c : α) : [c] ∈ (char c).matches' := rfl

end RegularExpression

namespace Ezsockets

open RegularExpression

variable {C : Type}

inductive ClientCallback where
  | onConnectFail
  | onConnect
  | onText
  | onBinary
  | onCall
  | onClose
  | onDisconnect
  deriving DecidableEq

namespace ClientCallback

def failures : RegularExpression ClientCallback := star (char onConnectFail)

/-- A connection while it lasts. -/
def connection : RegularExpression ClientCallback :=
  failures * char onConnect * star (char onText + char onBinary + char onCall)

def lifeCycle : RegularExpression ClientCallback := star (connection * (char onClose + char onDisconnect))

example : lifeCycle.rmatch [onConnectFail, onConnect, onText, onClose, onConnect, onDisconnect] = true := by decide
example : lifeCycle.rmatch [onConnect, onDisconnect, onClose] = false := by decide

end ClientCallback

open ClientCallback

def ClientEvent.callback : ClientEvent C → Option ClientCallback
  | .onConnect => some .onConnect
  | .onConnectFail _ => some .onConnectFail
  | .onText _ => some .onText
  | .onBinary _ => some .onBinary
  | .onCall _ => some .onCall
  | .onClose _ => some .onClose
  | .onDisconnect => some .onDisconnect
  | .connect _ | .sleep => none

/-- What the client can have called when it gets to a phase. -/
def ClientPhase.traces : ClientPhase → Language ClientCallback
  | .drain _ _ | .connecting _ _ | .onConnectFail _ _ | .sleeping _ _ | .closeSleep =>
    (lifeCycle * failures).matches'
  | .onConnect | .select | .awaitSink _ | .handler => (lifeCycle * connection).matches'
  | .onClose | .onDisconnect => lifeCycle.matches'
  | .done _ => {w | ∃ v, w ++ v ∈ lifeCycle.matches'}

/-- The callback returns an error or asks the client to close, or it panics. -/
def ClientAct.quits : ClientAct C → Bool
  | .onConnectReturn (.error _) | .onConnectFailReturn (.error _) | .onConnectFailReturn (.ok .close)
  | .handlerReturn (.error _) | .onCloseReturn (.error _) | .onCloseReturn (.ok .close)
  | .onDisconnectReturn (.error _) | .onDisconnectReturn (.ok .close) | .panic => true
  | _ => false

theorem failed_mem {w : List ClientCallback} (h : w ∈ (lifeCycle * failures).matches') :
    w ++ [onConnectFail] ∈ (lifeCycle * failures).matches' :=
  snoc_mul h fun _ hv => snoc_star hv (char_mem _)

theorem connected_mem {w : List ClientCallback} (h : w ∈ (lifeCycle * failures).matches') :
    w ++ [onConnect] ∈ (lifeCycle * connection).matches' := by
  apply snoc_mul h
  intro v hv
  have := Language.append_mem_mul (Language.append_mem_mul hv (char_mem onConnect))
    (Language.nil_mem_kstar (char onText + char onBinary + char onCall).matches')
  rw [List.append_nil] at this; exact this

theorem data_mem {w : List ClientCallback} {c : ClientCallback} (h : w ∈ (lifeCycle * connection).matches')
    (hc : c = onText ∨ c = onBinary ∨ c = onCall) : w ++ [c] ∈ (lifeCycle * connection).matches' := by
  apply snoc_mul h
  intro v hv
  refine snoc_mul hv fun u hu => snoc_star hu ?_
  rcases hc with rfl | rfl | rfl
  · exact .inl (.inl (char_mem _))
  · exact .inl (.inr (char_mem _))
  · exact .inr (char_mem _)

theorem closed_mem {w : List ClientCallback} {c : ClientCallback} (h : w ∈ (lifeCycle * connection).matches')
    (hc : c = onClose ∨ c = onDisconnect) : w ++ [c] ∈ lifeCycle.matches' := by
  have hmul : w ++ [c] ∈ (lifeCycle * (connection * (char onClose + char onDisconnect))).matches' := by
    apply snoc_mul h
    intro v hv
    apply Language.append_mem_mul hv
    rcases hc with rfl | rfl
    · exact .inl (char_mem _)
    · exact .inr (char_mem _)
  exact mem_star_mul hmul

theorem again_mem {w : List ClientCallback} (h : w ∈ lifeCycle.matches') :
    w ∈ (lifeCycle * failures).matches' := by
  have := Language.append_mem_mul h (Language.nil_mem_kstar (char onConnectFail).matches')
  rw [List.append_nil] at this; exact this

/-- Whatever the phase, the word can still be completed. -/
theorem traces_prefix {p : ClientPhase} {w : List ClientCallback} (h : w ∈ p.traces) :
    ∃ v, w ++ v ∈ lifeCycle.matches' := by
  cases p with
  | drain | connecting | onConnectFail | sleeping | closeSleep =>
    refine ⟨[onConnect, onClose], ?_⟩
    have := closed_mem (connected_mem h) (.inl rfl)
    rw [List.append_assoc] at this; exact this
  | onConnect | select | awaitSink | handler => exact ⟨[onClose], closed_mem h (.inl rfl)⟩
  | onClose | onDisconnect => exact ⟨[], by rw [List.append_nil]; exact h⟩
  | done => exact h

namespace ClientActor

variable {s t u : ClientActor C} {config : ClientConfig}

def callbacks (s : ClientActor C) : List ClientCallback := s.log.filterMap (·.2.callback)

theorem event_callbacks (s : ClientActor C) (e : ClientEvent C) :
    (s.event e).callbacks = s.callbacks ++ e.callback.toList := by
  unfold callbacks event
  rw [List.filterMap_append]
  cases h : e.callback with
  | none => simp [h]
  | some c => simp [h]

theorem callbacks_of_log (h : t.log = s.log) : t.callbacks = s.callbacks := by
  unfold callbacks
  rw [h]

def Follows (s : ClientActor C) : Prop := s.callbacks ∈ s.phase.traces

theorem Follows.keep (g : s.Follows) (hl : t.log = s.log) (hp : t.phase = s.phase) : t.Follows := by
  unfold Follows
  rw [callbacks_of_log hl, hp]; exact g

theorem Follows.finish (g : s.Follows) (hl : u.log = s.log) (res : Except Error Unit) : (u.finish res).Follows := by
  unfold Follows
  rw [finish_phase, callbacks_of_log (finish_log.trans hl)]
  exact traces_prefix g

theorem Follows.event {e : ClientEvent C} {p : ClientPhase} (h : s.callbacks ++ e.callback.toList ∈ p.traces) :
    Follows { s.event e with phase := p } := by
  rw [← event_callbacks] at h
  exact h

theorem handleIncomingMsg_follows (hp : s.phase = .select) (g : s.Follows)
    (item : Option (Except WSError Message)) : (s.handleIncomingMsg item).Follows := by
  unfold Follows at g
  rw [hp] at g
  rcases item with _ | (_ | (_ | _ | _))
  · exact Follows.event (closed_mem g (.inr rfl))
  · exact Follows.event (closed_mem g (.inr rfl))
  · exact Follows.event (data_mem g (.inl rfl))
  · exact Follows.event (data_mem g (.inr (.inl rfl)))
  · exact Follows.event (closed_mem g (.inl rfl))

theorem sinkClosed_follows {closedSelf : Bool} (hp : s.phase = .awaitSink closedSelf) (g : s.Follows)
    (res : Except WSError Unit) : (s.sinkClosed closedSelf res).Follows := by
  rcases sinkClosed_cases s closedSelf res with ⟨r, he⟩ | ⟨-, -, he⟩ | he
  · rw [he]; exact g.finish rfl r
  · unfold Follows at g
    rw [hp] at g
    rw [he]
    exact Follows.event (closed_mem g (.inr rfl))
  · unfold Follows at g
    rw [hp] at g
    rw [he]; exact g

theorem step_follows {a : ClientAct C} (g : s.Follows) (h : s.step a = some t) : t.Follows := by
  have hg := g
  unfold Follows at hg
  cases step_cases h with
  | text m | binary m | close m => exact g.keep (send_log _) (send_phase _)
  | call c => exact g.keep (call_log c) (call_phase c)
  | dropClients => exact g.keep (by simp) (by simp)
  | dropCallSenders | drainMessage | socket => exact g
  | drainClose | drainDead | onConnectErr | exhausted | connectFailClose | connectFailErr | handOverClose
  | outgoingClosed | callsClosed | handlerErr | onCloseClose | onCloseErr | onDisconnectClose | onDisconnectErr
  | panic =>
    refine g.finish ?_ _
    rfl
  | drainEmpty hp | retry hp =>
    rw [hp] at hg
    exact Follows.event (by rw [ClientEvent.callback, Option.toList_none, List.append_nil]; exact hg)
  | connected hp => rw [hp] at hg; exact Follows.event (connected_mem hg)
  | connectFailed error hp => rw [hp] at hg; exact Follows.event (failed_mem hg)
  | onConnectOk hp | handlerOk hp => rw [hp] at hg; exact hg
  | slept hp | closeSlept hp => rw [hp] at hg; exact hg
  | handOver hp => exact g
  | sendFailed hp => rw [hp] at hg; exact hg
  | takeCall hp => rw [hp] at hg; exact Follows.event (data_mem hg (.inr (.inr rfl)))
  | @incoming x y item hp => exact handleIncomingMsg_follows (s := s.setSocket y) hp g item
  | @sinkClosed x y res closedSelf hp => exact sinkClosed_follows (s := s.setSocket y) hp g res
  | onCloseReconnect hp =>
    rw [hp] at hg
    refine Follows.event (s := s.dropSocket) ?_
    rw [ClientEvent.callback, Option.toList_none, List.append_nil]
    exact again_mem hg
  | onDisconnectReconnect hp => rw [hp] at hg; exact again_mem hg

theorem create_follows (config : ClientConfig) : (create config : ClientActor C).Follows :=
  again_mem (Language.nil_mem_kstar _)

/-- A callback that quits is the last thing that the actor does. -/
theorem quits_finish {a : ClientAct C} (hq : a.quits = true) (h : s.step a = some t) : ∃ res, t = s.finish res := by
  cases step_cases h with
  | onConnectErr | connectFailClose | connectFailErr | handlerErr | onCloseClose | onCloseErr | onDisconnectClose
  | onDisconnectErr | panic => exact ⟨_, rfl⟩
  | _ => cases hq

/-- The callbacks are a prefix of a word of the life cycle, and after one that quits there is neither another one
nor another attempt to connect. -/
theorem callbacks_follow_life_cycle (h : Lts.Reach step (create config) s) :
    (∃ v, s.callbacks ++ v ∈ lifeCycle.matches') ∧
    ∀ (a : ClientAct C) (t u : ClientActor C), a.quits = true → s.step a = some t → Lts.Reach step t u →
      u.isDone = true ∧ u.log = s.log := by
  constructor
  · exact traces_prefix (Lts.reach_inv (create_follows config) (fun _ _ _ _ g h => step_follows g h) h)
  · intro a t u hq ha hu
    obtain ⟨res, rfl⟩ := quits_finish hq ha
    have hd : (s.finish res).isDone = true := by simp [isDone]
    obtain ⟨hp, hl, -⟩ := done_reach hd hu
    refine ⟨?_, hl.trans finish_log⟩
    unfold isDone at hd ⊢
    rw [hp]; exact hd

/-- One failed attempt, a connection with a text that the server closes, and a second one on which a handler
fails. -/
theorem callbacks_follow_life_cycle_two : ∃ (as : List (ClientAct Nat)) (s t : ClientActor Nat),
    Lts.exec step (create ⟨2, 2, none⟩) as = some s ∧ s.step (.handlerReturn (.error "failed")) = some t ∧
      s.callbacks = [.onConnectFail, .onConnect, .onText, .onClose, .onConnect, .onCall] ∧
      (∃ v, s.callbacks ++ v ∈ lifeCycle.matches') ∧ t.isDone = true ∧ t.log = s.log := by
  have h : Lts.exec step (create ⟨2, 2, none⟩ : ClientActor Nat) [
    .tryRecv, .connectFailed .connectionClosed, .onConnectFailReturn (.ok .reconnect), .slept, .tryRecv, .connected,
    .onConnectReturn (.ok ()), .socket 0 (.streamNext (.ok (.text "a"))), .incoming, .handlerReturn (.ok ()),
    .socket 0 (.streamNext (.ok (.close none))), .incoming, .onCloseReturn (.ok .reconnect), .slept, .tryRecv,
    .connected, .onConnectReturn (.ok ()), .call 7, .takeCall] = some _ := rfl
  obtain ⟨hw, hq⟩ := callbacks_follow_life_cycle ⟨_, h⟩
  exact ⟨_, _, _, h, rfl, rfl, hw, hq (.handlerReturn (.error "failed")) _ _ rfl rfl (.refl _)⟩

end ClientActor

end Ezsockets
