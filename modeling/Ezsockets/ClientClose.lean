import Ezsockets.ClientQueue

/-!
# A client that closes itself

Once a `Close` is in the handle's queue the drain never finds it empty, so
nothing is connected any more. Whoever takes the `Close` ends the client with
`Ok`, at once or when the sink's result has come (`Obeys`).
-/

namespace Ezsockets

variable {C : Type}

/-- The client is about to end with `Ok`, or it has. -/
def ClientPhase.closing : ClientPhase → Prop
  | .awaitSink true | .done (.ok ()) => True
  | _ => False

namespace ClientActor

variable {s t u v : ClientActor C} {config : ClientConfig}

def attempts (s : ClientActor C) : Nat := s.log.countP (·.2.isConnect)

/-- The actor has taken a `Close` off the handle's queue. -/
def Closed (s : ClientActor C) : Prop := ∃ m ∈ s.toSocket.got, m.closeFrame.isSome = true

def Obeys (s : ClientActor C) : Prop := s.Closed → s.phase.closing

/-- An attempt begins only when the drain has found the queue empty. -/
theorem step_attempts {a : ClientAct C} (h : s.step a = some t) :
    t.attempts = s.attempts ∨ t.attempts = s.attempts + 1 ∧ s.toSocket.queue = [] ∧
      ∃ attempt max, s.phase = .drain attempt max ∧ t.phase = .connecting attempt max := by
  unfold attempts
  cases step_logs h with
  | nothing hl => rw [hl]; exact .inl rfl
  | attempt hp hq ht hl =>
    rw [hl, List.countP_append]
    exact .inr ⟨rfl, hq, _, _, hp, ht⟩
  | event hn hl =>
    rw [hl, List.countP_append, List.countP_singleton, hn]
    exact .inl rfl

theorem closed_snoc {m : InMessage} {c : Chan InMessage} (hq : s.toSocket.pop? = some (m, c))
    (hm : m.closeFrame = none) (ht : t.toSocket = c) (h : t.Closed) : s.Closed := by
  obtain ⟨n, hn, hc⟩ := h
  rw [ht, (Chan.pop?_some.mp hq).2] at hn
  rcases List.mem_append.mp hn with hn | hn
  · exact ⟨n, hn, hc⟩
  · rw [List.mem_singleton.mp hn, hm] at hc; cases hc

/-- From the step that takes a `Close` on, nothing is called and the client ends with `Ok`. -/
theorem closed_step {a : ClientAct C} (g : s.Obeys) (h : s.step a = some t) (hc : t.Closed) :
    t.log = s.log ∧ t.phase.closing := by
  have same : t.toSocket.got = s.toSocket.got → s.phase.closing := by
    intro he
    apply g
    unfold Closed at hc ⊢
    rw [← he]; exact hc
  have off : ∀ {p : ClientPhase}, s.phase = p → ¬ p.closing → ¬ s.phase.closing := by
    intro p hp hn
    rw [hp]; exact hn
  have ended : (s.finish (.ok ())).phase.closing := by rw [finish_phase]; trivial
  cases step_cases h with
  | text m | binary m | close m => exact ⟨send_log _, by rw [send_phase]; exact same (send_got _)⟩
  | call c => exact ⟨call_log c, by rw [call_phase]; exact same (by rw [call_toSocket])⟩
  | dropClients => exact ⟨by simp, by rw [free_phase]; exact same (by simp)⟩
  | dropCallSenders | socket => exact ⟨rfl, same rfl⟩
  | drainClose | handOverClose =>
    refine ⟨finish_log, ?_⟩
    rw [finish_phase]; trivial
  | connectFailClose | outgoingClosed | callsClosed | onCloseClose | onDisconnectClose => exact ⟨finish_log, ended⟩
  | drainMessage hp hq hm => exact absurd (g (closed_snoc hq hm rfl hc)) (off hp id)
  | handOver hp hq _ _ hm => exact absurd (g (closed_snoc hq hm rfl hc)) (off hp id)
  | @sendFailed m c x hp hq =>
    by_cases hm : m.closeFrame.isSome = true
    · rw [hm]; exact ⟨rfl, trivial⟩
    · exact absurd (g (closed_snoc hq (by simpa using hm) rfl hc)) (off hp id)
  | drainEmpty hp | connected hp | connectFailed _ hp | onConnectOk hp | retry hp | slept hp | closeSlept hp
  | takeCall hp | handlerOk hp | onCloseReconnect hp | onDisconnectReconnect hp =>
    exact absurd (same rfl) (off hp id)
  | drainDead hp | onConnectErr _ hp | exhausted hp | connectFailErr _ hp | handlerErr _ hp | onCloseErr _ hp
  | onDisconnectErr _ hp => exact absurd (same (by rw [finish_toSocket])) (off hp id)
  | panic hp =>
    have hcl := same (by rw [finish_toSocket])
    unfold ClientPhase.closing at hcl
    split at hcl
    · rename_i hs; rw [hs] at hp; cases hp
    · rename_i hs; rw [hs] at hp; cases hp
    · cases hcl
  | @incoming x y item hp => exact absurd (same (by rw [handleIncomingMsg_frame]; rfl)) (off hp id)
  | @sinkClosed x y res closedSelf hp =>
    have hq : ((s.setSocket y).sinkClosed closedSelf res).toSocket = s.toSocket := by
      rcases sinkClosed_cases (s.setSocket y) closedSelf res with ⟨r, he⟩ | ⟨-, -, he⟩ | he
      · rw [he, finish_toSocket]; rfl
      · rw [he]; rfl
      · rw [he]; rfl
    have hcl := same (by rw [hq])
    rw [hp] at hcl
    cases closedSelf with
    | false => cases hcl
    | true =>
      cases res with
      | ok =>
        refine ⟨finish_log, ?_⟩
        rw [ClientActor.sinkClosed, if_pos rfl, finish_phase]; trivial
      | error err =>
        refine ⟨finish_log, ?_⟩
        rw [ClientActor.sinkClosed, if_pos rfl, finish_phase]; trivial

theorem create_obeys (config : ClientConfig) : (create config : ClientActor C).Obeys := by
  rintro ⟨m, hm, -⟩
  cases hm

theorem reach_obeys (h : Lts.Reach step (create config) s) : s.Obeys :=
  Lts.reach_inv (create_obeys config) (fun _ _ _ _ g h hc => (closed_step g h hc).2) h

theorem closed_at {m : InMessage} {n : Nat} (hm : s.toSocket.hist[n]? = some m) (hc : m.closeFrame.isSome = true)
    (hn : n < s.toSocket.got.length) : s.Closed := by
  refine ⟨m, ?_, hc⟩
  rw [Chan.hist, List.getElem?_append_left hn] at hm
  exact List.mem_of_getElem? hm

/-- The queue is empty only if the `Close` has been taken. -/
theorem closed_of_empty {m : InMessage} {n : Nat} (hm : s.toSocket.hist[n]? = some m)
    (hc : m.closeFrame.isSome = true) (hq : s.toSocket.queue = []) : s.Closed := by
  apply closed_at hm hc
  rw [Chan.hist_eq_got hq] at hm
  exact (List.getElem?_eq_some_iff.mp hm).1

theorem closed_reach (g : s.Obeys) (hc : s.Closed) (h : Lts.Reach step s t) :
    t.Obeys ∧ t.Closed ∧ t.log = s.log := by
  refine Lts.reach_inv (I := fun t => t.Obeys ∧ t.Closed ∧ t.log = s.log) ⟨g, hc, rfl⟩ ?_ h
  rintro u a v - ⟨gu, ⟨m, hm, hmc⟩, hl⟩ huv
  have hcv : v.Closed := by
    obtain ⟨l, hl⟩ := (step_moved huv).hist
    obtain ⟨n, hn, he⟩ := List.mem_iff_getElem.mp hm
    apply closed_at (m := m) (n := n) _ hmc (Nat.lt_of_lt_of_le hn (step_moved huv).later.2.1)
    have hu : u.toSocket.hist[n]? = some m := by
      rw [Chan.hist, List.getElem?_append_left hn]
      exact List.getElem?_eq_some_iff.mpr ⟨hn, he⟩
    rw [← hl, List.getElem?_append_left (List.getElem?_eq_some_iff.mp hu).1]
    exact hu
  exact ⟨fun _ => (closed_step gu huv hcv).2, hcv, (closed_step gu huv hcv).1.trans hl⟩

theorem no_attempt {m : InMessage} {n : Nat} (g : s.Obeys) (hm : s.toSocket.hist[n]? = some m)
    (hc : m.closeFrame.isSome = true) (h : Lts.Reach step s t) :
    t.Obeys ∧ t.toSocket.hist[n]? = some m ∧ t.attempts = s.attempts := by
  refine Lts.reach_inv (I := fun t => t.Obeys ∧ t.toSocket.hist[n]? = some m ∧ t.attempts = s.attempts)
    ⟨g, hm, rfl⟩ ?_ h
  rintro u a v - ⟨gu, hmu, ha⟩ huv
  refine ⟨fun hcv => (closed_step gu huv hcv).2, ?_, ?_⟩
  · obtain ⟨l, hl⟩ := (step_moved huv).hist
    rw [← hl, List.getElem?_append_left (List.getElem?_eq_some_iff.mp hmu).1]
    exact hmu
  · rcases step_attempts huv with he | ⟨-, hq, attempt, max, hp, -⟩
    · exact he.trans ha
    · have := gu (closed_of_empty hmu hc hq)
      rw [hp] at this; cases this

/-- After `close` has returned `Ok` no attempt to connect begins, and from the step on that takes the `Close`
nothing is called and the client is over with `Ok`, or will be when it has the sink's result. -/
theorem close_stops (frame : Option CloseFrame) (hs : Lts.Reach step (create config) s) (hc : s.clients = true)
    (hd : s.isDone = false) (hu : Lts.Reach step (s.close frame) u) :
    u.attempts = s.attempts ∧
    ∀ (a : ClientAct C) (v w : ClientActor C), u.step a = some v →
      u.toSocket.got.length ≤ s.toSocket.hist.length → s.toSocket.hist.length < v.toSocket.got.length →
      Lts.Reach step v w → w.log = u.log ∧ (w.phase = .awaitSink true ∨ w.phase = .done (.ok ())) := by
  have hclose : s.close frame = { s with
      toSocket := s.toSocket.push (.new (.close frame) (.handle s.toSocket.hist.length)) } := by
    unfold close send
    rw [if_pos (by rw [hc, hd]; rfl)]
  have hm : (s.close frame).toSocket.hist[s.toSocket.hist.length]? =
      some (.new (.close frame) (.handle s.toSocket.hist.length)) := by
    rw [hclose, Chan.push_hist]
    exact List.getElem?_concat_length
  have hr : Lts.Reach step (create config) (s.close frame) := hs.tail (a := .close frame) rfl
  obtain ⟨gu, hmu, ha⟩ := no_attempt (reach_obeys hr) hm rfl hu
  refine ⟨ha.trans ?_, ?_⟩
  · rw [hclose]; rfl
  · intro a v w hv _ hn hw
    obtain ⟨gv, hmv, -⟩ := no_attempt gu hmu rfl (.single hv)
    have hcv : v.Closed := closed_at hmv rfl hn
    obtain ⟨gw, hcw, hl⟩ := closed_reach gv hcv hw
    refine ⟨hl.trans (closed_step gu hv hcv).1, ?_⟩
    have hcl := gw hcw
    unfold ClientPhase.closing at hcl
    split at hcl
    · exact .inl ‹_›
    · exact .inr ‹_›
    · cases hcl

/-- The `Close` meets the drain of a reconnect after a failed attempt. -/
theorem close_stops_reconnect : ∃ (as bs : List (ClientAct Nat)) (s u v : ClientActor Nat),
    Lts.exec step (create ⟨1, 3, none⟩) as = some s ∧ Lts.exec step (s.close none) bs = some u ∧
      u.attempts = s.attempts ∧ u.step .tryRecv = some v ∧ v.log = u.log ∧ v.phase = .done (.ok ()) := by
  have h : Lts.exec step (create ⟨1, 3, none⟩ : ClientActor Nat) [
    .tryRecv, .connected, .onConnectReturn (.ok ()), .socket 0 .streamEnd, .incoming,
    .onDisconnectReturn (.ok .reconnect), .tryRecv] = some _ := rfl
  let bs : List (ClientAct Nat) := [
    .connectFailed .connectionClosed, .onConnectFailReturn (.ok .reconnect), .slept]
  obtain ⟨ha, hw⟩ := close_stops none ⟨_, h⟩ rfl rfl ⟨bs, rfl⟩
  obtain ⟨hl, hp⟩ := hw .tryRecv _ _ rfl (by decide) (by decide) (.refl _)
  exact ⟨_, bs, _, _, _, h, rfl, ha, rfl, hl, hp.resolve_left (by intro he; cases he)⟩

end ClientActor

end Ezsockets
