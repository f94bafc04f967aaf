import Ezsockets.Callers

/-!
# Graceful shutdown

Once the actor has processed a shutdown request it only drains: it starts
neither `on_connect` nor `on_call`, and the sessions can only become fewer.
-/

namespace Ezsockets

variable {ID C SC : Type} {s t u : Server ID C SC}

def Callback.isStart : Callback ID C → Bool
  | .onConnect _ | .onCall _ => true
  | _ => false

def ServerPhase.isStart : ServerPhase C → Bool
  | .onConnect _ | .onCall _ => true
  | _ => false

def Body.live : Body ID SC → Bool
  | .socket _ => false
  | .session a => a.live

def Server.liveSessions (s : Server ID C SC) : Nat := s.conns.countP (·.body.live)

@[simp] theorem Body.mapSocket_live (b : Body ID SC) (f : Socket → Socket) : (b.mapSocket f).live = b.live := by
  cases b <;> rfl

theorem SessionActor.resume_live {a b : SessionActor ID SC} (h : a.step .resume = some b) : a.live = true := by
  cases step_cases h with
  | resume hp => simp [live, hp]

/-- What a step does once shutdown has begun. -/
structure Draining (s t : Server ID C SC) : Prop where
  shuttingDown : s.shuttingDown = true → t.shuttingDown = true
  starts : t.log.filter (·.isStart) = s.log.filter (·.isStart)
  active : t.activeSessions ≤ s.activeSessions
  live : t.liveSessions ≤ s.liveSessions

theorem Draining.refl (s : Server ID C SC) : Draining s s :=
  ⟨fun h => h, rfl, Nat.le_refl _, Nat.le_refl _⟩

theorem Draining.trans (h : Draining s t) (h' : Draining t u) : Draining s u :=
  ⟨fun hd => h'.shuttingDown (h.shuttingDown hd), h'.starts.trans h.starts, Nat.le_trans h'.active h.active,
    Nat.le_trans h'.live h.live⟩

theorem Server.setConn_live {i : Nat} {c c' : Conn ID SC} (hc : s.conns[i]? = some c)
    (h : c'.body.live = true → c.body.live = true) : (s.conns.set i c').countP (·.body.live) ≤ s.liveSessions := by
  have := List.countP_set_of hc c' (·.body.live)
  unfold liveSessions
  cases hx : c'.body.live with
  | true => simp only [hx, h hx, if_true] at this; omega
  | false => simp only [hx, Bool.false_eq_true, if_false] at this; omega

theorem Draining.same (hc : t.conns = s.conns) (hd : t.shuttingDown = s.shuttingDown) (hl : t.log = s.log)
    (ha : t.activeSessions = s.activeSessions) : Draining s t :=
  ⟨fun h => hd.trans h, by rw [hl], Nat.le_of_eq ha, by rw [Server.liveSessions, hc]; exact Nat.le_refl _⟩

theorem Draining.set {i : Nat} {c c' : Conn ID SC} (hc : s.conns[i]? = some c) (ht : t.conns = s.conns.set i c')
    (h : c'.body.live = true → c.body.live = true) (hd : t.shuttingDown = s.shuttingDown)
    (hs : t.log.filter (·.isStart) = s.log.filter (·.isStart)) (ha : t.activeSessions ≤ s.activeSessions) :
    Draining s t :=
  ⟨fun h => hd.trans h, hs, ha, by rw [Server.liveSessions, ht]; exact Server.setConn_live hc h⟩

theorem respond_draining (s : Server ID C SC) (o : Option Nat) : Draining s (s.respondOpt o) := by
  rcases Server.respond_cases s o with h | ⟨i, c, a, b, -, hc, hb, hs, h⟩
  · rw [h]; exact .refl s
  · rw [h]
    exact .set hc rfl (fun _ => by rw [hb]; exact SessionActor.resume_live hs) rfl rfl (Nat.le_refl _)

theorem dropActor_draining (s : Server ID C SC) : Draining s s.dropActor := by
  refine Server.foldl_respond_inv (I := Draining s) (fun u o h => h.trans (respond_draining u o)) _ ?_
  refine ⟨fun h => h, rfl, Nat.le_refl _, Nat.le_of_eq ?_⟩
  apply List.countP_mapIdx
  intro i c
  unfold Server.discard
  split
  · exact Body.mapSocket_live c.body _
  · rfl

def Halted (s : Server ID C SC) : Prop := s.shuttingDown = true → s.phase.isStart = false

theorem step_draining {a : ServerAct ID C SC} (g : Accounting s) (hp : Halted s) (hd : s.shuttingDown = true)
    (h : s.step a = some t) : Draining s t := by
  have hn := hp hd
  have filt : ∀ cb : Callback ID C, cb.isStart = false →
      (s.log ++ [cb]).filter (·.isStart) = s.log.filter (·.isStart) := by
    intro cb h
    rw [List.filter_append]
    simp [h]
  cases Server.step_cases h with
  | accept socket =>
    unfold Server.accept
    split
    · exact .refl s
    · exact ⟨fun h => h, rfl, Nat.le_refl _, by simp [Server.liveSessions, Conn.new, Body.live]⟩
  | gracefulShutdown => unfold Server.gracefulShutdown; split <;> exact .same rfl rfl rfl rfl
  | takeShutdown => unfold Server.takeShutdown; rw [if_pos hd]; exact .same rfl rfl rfl rfl
  | takeConnection hs hp hc hb =>
    unfold Server.takeConnection
    rw [if_pos hd]
    exact .set hc rfl (fun h => by cases h) rfl rfl (Nat.le_refl _)
  | createSession id hp | onConnectOk hp | onConnectErr _ hp | respond hp | onCallReturn _ hp =>
    rw [hp] at hn; cases hn
  | takeDisconnected hs hp hc => exact .set hc rfl (fun h => h) rfl (filt _ rfl) (Nat.sub_le _ _)
  | onDisconnectReturn res hp hc => exact .set hc rfl (fun h => h) rfl (filt _ rfl) (Nat.le_refl _)
  | takeCall hs hn => rw [hd] at hn; cases hn
  | leave => exact .same rfl rfl rfl rfl
  | dropActor => exact dropActor_draining s
  | session a hc hb hs | callWith call hc hb hs =>
    obtain ⟨-, hl⟩ := SessionActor.step_later ((g.tracked _ _ hc).good _ hb) hs
    exact .set hc rfl (fun h => by rw [hb]; exact hl.live h) rfl rfl (Nat.le_refl _)
  | socket a hc hb hs => exact .set hc rfl (fun h => by cases h) rfl rfl (Nat.le_refl _)
  | takeIndicator hc hb => exact .set hc rfl (fun h => by rw [hb]; exact h) rfl rfl (Nat.le_refl _)
  | disconnected hc hb hw =>
    unfold Server.disconnected
    split <;> exact .set hc rfl (fun h => h) rfl rfl (Nat.le_refl _)
  | close hc hb hw =>
    have hl := (SessionActor.send_step ((g.tracked _ _ hc).good _ hb) (.close (some awayFrame))).2
    exact .set hc rfl (fun h => by rw [hb]; exact hl.live h) rfl rfl (Nat.le_refl _)
  | call | callClosed | callWithClosed => exact .same rfl rfl rfl rfl
  | spawnCloser hc | takeIndicatorPanic hc | awaitClose hc | abortCloser hc | borrow hc | changed hc
  | changedErr hc | cancel hc => exact .set hc rfl (fun h => h) rfl rfl (Nat.le_refl _)

theorem create_halted : Halted (.create : Server ID C SC) := fun h => by cases h

theorem Server.isStart_of_select (hs : s.selecting = true) : s.phase.isStart = false := by
  rw [(selecting_iff.mp hs).1]; rfl

theorem step_halted {a : ServerAct ID C SC} (hp : Halted s) (h : s.step a = some t) : Halted t := by
  cases Server.step_cases h with
  | accept socket => unfold Server.accept; split <;> exact hp
  | gracefulShutdown => unfold Server.gracefulShutdown; split <;> exact hp
  | takeShutdown hs =>
    have hn := Server.isStart_of_select hs
    unfold Server.takeShutdown
    split <;> exact fun _ => hn
  | takeConnection hs =>
    unfold Server.takeConnection
    split
    · exact fun _ => Server.isStart_of_select hs
    · rename_i hd; exact fun h => absurd h hd
  | takeCall hs hd => exact fun h => by rw [show _ = s.shuttingDown from rfl, hd] at h; cases h
  | onConnectOk | onConnectErr | takeDisconnected | onDisconnectReturn | leave => exact fun _ => rfl
  | respond hph =>
    rw [Server.respondOpt_eq]
    intro h
    have := hp h
    rw [hph] at this; cases this
  | onCallReturn => exact fun _ => rfl
  | dropActor => rw [Server.dropActor_eq]; exact fun _ => rfl
  | disconnected => unfold Server.disconnected; split <;> exact hp
  | _ => exact hp

theorem reach_halted (h : Lts.Reach Server.step .create s) : Halted s :=
  Lts.reach_inv create_halted (fun _ _ _ _ g hs => step_halted g hs) h

theorem reach_draining (h : Lts.Reach Server.step .create s) (hd : s.shuttingDown = true)
    (ht : Lts.Reach Server.step s t) : Draining s t := by
  refine Lts.reach_inv (I := Draining s) (.refl s) (fun u a v hu hi hv => hi.trans ?_) ht
  have hr := h.trans hu
  exact step_draining (reach_accounting hr) (reach_halted hr) (hi.shuttingDown hd) hv

/-- Out of its loop, the actor has seen every session it accepted through `on_disconnect`. -/
theorem Accounting.drained (g : Accounting s) (hl : s.inLoop = false) {i : Nat} (hi : s.accepted i = true) :
    ∃ a r, s.session? i = some a ∧ s.log.filter (·.isDisconnect i) = [.onDisconnect i a.id r] ∧
      s.log.filter (·.isDisconnectReturn i) = [.onDisconnectReturn i] := by
  obtain ⟨c, hc⟩ := g.known hi
  have ho : c.stage.opened = true := by rw [← g.accepted_eq hc]; exact hi
  have h := g.tracked i c hc
  have hna : c.stage ≠ .accepted := by
    intro hst
    have hpos := g.active_pos hc hst
    have hd := g.exit hl
    simp only [Server.drained, Bool.and_eq_true, beq_iff_eq] at hd
    omega
  have hnh : c.stage.handler = none := by
    rw [← h.handler]
    unfold Server.inLoop at hl
    unfold Server.view ServerPhase.handler
    split at hl
    · rename_i hp; rw [hp]
    · rename_i hp; rw [hp]
    · cases hl
  have hst : c.stage = .disconnected := by
    cases hs : c.stage <;> simp [hs, Stage.opened, Stage.handler] at ho hna hnh ⊢
  obtain ⟨a, hb⟩ := h.session ho
  obtain ⟨r, -, hd, hr⟩ := g.disconnects hc
  rw [hst, hb] at hd
  rw [hst] at hr
  exact ⟨a, r, Server.session?_some.mpr ⟨c, hc, hb⟩, hd, hr⟩

/-- When a shutdown call resolves to `Ok`, each accepted session has been through `on_disconnect` once; and once
shutdown has begun, nothing is started and no session is added. -/
theorem graceful_shutdown_sound (h : Lts.Reach Server.step .create s) :
    (∀ c ∈ s.callers, c.reply = .ok → ∀ i, s.accepted i = true → ∃ a r, s.session? i = some a ∧
      s.log.filter (·.isDisconnect i) = [.onDisconnect i a.id r] ∧
      s.log.filter (·.isDisconnectReturn i) = [.onDisconnectReturn i]) ∧
    (s.shuttingDown = true → ∀ t, Lts.Reach Server.step s t →
      t.log.filter (·.isStart) = s.log.filter (·.isStart) ∧ t.activeSessions ≤ s.activeSessions ∧
        t.liveSessions ≤ s.liveSessions) := by
  refine ⟨fun c hc hok i hi => ?_, fun hd t ht => ?_⟩
  · refine (reach_accounting h).drained ?_ hi
    by_cases hl : s.inLoop = true
    · have hw := ((reach_callers h).early hl c hc).2
      rw [hok] at hw; cases hw
    · simpa using hl
  · have hdr := reach_draining h hd ht
    exact ⟨hdr.starts, hdr.active, hdr.live⟩

/-- One session and one call, up to the `Ok`. -/
theorem graceful_shutdown_sound_one : ∃ s : Server Nat Nat Nat, s.callers = [⟨true, .ok⟩] ∧
    (∃ a r, s.session? 0 = some a ∧ s.log.filter (·.isDisconnect 0) = [.onDisconnect 0 a.id r] ∧
      s.log.filter (·.isDisconnectReturn 0) = [.onDisconnectReturn 0]) ∧
    ∀ t, Lts.Reach Server.step s t → t.liveSessions ≤ s.liveSessions :=
  have h : Lts.Reach Server.step (.create : Server Nat Nat Nat) _ := ⟨[
    .accept (.new .default), .takeConnection, .createSession 7, .onConnectReturn (.ok ()), .gracefulShutdown,
    .takeShutdown, .spawnCloser 0, .takeIndicator 0, .borrow 0, .close 0, .session 0 .outgoing, .session 0 .notify,
    .awaitClose 0, .abortCloser 0, .disconnected 0, .takeDisconnected, .onDisconnectReturn (.ok ()), .leave], rfl⟩
  have g := graceful_shutdown_sound h
  ⟨_, rfl, g.1 ⟨true, .ok⟩ (List.mem_singleton_self _) rfl 0 rfl, fun t ht => (g.2 rfl t ht).2.2⟩

end Ezsockets
