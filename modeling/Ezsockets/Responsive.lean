import Ezsockets.KeepAlive

/-!
# How long the heartbeat waits

A tick comes when the alarm has gone off, and at most `j` later. The alarm
is set from `last_alive`, which each item of the stream moves on: at most a
heartbeat after it, unless a Ping has been sent and not answered. So a
partner that answers within `r` is never cut off (`responsive_kept`), and one
that is silent is cut off after the timeout, a heartbeat and `j`
(`silent_detected`).
-/

namespace Ezsockets

namespace Socket

variable {s t : Socket}

/-- The heartbeat neither has ended nor has been told to. -/
def Running (s : Socket) : Prop := s.beating = true ∧ s.heartbeatAbort = false

theorem step_running {a : SocketAct} (h : s.step a = some t) (hr : t.Running) : s.Running := by
  refine ⟨step_beating_of h hr.1, ?_⟩
  have ha := hr.2
  cases step_cases h with
  | streamNext item _ => rwa [forward_frame] at ha
  | heartbeat _ he => rwa [handleHeartbeat_frame he] at ha
  | heartbeatEnd _ he => rwa [free_heartbeatAbort, handleHeartbeat_frame he] at ha
  | supervise h =>
    cases supervise_cases h with
    | abortHeartbeat => cases ha
    | _ => exact ha
  | _ => simpa using ha

theorem run_owner {e : SocketEvent} (h : s.run e = some t) (he : ∀ a, e ≠ .task a) :
    t.beating = s.beating ∧ t.heartbeatAbort = s.heartbeatAbort ∧ t.yielded = s.yielded := by
  cases e with
  | task a => exact absurd rfl (he a)
  | send m =>
    obtain ⟨-, h⟩ := Option.ite_none_right_eq_some.mp h
    obtain rfl := Option.some.inj h
    rw [send, sendRaw_frame]
    exact ⟨rfl, rfl, rfl⟩
  | sendRaw m =>
    obtain ⟨-, h⟩ := Option.ite_none_right_eq_some.mp h
    obtain rfl := Option.some.inj h
    rw [sendRaw_frame]
    exact ⟨rfl, rfl, rfl⟩
  | recv =>
    obtain ⟨-, h⟩ := Option.ite_none_right_eq_some.mp h
    obtain ⟨⟨item, u⟩, hu, rfl⟩ := Option.map_eq_some_iff.mp h
    rw [recv_frame hu]
    exact ⟨rfl, rfl, rfl⟩
  | awaitSinkClose =>
    obtain ⟨-, h⟩ := Option.ite_none_right_eq_some.mp h
    obtain ⟨⟨res, u⟩, hu, rfl⟩ := Option.map_eq_some_iff.mp h
    rw [awaitSinkClose_frame hu]
    exact ⟨rfl, rfl, rfl⟩
  | drop | dropSink =>
    obtain ⟨-, h⟩ := Option.ite_none_right_eq_some.mp h
    obtain rfl := Option.some.inj h
    exact ⟨free_beating, free_heartbeatAbort, free_yielded⟩
  | cloneSink =>
    obtain ⟨-, h⟩ := Option.ite_none_right_eq_some.mp h
    obtain rfl := Option.some.inj h
    exact ⟨rfl, rfl, rfl⟩

theorem run_beating {e : SocketEvent} (h : s.run e = some t) (hb : t.beating = true) : s.beating = true := by
  cases e with
  | task a => exact step_beating_of h hb
  | _ => exact (run_owner h (by simp)).1.symm.trans hb

theorem run_running {e : SocketEvent} (h : s.run e = some t) (hr : t.Running) : s.Running := by
  cases e with
  | task a => exact step_running h hr
  | _ =>
    obtain ⟨hb, ha, -⟩ := run_owner h (by simp)
    exact ⟨hb.symm.trans hr.1, ha.symm.trans hr.2⟩

theorem run_no_item {e : SocketEvent} (h : s.run e = some t) (hi : ∀ item, e ≠ .task (.streamNext item)) :
    t.yielded = s.yielded := by
  cases e with
  | task a => exact step_no_item h fun item he => hi item (by rw [he])
  | _ => exact (run_owner h (by simp)).2.2

/-- The heartbeat gives up before it is stopped only if the partner has been silent for too long, or it cannot
send. -/
theorem heartbeat_gives_up {elapsed timestamp : Nat} (h : s.step (.heartbeat elapsed timestamp) = some t)
    (hb : t.beating = false) (hq : t.toSink.hist ≠ s.toSink.hist) : s.config.timeout < elapsed := by
  cases step_cases h with
  | heartbeat hs he =>
    rw [handleHeartbeat_frame he] at hb
    cases hs.symm.trans hb
  | @heartbeatEnd _ _ u _ he =>
    by_cases hto : elapsed > s.config.timeout
    · exact hto
    · exfalso
      rw [free_toSink] at hq
      unfold handleHeartbeatSleepElapsed at he
      rw [if_neg hto] at he
      by_cases hlt : elapsed < s.config.heartbeat
      · rw [if_pos hlt] at he
        cases he
      · rw [if_neg hlt] at he
        by_cases hc : s.sink.isClosed = true
        · rw [sendRaw_closed _ hc] at he
          cases he
          exact hq rfl
        · rw [sendRaw_open _ (by simpa using hc)] at he
          cases he

end Socket

def SocketEvent.isFrame : SocketEvent → Bool
  | .task (.streamNext (.ok _)) => true
  | _ => false

namespace Heart

variable {s t : Timed Heart} {config : SocketConfig} {j r : Nat}

def isFrame : TimedAct SocketEvent → Bool
  | .act e => e.isFrame
  | .advance _ => false

def frameAt (s : Timed Heart) (a : TimedAct SocketEvent) : Option Nat := if isFrame a then some s.now else none

/-- When the last frame of the run was received; before the first one, when the socket was created. -/
def lastFrame (config : SocketConfig) (as : List (TimedAct SocketEvent)) : Nat :=
  (Lts.collect step frameAt (new config) as).getLast?.getD 0

/-- The tick `a` queues the heartbeat's message, and the heartbeat goes on. -/
def Pings (s : Timed Heart) (a : TimedAct SocketEvent) : Prop :=
  ∃ elapsed timestamp t, a = .act (.task (.heartbeat elapsed timestamp)) ∧ step s a = some t ∧
    t.state.socket.beating = true ∧ t.state.socket.toSink.hist =
      s.state.socket.toSink.hist ++ [.new (s.state.socket.config.heartbeatPingMsgFn timestamp)]

/-- The tick `a` queues the `Close` of the timeout, and the heartbeat ends. -/
def TimesOut (s : Timed Heart) (a : TimedAct SocketEvent) : Prop :=
  ∃ elapsed timestamp t, a = .act (.task (.heartbeat elapsed timestamp)) ∧ step s a = some t ∧
    t.state.socket.beating = false ∧ t.state.socket.toSink.hist =
      s.state.socket.toSink.hist ++ [.new (.close (some ⟨.abnormal, "remote partner is inactive"⟩))]

theorem Pings.tick {a : TimedAct SocketEvent} (h : Pings s a) : s.alarm ≤ s.now ∧ s.state.socket.beating = true ∧
    s.state.socket.config.heartbeat ≤ s.now - s.state.lastAlive ∧
    ∃ t, step s a = some t ∧ t.state.socket.beating = true ∧ t.alarm = s.now + s.state.socket.config.heartbeat := by
  obtain ⟨elapsed, timestamp, t, rfl, ht, hb, hq⟩ := h
  cases step_cases ht with
  | @tick _ x hw hx =>
    refine ⟨hw, Socket.step_beating_of hx hb, ?_⟩
    cases Socket.heartbeat_tick hx with
    | ends hbx => cases hbx.symm.trans hb
    | early => simp at hq
    | ping hge =>
      refine ⟨hge, _, ht, hb, ?_⟩
      have hb : s.state.socket.beating = true := hb
      simp only [hb, if_true]
  | other hh => exact absurd rfl (hh _ _)

theorem TimesOut.tick {a : TimedAct SocketEvent} (h : TimesOut s a) :
    s.state.socket.config.timeout < s.now - s.state.lastAlive := by
  obtain ⟨elapsed, timestamp, t, rfl, ht, hb, hq⟩ := h
  cases step_cases ht with
  | tick _ hx =>
    refine Socket.heartbeat_gives_up hx hb ?_
    rw [hq]
    simp
  | other hh => exact absurd rfl (hh _ _)

/-! ## The last frame -/

theorem lastFrame_snoc {as : List (TimedAct SocketEvent)} {a : TimedAct SocketEvent}
    (h : Lts.exec step (new config) as = some s) (ht : step s a = some t) :
    lastFrame config (as ++ [a]) = if isFrame a = true then s.now else lastFrame config as := by
  unfold lastFrame
  rw [Lts.collect_snoc h ht, frameAt]
  by_cases hf : isFrame a = true
  · rw [if_pos hf, if_pos hf, Option.toList_some, List.getLast?_concat]
    rfl
  · rw [if_neg hf, if_neg hf, Option.toList_none, List.append_nil]

theorem isFrame_other {e : SocketEvent} (hi : ∀ item, e ≠ .task (.streamNext item)) : isFrame (.act e) = false := by
  cases e with
  | task a =>
    cases a with
    | streamNext item => exact absurd rfl (hi item)
    | _ => rfl
  | _ => rfl

/-- `last_alive` is when the last item was received: not before the last frame, and with it if no item was an
error. -/
theorem lastFrame_alive {as : List (TimedAct SocketEvent)} (h : Lts.exec step (new config) as = some s) :
    lastFrame config as ≤ s.state.lastAlive ∧
      ((∀ err, .error err ∉ s.state.socket.yielded) → lastFrame config as = s.state.lastAlive) := by
  refine Lts.run_inv (I := fun as s => lastFrame config as ≤ s.state.lastAlive ∧
    ((∀ err, .error err ∉ s.state.socket.yielded) → lastFrame config as = s.state.lastAlive))
    ⟨Nat.le_refl _, fun _ => rfl⟩ ?_ h
  intro as u a v hu g huv
  rw [lastFrame_snoc hu huv]
  cases step_cases huv with
  | advance => exact g
  | tick _ hx =>
    have hy := Socket.step_no_item hx fun _ he => by cases he
    refine ⟨g.1, fun hn => g.2 ?_⟩
    rw [← hy]; exact hn
  | @item item x hx =>
    rcases item with err | raw
    · refine ⟨Nat.le_trans g.1 (reach_alive ⟨as, hu⟩), fun hn => absurd ?_ (hn err)⟩
      show .error err ∈ x.yielded
      rw [Socket.step_item hx]
      exact List.mem_append_right _ List.mem_cons_self
    · exact ⟨Nat.le_refl _, fun _ => rfl⟩
  | @other e x _ hi hx =>
    rw [isFrame_other hi, if_neg Bool.false_ne_true]
    refine ⟨g.1, fun hn => g.2 ?_⟩
    rw [← Socket.run_no_item hx hi]
    exact hn

/-! ## A partner that answers -/

/-- A tick comes at most `j` after the alarm. -/
def OnTime (j : Nat) (s : Timed Heart) : TimedAct SocketEvent → Prop
  | .act (.task (.heartbeat _ _)) => s.now ≤ s.alarm + j
  | _ => True

/-- At the end of the run a Ping queued at `p` waits for a frame. -/
def Waiting (config : SocketConfig) (as : List (TimedAct SocketEvent)) (p : Nat) : Prop :=
  ∃ bs a cs s, as = bs ++ a :: cs ∧ Lts.exec step (new config) bs = some s ∧ Pings s a ∧
    (∀ b ∈ cs, isFrame b = false) ∧ s.now = p

/-- No Ping of the run ever waits for more than `r`. -/
def Responsive (r : Nat) (config : SocketConfig) (as : List (TimedAct SocketEvent)) : Prop :=
  ∀ bs ds s p, as = bs ++ ds → Lts.exec step (new config) bs = some s → Waiting config bs p → s.now ≤ p + r

theorem Waiting.snoc {as : List (TimedAct SocketEvent)} {a : TimedAct SocketEvent} {p : Nat}
    (g : Waiting config as p) (ha : isFrame a = false) : Waiting config (as ++ [a]) p := by
  obtain ⟨bs, b, cs, s, rfl, hs, hp, hc, rfl⟩ := g
  refine ⟨bs, b, cs ++ [a], s, by simp, hs, hp, fun c hm => ?_, rfl⟩
  rcases List.mem_append.mp hm with hm | hm
  · exact hc c hm
  · rw [List.mem_singleton.mp hm]; exact ha

theorem Pings.waiting {as : List (TimedAct SocketEvent)} {a : TimedAct SocketEvent} (hp : Pings s a)
    (h : Lts.exec step (new config) as = some s) : Waiting config (as ++ [a]) s.now :=
  ⟨as, a, [], s, rfl, h, hp, fun b hb => (by cases hb), rfl⟩

/-- The alarm goes off a heartbeat after the last item, or later, if a Ping was queued by then and still waits. -/
structure Answered (config : SocketConfig) (j : Nat) (as : List (TimedAct SocketEvent)) (s : Timed Heart) :
    Prop where
  ahead : s.state.socket.beating = true → s.alarm ≤ s.now + config.heartbeat
  near : s.state.socket.beating = true → s.alarm ≤ s.state.lastAlive + config.heartbeat ∨
    ∃ p, Waiting config as p ∧ p ≤ s.state.lastAlive + config.heartbeat + j

theorem new_answered (config : SocketConfig) (j : Nat) : Answered config j [] (new config) :=
  ⟨fun _ => Nat.le_add_left _ _, fun _ => .inl (Nat.le_add_left _ _)⟩

theorem Answered.of_stopped {as : List (TimedAct SocketEvent)} (hb : s.state.socket.beating = false) :
    Answered config j as s :=
  ⟨fun hb' => (by cases hb.symm.trans hb'), fun hb' => by cases hb.symm.trans hb'⟩

theorem step_answered {as : List (TimedAct SocketEvent)} {a : TimedAct SocketEvent} (g : Answered config j as s)
    (h : Lts.exec step (new config) as = some s) (hj : OnTime j s a) (ht : step s a = some t) :
    Answered config j (as ++ [a]) t := by
  have hconf := reach_config ⟨as, h⟩
  have hle := reach_alive ⟨as, h⟩
  have ht' := ht
  cases step_cases ht with
  | advance d =>
    refine ⟨fun hb => ?_, fun hb => ?_⟩
    · have := g.ahead hb
      show s.alarm ≤ s.now + d + config.heartbeat
      omega
    · rcases g.near hb with hal | ⟨p, hp, hpl⟩
      · exact .inl hal
      · exact .inr ⟨p, hp.snoc rfl, hpl⟩
  | @tick timestamp x hw hx =>
    by_cases hb : x.beating = true
    · have hbs := Socket.step_beating_of hx hb
      have hj : s.now ≤ s.alarm + j := hj
      cases Socket.heartbeat_tick hx with
      | ends hbx => exact .of_stopped hbx
      | early hlt =>
        rw [hconf] at hlt
        have hal : s.now + (config.heartbeat - (s.now - s.state.lastAlive)) =
          s.state.lastAlive + config.heartbeat := by
          omega
        refine ⟨fun _ => ?_, fun _ => .inl ?_⟩
        · simp only [if_pos hbs, hconf, hal]
          exact Nat.add_le_add_right hle _
        · simp only [if_pos hbs, hconf, hal]
          exact Nat.le_refl _
      | ping hge =>
        refine ⟨fun _ => ?_, fun _ => .inr ?_⟩
        · simp only [if_pos hbs, hconf]
          exact Nat.le_refl _
        · rcases g.near hbs with hal | ⟨p, hp, hpl⟩
          · have hping : Pings s (.act (.task (.heartbeat (s.now - s.state.lastAlive) timestamp))) :=
              ⟨_, _, _, rfl, ht', hb, Chan.push_hist _ _⟩
            have hpl : s.now ≤ s.state.lastAlive + config.heartbeat + j := by omega
            exact ⟨s.now, hping.waiting h, hpl⟩
          · exact ⟨p, hp.snoc rfl, hpl⟩
    · exact .of_stopped (by simpa using hb)
  | item hx =>
    -- whatever the stream yields is a sign of life
    have hal := fun hb => g.ahead (Socket.step_beating_of hx hb)
    exact ⟨hal, fun hb => .inl (hal hb)⟩
  | other _ hi hx =>
    refine ⟨fun hb => g.ahead (Socket.run_beating hx hb), fun hb => ?_⟩
    rcases g.near (Socket.run_beating hx hb) with hal | ⟨p, hp, hpl⟩
    · exact .inl hal
    · exact .inr ⟨p, hp.snoc (isFrame_other hi), hpl⟩

theorem run_answered {as : List (TimedAct SocketEvent)} (hc : Lts.Along step (OnTime j) (new config) as)
    (h : Lts.exec step (new config) as = some s) : Answered config j as s := by
  refine Lts.run_inv (I := fun as s => Lts.Along step (OnTime j) (new config) as → Answered config j as s)
    (fun _ => new_answered config j) ?_ h hc
  intro as u a v hu g huv hc
  obtain ⟨ha, hj⟩ := Lts.along_append_inv hc hu
  exact step_answered (g ha) hu hj.1 huv

/-- A tick on time finds the last item no older than the answer to a Ping can be. -/
theorem elapsed_le {as : List (TimedAct SocketEvent)} (g : Answered config j as s)
    (h : Lts.exec step (new config) as = some s) (hb : s.state.socket.beating = true) (hj : s.now ≤ s.alarm + j)
    (hr : Responsive r config as) : s.now - s.state.lastAlive ≤ config.heartbeat + j + r := by
  rcases g.near hb with hal | ⟨p, hp, hpl⟩
  · omega
  · have := hr as [] s p (List.append_nil as).symm h hp
    omega

/-- After a Ping or an item of the stream the next Ping is a heartbeat away. -/
theorem ping_later {p : Nat} {b : TimedAct SocketEvent} (hs : Lts.Reach step (new config) s)
    (hp : p ≤ s.state.lastAlive ∨ (s.state.socket.beating = true → p + config.heartbeat ≤ s.alarm))
    (h : Lts.Reach step s t) (hb : Pings t b) : p + config.heartbeat ≤ t.now := by
  obtain ⟨hw, hbt, hge, -⟩ := hb.tick
  have hle := reach_alive (hs.trans h)
  rw [reach_config (hs.trans h)] at hge
  have hinv : p ≤ t.state.lastAlive ∨ (t.state.socket.beating = true → p + config.heartbeat ≤ t.alarm) := by
    refine Lts.reach_inv (I := fun t => p ≤ t.state.lastAlive ∨
      (t.state.socket.beating = true → p + config.heartbeat ≤ t.alarm)) hp ?_ h
    intro u a v hu g huv
    cases step_cases huv with
    | advance => exact g
    | @tick _ x hw hx =>
      refine g.imp_right fun hal hb => ?_
      have hal := hal (Socket.step_beating_of hx hb)
      simp only [if_pos hb]
      omega
    | item hx =>
      exact g.imp (fun hl => Nat.le_trans hl (reach_alive (hs.trans hu)))
        fun hal hb => hal (Socket.step_beating_of hx hb)
    | other _ _ hx => exact g.imp_right fun hal hb => hal (Socket.run_beating hx hb)
  rcases hinv with hl | hal
  · omega
  · have := hal hbt
    omega

/-- If each tick is at most `j` late and each Ping is followed by a frame within `r`, and these and the heartbeat
are no more than the timeout, then no tick times out. Two Pings are a heartbeat apart, and so are a frame and the
next Ping. -/
theorem responsive_kept (config : SocketConfig) {j r : Nat} (hle : config.heartbeat + j + r ≤ config.timeout)
    {as : List (TimedAct SocketEvent)} (hc : Lts.Along step (OnTime j) (new config) as)
    (hr : Responsive r config as) :
    (∀ bs b ds u, as = bs ++ b :: ds → Lts.exec step (new config) bs = some u → ¬ TimesOut u b) ∧
    (∀ bs a cs b ds u v, as = bs ++ a :: cs ++ b :: ds → Lts.exec step (new config) bs = some u → Pings u a →
      Lts.exec step (new config) (bs ++ a :: cs) = some v → Pings v b → u.now + config.heartbeat ≤ v.now) ∧
    (∀ bs b ds u, as = bs ++ b :: ds → Lts.exec step (new config) bs = some u → Pings u b →
      lastFrame config bs + config.heartbeat ≤ u.now) := by
  refine ⟨?_, ?_, ?_⟩
  · rintro bs b ds u rfl hu hto
    obtain ⟨hbs, hj⟩ := Lts.along_append_inv hc hu
    have hprev : Responsive r config bs := by
      rintro cs es v p rfl hv hp
      exact hr cs (es ++ b :: ds) v p (by simp) hv hp
    have hlt := hto.tick
    obtain ⟨elapsed, timestamp, t, rfl, ht, -⟩ := hto
    rw [reach_config ⟨bs, hu⟩] at hlt
    have hb : u.state.socket.beating = true := by
      cases step_cases ht with
      | tick _ hx =>
        cases Socket.step_cases hx with
        | heartbeat hb | heartbeatEnd hb => exact hb
      | other hh => exact absurd rfl (hh _ _)
    have := elapsed_le (run_answered hbs hu) hu hb hj.1 hprev
    omega
  · rintro bs a cs b ds u v rfl hu ha hv hb
    obtain ⟨u', hu', hcs⟩ := Lts.exec_append_inv hv
    cases hu.symm.trans hu'
    obtain ⟨w, hw, hwv⟩ := Lts.exec_cons_inv hcs
    obtain ⟨-, -, -, w', hw', hbw, hal⟩ := ha.tick
    cases hw.symm.trans hw'
    rw [reach_config ⟨bs, hu⟩] at hal
    exact ping_later (.tail ⟨bs, hu⟩ hw) (.inr fun _ => Nat.le_of_eq hal.symm) ⟨cs, hwv⟩ hb
  · rintro bs b ds u rfl hu hb
    exact ping_later ⟨bs, hu⟩ (.inl (lastFrame_alive hu).1) (.refl u) hb

theorem waiting_nil {p : Nat} : ¬ Waiting config [] p := by
  rintro ⟨bs, a, cs, -, he, -⟩
  simp at he

theorem Waiting.cases {as : List (TimedAct SocketEvent)} {a : TimedAct SocketEvent} {p : Nat}
    (h : Lts.exec step (new config) as = some s) (g : Waiting config (as ++ [a]) p) :
    (Waiting config as p ∧ isFrame a = false) ∨ (Pings s a ∧ p = s.now) := by
  obtain ⟨bs, b, cs, u, he, hu, hb, hc, rfl⟩ := g
  rcases List.eq_nil_or_concat cs with rfl | ⟨cs, c, rfl⟩
  · obtain ⟨rfl, hab⟩ := List.append_inj' he rfl
    cases hab
    cases h.symm.trans hu
    exact .inr ⟨hb, rfl⟩
  · rw [List.concat_eq_append, ← List.cons_append, ← List.append_assoc] at he
    rw [List.concat_eq_append] at hc
    obtain ⟨rfl, hac⟩ := List.append_inj' he rfl
    cases hac
    refine .inl ⟨⟨bs, b, cs, u, rfl, hu, hb, fun d hd => hc d ?_, rfl⟩, hc a ?_⟩
    · exact List.mem_append_left _ hd
    · exact List.mem_append_right _ List.mem_cons_self

theorem Responsive.snoc {as : List (TimedAct SocketEvent)} {a : TimedAct SocketEvent} (g : Responsive r config as)
    (h : Lts.exec step (new config) as = some s) (ht : step s a = some t)
    (hw : isFrame a = false → ∀ p, Waiting config as p → t.now ≤ p + r) : Responsive r config (as ++ [a]) := by
  intro bs ds u p he hu hp
  rcases List.eq_nil_or_concat ds with rfl | ⟨ds, d, rfl⟩
  · rw [List.append_nil] at he
    subst he
    obtain ⟨s', hs', ht'⟩ := Lts.exec_snoc_inv hu
    cases h.symm.trans hs'
    cases ht.symm.trans ht'
    rcases Waiting.cases h hp with ⟨hq, hf⟩ | ⟨hq, rfl⟩
    · exact hw hf p hq
    · obtain ⟨elapsed, timestamp, v, rfl, hv, -⟩ := hq
      cases ht.symm.trans hv
      cases step_cases hv with
      | tick => exact Nat.le_add_right _ _
      | other hh => exact absurd rfl (hh _ _)
  · rw [List.concat_eq_append, ← List.append_assoc] at he
    exact g bs ds u p (List.append_inj' he rfl).1 hu hp

/-- The first tick is one late, and its Ping is answered two later. -/
theorem responsive_kept_pong : ∃ (as : List (TimedAct SocketEvent)) (s : Timed Heart),
    Lts.exec step (new ⟨5, 10, fun _ => .ping []⟩) as = some s ∧ s.state.socket.toSink.hist ≠ [] ∧
      s.state.lastAlive = 8 ∧ ∀ bs b ds u, as = bs ++ b :: ds →
        Lts.exec step (new ⟨5, 10, fun _ => .ping []⟩) bs = some u → ¬ TimesOut u b := by
  let config : SocketConfig := ⟨5, 10, fun _ => .ping []⟩
  let tick : TimedAct SocketEvent := .act (.task (.heartbeat 6 0))
  let pong : TimedAct SocketEvent := .act (.task (.streamNext (.ok (.pong []))))
  have h₀ : Lts.exec step (new config) [.advance 6] = some _ := rfl
  have h₁ : Lts.exec step (new config) [.advance 6, tick] = some _ := rfl
  have h₂ : Lts.exec step (new config) [.advance 6, tick, .advance 2] = some _ := rfl
  have none_yet : ∀ p, ¬ Waiting config [.advance 6] p := by
    intro p hp
    have hp : Waiting config ([] ++ [.advance 6]) p := hp
    rcases Waiting.cases rfl hp with ⟨hq, -⟩ | ⟨⟨_, _, _, he, -⟩, -⟩
    · exact waiting_nil hq
    · cases he
  have r₀ : Responsive 2 config [] := by
    intro bs ds u p he hu hp
    obtain ⟨rfl, -⟩ := List.append_eq_nil_iff.mp he.symm
    exact absurd hp waiting_nil
  have r₁ : Responsive 2 config [.advance 6] := r₀.snoc rfl rfl fun _ p hp => absurd hp waiting_nil
  have r₂ : Responsive 2 config [.advance 6, tick] := r₁.snoc h₀ rfl fun _ p hp => absurd hp (none_yet p)
  have r₃ : Responsive 2 config [.advance 6, tick, .advance 2] := by
    refine r₂.snoc h₁ rfl fun _ p hp => ?_
    have hp : Waiting config ([.advance 6] ++ [tick]) p := hp
    rcases Waiting.cases h₀ hp with ⟨hq, -⟩ | ⟨-, rfl⟩
    · exact absurd hq (none_yet p)
    · exact Nat.le_refl _
  have r₄ : Responsive 2 config [.advance 6, tick, .advance 2, pong] := r₃.snoc h₂ rfl fun hf => by cases hf
  have hc : Lts.Along step (OnTime 1) (new config) [.advance 6, tick, .advance 2, pong] := by
    refine Lts.along_cons trivial rfl (Lts.along_cons ?_ rfl (Lts.along_cons trivial rfl
      (Lts.along_cons trivial rfl trivial)))
    exact Nat.le_refl _
  exact ⟨_, _, rfl, by decide, rfl, (responsive_kept config (j := 1) (r := 2) (by decide) hc r₄).1⟩

/-! ## A partner that is silent -/

/-- While the heartbeat runs no more than `j` goes by after the alarm. -/
def Punctual (j : Nat) (s : Timed Heart) : TimedAct SocketEvent → Prop
  | .advance d => s.state.socket.Running → s.now + d ≤ s.alarm + j
  | _ => True

theorem reach_alarm (h : Lts.Reach step (new config) s) :
    s.state.socket.beating = true → s.alarm ≤ s.state.lastAlive + config.timeout + config.heartbeat := by
  refine Lts.reach_inv (I := fun s : Timed Heart => s.state.socket.beating = true →
    s.alarm ≤ s.state.lastAlive + config.timeout + config.heartbeat) (fun _ => Nat.le_add_left _ _) ?_ h
  intro u a v hu g huv hb
  have hconf := reach_config hu
  have hle := reach_alive hu
  cases step_cases huv with
  | advance => exact g hb
  | tick _ hx =>
    have hbs := Socket.step_beating_of hx hb
    cases Socket.heartbeat_tick hx with
    | ends hbx => cases hbx.symm.trans hb
    | early hlt =>
      rw [hconf] at hlt
      simp only [if_pos hbs, hconf]
      omega
    | ping _ hto =>
      rw [hconf] at hto
      simp only [if_pos hbs, hconf]
      omega
  | item hx =>
    have := g (Socket.step_beating_of hx hb)
    simp only
    omega
  | other _ _ hx => exact g (Socket.run_beating hx hb)

theorem run_punctual {as : List (TimedAct SocketEvent)} (hc : Lts.Along step (Punctual j) (new config) as)
    (h : Lts.exec step (new config) as = some s) : s.state.socket.Running → s.now ≤ s.alarm + j := by
  refine Lts.along_inv (I := fun s : Timed Heart => s.state.socket.Running → s.now ≤ s.alarm + j)
    (fun _ => Nat.zero_le _) ?_ hc h
  intro u a v hu g hj huv hr
  cases step_cases huv with
  | advance => exact hj hr
  | tick _ hx =>
    simp only [if_pos hr.1]
    omega
  | item hx => exact g (Socket.step_running hx hr)
  | other _ _ hx => exact g (Socket.run_running hx hr)

/-- If each tick comes at most `j` after its alarm, then a running heartbeat has seen an item of the stream within
the timeout, a heartbeat and `j`. An error is a sign of life as well though no frame, so that item is a frame where
the stream has yielded no error. The heartbeat times out only when there has been no frame for longer than the
timeout. -/
theorem silent_detected (config : SocketConfig) {j : Nat} {as : List (TimedAct SocketEvent)} {s : Timed Heart}
    (hc : Lts.Along step (Punctual j) (new config) as) (h : Lts.exec step (new config) as = some s) :
    (s.state.socket.Running → s.now ≤ s.state.lastAlive + (config.timeout + config.heartbeat + j) ∧
      ((∀ err, .error err ∉ s.state.socket.yielded) →
        s.now ≤ lastFrame config as + (config.timeout + config.heartbeat + j))) ∧
    (∀ bs b ds u, as = bs ++ b :: ds → Lts.exec step (new config) bs = some u → TimesOut u b →
      lastFrame config bs + config.timeout < u.now) := by
  refine ⟨fun hr => ?_, ?_⟩
  · have hp := run_punctual hc h hr
    have hal := reach_alarm ⟨as, h⟩ hr.1
    have hle : s.now ≤ s.state.lastAlive + (config.timeout + config.heartbeat + j) := by omega
    refine ⟨hle, fun hn => ?_⟩
    rw [(lastFrame_alive h).2 hn]
    exact hle
  · rintro bs b ds u rfl hu hto
    have hlt := hto.tick
    rw [reach_config ⟨bs, hu⟩] at hlt
    have := (lastFrame_alive hu).1
    omega

/-- With no frame at all the third tick times out. -/
theorem silent_detected_tick : ∃ (as : List (TimedAct SocketEvent)) (s : Timed Heart),
    Lts.exec step (new ⟨5, 7, fun _ => .ping []⟩) as = some s ∧ s.now = 10 ∧ s.state.socket.Running ∧
      TimesOut s (.act (.task (.heartbeat 10 0))) ∧
      s.now ≤ lastFrame ⟨5, 7, fun _ => .ping []⟩ as + (7 + 5 + 1) := by
  have hc : Lts.Along step (Punctual 1) (new ⟨5, 7, fun _ => .ping []⟩)
      [.advance 5, .act (.task (.heartbeat 5 0)), .advance 5] := by
    refine Lts.along_cons (fun _ => ?_) rfl (Lts.along_cons trivial rfl (Lts.along_cons (fun _ => ?_) rfl trivial))
    · exact Nat.le_succ _
    · exact Nat.le_succ _
  have h : Lts.exec step (new ⟨5, 7, fun _ => .ping []⟩)
      [.advance 5, .act (.task (.heartbeat 5 0)), .advance 5] = some _ := rfl
  refine ⟨_, _, h, rfl, ⟨rfl, rfl⟩, ⟨10, 0, _, rfl, rfl, rfl, rfl⟩, ?_⟩
  exact ((silent_detected _ hc h).1 ⟨rfl, rfl⟩).2 fun err hm => by cases hm

end Heart

end Ezsockets
