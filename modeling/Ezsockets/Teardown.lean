import Ezsockets.Supervision

/-!
# The end of a socket

Once the stream has ended the supervisor never waits for room in a channel,
and when nothing can move any more all tasks are over (`teardown_complete`).
While the stream goes on the supervisor does nothing at all, so a timeout of
the heartbeat ends the heartbeat and nothing else (`timeout_closes_iff`).
-/

namespace Ezsockets.Socket

variable {s t u : Socket} {config : SocketConfig}

/-- No task can move without the remote. -/
def Stuck (s : Socket) : Prop := ∀ a : SocketAct, a.isRemote = false → s.step a = none

theorem heartbeat_enabled (h : s.beating = true) (elapsed timestamp : Nat) :
    ∃ t, s.step (.heartbeat elapsed timestamp) = some t := by
  simp only [step, h, if_true]
  split
  · exact ⟨_, rfl⟩
  · exact ⟨_, rfl⟩

/-! ## After the stream -/

theorem supervise_sends (g : s.Supervised) (h : s.supervisor.isSending = true) : ∃ t, s.supervise = some t := by
  cases hv : s.supervisor with
  | awaitStream | awaitSink | done => rw [hv] at h; cases h
  | abortSink =>
    have ha : s.sinkAbort = false := by
      apply Bool.eq_false_iff.mpr
      intro ha
      have := g.sinkAbort ha
      rw [hv] at this
      exact absurd this (by decide)
    simp only [supervise, hv, ha]
    by_cases hc : s.sink.isClosed = true
    · exact ⟨_, if_pos hc⟩
    · exact ⟨_, if_neg hc⟩
  | abortHeartbeat =>
    have ha : s.heartbeatAbort = false := by
      apply Bool.eq_false_iff.mpr
      intro ha
      have := g.heartbeatAbort ha
      rw [hv] at this
      exact absurd this (by decide)
    simp only [supervise, hv, ha]
    by_cases hb : (!s.beating) = true
    · exact ⟨_, if_pos hb⟩
    · exact ⟨_, if_neg hb⟩
  | sendResult res =>
    have hr : s.sinkResult = none := g.not_sent (by simp [hv, Supervisor.stage])
    simp only [supervise, hv, hr]
    by_cases ho : (!s.owned || s.resultTaken) = true
    · exact ⟨_, if_pos ho⟩
    · exact ⟨_, if_neg ho⟩

/-- With the stream over, a supervisor that has not finished goes on, or waits for a sink that can end. -/
theorem quiet_done (g : s.Supervised) (hs : s.streaming = false) (hq : ∀ a, s.step a = none) :
    s.supervisor = .done := by
  have hsup : s.supervise = none := hq .supervise
  by_cases hsend : s.supervisor.isSending = true
  · obtain ⟨t, ht⟩ := supervise_sends g hsend
    cases hsup.symm.trans ht
  · cases hv : s.supervisor with
    | abortSink | abortHeartbeat | sendResult => rw [hv] at hsend; exact absurd rfl hsend
    | done => rfl
    | awaitStream => simp [supervise, hv, hs] at hsup
    | awaitSink =>
      exfalso
      cases hk : s.sink with
      | ended | crashed => simp [supervise, hv, hk] at hsup
      | sending message signal =>
        have := hq (.sinkSend (.ok ()))
        simp [step, hk] at this
      | running =>
        have ha : s.sinkAbort = true := by
          apply (g.sinkAborted (by rw [hv]; decide)).resolve_right
          rw [hk]; decide
        have := hq .sinkAborted
        simp [step, hk, ha] at this

theorem run_resultTaken {e : SocketEvent} (h : s.run e = some t) (he : e ≠ .awaitSinkClose) :
    t.resultTaken = s.resultTaken := by
  rcases run_cases h with ⟨a, -, hs⟩ | ⟨res, hr, -⟩ | ⟨-, hh⟩
  · exact (step_owner hs).2.1
  · exact absurd hr he
  · rw [hh.frame]

theorem awaitSinkClose_taken {res : Except WSError Unit} (h : s.awaitSinkClose = some (res, t)) :
    t.resultTaken = true := by
  unfold awaitSinkClose at h
  split at h
  · rename_i hr; cases h; exact hr
  · split at h
    · cases h; rfl
    · cases h; rfl
    · cases h

theorem taken_iff {as : List SocketEvent} (h : Lts.exec run (new config) as = some s) :
    s.resultTaken = true ↔ .awaitSinkClose ∈ as := by
  refine Lts.run_inv (I := fun as s => s.resultTaken = true ↔ .awaitSinkClose ∈ as) (by simp [new]) ?_ h
  intro as s e t _ ih hst
  by_cases he : e = .awaitSinkClose
  · subst he
    simp only [run] at hst
    split at hst
    · obtain ⟨⟨res, u⟩, hr, rfl⟩ := Option.map_eq_some_iff.mp hst
      exact iff_of_true (awaitSinkClose_taken hr) (by simp)
    · cases hst
  · rw [run_resultTaken hst he, ih, List.mem_append, List.mem_singleton]
    exact (or_iff_left (Ne.symm he)).symm

/-- Once the stream has ended, for whatever reason, none of the supervisor's sends blocks; and when nothing can move
any more the sink and the heartbeat have ended, and whoever waits for the sink's result gets it at once, the first
time. -/
theorem teardown_complete {as : List SocketEvent} (h : Lts.exec run (new config) as = some s)
    (hs : s.streaming = false) :
    (s.supervisor.isSending = true → ∃ t, s.supervise = some t) ∧
    ((∀ a, s.step a = none) → s.sink.isClosed = true ∧ s.beating = false ∧ (s.owned = true →
      (.awaitSinkClose ∉ as → ∃ res t, s.result = some res ∧ s.awaitSinkClose = some (res, t)) ∧
      (.awaitSinkClose ∈ as → s.awaitSinkClose = some (.error .alreadyClosed, s)))) := by
  have g : s.Supervised := reach_supervised ⟨as, h⟩
  refine ⟨supervise_sends g, fun hq => ?_⟩
  have hd := quiet_done g hs hq
  have hstage : s.supervisor.stage = 5 := by rw [hd]; rfl
  have hb : s.beating = false := by
    apply Bool.eq_false_iff.mpr
    intro hb
    obtain ⟨t, ht⟩ := heartbeat_enabled hb 0 0
    cases (hq _).symm.trans ht
  refine ⟨g.closed (by omega), hb, fun ho => ⟨fun hn => ?_, fun hm => ?_⟩⟩
  · have htk : s.resultTaken = false := by
      apply Bool.eq_false_iff.mpr
      intro htk
      exact hn ((taken_iff h).mp htk)
    cases hr : s.sinkResult with
    | none => exact absurd hr (g.kept hstage ho htk)
    | some res => exact ⟨res, _, g.sent res hr, by simp only [awaitSinkClose, htk, hr]; rfl⟩
  · simp only [awaitSinkClose, (taken_iff h).mpr hm, if_true]

/-- The stream actor panics while a text is being sent; the sink is aborted after that send. -/
theorem teardown_complete_panic : ∃ (as : List SocketEvent) (s : Socket) (t : Socket),
    Lts.exec run (new .default) as = some s ∧ (∀ a, s.step a = none) ∧ s.beating = false ∧
      s.awaitSinkClose = some (.ok (), t) := by
  have h : Lts.exec run (new .default) [
    .sendRaw (.new (.text "a")), .task .sinkRecv, .task .streamPanic, .task .supervise, .task .supervise,
    .task .supervise, .task (.sinkSend (.ok ())), .task .sinkAborted, .task .heartbeatAborted, .task .supervise,
    .task .supervise] = some _ := rfl
  obtain ⟨-, hb, ho⟩ := (teardown_complete h rfl).2 (by intro a; cases a <;> rfl)
  obtain ⟨res, t, hres, ht⟩ := (ho rfl).1 (by simp)
  cases hres
  exact ⟨_, _, t, h, (by intro a; cases a <;> rfl), hb, ht⟩

/-! ## A timeout -/

theorem stuck_of (g : s.Supervised) (hs : s.streaming = true) (hb : s.beating = false)
    (hk : s.sink.isClosed = true ∨ s.sink = .running ∧ s.toSink.queue = [] ∧ s.sinkSenders ≠ 0) : s.Stuck := by
  have hv : s.supervisor = .awaitStream := by
    by_cases hst : 1 ≤ s.supervisor.stage
    · cases hs.symm.trans (g.stream hst)
    · cases hv : s.supervisor with
      | awaitStream => rfl
      | _ => rw [hv] at hst; simp [Supervisor.stage] at hst
  have ha : s.sinkAbort = false := by
    apply Bool.eq_false_iff.mpr
    intro ha
    have := g.sinkAbort ha
    rw [hv] at this
    exact absurd this (by decide)
  intro a hr
  cases a with
  | streamNext | streamEnd | streamPanic => cases hr
  | heartbeat | heartbeatAborted => simp [step, hb]
  | supervise => simp [step, supervise, hv, hs]
  | sinkRecv | sinkRecvClosed | sinkSend | sinkAborted | sinkPanic =>
    rcases hk with hk | ⟨hk, hq, hn⟩
    · cases hsk : s.sink with
      | running | sending => rw [hsk] at hk; cases hk
      | ended | crashed => simp [step, hsk]
    · simp [step, hk, hq, hn, Chan.pop?, ha, supervised, hv]

/-- The sink takes what is queued, message by message, and every send returns `Ok`. -/
theorem drained (q : List InRawMessage) : ∀ {s : Socket}, s.sink = .running → s.toSink.queue = q →
    ∃ u, Lts.Reach run s u ∧ u.sink = .running ∧ u.toSink.queue = [] ∧
      u = { s with toSink := u.toSink, sink := u.sink, writes := u.writes } := by
  induction q with
  | nil => intro s hk hq; exact ⟨s, .refl s, hk, hq, rfl⟩
  | cons m q ih =>
    intro s hk hq
    have hp : s.toSink.pop? = some (m, ⟨s.toSink.got ++ [m], q⟩) := by simp only [Chan.pop?, hq]
    cases hm : m.message with
    | none =>
      have h₁ : s.run (.task .sinkRecv) = some { s with
          toSink := ⟨s.toSink.got ++ [m], q⟩, writes := s.writes ++ m.setSignal .failed } := by
        simp only [run, step, hk, hp, hm]
      obtain ⟨u, hu, hku, hqu, he⟩ := ih (s := { s with
        toSink := ⟨s.toSink.got ++ [m], q⟩, writes := s.writes ++ m.setSignal .failed }) hk rfl
      refine ⟨u, (Lts.Reach.single h₁).trans hu, hku, hqu, ?_⟩
      rw [he]
    | some raw =>
      have h₁ : s.run (.task .sinkRecv) = some { s with
          toSink := ⟨s.toSink.got ++ [m], q⟩, sink := .sending raw m.signal } := by
        simp only [run, step, hk, hp, hm]
      have h₂ : ({ s with toSink := ⟨s.toSink.got ++ [m], q⟩, sink := .sending raw m.signal } : Socket).run
          (.task (.sinkSend (.ok ()))) = some { s with
            toSink := ⟨s.toSink.got ++ [m], q⟩, sink := .running,
            writes := s.writes ++ InRawMessage.setSignal ⟨none, m.signal⟩ .sent } := rfl
      obtain ⟨u, hu, hku, hqu, he⟩ := ih (s := { s with
        toSink := ⟨s.toSink.got ++ [m], q⟩, sink := .running,
        writes := s.writes ++ InRawMessage.setSignal ⟨none, m.signal⟩ .sent }) rfl rfl
      refine ⟨u, ((Lts.Reach.single h₁).trans (.single h₂)).trans hu, hku, hqu, ?_⟩
      rw [he]

/-- Without the remote a socket whose heartbeat is over comes to a stop, even if all its sends succeed. -/
theorem comes_to_stop (g : s.Supervised) (hs : s.streaming = true) (hb : s.beating = false) :
    ∃ u, Lts.Reach run s u ∧ u.streaming = true ∧ u.toOwner = s.toOwner ∧ u.Stuck := by
  have running : ∀ {v : Socket}, v.Supervised → v.streaming = true → v.beating = false → v.sink = .running →
      ∃ u, Lts.Reach run v u ∧ u.streaming = true ∧ u.toOwner = v.toOwner ∧ u.Stuck := by
    intro v hv hs hb hk
    obtain ⟨u, hu, hku, hqu, he⟩ := drained v.toSink.queue hk rfl
    have gu : u.Supervised := Lts.reach_inv (I := Supervised) hv (fun _ _ _ _ g h => run_supervised g h) hu
    have hsu : u.streaming = true := by rw [he]; exact hs
    have hbu : u.beating = false := by rw [he]; exact hb
    have hou : u.toOwner = v.toOwner := by rw [he]
    by_cases hn : u.sinkSenders = 0
    · have h₁ : u.run (.task .sinkRecvClosed) = some (free { u with sink := .ended (.ok ()) }) := by
        simp only [run, step, hku, hqu, hn, if_true]
      refine ⟨_, hu.tail h₁, by simpa using hsu, by simpa using hou, ?_⟩
      refine stuck_of (run_supervised gu h₁) (by simpa using hsu) (by simpa using hbu) (.inl ?_)
      rw [free_sink]; rfl
    · exact ⟨u, hu, hsu, hou, stuck_of gu hsu hbu (.inr ⟨hku, hqu, hn⟩)⟩
  cases hk : s.sink with
  | ended | crashed => exact ⟨s, .refl s, hs, rfl, stuck_of g hs hb (.inl (by rw [hk]; rfl))⟩
  | running => exact running g hs hb hk
  | sending message signal =>
    have h₁ : s.run (.task (.sinkSend (.ok ()))) = some { s with
        sink := .running, writes := s.writes ++ InRawMessage.setSignal ⟨none, signal⟩ .sent } := by
      simp only [run, step, hk]
    obtain ⟨u, hu, hsu, hou, hstuck⟩ := running (run_supervised g h₁) hs hb rfl
    exact ⟨u, (Lts.Reach.single h₁).trans hu, hsu, hou, hstuck⟩

theorem timeout_ends {elapsed timestamp : Nat} (he : s.config.timeout < elapsed)
    (h : s.step (.heartbeat elapsed timestamp) = some t) : t.beating = false := by
  cases step_cases h with
  | heartbeat _ hh =>
    unfold handleHeartbeatSleepElapsed at hh
    rw [if_pos he] at hh
    cases hh
  | heartbeatEnd => rw [free_beating]

theorem run_streaming {e : SocketEvent} (h : s.run e = some t) (hs : s.streaming = false) :
    t.streaming = false := by
  rcases run_cases h with ⟨a, -, hst⟩ | ⟨res, -, hr⟩ | ⟨-, hh⟩
  · exact step_streaming hst hs
  · rw [awaitSinkClose_frame hr]; exact hs
  · rw [hh.frame]; exact hs

/-- After a timeout of the heartbeat no state without a way on is reachable if and only if the stream had ended. -/
theorem timeout_closes_iff (elapsed timestamp : Nat) (hs : Lts.Reach run (new config) s)
    (he : s.config.timeout < elapsed) (ht : s.step (.heartbeat elapsed timestamp) = some t) :
    (∀ u, Lts.Reach run t u → u.streaming = true → ¬ u.Stuck) ↔ t.streaming = false := by
  constructor
  · intro h
    apply Bool.eq_false_iff.mpr
    intro hst
    obtain ⟨u, hu, hsu, -, hstuck⟩ :=
      comes_to_stop (step_supervised (reach_supervised hs) ht) hst (timeout_ends he ht)
    exact h u hu hsu hstuck
  · intro hst u hu hsu
    have := Lts.reach_inv (I := fun u => u.streaming = false) hst (fun _ _ _ _ g h => run_streaming h g) hu
    cases hsu.symm.trans this

/-- A timeout that strikes a socket whose stream has ended. -/
theorem timeout_closes_one : ∃ (as : List SocketEvent) (s t : Socket), Lts.exec run (new .default) as = some s ∧
    s.step (.heartbeat 10000000001 0) = some t ∧ ∀ u, Lts.Reach run t u → u.streaming = true → ¬ u.Stuck := by
  have h : Lts.exec run (new .default) [.task .streamEnd] = some _ := rfl
  exact ⟨_, _, _, h, rfl, (timeout_closes_iff 10000000001 0 ⟨_, h⟩ (by decide) rfl).mpr rfl⟩

/-- The remote is silent for longer than the timeout; the `Close` of the heartbeat is sent, and then nothing moves:
the owner is still waiting for a message. -/
theorem timeout_unnoticed : ∃ (as bs : List SocketEvent) (s t u : Socket), Lts.exec run (new .default) as = some s ∧
    s.config.timeout < 10000000001 ∧ s.step (.heartbeat 10000000001 0) = some t ∧ Lts.exec run t bs = some u ∧
      u.streaming = true ∧ u.owned = true ∧ u.recv = none ∧ u.Stuck := by
  refine ⟨[.task (.heartbeat 5000000000 0), .task .sinkRecv, .task (.sinkSend (.ok ()))],
    [.task .sinkRecv, .task (.sinkSend (.ok ()))], _, _, _, rfl, by decide, rfl, rfl, rfl, rfl, rfl, ?_⟩
  intro a ha
  cases a <;> first | rfl | cases ha

end Ezsockets.Socket
