import Ezsockets.Status
import Ezsockets.Teardown

/-!
# A client that waits for a dead sink

After a failed send the client waits for the sink's result, which the
supervisor passes on only when the stream has ended.
-/

namespace Ezsockets

variable {C : Type}

namespace Socket

variable {s t : Socket}

theorem dead_enabled (g : s.Supervised) (hc : s.sink.isClosed = true) (hs : s.streaming = false) :
    (∃ t, s.supervise = some t) ∨ ∃ r, s.awaitSinkClose = some r := by
  by_cases hsend : s.supervisor.isSending = true
  · exact .inl (supervise_sends g hsend)
  · cases hv : s.supervisor with
    | abortSink | abortHeartbeat | sendResult => rw [hv] at hsend; exact absurd rfl hsend
    | awaitStream =>
      left
      simp only [supervise, hv, hs]
      exact ⟨_, rfl⟩
    | awaitSink =>
      left
      cases hk : s.sink with
      | running | sending => rw [hk] at hc; cases hc
      | ended | crashed => simp only [supervise, hv, hk]; exact ⟨_, rfl⟩
    | done =>
      right
      unfold awaitSinkClose
      by_cases ht : s.resultTaken = true
      · exact ⟨_, if_pos ht⟩
      · rw [if_neg ht, hv]
        cases s.sinkResult with
        | none => exact ⟨_, rfl⟩
        | some res => exact ⟨_, rfl⟩

/-- While the stream goes on, only the heartbeat of a socket with a dead sink can move. -/
theorem dead_step {a : SocketAct} (g : s.Supervised) (hc : s.sink.isClosed = true) (ha : a.isRemote = false)
    (h : s.step a = some t) : s.streaming = false ∨ s.beating = true := by
  by_cases hs : s.streaming = false
  · exact .inl hs
  · by_cases hb : s.beating = true
    · exact .inr hb
    · have := stuck_of g (by simpa using hs) (by simpa using hb) (.inl hc) a ha
      rw [h] at this; cases this

theorem dead_result {r : Except WSError Unit × Socket} (g : s.Supervised) (h : s.awaitSinkClose = some r) :
    s.streaming = false := by
  have hstage : s.supervisor.stage = 5 := by
    unfold awaitSinkClose at h
    split at h
    · rename_i ht; exact g.taken ht
    · split at h
      · rename_i hr; exact g.done (by simp [hr])
      · rename_i hv; rw [hv]; rfl
      · cases h
  exact g.stream (by omega)

end Socket

namespace ClientActor

variable {s t u : ClientActor C} {config : ClientConfig} {x : Socket} {closedSelf : Bool}

/-- A step of the client out of `await_sink_close`, or one of the tasks of its socket that needs nothing of the
remote. -/
inductive Local (s : ClientActor C) : ClientAct C → Prop
  | sinkClosed : Local s .sinkClosed
  | task (a : SocketAct) : a.isRemote = false → Local s (.socket s.conn a)

theorem local_enabled (g : x.Supervised) (hp : s.phase = .awaitSink closedSelf) (hx : s.socks[s.conn]? = some x)
    (hc : x.sink.isClosed = true) :
    (∃ a t, s.Local a ∧ s.step a = some t) ↔ x.streaming = false ∨ x.beating = true := by
  have task : ∀ a, s.step (.socket s.conn a) =
    (x.step a).map fun y => { s with socks := s.socks.set s.conn y } := by
    intro a
    simp only [step, hx]
  constructor
  · rintro ⟨a, t, ha, h⟩
    cases ha with
    | sinkClosed =>
      simp only [step, hp, hx] at h
      split at h
      · rename_i hr; exact .inl (Socket.dead_result g hr)
      · cases h
    | task b hb =>
      rw [task] at h
      obtain ⟨y, hy, -⟩ := Option.map_eq_some_iff.mp h
      exact Socket.dead_step g hc hb hy
  · have moves : ∀ {a : SocketAct} {y : Socket}, a.isRemote = false → x.step a = some y →
        ∃ a t, s.Local a ∧ s.step a = some t := by
      intro a y ha hy
      exact ⟨.socket s.conn a, _, .task a ha, by rw [task, hy]; rfl⟩
    rintro (hs | hb)
    · rcases Socket.dead_enabled g hc hs with ⟨y, hy⟩ | ⟨⟨res, y⟩, hy⟩
      · exact moves (a := .supervise) rfl hy
      · exact ⟨.sinkClosed, (s.setSocket y).sinkClosed closedSelf res, .sinkClosed, by simp only [step, hp, hx, hy]⟩
    · obtain ⟨y, hy⟩ := Socket.heartbeat_enabled hb 0 0
      exact moves rfl hy

theorem dead_later (hx : s.socks[s.conn]? = some x) (hc : x.sink.isClosed = true) (h : Lts.Reach step s u) :
    ∃ y, u.socks[s.conn]? = some y ∧ y.sink.isClosed = true ∧ (x.streaming = false → y.streaming = false) := by
  refine Lts.reach_inv (I := fun u : ClientActor C => ∃ y, u.socks[s.conn]? = some y ∧ y.sink.isClosed = true ∧
    (x.streaming = false → y.streaming = false)) ⟨x, hx, hc, fun h => h⟩ ?_ h
  rintro u a v - ⟨y, hy, hcy, hsy⟩ hst
  obtain ⟨z, hz, hu⟩ := step_socket hst hy
  refine ⟨z, hz, ?_⟩
  rcases hu with hu | ⟨b, -, hb⟩
  · rw [hu.frame]; exact ⟨hcy, hsy⟩
  · exact ⟨Socket.step_isClosed hb hcy, fun h => Socket.step_streaming hb (hsy h)⟩

/-- A client that waits for a dead sink can go on now if and only if the stream has ended or the heartbeat beats,
and for as long as it waits if and only if the stream has ended. -/
theorem dead_sink_iff (hs : Lts.Reach step (create config) s) (hp : s.phase = .awaitSink closedSelf)
    (hx : s.socks[s.conn]? = some x) (hc : x.sink.isClosed = true) :
    ((∃ a t, s.Local a ∧ s.step a = some t) ↔ x.streaming = false ∨ x.beating = true) ∧
    ((∀ u, Lts.Reach step s u → u.phase = s.phase → u.conn = s.conn → ∃ a t, u.Local a ∧ u.step a = some t) ↔
      x.streaming = false) := by
  have g := socks_supervised hs hx
  refine ⟨local_enabled g hp hx hc, fun h => ?_, fun hst u hu hup huc => ?_⟩
  · by_cases hst : x.streaming = false
    · exact hst
    · exfalso
      have dead : ∀ {u : ClientActor C} {y : Socket}, Lts.Reach step s u → u.phase = s.phase → u.conn = s.conn →
          u.socks[s.conn]? = some y → y.sink.isClosed = true → y.streaming = true → y.beating = false → False := by
        intro u y hu hup huc hy hcy hsy hby
        have := (local_enabled (socks_supervised (hs.trans hu) hy) (hup.trans hp) (by rw [huc]; exact hy) hcy).mp
          (h u hu hup huc)
        rw [hsy, hby] at this
        rcases this with h | h <;> cases h
      have hst : x.streaming = true := by simpa using hst
      by_cases hb : x.beating = true
      · -- the heartbeat fails to send its `Close`, and that was the last step
        obtain ⟨y, hy⟩ := Socket.heartbeat_enabled hb (x.config.timeout + 1) 0
        have h₁ : s.step (.socket s.conn (.heartbeat (x.config.timeout + 1) 0)) =
            some { s with socks := s.socks.set s.conn y } := by simp only [step, hx, hy]; rfl
        have hyb : y.beating = false := Socket.timeout_ends (Nat.lt_succ_self _) hy
        have hys : y.streaming = true := by
          cases Socket.step_cases hy with
          | heartbeat _ he => rw [Socket.handleHeartbeat_frame he]; exact hst
          | heartbeatEnd _ he => rw [Socket.free_streaming, Socket.handleHeartbeat_frame he]; exact hst
        refine dead (Lts.Reach.single h₁) rfl (by simp [conn]) ?_ (Socket.step_isClosed hy hc) hys hyb
        rw [List.getElem?_set_of hx, if_pos rfl]
      · exact dead (.refl s) rfl rfl hx hc hst (by simpa using hb)
  · obtain ⟨y, hy, hcy, hsy⟩ := dead_later hx hc hu
    exact (local_enabled (socks_supervised (hs.trans hu) hy) (hup.trans hp) (by rw [huc]; exact hy) hcy).mpr
      (.inl (hsy hst))

/-- The stream has ended as well, so the client gets on. -/
theorem dead_sink_one : ∃ (as : List (ClientAct Nat)) (s : ClientActor Nat),
    Lts.exec step (create ⟨1, 1, none⟩) as = some s ∧ s.phase = .awaitSink false ∧
      ∀ u, Lts.Reach step s u → u.phase = s.phase → u.conn = s.conn → ∃ a t, u.Local a ∧ u.step a = some t := by
  have h : Lts.exec step (create ⟨1, 1, none⟩ : ClientActor Nat) [
    .tryRecv, .connected, .onConnectReturn (.ok ()), .text "a", .text "b", .outgoing, .socket 0 .sinkRecv,
    .socket 0 (.sinkSend (.error (.io "broken pipe"))), .outgoing, .socket 0 .streamEnd] = some _ := rfl
  exact ⟨_, _, h, rfl, (dead_sink_iff ⟨_, h⟩ rfl rfl rfl).2.mpr rfl⟩

/-- A send fails, the next message is refused, the stream goes on in silence and the heartbeat has ended: the client
waits for ever. -/
theorem dead_sink_hangs : ∃ (as : List (ClientAct Nat)) (s : ClientActor Nat) (x : Socket) (err : WSError),
    Lts.exec step (create ⟨1, 1, none⟩) as = some s ∧ s.phase = .awaitSink false ∧ s.socks[s.conn]? = some x ∧
      x.sink = .ended (.error err) ∧ x.streaming = true ∧ ∀ a, s.Local a → s.step a = none := by
  refine ⟨[.tryRecv, .connected, .onConnectReturn (.ok ()), .text "a", .text "b", .outgoing, .socket 0 .sinkRecv,
    .socket 0 (.sinkSend (.error (.io "broken pipe"))), .outgoing, .socket 0 (.heartbeat 5000000000 0)], _, _,
    .io "broken pipe", rfl, rfl, rfl, rfl, rfl, ?_⟩
  intro a ha
  cases ha with
  | sinkClosed => rfl
  | task b hb => cases b <;> first | rfl | cases hb

end ClientActor

end Ezsockets
