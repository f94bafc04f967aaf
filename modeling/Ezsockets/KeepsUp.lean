import Ezsockets.Completion
import Ezsockets.Registry

/-!
# A server that keeps up

A session that waits in `call_with` is not forgotten: its call is queued or is
being handled (`Awaited`), and `on_call` answers it or drops its sender. So
without a shutdown the work comes to an end as well, and then every connection
has been asked about, every call has been handled, and each session that was
accepted waits for its client or has been reported (`server_keeps_up`).
-/

namespace Ezsockets

variable {ID C SC : Type} {s t : Server ID C SC} {i : Nat} {c c' : Conn ID SC}

def ServerPhase.senders : ServerPhase C → List (Option Nat)
  | .onCall call => [call.respondTo]
  | _ => []

/-- The reply senders of the calls that have not been answered. -/
def Server.senders (s : Server ID C SC) : List (Option Nat) := s.phase.senders ++ s.calls.queue.map (·.respondTo)

def Awaited (s : Server ID C SC) : Prop :=
  s.isDropped = false → ∀ (i : Nat) c, s.conns[i]? = some c → c.body.waiting = true → some i ∈ s.senders

theorem Awaited.set (g : Awaited s) (hc : s.conns[i]? = some c) (ht : t.conns = s.conns.set i c')
    (hd : t.isDropped = s.isDropped) (hs : s.senders ⊆ t.senders)
    (hw : c'.body.waiting = true → c.body.waiting = true ∨ some i ∈ t.senders) : Awaited t := by
  intro hn
  rw [hd] at hn
  rw [ht]
  refine List.forall_set hc (fun hx => ?_) fun j d _ hj hx => hs (g hn j d hj hx)
  rcases hw hx with h | h
  · exact hs (g hn i c hc h)
  · exact h

theorem Awaited.same (g : Awaited s) (hc : t.conns = s.conns) (hd : t.isDropped = s.isDropped)
    (hs : s.senders ⊆ t.senders) : Awaited t := by
  intro hn i c hi hw
  rw [hd] at hn
  rw [hc] at hi
  exact hs (g hn i c hi hw)

/-- A caller whose sender is used does not wait any more. -/
theorem respond_settles (hi : (s.respond i).conns[i]? = some c) : c.body.waiting = false := by
  unfold Server.respond at hi
  split at hi
  · rename_i d hd
    split at hi
    · rename_i a hb
      split at hi
      · rename_i b hs
        have hlt := (List.getElem?_eq_some_iff.mp hd).1
        simp only [Server.setConn, List.getElem?_set_self hlt, Option.some.injEq] at hi
        subst hi
        cases SessionActor.step_cases hs with
        | resume => rfl
      · rename_i hs
        cases hd.symm.trans hi
        rw [hb]
        apply Bool.eq_false_iff.mpr
        intro hw
        simp only [Body.waiting, SessionActor.waiting] at hw
        split at hw
        · rename_i hp
          simp [SessionActor.step, hp] at hs
        · cases hw
    · rename_i x hb
      cases hd.symm.trans hi
      rw [hb]; rfl
  · rename_i hd
    cases hd.symm.trans hi

/-- The sender of the call that the actor handles is used. -/
theorem Awaited.answer (g : Awaited s) {call : ServerCall C} (hp : s.phase = .onCall call)
    (hc : t.conns = (s.respondOpt call.respondTo).conns) (hq : t.calls = s.calls) (hd : t.isDropped = s.isDropped) :
    Awaited t := by
  intro hn j d hj hw
  rw [hd] at hn
  rw [hc] at hj
  have hne : call.respondTo ≠ some j := by
    intro he
    rw [he] at hj
    rw [respond_settles hj] at hw
    cases hw
  have hold : ∃ e, s.conns[j]? = some e ∧ e.body.waiting = true := by
    rcases Server.respond_cases s call.respondTo with h | ⟨i, e, a, b, ho, he, hb, hs, h⟩
    · rw [h] at hj
      exact ⟨d, hj, hw⟩
    · rw [h] at hj
      have hj : (s.conns.set i { e with body := .session b })[j]? = some d := hj
      rw [List.getElem?_set_of he] at hj
      by_cases hji : j = i
      · exact absurd (hji ▸ ho) hne
      · rw [if_neg hji] at hj
        exact ⟨d, hj, hw⟩
  obtain ⟨e, he, hx⟩ := hold
  have hmem := g hn j e he hx
  simp only [Server.senders, hp, ServerPhase.senders, List.singleton_append, List.mem_cons] at hmem
  rcases hmem with h | h
  · exact absurd h.symm hne
  · unfold Server.senders
    rw [hq]
    exact List.mem_append_right _ h

theorem step_awaited {a : ServerAct ID C SC} (g : Awaited s) (h : s.step a = some t) : Awaited t := by
  cases Server.step_cases h with
  | accept socket =>
    unfold Server.accept
    split
    · exact g
    · intro hn
      exact List.forall_append_one (fun hw => by cases hw) (g hn)
  | call call =>
    refine g.same rfl rfl ?_
    simp only [Server.senders, Server.call, Chan.push_queue, List.map_append, ← List.append_assoc]
    exact List.subset_append_left ..
  | gracefulShutdown =>
    unfold Server.gracefulShutdown
    split <;> exact g
  | takeShutdown =>
    unfold Server.takeShutdown
    split <;> exact g
  | @takeConnection i q c x hs hp hc hb =>
    have hph := (Server.selecting_iff.mp hs).1
    unfold Server.takeConnection
    split
    · exact g.set hc rfl rfl (List.Subset.refl _) fun hw => by cases hw
    · refine g.set hc rfl ?_ ?_ fun hw => by cases hw
      · simp [Server.isDropped, hph]
      · simp [Server.senders, Server.setConn, hph, ServerPhase.senders]
  | createSession id hp hc hb => exact g.set hc rfl rfl (List.Subset.refl _) fun hw => by cases hw
  | onConnectOk hp hc hb =>
    refine g.set hc rfl ?_ ?_ fun hw => .inl (by simpa using hw)
    · simp [Server.onConnectOk, Server.isDropped, hp]
    · simp [Server.onConnectOk, Server.senders, Server.setConn, hp, ServerPhase.senders]
  | @onConnectErr i c frame hp hc =>
    refine g.set hc rfl ?_ ?_ fun hw => .inl ?_
    · simp [Server.onConnectErr, Server.isDropped, hp]
    · simp [Server.onConnectErr, Server.senders, Server.setConn, hp, ServerPhase.senders]
    · cases hb : c.body with
      | socket x =>
        simp only [hb, Body.mapSocket_waiting] at hw
        cases hw
      | session x =>
        simp only [hb, Body.mapSocket_waiting] at hw
        exact hw
  | takeDisconnected hs hp hc =>
    have hph := (Server.selecting_iff.mp hs).1
    refine g.set hc rfl ?_ ?_ fun hw => .inl hw
    · simp [Server.takeDisconnected, Server.isDropped, hph]
    · simp [Server.takeDisconnected, Server.senders, Server.setConn, hph, ServerPhase.senders]
  | onDisconnectReturn res hp hc =>
    refine g.set hc rfl ?_ ?_ fun hw => .inl hw
    · simp [Server.isDropped, hp]
    · simp [Server.senders, Server.setConn, hp, ServerPhase.senders]
  | @takeCall call q hs hn hp =>
    have hph := (Server.selecting_iff.mp hs).1
    refine g.same rfl ?_ ?_
    · simp [Server.isDropped, hph]
    · simp [Server.senders, hph, ServerPhase.senders, (Chan.pop?_some.mp hp).1]
  | respond hp => exact g.answer hp rfl (by rw [Server.respondOpt_eq]) (by simp [Server.isDropped, hp])
  | onCallReturn res hp => exact g.answer hp rfl (by rw [Server.respondOpt_eq]) (by simp [Server.isDropped, hp])
  | leave hp =>
    refine g.same rfl ?_ ?_
    · simp [Server.leave, Server.isDropped, hp]
    · simp [Server.leave, Server.senders, hp, ServerPhase.senders]
  | dropActor =>
    intro hn
    rw [Server.dropActor_eq] at hn
    cases hn
  | session a hc hb hs hx =>
    refine g.set hc rfl rfl (List.Subset.refl _) fun hw => .inl ?_
    rw [hb]; exact SessionActor.step_waiting hs hx hw
  | @callWith i c x y call hc hb hs =>
    refine g.set hc rfl rfl ?_ fun _ => .inr ?_
    · simp only [Server.senders, Server.call, Server.setConn, Chan.push_queue, List.map_append, ← List.append_assoc]
      exact List.subset_append_left ..
    · simp [Server.senders, Server.call]
  | socket a hc hb hs => exact g.set hc rfl rfl (List.Subset.refl _) fun hw => by cases hw
  | takeIndicator hc hb => exact g.set hc rfl rfl (List.Subset.refl _) fun hw => .inl (by rw [hb]; exact hw)
  | close hc hb =>
    refine g.set hc rfl rfl (List.Subset.refl _) fun hw => .inl ?_
    rw [hb]; exact SessionActor.step_waiting (x := .close (some awayFrame)) rfl (by simp) hw
  | disconnected hc hb =>
    unfold Server.disconnected
    split <;> exact g.set hc rfl rfl (List.Subset.refl _) fun hw => .inl hw
  | spawnCloser hc hw | takeIndicatorPanic hc _ hw | awaitClose hc _ hw | abortCloser hc hw | borrow hc hw
  | changed hc hw | changedErr hc hw | cancel hc hw => exact g.set hc rfl rfl (List.Subset.refl _) fun hw => .inl hw
  | _ => exact g

theorem reach_awaited (h : Lts.Reach Server.step .create s) : Awaited s :=
  Lts.reach_inv (I := Awaited) (fun _ i c hc => by simp [Server.create] at hc)
    (fun _ _ _ _ g hs => step_awaited g hs) h

/-! ## Nothing left to do -/

/-- Some actor or watcher can go on. -/
def Server.canWork (s : Server ID C SC) : Prop := ∃ a : ServerAct ID C SC, a.works = true ∧ s.step a ≠ none

/-- The session has done all it was asked to, and waits for its client. -/
structure SessionActor.Idle (a : SessionActor ID SC) : Prop where
  phase : a.phase = .select
  toSocket : a.toSocket.queue = []
  calls : a.calls.queue = []
  toOwner : a.socket.toOwner.queue = []
  streaming : a.socket.streaming = true

theorem canWork_of_canStep (hp : s.phase = .select) (h : s.canStep) : s.canWork := by
  obtain ⟨a, ha, hs⟩ := h
  cases a with
  | respond => exact absurd (by simp [Server.step, hp]) hs
  | session i b => exact ⟨.session i b, ha, hs⟩
  | accept | call | gracefulShutdown | callWith | socket => cases ha
  | _ => exact ⟨_, rfl, hs⟩

/-- A live session that waits for nobody but its client is idle. -/
theorem idle_of_stuck (C : Type) {a : SessionActor ID SC} (hl : a.live = true) (hw : a.waiting = false)
    (hx : ∀ b : SessionAct SC, (ServerAct.session 0 b : ServerAct ID C SC).works = true → a.step b = none) :
    a.Idle := by
  have hp : a.phase = .select := by
    cases hp : a.phase with
    | select => rfl
    | handler h w =>
      cases w with
      | true => simp [SessionActor.waiting, hp] at hw
      | false =>
        have := hx (.handlerReturn (.ok ())) rfl
        simp [SessionActor.step, hp] at this
    | finished r | ended => simp [SessionActor.live, hp] at hl
  have hq : a.toSocket.queue = [] := by
    have := hx .outgoing rfl
    cases hpop : a.toSocket.pop? with
    | none => exact Chan.pop?_none.mp hpop
    | some m => simp [SessionActor.step, hp, hpop] at this
  have hcalls : a.calls.queue = [] := by
    have := hx .takeCall rfl
    cases hpop : a.calls.pop? with
    | none => exact Chan.pop?_none.mp hpop
    | some m => simp [SessionActor.step, hp, hq, hpop] at this
  have hr : a.socket.recv = none := by
    have := hx .incoming rfl
    cases hr : a.socket.recv with
    | none => rfl
    | some m => simp [SessionActor.step, hp, hq, hcalls, hr] at this
  unfold Socket.recv at hr
  split at hr
  · cases hr
  · rename_i hpop
    split at hr
    · rename_i hs
      exact ⟨hp, hq, hcalls, Chan.pop?_none.mp hpop, hs⟩
    · cases hr

section
variable (n : Accounting s) (hd : s.shuttingDown = false) (hx : ¬ s.canWork)
include n hd hx

theorem stuck_select : s.phase = .select := by
  have stuck : ∀ a : ServerAct ID C SC, a.works = true → s.step a = none :=
    fun a ha => by_contra fun hs => hx ⟨a, ha, hs⟩
  have hin : s.inLoop = true := by
    by_contra hl
    have := n.exit (by simpa using hl)
    simp [Server.drained, hd] at this
  cases hp : s.phase with
  | select => rfl
  | onConnect i =>
    obtain ⟨c, hc⟩ := n.phase_conn (i := i) (by simp [hp, ServerPhase.handler])
    have := stuck (.onConnectReturn (.error none)) rfl
    simp [Server.step, hp, Server.withConn, hc] at this
  | onDisconnect i =>
    obtain ⟨c, hc⟩ := n.phase_conn (i := i) (by simp [hp, ServerPhase.handler])
    have := stuck (.onDisconnectReturn (.ok ())) rfl
    simp [Server.step, hp, Server.withConn, hc] at this
  | onCall call =>
    have := stuck (.onCallReturn (.ok ())) rfl
    simp [Server.step, hp] at this
  | left | dropped => simp [Server.inLoop, hp] at hin

theorem stuck_empty : s.connections.queue = [] ∧ s.disconnections.queue = [] ∧ s.calls.queue = [] ∧
    s.shutdowns.queue = [] := by
  have stuck : ∀ a : ServerAct ID C SC, a.works = true → s.step a = none :=
    fun a ha => by_contra fun hs => hx ⟨a, ha, hs⟩
  have hp := stuck_select n hd hx
  have hsel : s.selecting = true := Server.selecting_iff.mpr ⟨hp, by simp [Server.drained, hd]⟩
  refine ⟨?_, ?_, ?_, ?_⟩
  · cases hpop : s.connections.pop? with
    | none => exact Chan.pop?_none.mp hpop
    | some p =>
      obtain ⟨i, q⟩ := p
      have hmem : i ∈ s.connections.queue := by
        rw [(Chan.pop?_some.mp hpop).1]; exact List.mem_cons_self
      have hi : ∃ c, s.conns[i]? = some c := by
        apply Option.ne_none_iff_exists'.mp
        intro hn
        have hv := congrArg View.queued (n.fresh i (List.getElem?_eq_none_iff.mp hn))
        exact absurd (List.count_pos_iff.mpr hmem) (by rw [show s.connections.queue.count i = 0 from hv]; simp)
      obtain ⟨c, hc⟩ := hi
      obtain ⟨x, hb⟩ := (n.tracked i c hc).bare ((n.queued_iff hc).mp hmem)
      have := stuck .takeConnection rfl
      simp [Server.step, hsel, hpop, Server.withConn, hc, hb] at this
  · by_contra hq
    exact hx (canWork_of_canStep hp (disconnected_canStep n hsel hq))
  · cases hpop : s.calls.pop? with
    | none => exact Chan.pop?_none.mp hpop
    | some p =>
      have := stuck .takeCall rfl
      simp [Server.step, hsel, hd, hpop] at this
  · cases hpop : s.shutdowns.pop? with
    | none => exact Chan.pop?_none.mp hpop
    | some p =>
      have := stuck .takeShutdown rfl
      simp [Server.step, hsel, hpop] at this

/-- An accepted session is idle, or it has been reported. -/
theorem stuck_accepted (g : Awaited s) (hi : s.accepted i = true) :
    (∃ a, s.session? i = some a ∧ a.Idle) ∨ s.log.filter (·.isDisconnectReturn i) = [.onDisconnectReturn i] := by
  have stuck : ∀ a : ServerAct ID C SC, a.works = true → s.step a = none :=
    fun a ha => by_contra fun hs => hx ⟨a, ha, hs⟩
  have hp := stuck_select n hd hx
  obtain ⟨-, hdq, hcq, -⟩ := stuck_empty n hd hx
  obtain ⟨c, hc⟩ := n.known hi
  have k := n.tracked i c hc
  have ho : c.stage.opened = true := by rw [← n.accepted_eq hc]; exact hi
  obtain ⟨a, hb⟩ := k.session ho
  have hh : c.stage.handler = none := by rw [← k.handler]; simp [Server.view, hp, ServerPhase.handler]
  by_cases hst : c.stage = .disconnected
  · obtain ⟨r, -, -, hret⟩ := n.disconnects hc
    exact .inr (by rw [hret, if_pos hst])
  · have hacc : c.stage = .accepted := by
      cases hs : c.stage <;> simp [hs, Stage.opened, Stage.handler] at ho hh hst ⊢
    have hwatch := stuck_watcher k hc hb ho fun x hm => stuck x (by
      simp only [ServerAct.watchers, List.mem_cons, List.not_mem_nil, or_false] at hm
      rcases hm with rfl | rfl | rfl | rfl | rfl | rfl | rfl | rfl | rfl <;> rfl)
    rcases hwatch with hw | hw
    · refine .inl ⟨a, Server.session?_some.mpr ⟨c, hc, hb⟩, ?_⟩
      have hl : a.live = true := by
        by_contra hl
        exact hx (canWork_of_canStep hp (ended_canStep hc hb (k.good a hb) (by simpa using hl) hw))
      refine idle_of_stuck C hl ?_ fun b hbw => ?_
      · apply Bool.eq_false_iff.mpr
        intro hwait
        have hmem := g (by simp [Server.isDropped, hp]) i c hc (by rw [hb]; exact hwait)
        simp [Server.senders, hp, ServerPhase.senders, hcq] at hmem
      · have := stuck (.session i b) hbw
        cases b <;>
          first | simpa [Server.step, Server.withSession, Server.withConn, hc, hb] using this | cases hbw
    · obtain ⟨r, -, hds⟩ := k.trace
      simp [Server.view, hdq, Conn.message, hw, hacc, hb, Body.id, Watcher.isDone] at hds

end

/-- The steps of the actors and the watchers are bounded by what was left to do and by what comes from outside, and
a server that is not shut down and has none left has caught up, if `on_call` keeps no reply sender: `on_connect` has
been called for every connection in order, every call has been taken, and each accepted session is idle or its
`on_disconnect` has returned. -/
theorem server_keeps_up (h : Lts.Reach Server.step .create s) (as : List (ServerAct ID C SC))
    (ht : Lts.exec Server.step s as = some t) :
    as.countP (·.works) + t.rank ≤ s.rank + Server.added as ∧
    (t.shuttingDown = false → ¬ t.canWork → t.phase = .select ∧
      t.log.filterMap Callback.asked? = List.range t.conns.length ∧ t.calls.got = t.calls.hist ∧
      ∀ i, t.accepted i = true → (∃ a, t.session? i = some a ∧ a.Idle) ∨
        t.log.filter (·.isDisconnectReturn i) = [.onDisconnectReturn i]) := by
  refine ⟨work_bounded h ht, fun hd hx => ?_⟩
  have hr : Lts.Reach Server.step .create t := h.trans ⟨as, ht⟩
  have n := reach_accounting hr
  obtain ⟨hcq, -, hq, -⟩ := stuck_empty n hd hx
  refine ⟨stuck_select n hd hx, ?_, (Chan.hist_eq_got hq).symm, fun i => stuck_accepted n hd hx (reach_awaited hr)⟩
  have g : t.registry.Lawful := Registry.reach_lawful (server_refines.reach hr)
  have hsel := stuck_select n hd hx
  have harr := reach_arrivals hr (by simp [Server.isDropped, hsel])
  have hlen : t.connections.got.length = t.conns.length := by
    rw [← Chan.hist_eq_got hcq, harr, List.length_range]
  have hasked := g.asked
  rw [g.all hd] at hasked
  rw [← hlen]
  exact hasked

/-- A text is handled with a call to the server, and then nothing is left to do. -/
def keepsUpRun : List (ServerAct Nat Nat Nat) := [
  .accept (.new .default), .takeConnection, .createSession 7, .onConnectReturn (.ok ()), .spawnCloser 0,
  .takeIndicator 0, .borrow 0, .session 0 (.socket (.streamNext (.ok (.text "hi")))), .session 0 .incoming,
  .callWith 0 5, .takeCall, .respond, .onCallReturn (.ok ()), .session 0 (.handlerReturn (.ok ()))]

theorem server_keeps_up_one : ∃ t : Server Nat Nat Nat, Lts.exec Server.step .create keepsUpRun = some t ∧
    keepsUpRun.countP (·.works) = 10 ∧ t.calls.got = t.calls.hist ∧ t.accepted 0 = true ∧
    ((∃ a, t.session? 0 = some a ∧ a.Idle) ∨
      t.log.filter (·.isDisconnectReturn 0) = [.onDisconnectReturn 0]) := by
  have h : Lts.exec Server.step (.create : Server Nat Nat Nat) keepsUpRun = some _ := rfl
  obtain ⟨-, hdone⟩ := server_keeps_up (.refl Server.create) keepsUpRun h
  obtain ⟨-, -, hq, hall⟩ := by
    refine hdone rfl ?_
    rintro ⟨a, ha, hs⟩
    cases a with
    | session i a =>
      cases i with
      | zero => cases a <;> first | exact hs rfl | cases ha
      | succ i => exact hs rfl
    | spawnCloser i | takeIndicator i | awaitClose i | abortCloser i | disconnected i | borrow i
    | changed i | close i | cancel i => cases i <;> exact hs rfl
    | _ => first | exact hs rfl | cases ha
  exact ⟨_, h, rfl, hq, rfl, hall 0 rfl⟩

end Ezsockets
