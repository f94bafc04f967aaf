import Ezsockets.Accounting

/-!
# Disconnects

Every `on_disconnect` call answers a `Disconnected` message the actor took,
so the counter and the calls of each session can be read off the messages
and the log.
-/

namespace Ezsockets

variable {ID C SC : Type}

namespace Callback

def disconnected? : Callback ID C → Option (Disconnected ID)
  | .onDisconnect i id r => some ⟨i, id, r⟩
  | _ => none

def isAccept (i : Nat) : Callback ID C → Bool
  | .onConnectReturn j accepted => accepted && j == i
  | _ => false

def isDisconnect (i : Nat) : Callback ID C → Bool
  | .onDisconnect j _ _ => j == i
  | _ => false

def isDisconnectReturn (i : Nat) : Callback ID C → Bool
  | .onDisconnectReturn j => j == i
  | _ => false

theorem filter_of {p : Callback ID C → Bool} {i : Nat} (hp : ∀ cb, p cb = true → cb.conn = some i)
    (log : List (Callback ID C)) : (of i log).filter p = log.filter p := by
  unfold of
  rw [List.filter_filter]
  apply List.filter_congr
  intro cb _
  cases h : p cb with
  | false => rfl
  | true => simp [hp cb h]

theorem isDisconnect_conn {i : Nat} {cb : Callback ID C} (h : cb.isDisconnect i = true) : cb.conn = some i := by
  cases cb <;> simp_all [isDisconnect, conn]

theorem isDisconnectReturn_conn {i : Nat} {cb : Callback ID C} (h : cb.isDisconnectReturn i = true) :
    cb.conn = some i := by
  cases cb <;> simp_all [isDisconnectReturn, conn]

theorem isAccept_conn {i : Nat} {cb : Callback ID C} (h : cb.isAccept i = true) : cb.conn = some i := by
  cases cb <;> simp_all [isAccept, conn]

end Callback

namespace Server

def accepted (s : Server ID C SC) (i : Nat) : Bool := s.log.any (·.isAccept i)

/-- The actor has taken the disconnect message of connection `i`. -/
def taken (s : Server ID C SC) (i : Nat) : Bool := s.disconnections.got.any (·.conn == i)

def session? (s : Server ID C SC) (i : Nat) : Option (SessionActor ID SC) :=
  match s.conns[i]? with
  | some c =>
    match c.body with
    | .session a => some a
    | .socket _ => none
  | none => none

end Server

section
variable {s t : Server ID C SC} {i : Nat} {c : Conn ID SC}

theorem Server.session?_some {a : SessionActor ID SC} :
    s.session? i = some a ↔ ∃ c, s.conns[i]? = some c ∧ c.body = .session a := by
  unfold session?
  cases s.conns[i]? with
  | none => simp
  | some c => cases hb : c.body <;> simp [hb]

/-- The messages taken are those `on_disconnect` was called for, in order. -/
def Delivered (s : Server ID C SC) : Prop := s.log.filterMap Callback.disconnected? = s.disconnections.got

theorem step_delivered {a : ServerAct ID C SC} (g : Delivered s) (h : s.step a = some t) : Delivered t := by
  have push : ∀ cb : Callback ID C, cb.disconnected? = none →
      (s.log ++ [cb]).filterMap Callback.disconnected? = s.disconnections.got := by
    intro cb hcb
    rw [List.filterMap_append, g]
    simp [hcb]
  unfold Delivered at *
  cases Server.step_cases h with
  | accept socket => unfold Server.accept; split <;> exact g
  | gracefulShutdown => unfold Server.gracefulShutdown; split <;> exact g
  | takeShutdown => unfold Server.takeShutdown; split <;> exact g
  | takeConnection hs hp hc hb =>
    unfold Server.takeConnection
    split
    · exact g
    · exact push _ rfl
  | onConnectOk => exact push _ rfl
  | onConnectErr => exact push _ rfl
  | @takeDisconnected d q c hs hp hc =>
    obtain ⟨hq, hg⟩ := Chan.pop?_some.mp hp
    have hlog : (s.log ++ [Callback.onDisconnect d.conn d.id d.result]).filterMap Callback.disconnected? =
      q.got := by
      rw [List.filterMap_append, g, hg]; rfl
    exact hlog
  | onDisconnectReturn => exact push _ rfl
  | takeCall => exact push _ rfl
  | respond => rw [Server.respondOpt_eq]; exact g
  | onCallReturn => rw [Server.respondOpt_eq]; exact g
  | dropActor => rw [Server.dropActor_eq]; exact g
  | disconnected => unfold Server.disconnected; split <;> exact g
  | _ => exact g

theorem create_delivered : Delivered (.create : Server ID C SC) := rfl

theorem reach_delivered (h : Lts.Reach Server.step .create s) : Delivered s :=
  Lts.reach_inv create_delivered (fun _ _ _ _ g hs => step_delivered g hs) h

/-! ## Reading a connection off the log -/

theorem Accounting.disconnects (g : Accounting s) (hc : s.conns[i]? = some c) : ∃ r,
    s.log.filter (·.isAccept i) = (if c.stage.opened then [.onConnectReturn i true] else []) ∧
    s.log.filter (·.isDisconnect i) = (if c.stage = .disconnecting ∨ c.stage = .disconnected then
      c.body.id.toList.map (.onDisconnect i · r) else []) ∧
    s.log.filter (·.isDisconnectReturn i) = if c.stage = .disconnected then [.onDisconnectReturn i] else [] := by
  obtain ⟨r, hev, -⟩ := (g.tracked i c hc).trace
  have hev' : Callback.of i s.log = c.stage.callbacks i c.body.id r := hev
  refine ⟨r, ?_, ?_, ?_⟩
  · rw [← Callback.filter_of (fun _ => Callback.isAccept_conn), hev']
    cases c.stage <;> cases c.body.id <;> simp [Stage.callbacks, Stage.opened, Callback.isAccept]
  · rw [← Callback.filter_of (fun _ => Callback.isDisconnect_conn), hev']
    cases c.stage <;> cases c.body.id <;> simp [Stage.callbacks, Callback.isDisconnect]
  · rw [← Callback.filter_of (fun _ => Callback.isDisconnectReturn_conn), hev']
    cases c.stage <;> cases c.body.id <;> simp [Stage.callbacks, Callback.isDisconnectReturn]

theorem any_of_filter {α : Type} {l : List α} {p : α → Bool} : l.any p = true ↔ l.filter p ≠ [] := by
  simp [List.any_eq_true, List.filter_eq_nil_iff]

theorem Accounting.accepted_eq (g : Accounting s) (hc : s.conns[i]? = some c) : s.accepted i = c.stage.opened := by
  obtain ⟨r, ha, -, -⟩ := g.disconnects hc
  rw [Bool.eq_iff_iff, Server.accepted, any_of_filter, ha]
  cases c.stage.opened <;> simp

theorem Delivered.taken_eq (d : Delivered s) (i : Nat) : s.taken i = s.log.any (·.isDisconnect i) := by
  rw [Server.taken, ← d, List.any_filterMap]
  refine List.any_congr rfl fun cb => ?_
  cases cb <;> rfl

theorem Accounting.taken_iff (g : Accounting s) (d : Delivered s) (hc : s.conns[i]? = some c) :
    s.taken i = true ↔ c.stage = .disconnecting ∨ c.stage = .disconnected := by
  obtain ⟨r, -, hd, -⟩ := g.disconnects hc
  rw [d.taken_eq, any_of_filter, hd]
  by_cases hst : c.stage = .disconnecting ∨ c.stage = .disconnected
  · obtain ⟨a, hb⟩ := (g.tracked i c hc).session (by rcases hst with h | h <;> rw [h] <;> rfl)
    simp [hst, hb, Body.id]
  · simp [hst]

theorem Accounting.absent (g : Accounting s) (hi : s.conns[i]? = none) : Callback.of i s.log = [] := by
  have hf := g.fresh i (List.getElem?_eq_none_iff.mp hi)
  exact congrArg View.events hf

theorem Accounting.known (g : Accounting s) (hi : s.accepted i = true) : ∃ c, s.conns[i]? = some c := by
  apply Option.ne_none_iff_exists'.mp
  intro hn
  rw [Server.accepted, any_of_filter, ← Callback.filter_of (fun _ => Callback.isAccept_conn), g.absent hn] at hi
  exact hi rfl

theorem Accounting.isAccepted_eq (g : Accounting s) (d : Delivered s) (hc : s.conns[i]? = some c) :
    isAccepted c = (s.accepted i && !s.taken i) := by
  rw [g.accepted_eq hc, Bool.eq_iff_iff, Bool.and_eq_true, Bool.not_eq_true', ← Bool.not_eq_true, g.taken_iff d hc]
  cases hst : c.stage <;> simp [isAccepted, hst, Stage.opened]

/-- `on_disconnect` is called for the accepted connections whose message was taken, and for each of them once. -/
theorem Accounting.call_of_taken (g : Accounting s) (d : Delivered s) (hi : s.taken i = true) :
    s.accepted i = true ∧ ∃ c a r, s.conns[i]? = some c ∧ c.body = .session a ∧ c.watcher = .done ∧
      s.log.filter (·.isDisconnect i) = [.onDisconnect i a.id r] := by
  cases hc : s.conns[i]? with
  | none =>
    have hn : s.log.filter (·.isDisconnect i) = [] := by
      rw [← Callback.filter_of (fun _ => Callback.isDisconnect_conn), g.absent hc]; rfl
    rw [d.taken_eq, any_of_filter] at hi
    exact absurd hn hi
  | some c =>
    have hst := (g.taken_iff d hc).mp hi
    have ho : c.stage.opened = true := by rcases hst with h | h <;> rw [h] <;> rfl
    obtain ⟨a, hb⟩ := (g.tracked i c hc).session ho
    obtain ⟨r, -, hd, -⟩ := g.disconnects hc
    rw [if_pos hst, hb] at hd
    exact ⟨by rw [g.accepted_eq hc]; exact ho, c, a, r, rfl, hb, (g.tracked i c hc).done hst, hd⟩

/-- A session whose watcher is done has ended, and its actor is gone. -/
theorem Tracked.ended {v : View ID C} (h : Tracked v i c) {a : SessionActor ID SC} (hb : c.body = .session a)
    (hw : c.watcher.late = true) : a.phase = .ended ∧ a.socket.owned = false := by
  have hp : a.phase = .ended := (h.good a hb).ended.mpr (h.late a hb hw)
  exact ⟨hp, (h.good a hb).dropped (by simp [SessionActor.live, hp])⟩

theorem takeDisconnected_active (g : Accounting s) (h : s.step .takeDisconnected = some t) :
    s.activeSessions = t.activeSessions + 1 := by
  cases Server.step_cases h with
  | @takeDisconnected d q c hs hp hc =>
    obtain ⟨hq, -⟩ := Chan.pop?_some.mp hp
    have hpos := g.active_pos hc (g.message hq hc).1
    simp only [Server.takeDisconnected]
    omega

/-- The counter is the number of accepted sessions whose message is still to be taken, `on_disconnect` has been
called once for those whose message was taken and for no other, and each of these sessions was gone by then. -/
theorem session_accounting_exact (h : Lts.Reach Server.step .create s) :
    s.activeSessions = (List.range s.conns.length).countP (fun i => s.accepted i && !s.taken i) ∧
    (∀ t, s.step .takeDisconnected = some t → s.activeSessions = t.activeSessions + 1) ∧
    (∀ i, (s.accepted i && s.taken i) = true → ∃ a r, s.session? i = some a ∧
      s.log.filter (·.isDisconnect i) = [.onDisconnect i a.id r]) ∧
    (∀ i, (s.accepted i && s.taken i) = false → s.log.filter (·.isDisconnect i) = []) ∧
    ∀ i, s.log.any (·.isDisconnect i) = true → ∃ a, s.session? i = some a ∧ a.phase = .ended ∧
      a.socket.owned = false := by
  have g := reach_accounting h
  have d := reach_delivered h
  refine ⟨?_, fun t ht => takeDisconnected_active g ht, fun i hi => ?_, fun i hi => ?_, fun i hi => ?_⟩
  · rw [g.active]
    exact List.countP_range_of fun i c hc => g.isAccepted_eq d hc
  · rw [Bool.and_eq_true] at hi
    obtain ⟨-, c, a, r, hc, hb, -, hd⟩ := g.call_of_taken d hi.2
    exact ⟨a, r, Server.session?_some.mpr ⟨c, hc, hb⟩, hd⟩
  · apply Classical.byContradiction
    intro hne
    have ht : s.taken i = true := by rw [d.taken_eq, any_of_filter]; exact hne
    rw [(g.call_of_taken d ht).1, ht] at hi
    cases hi
  · rw [← d.taken_eq] at hi
    obtain ⟨-, c, a, r, hc, hb, hw, -⟩ := g.call_of_taken d hi
    have he := (g.tracked i c hc).ended hb (by rw [hw]; rfl)
    exact ⟨a, Server.session?_some.mpr ⟨c, hc, hb⟩, he⟩

/-- Two sessions, of which the first has ended and was reported. -/
theorem session_accounting_exact_two : ∃ s : Server Nat Nat Nat, s.activeSessions = 1 ∧ s.conns.length = 2 ∧
    (∃ a r, s.session? 0 = some a ∧ s.log.filter (·.isDisconnect 0) = [.onDisconnect 0 a.id r]) ∧
    s.log.filter (·.isDisconnect 1) = [] :=
  have h : Lts.Reach Server.step (.create : Server Nat Nat Nat) _ := ⟨[
    .accept (.new .default), .takeConnection, .createSession 7, .onConnectReturn (.ok ()),
    .accept (.new .default), .takeConnection, .createSession 8, .onConnectReturn (.ok ()),
    .spawnCloser 0, .takeIndicator 0, .session 0 (.socket .streamEnd), .session 0 .incoming, .session 0 .notify,
    .awaitClose 0, .abortCloser 0, .disconnected 0, .takeDisconnected, .onDisconnectReturn (.ok ())], rfl⟩
  have g := session_accounting_exact h
  ⟨_, rfl, rfl, g.2.2.1 0 (by decide), g.2.2.2.1 1 (by decide)⟩

/-! ## What `on_disconnect` is told -/

/-- The body is still that of a session with the result. -/
def Body.Holds (b : Body ID SC) (r : SessionResult) : Prop :=
  ∃ a res, b = .session a ∧ a.result = some res ∧ r = Server.awaitClose res

theorem Body.Holds.mapSocket {b : Body ID SC} {r : SessionResult} (f : Socket → Socket) (h : b.Holds r) :
    (b.mapSocket f).Holds r := by
  obtain ⟨a, res, rfl, hr, he⟩ := h
  exact ⟨{ a with socket := f a.socket }, res, rfl, hr, he⟩

theorem Body.Holds.session {x y : SessionActor ID SC} {r : SessionResult} (hl : x.Later y)
    (h : (Body.session x).Holds r) : (Body.session y).Holds r := by
  obtain ⟨a, res, ha, hr, he⟩ := h
  cases ha
  exact ⟨y, res, rfl, hl.result _ hr, he⟩

/-- The result that the watcher has is that of the session, and so is the one it has sent. -/
structure Told (l : List (Disconnected ID)) (i : Nat) (c : Conn ID SC) : Prop where
  watcher : ∀ r, c.watcher = .resolved r ∨ c.watcher = .aborted r → c.body.Holds r
  sent : ∀ d ∈ l, d.conn = i → c.body.Holds d.result

structure Reasons (s : Server ID C SC) : Prop where
  told : ∀ i c, s.conns[i]? = some c → Told s.disconnections.hist i c
  known : ∀ d ∈ s.disconnections.hist, d.conn < s.conns.length

theorem Told.keep {l : List (Disconnected ID)} {c' : Conn ID SC} (h : Told l i c)
    (hw : ∀ r, c'.watcher = .resolved r ∨ c'.watcher = .aborted r → c.watcher = .resolved r ∨
    c.watcher = .aborted r) (hb : ∀ r, c.body.Holds r → c'.body.Holds r) : Told l i c' :=
  ⟨fun r hr => hb r (h.watcher r (hw r hr)), fun d hd hi => hb _ (h.sent d hd hi)⟩

theorem Reasons.set {c' : Conn ID SC} (g : Reasons s) (hc : s.conns[i]? = some c) (ht : t.conns = s.conns.set i c')
    (hl : t.disconnections.hist = s.disconnections.hist) (h : Told s.disconnections.hist i c') : Reasons t := by
  refine ⟨?_, ?_⟩
  · rw [ht, hl]
    exact List.forall_set hc h fun j d _ hd => g.told j d hd
  · rw [ht, hl, List.length_set]
    exact g.known

theorem Reasons.keep {c' : Conn ID SC} (g : Reasons s) (hc : s.conns[i]? = some c) (ht : t.conns = s.conns.set i c')
    (hl : t.disconnections.hist = s.disconnections.hist) (hw : c'.watcher = c.watcher)
    (hb : ∀ r, c.body.Holds r → c'.body.Holds r) : Reasons t :=
  g.set hc ht hl ((g.told i c hc).keep (fun r h => by rw [hw] at h; exact h) hb)

theorem Reasons.same (g : Reasons s) (hc : t.conns = s.conns) (hl : t.disconnections.hist = s.disconnections.hist) :
    Reasons t := ⟨by rw [hc, hl]; exact g.told, by rw [hc, hl]; exact g.known⟩

theorem create_reasons : Reasons (.create : Server ID C SC) :=
  ⟨fun i c h => by simp [Server.create] at h, fun d h => by simp [Server.create] at h⟩

theorem accept_reasons (g : Reasons s) (socket : Socket) : Reasons (s.accept socket) := by
  unfold Server.accept
  split
  · exact g
  · refine ⟨List.forall_append_one ⟨fun r h => ?_, fun d hd hi => ?_⟩ g.told, fun d hd => ?_⟩
    · rcases h with h | h <;> cases h
    · have := g.known d hd
      omega
    · have := g.known d hd
      rw [List.length_append]
      omega

theorem disconnected_reasons (g : Reasons s) {a : SessionActor ID SC} {r : SessionResult}
    (hc : s.conns[i]? = some c) (hw : c.watcher = .aborted r) :
    Reasons ((s.setConn i { c with watcher := .done }).disconnected i a.id r) := by
  have h := g.told i c hc
  have hdone : Told s.disconnections.hist i { c with watcher := .done } :=
    ⟨(fun r h => by rcases h with h | h <;> cases h), h.sent⟩
  have g' : Reasons (s.setConn i { c with watcher := .done }) := g.set hc rfl rfl hdone
  unfold Server.disconnected
  split
  · exact g'
  · refine ⟨fun j d hd => ⟨(g'.told j d hd).watcher, fun m hm hj => ?_⟩, fun m hm => ?_⟩
    · rw [Chan.push_hist, List.mem_append, List.mem_singleton] at hm
      rcases hm with hm | rfl
      · exact (g'.told j d hd).sent m hm hj
      · subst hj
        have hd : (s.conns.set i { c with watcher := .done })[i]? = some d := hd
        rw [List.getElem?_set_of hc, if_pos rfl] at hd
        cases hd
        exact h.watcher r (.inr hw)
    · rw [Chan.push_hist, List.mem_append, List.mem_singleton] at hm
      rcases hm with hm | rfl
      · exact g'.known m hm
      · have hi : i < s.conns.length := (List.getElem?_eq_some_iff.mp hc).1
        simpa [Server.setConn] using hi

theorem session_reasons (n : Accounting s) (g : Reasons s) {a b : SessionActor ID SC} {act : SessionAct SC}
    (hc : s.conns[i]? = some c) (hb : c.body = .session a) (hs : a.step act = some b) :
    Reasons (s.setConn i { c with body := .session b }) := by
  obtain ⟨-, hl⟩ := SessionActor.step_later ((n.tracked i c hc).good a hb) hs
  refine g.keep hc rfl rfl rfl fun r h => ?_
  rw [hb] at h
  exact h.session hl

theorem respond_reasons (n : Accounting s) (g : Reasons s) (o : Option Nat) : Reasons (s.respondOpt o) := by
  rcases Server.respond_cases s o with h | ⟨i, c, a, b, -, hc, hb, hs, h⟩
  · rw [h]; exact g
  · rw [h]; exact session_reasons n g hc hb hs

theorem dropFields_reasons (g : Reasons s) : Reasons s.dropFields := by
  have hl : ∀ d ∈ s.dropFields.disconnections.hist, d ∈ s.disconnections.hist := by
    intro d hd
    apply s.disconnections.got_hist.subset
    simp only [Server.dropFields, Chan.hist, Chan.clear_queue, List.append_nil] at hd
    exact hd
  refine ⟨List.forall_mapIdx fun j d hd => ?_, fun d hd => ?_⟩
  · have h := g.told j d hd
    unfold Server.discard
    split
    · exact ⟨fun r hr => (h.watcher r hr).mapSocket _, fun m hm hj => (h.sent m (hl m hm) hj).mapSocket _⟩
    · exact ⟨h.watcher, fun m hm hj => h.sent m (hl m hm) hj⟩
  · have := g.known d (hl d hd)
    simpa [Server.dropFields] using this

theorem dropActor_reasons (n : Accounting s) (g : Reasons s) (hp : s.phase = .left) : Reasons s.dropActor :=
  (Server.foldl_respond_inv (I := fun s => Accounting s ∧ Reasons s)
    (fun _ o g => ⟨respond_accounting g.1 o, respond_reasons g.1 g.2 o⟩) _
    ⟨dropFields_accounting n hp, dropFields_reasons g⟩).2

theorem step_reasons {a : ServerAct ID C SC} (n : Accounting s) (g : Reasons s) (h : s.step a = some t) :
    Reasons t := by
  cases Server.step_cases h with
  | accept socket => exact accept_reasons g socket
  | gracefulShutdown => unfold Server.gracefulShutdown; split <;> exact g.same rfl rfl
  | takeShutdown => unfold Server.takeShutdown; split <;> exact g.same rfl rfl
  | @takeConnection i q c x hs hp hc hb =>
    have bare : ∀ (b : Body ID SC) r, c.body.Holds r → b.Holds r := by
      rintro b r ⟨a, res, ha, -⟩
      rw [hb] at ha; cases ha
    unfold Server.takeConnection
    split
    · exact g.keep hc rfl rfl rfl (bare _)
    · exact g.keep hc rfl rfl rfl (bare _)
  | createSession id hp hc hb =>
    refine g.keep hc rfl rfl rfl fun r h => ?_
    rw [hb] at h
    obtain ⟨a, res, ha, -⟩ := h
    cases ha
  | onConnectOk hp hc hb =>
    refine g.set hc rfl rfl ((g.told _ _ hc).keep (fun r h => ?_) fun r h => h.mapSocket _)
    rcases h with h | h <;> cases h
  | @onConnectErr i c frame hp hc =>
    refine g.keep hc rfl rfl rfl fun r h => ?_
    apply Body.Holds.mapSocket _
    obtain ⟨a, res, hb, hr⟩ := h
    rw [hb]
    exact ⟨a, res, rfl, hr⟩
  | takeDisconnected hs hp hc => exact g.keep hc rfl (Chan.pop?_hist hp) rfl fun r h => h
  | onDisconnectReturn res hp hc => exact g.keep hc rfl rfl rfl fun r h => h
  | respond => exact (respond_reasons n g _).same rfl rfl
  | onCallReturn => exact (respond_reasons n g _).same rfl rfl
  | dropActor hp => exact dropActor_reasons n g hp
  | session a hc hb hs => exact session_reasons n g hc hb hs
  | callWith call hc hb hs => exact (session_reasons n g hc hb hs).same rfl rfl
  | socket a hc hb hs =>
    refine g.keep hc rfl rfl rfl fun r h => ?_
    rw [hb] at h
    obtain ⟨a, res, ha, -⟩ := h
    cases ha
  | spawnCloser hc hw | takeIndicatorPanic hc _ hw =>
    refine g.set hc rfl rfl ((g.told _ _ hc).keep (fun r h => ?_) fun r h => h)
    rcases h with h | h <;> cases h
  | @takeIndicator i c a hc hb hw hi =>
    refine g.set hc rfl rfl ((g.told _ _ hc).keep (fun r h => ?_) fun r h => ?_)
    · rcases h with h | h <;> cases h
    · rw [hb] at h
      obtain ⟨b, res, hb', hr⟩ := h
      cases hb'
      exact ⟨_, res, rfl, hr⟩
  | @awaitClose i c a r hc hb hw hr =>
    refine g.set hc rfl rfl ⟨fun r' h => ?_, (g.told i c hc).sent⟩
    rcases h with h | h
    · cases h; exact ⟨a, r, hb, hr, rfl⟩
    · cases h
  | abortCloser hc hw =>
    refine g.set hc rfl rfl ((g.told _ _ hc).keep (fun r h => ?_) fun r h => h)
    rcases h with h | h
    · cases h
    · cases h; exact .inl hw
  | disconnected hc hb hw => exact disconnected_reasons g hc hw
  | borrow hc | changed hc => exact g.keep hc rfl rfl rfl fun r h => h
  | changedErr hc | cancel hc => exact g.keep hc rfl rfl rfl fun r h => h
  | @close i c a hc hb hw =>
    refine g.keep hc rfl rfl rfl fun r h => ?_
    rw [hb] at h
    exact h.session (SessionActor.send_step ((n.tracked i c hc).good a hb) _).2
  | _ => exact g.same rfl rfl

/-- `on_disconnect` is told what the session's `run` returned. -/
theorem on_disconnect_told (h : Lts.Reach Server.step .create s) {id : ID} {r : SessionResult}
    (hm : .onDisconnect i id r ∈ s.log) : ∃ a res, s.session? i = some a ∧ a.result = some res ∧
      r = Server.awaitClose res := by
  have g : Reasons s :=
    Lts.reach_inv create_reasons (fun _ _ _ hr g h => step_reasons (reach_accounting hr) g h) h
  have hd : (⟨i, id, r⟩ : Disconnected ID) ∈ s.disconnections.hist := by
    apply s.disconnections.got_hist.subset
    rw [← reach_delivered h, List.mem_filterMap]
    exact ⟨_, hm, rfl⟩
  have hi := g.known _ hd
  obtain ⟨a, res, hb, hr⟩ := (g.told i _ (List.getElem?_eq_getElem hi)).sent _ hd rfl
  exact ⟨a, res, Server.session?_some.mpr ⟨_, List.getElem?_eq_getElem hi, hb⟩, hr⟩

end

end Ezsockets
