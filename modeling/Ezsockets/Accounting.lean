import Ezsockets.ListLemmas
import Ezsockets.ServerStep
import Ezsockets.SessionLemmas

/-!
# Session accounting

`Tracked` ties a connection to the rest of the server: where it is queued,
which handler runs for it, whether its disconnect message is on its way and
which callbacks it has had. Everything but the connection enters through
`view`, so a step has to be looked at only where it changes the view.
-/

namespace Ezsockets

variable {ID C SC : Type}

namespace Callback

def conn : Callback ID C → Option Nat
  | .onConnect i | .onConnectReturn i _ | .onDisconnect i _ _ | .onDisconnectReturn i => some i
  | .onCall _ => none

def of (i : Nat) (log : List (Callback ID C)) : List (Callback ID C) := log.filter (·.conn = some i)

@[simp] theorem of_nil (i : Nat) : of i ([] : List (Callback ID C)) = [] := rfl

@[simp] theorem of_push (i : Nat) (log : List (Callback ID C)) (cb : Callback ID C) :
    of i (log ++ [cb]) = of i log ++ if cb.conn = some i then [cb] else [] := by
  unfold of
  rw [List.filter_append, List.filter_singleton]
  by_cases h : cb.conn = some i <;> simp [h]

end Callback

namespace Stage

def waits : Stage → Nat
  | .queued => 1
  | _ => 0

def handler : Stage → Option Stage
  | .connecting => some .connecting
  | .disconnecting => some .disconnecting
  | _ => none

/-- `on_connect` has returned the session. -/
def opened : Stage → Bool
  | .accepted | .disconnecting | .disconnected => true
  | _ => false

/-- The callbacks of a connection up to a stage. -/
def callbacks (i : Nat) (id : Option ID) (r : SessionResult) : Stage → List (Callback ID C)
  | .queued | .rejected _ | .discarded => []
  | .connecting => [.onConnect i]
  | .declined => [.onConnect i, .onConnectReturn i false]
  | .accepted => [.onConnect i, .onConnectReturn i true]
  | .disconnecting => [.onConnect i, .onConnectReturn i true] ++ id.toList.map (.onDisconnect i · r)
  | .disconnected =>
    [.onConnect i, .onConnectReturn i true] ++ id.toList.map (.onDisconnect i · r) ++ [.onDisconnectReturn i]

end Stage

namespace Watcher

def isAbsent : Watcher → Bool
  | .absent => true
  | _ => false

theorem of_isAbsent {w : Watcher} (h : w.isAbsent = true) : w = .absent := by
  cases w <;> first | rfl | cases h

def isDone : Watcher → Bool
  | .done => true
  | _ => false

/-- It has not yet taken the receiver out of the session's mutex. -/
def early : Watcher → Bool
  | .absent | .spawned | .started => true
  | _ => false

/-- It has seen the session's end. -/
def late : Watcher → Bool
  | .resolved _ | .aborted _ | .done => true
  | _ => false

end Watcher

def Body.id : Body ID SC → Option ID
  | .socket _ => none
  | .session a => some a.id

/-- The disconnect message of a connection while it is on its way. -/
def Conn.message (i : Nat) (c : Conn ID SC) (r : SessionResult) : List (Disconnected ID) :=
  if c.watcher.isDone && c.stage == .accepted then c.body.id.toList.map (⟨i, ·, r⟩) else []

structure View (ID C : Type) where
  queued : Nat
  handler : Option Stage
  disconnections : List (Disconnected ID)
  events : List (Callback ID C)

def View.none : View ID C := ⟨0, Option.none, [], []⟩

def ServerPhase.handler (p : ServerPhase C) (i : Nat) : Option Stage :=
  match p with
  | .onConnect j => if j = i then some .connecting else none
  | .onDisconnect j => if j = i then some .disconnecting else none
  | _ => none

def Server.view (s : Server ID C SC) (i : Nat) : View ID C where
  queued := s.connections.queue.count i
  handler := s.phase.handler i
  disconnections := s.disconnections.queue.filter (·.conn = i)
  events := Callback.of i s.log

structure Tracked (v : View ID C) (i : Nat) (c : Conn ID SC) : Prop where
  queued : v.queued = c.stage.waits
  handler : v.handler = c.stage.handler
  trace : ∃ r, v.events = c.stage.callbacks i c.body.id r ∧ v.disconnections = c.message i r
  bare : c.stage = .queued → ∃ socket, c.body = .socket socket
  session : c.stage.opened = true → ∃ a, c.body = .session a
  watched : c.watcher.isAbsent = !c.stage.opened
  done : c.stage = .disconnecting ∨ c.stage = .disconnected → c.watcher = .done
  panicked : c.watcher ≠ .panicked
  good : ∀ a, c.body = .session a → a.Good
  indicator : ∀ a, c.body = .session a → c.watcher.early = true → a.indicator = true
  late : ∀ a, c.body = .session a → c.watcher.late = true → a.result ≠ none

def isAccepted (c : Conn ID SC) : Bool := c.stage == .accepted

structure Accounting (s : Server ID C SC) : Prop where
  tracked : ∀ i c, s.conns[i]? = some c → Tracked (s.view i) i c
  fresh : ∀ i, s.conns.length ≤ i → s.view i = .none
  active : s.activeSessions = s.conns.countP isAccepted
  exit : s.inLoop = false → s.drained = true

theorem create_accounting : Accounting (.create : Server ID C SC) where
  tracked i c h := by simp [Server.create] at h
  fresh i _ := rfl
  active := rfl
  exit h := by cases h

section
variable {s t : Server ID C SC} {i : Nat} {c c' : Conn ID SC}

theorem Accounting.set (g : Accounting s) (hc : s.conns[i]? = some c) (ht : t.conns = s.conns.set i c')
    (hv : ∀ j, j ≠ i → t.view j = s.view j) (hi : Tracked (t.view i) i c')
    (ha : t.activeSessions + (if isAccepted c then 1 else 0) = s.activeSessions + (if isAccepted c' then 1 else 0))
    (hx : t.inLoop = false → t.drained = true) : Accounting t where
  tracked := by
    rw [ht]
    refine List.forall_set hc hi fun j d hj hd => ?_
    rw [hv j hj]; exact g.tracked j d hd
  fresh j hj := by
    rw [ht, List.length_set] at hj
    have hlt : i < s.conns.length := (List.getElem?_eq_some_iff.mp hc).1
    rw [hv j (by omega)]
    exact g.fresh j hj
  active := by
    have := List.countP_set_of hc c' isAccepted
    have := g.active
    rw [ht]; omega
  exit := hx

theorem Accounting.setConn (g : Accounting s) (hc : s.conns[i]? = some c) (hs : c'.stage = c.stage)
    (h : Tracked (s.view i) i c → Tracked (s.view i) i c') : Accounting (s.setConn i c') :=
  g.set hc rfl (fun _ _ => rfl) (h (g.tracked i c hc)) (by simp [isAccepted, hs, Server.setConn]) g.exit

theorem Accounting.same (g : Accounting s) (hc : t.conns = s.conns) (hv : ∀ j, t.view j = s.view j)
    (ha : t.activeSessions = s.activeSessions) (hx : t.inLoop = false → t.drained = true) : Accounting t where
  tracked j d hd := by rw [hv]; rw [hc] at hd; exact g.tracked j d hd
  fresh j hj := by rw [hv]; rw [hc] at hj; exact g.fresh j hj
  active := by rw [ha, hc]; exact g.active
  exit := hx

end

/-! ## Steps that leave the stage alone -/

section
variable {v : View ID C} {i : Nat} {c : Conn ID SC}

theorem Tracked.setWatcher {c' : Conn ID SC} (h : Tracked v i c) (hs : c'.stage = c.stage) (hb : c'.body = c.body)
    (hw : c.watcher.isAbsent = false) (hw' : c'.watcher.isAbsent = false) (hd : c.watcher.isDone = false)
    (hd' : c'.watcher.isDone = false) (hp : c'.watcher ≠ .panicked)
    (he : c'.watcher.early = true → c.watcher.early = true)
    (hl : ∀ a, c.body = .session a → c'.watcher.late = true → a.result ≠ none) : Tracked v i c' where
  queued := by rw [hs]; exact h.queued
  handler := by rw [hs]; exact h.handler
  trace := by
    obtain ⟨r, hev, hds⟩ := h.trace
    refine ⟨r, by rw [hs, hb]; exact hev, ?_⟩
    simp only [hds, Conn.message, hd, hd', hb, Bool.false_and]
  bare := by rw [hs, hb]; exact h.bare
  session := by rw [hs, hb]; exact h.session
  watched := by rw [hs, hw', ← hw]; exact h.watched
  done := by
    intro hx
    rw [hs] at hx
    have := h.done hx
    rw [this] at hd; cases hd
  panicked := hp
  good := by rw [hb]; exact h.good
  indicator a ha he' := h.indicator a (hb ▸ ha) (he he')
  late a ha := hl a (hb ▸ ha)

theorem Tracked.setSession {c' : Conn ID SC} {x y : SessionActor ID SC} (h : Tracked v i c)
    (hb : c.body = .session x)
    (hb' : c'.body = .session y) (hs : c'.stage = c.stage) (hw : c'.watcher = c.watcher) (hg : y.Good)
    (hl : x.Later y) : Tracked v i c' where
  queued := by rw [hs]; exact h.queued
  handler := by rw [hs]; exact h.handler
  trace := by
    obtain ⟨r, hev, hds⟩ := h.trace
    have hid : c'.body.id = c.body.id := by rw [hb, hb']; exact congrArg some hl.id
    exact ⟨r, by rw [hs, hid]; exact hev, by simp only [hds, Conn.message, hs, hw, hid]⟩
  bare hq := by
    obtain ⟨socket, hk⟩ := h.bare (hs ▸ hq)
    rw [hb] at hk; cases hk
  session _ := ⟨y, hb'⟩
  watched := by rw [hs, hw]; exact h.watched
  done := by rw [hs, hw]; exact h.done
  panicked := by rw [hw]; exact h.panicked
  good a ha := by rw [hb'] at ha; cases ha; exact hg
  indicator a ha he := by
    rw [hb'] at ha; cases ha
    rw [hl.indicator]; exact h.indicator x hb (hw ▸ he)
  late a ha he := by
    rw [hb'] at ha; cases ha
    obtain ⟨r, hr⟩ := Option.ne_none_iff_exists'.mp (h.late x hb (hw ▸ he))
    rw [hl.result r hr]; exact Option.some_ne_none r

theorem Tracked.setSocket {c' : Conn ID SC} {x y : Socket} (h : Tracked v i c) (hb : c.body = .socket x)
    (hb' : c'.body = .socket y) (hs : c'.stage = c.stage) (hw : c'.watcher = c.watcher) : Tracked v i c' where
  queued := by rw [hs]; exact h.queued
  handler := by rw [hs]; exact h.handler
  trace := by
    obtain ⟨r, hev, hds⟩ := h.trace
    have hid : c'.body.id = c.body.id := by rw [hb, hb']; rfl
    exact ⟨r, by rw [hs, hid]; exact hev, by simp only [hds, Conn.message, hs, hw, hid]⟩
  bare _ := ⟨y, hb'⟩
  session ho := by
    obtain ⟨a, ha⟩ := h.session (hs ▸ ho)
    rw [hb] at ha; cases ha
  watched := by rw [hs, hw]; exact h.watched
  done := by rw [hs, hw]; exact h.done
  panicked := by rw [hw]; exact h.panicked
  good a ha := by rw [hb'] at ha; cases ha
  indicator a ha := by rw [hb'] at ha; cases ha
  late a ha := by rw [hb'] at ha; cases ha

theorem Tracked.mapSocket {f : Socket → Socket} (hf : ∀ x, x.owned = false → (f x).owned = false)
    (h : Tracked v i c) :
    Tracked v i { c with body := c.body.mapSocket f } := by
  cases hb : c.body with
  | socket x => exact h.setSocket hb rfl rfl rfl
  | session a =>
    have hg := h.good a hb
    have hl : a.Later { a with socket := f a.socket } :=
      ⟨rfl, rfl, List.prefix_rfl, fun h => h, fun _ h => h⟩
    exact h.setSession hb rfl rfl rfl ⟨hg.ended, hg.noClose, fun hx => hf _ (hg.dropped hx)⟩ hl

theorem Tracked.keep {c' : Conn ID SC} (h : Tracked v i c) (hb : c'.body = c.body) (hs : c'.stage = c.stage)
    (hw : c'.watcher = c.watcher) : Tracked v i c' := by
  obtain ⟨b, e, st, w, cl, sn, ab, n⟩ := c
  obtain ⟨b', e', st', w', cl', sn', ab', n'⟩ := c'
  cases hb; cases hs; cases hw
  exact { h with }

end

theorem Tracked.setStage {v v' : View ID C} {i : Nat} {c c' : Conn ID SC} (h : Tracked v i c)
    (hb : c'.body = c.body)
    (hw : c'.watcher = c.watcher) (ho : c'.stage.opened = c.stage.opened) (hq : v'.queued = c'.stage.waits)
    (hh : v'.handler = c'.stage.handler)
    (ht : ∃ r, v'.events = c'.stage.callbacks i c'.body.id r ∧ v'.disconnections = c'.message i r)
    (hs : c'.stage ≠ .queued) (hd : c'.stage = .disconnecting ∨ c'.stage = .disconnected → c.watcher = .done) :
    Tracked v' i c' where
  queued := hq
  handler := hh
  trace := ht
  bare hx := absurd hx hs
  session hx := by rw [hb]; exact h.session (ho ▸ hx)
  watched := by rw [hw, ho]; exact h.watched
  done := by rw [hw]; exact hd
  panicked := by rw [hw]; exact h.panicked
  good := by rw [hb]; exact h.good
  indicator := by rw [hb, hw]; exact h.indicator
  late := by rw [hb, hw]; exact h.late

/-! ## Steps of the actor -/

theorem Stage.of_handler {st st' : Stage} (h : st.handler = some st') : st = st' := by
  cases st <;> simp [Stage.handler] at h <;> exact h

section
variable {s t : Server ID C SC} {i : Nat} {c : Conn ID SC}

theorem accept_accounting (g : Accounting s) (socket : Socket) : Accounting (s.accept socket) := by
  unfold Server.accept
  split
  · exact g
  have hf := g.fresh s.conns.length (Nat.le_refl _)
  simp only [Server.view, View.none, View.mk.injEq] at hf
  obtain ⟨hq, hh, hds, hev⟩ := hf
  refine ⟨List.forall_append_one ?_ fun j d hjd => ?_, fun j hj => ?_, ?_, g.exit⟩
  · exact {
      queued := by simp [Server.view, hq, Conn.new, Stage.waits]
      handler := hh
      trace := ⟨.ok none, hev, hds⟩
      bare := fun _ => ⟨socket, rfl⟩
      session := fun h => by cases h
      watched := rfl
      done := fun h => by simp [Conn.new] at h
      panicked := fun h => by simp [Conn.new] at h
      good := fun a ha => by simp [Conn.new] at ha
      indicator := fun a ha => by simp [Conn.new] at ha
      late := fun a ha => by simp [Conn.new] at ha }
  · have hj : j < s.conns.length := (List.getElem?_eq_some_iff.mp hjd).1
    have := g.tracked j d hjd
    have hne : s.conns.length ≠ j := by omega
    simpa [Server.view, hne] using this
  · simp only [List.length_append, List.length_singleton] at hj
    have := g.fresh j (by omega)
    have hne : s.conns.length ≠ j := by omega
    simpa [Server.view, hne] using this
  · simp [g.active, Conn.new, isAccepted]

theorem Accounting.queued_iff (g : Accounting s) (hc : s.conns[i]? = some c) :
    i ∈ s.connections.queue ↔ c.stage = .queued := by
  have hq : s.connections.queue.count i = c.stage.waits := (g.tracked i c hc).queued
  rw [← List.count_pos_iff, hq]
  cases c.stage <;> simp [Stage.waits]

theorem takeConnection_accounting (g : Accounting s) {q : Chan Nat} {socket : Socket} (hs : s.selecting = true)
    (hp : s.connections.pop? = some (i, q)) (hc : s.conns[i]? = some c) (hb : c.body = .socket socket) :
    Accounting ({ s with connections := q }.takeConnection i c socket) := by
  obtain ⟨hph, hd⟩ := Server.selecting_iff.mp hs
  obtain ⟨hq, -⟩ := Chan.pop?_some.mp hp
  have h := g.tracked i c hc
  have hst : c.stage = .queued := (g.queued_iff hc).mp (by rw [hq]; exact List.mem_cons_self)
  have hq0 : q.queue.count i = 0 := by
    have hcount := h.queued
    simpa [Server.view, hq, hst, Stage.waits] using hcount
  obtain ⟨r, hev, hds⟩ := h.trace
  have hev' : Callback.of i s.log = [] := by rw [hst] at hev; exact hev
  have hds' : s.disconnections.queue.filter (·.conn = i) = [] := by simpa [Server.view, Conn.message, hst] using hds
  unfold Server.takeConnection
  split
  · rcases socket.send (.new (.close (some awayFrame)) .own) with ⟨sock, ok⟩
    have h' : Tracked (s.view i) i { c with body := .socket sock.drop } := h.setSocket hb rfl rfl rfl
    refine g.set hc rfl (fun j hj => ?_) ?_ (by simp [isAccepted, hst, Server.setConn]) g.exit
    · simp [Server.view, Server.setConn, hq, Ne.symm hj]
    · refine h'.setStage rfl rfl (by rw [hst]; rfl) hq0 ?_ ⟨r, hev', hds'.trans ?_⟩ (by simp) (by simp)
      · simp [Server.view, Server.setConn, hph, ServerPhase.handler, Stage.handler]
      · simp [Conn.message]
  · have h' : Tracked (s.view i) i { c with body := .socket socket.cloneSink } := h.setSocket hb rfl rfl rfl
    refine g.set hc rfl (fun j hj => ?_) ?_ (by simp [isAccepted, hst, Server.setConn]) (fun h => by cases h)
    · simp [Server.view, Server.setConn, hq, hph, ServerPhase.handler, Callback.conn, Ne.symm hj]
    · refine h'.setStage rfl rfl (by rw [hst]; rfl) hq0 ?_ ⟨r, ?_, hds'.trans ?_⟩ (by simp) (by simp)
      · simp [Server.view, ServerPhase.handler, Stage.handler]
      · simp [Server.view, hev', Callback.conn, Stage.callbacks]
      · simp [Conn.message]

theorem Accounting.connecting (g : Accounting s) (hp : s.phase = .onConnect i) (hc : s.conns[i]? = some c) :
    c.stage = .connecting ∧ c.watcher.isAbsent = true := by
  have h := g.tracked i c hc
  have hst : c.stage = .connecting :=
    Stage.of_handler (by rw [← h.handler]; simp [Server.view, hp, ServerPhase.handler])
  exact ⟨hst, by rw [h.watched, hst]; rfl⟩

theorem Accounting.connecting_trace (g : Accounting s) (hp : s.phase = .onConnect i) (hc : s.conns[i]? = some c) :
    Callback.of i s.log = [.onConnect i] ∧ s.disconnections.queue.filter (·.conn = i) = [] := by
  obtain ⟨hst, -⟩ := g.connecting hp hc
  obtain ⟨r, hev, hds⟩ := (g.tracked i c hc).trace
  rw [hst] at hev
  exact ⟨hev, by simpa [Server.view, Conn.message, hst] using hds⟩

theorem Accounting.disconnecting (g : Accounting s) (hp : s.phase = .onDisconnect i) (hc : s.conns[i]? = some c) :
    c.stage = .disconnecting :=
  Stage.of_handler (by rw [← (g.tracked i c hc).handler]; simp [Server.view, hp, ServerPhase.handler])

theorem createSession_accounting (g : Accounting s) {socket : Socket} (id : ID) (hp : s.phase = .onConnect i)
    (hc : s.conns[i]? = some c) : Accounting (s.setConn i { c with body := .session (.create id socket) }) := by
  obtain ⟨hst, hw⟩ := g.connecting hp hc
  refine g.setConn hc rfl fun h => ?_
  obtain ⟨r, hev, hds⟩ := h.trace
  exact {
    queued := h.queued
    handler := h.handler
    trace := ⟨r, by simpa [hst, Stage.callbacks] using hev, by simpa [hst, Conn.message] using hds⟩
    bare := fun hq => by rw [hst] at hq; cases hq
    session := fun _ => ⟨_, rfl⟩
    watched := h.watched
    done := h.done
    panicked := h.panicked
    good := fun a ha => by cases ha; exact SessionActor.create_good id socket
    indicator := fun a ha _ => by cases ha; rfl
    late := fun a _ hl => by rw [Watcher.of_isAbsent hw] at hl; cases hl }

theorem onConnectOk_accounting (g : Accounting s) {a : SessionActor ID SC} (hp : s.phase = .onConnect i)
    (hc : s.conns[i]? = some c) (hb : c.body = .session a) : Accounting (s.onConnectOk i c) := by
  obtain ⟨hst, hw⟩ := g.connecting hp hc
  obtain ⟨hev, hds⟩ := g.connecting_trace hp hc
  have h := g.tracked i c hc
  refine g.set hc rfl (fun j hj => ?_) ?_ ?_ (fun h => by cases h)
  · simp [Server.view, Server.onConnectOk, Server.setConn, hp, ServerPhase.handler, Callback.conn, Ne.symm hj]
  · have h' : Tracked (s.view i) i { c with body := c.body.mapSocket (·.dropSink) } :=
      h.mapSocket fun x hx => by rw [Socket.dropSink_owned]; exact hx
    exact {
      queued := by have := h.queued; rw [hst] at this; exact this
      handler := rfl
      trace := ⟨.ok none, by simp [Server.view, Server.onConnectOk, hev, Callback.conn, Stage.callbacks],
        hds.trans (by simp [Conn.message, Watcher.isDone])⟩
      bare := fun hq => by cases hq
      session := fun _ => ⟨{ a with socket := a.socket.dropSink }, by simp [hb, Body.mapSocket]⟩
      watched := rfl
      done := fun hd => by simp at hd
      panicked := fun hd => by cases hd
      good := h'.good
      indicator := fun b hb' _ => h'.indicator b hb' (by rw [Watcher.of_isAbsent hw]; rfl)
      late := fun b _ hl => by cases hl }
  · simp [Server.onConnectOk, isAccepted, hst]

theorem onConnectErr_accounting (g : Accounting s) (frame : Option CloseFrame) (hp : s.phase = .onConnect i)
    (hc : s.conns[i]? = some c) : Accounting (s.onConnectErr i c frame) := by
  obtain ⟨hst, hw⟩ := g.connecting hp hc
  obtain ⟨hev, hds⟩ := g.connecting_trace hp hc
  have h := g.tracked i c hc
  refine g.set hc rfl (fun j hj => ?_) ?_ ?_ (fun h => by cases h)
  · simp [Server.view, Server.onConnectErr, Server.setConn, hp, ServerPhase.handler, Callback.conn, Ne.symm hj]
  · have hsend : ∀ x : Socket, x.owned = false →
        (x.send (.new (.close frame) .own)).1.dropSink.owned = false := fun x hx => by simp [hx]
    have h' : Tracked (s.view i) i { c with
        body := match c.body with
          | .socket socket => .socket socket.drop
          | .session a => .session a } := by
      cases hb : c.body with
      | socket x => exact h.setSocket hb rfl rfl rfl
      | session a => exact h.keep hb.symm rfl rfl
    refine (h'.mapSocket hsend).setStage rfl rfl (by rw [hst]; rfl) ?_ rfl ⟨.ok none, ?_, hds.trans ?_⟩ (by simp)
      (by simp)
    · have := h.queued
      rw [hst] at this; exact this
    · simp [Server.view, Server.onConnectErr, hev, Callback.conn, Stage.callbacks]
    · simp [Conn.message]
  · simp [Server.onConnectErr, Server.setConn, isAccepted, hst]

theorem Accounting.active_pos (g : Accounting s) (hc : s.conns[i]? = some c) (hst : c.stage = .accepted) :
    0 < s.activeSessions := by
  rw [g.active]
  exact List.countP_pos_iff.mpr ⟨c, List.mem_of_getElem? hc, by simp [isAccepted, hst]⟩

/-- A disconnect message is that of an accepted connection whose watcher is done, and its only one. -/
theorem Accounting.message (g : Accounting s) {d : Disconnected ID} {q : List (Disconnected ID)}
    (hq : s.disconnections.queue = d :: q) (hc : s.conns[d.conn]? = some c) :
    c.stage = .accepted ∧ c.watcher = .done ∧ (∃ a, c.body = .session a ∧ d.id = a.id) ∧
      q.filter (·.conn = d.conn) = [] := by
  have h := g.tracked d.conn c hc
  obtain ⟨r, -, hds⟩ := h.trace
  have hds' : d :: q.filter (·.conn = d.conn) = c.message d.conn r := by
    rw [← hds]; simp [Server.view, hq]
  unfold Conn.message at hds'
  split at hds'
  · rename_i hm
    simp only [Bool.and_eq_true, beq_iff_eq] at hm
    obtain ⟨a, hb⟩ := h.session (by rw [hm.2]; rfl)
    have hw : c.watcher = .done := by cases hw : c.watcher <;> simp [hw, Watcher.isDone] at hm ⊢
    simp only [hb, Body.id, Option.toList_some, List.map_cons, List.map_nil, List.cons.injEq] at hds'
    exact ⟨hm.2, hw, ⟨a, hb, by rw [hds'.1]⟩, hds'.2⟩
  · cases hds'

theorem takeDisconnected_accounting (g : Accounting s) {d : Disconnected ID} {q : Chan (Disconnected ID)}
    (hs : s.selecting = true) (hp : s.disconnections.pop? = some (d, q)) (hc : s.conns[d.conn]? = some c) :
    Accounting ({ s with disconnections := q }.takeDisconnected d c) := by
  obtain ⟨hph, -⟩ := Server.selecting_iff.mp hs
  obtain ⟨hq, -⟩ := Chan.pop?_some.mp hp
  obtain ⟨hst, hw, ⟨a, hb, hid⟩, hrest⟩ := g.message hq hc
  have h := g.tracked d.conn c hc
  obtain ⟨r, hev, -⟩ := h.trace
  have hev' : Callback.of d.conn s.log = [.onConnect d.conn, .onConnectReturn d.conn true] := by
    rw [hst] at hev; exact hev
  have hpos := g.active_pos hc hst
  refine g.set hc rfl (fun j hj => ?_) ?_ ?_ (fun h => by cases h)
  · simp [Server.view, Server.takeDisconnected, Server.setConn, hq, hph, ServerPhase.handler, Callback.conn,
      Ne.symm hj]
  · refine h.setStage rfl rfl (by rw [hst]; rfl) ?_ ?_ ⟨d.result, ?_, hrest.trans ?_⟩ (by simp) fun _ => hw
    · have := h.queued
      rw [hst] at this; exact this
    · simp [Server.view, Server.takeDisconnected, ServerPhase.handler, Stage.handler]
    · simp [Server.view, Server.takeDisconnected, hev', Callback.conn, Stage.callbacks, hb, Body.id, hid]
    · simp [Conn.message]
  · simp [Server.takeDisconnected, isAccepted, hst]
    omega

theorem onDisconnectReturn_accounting (g : Accounting s) (hp : s.phase = .onDisconnect i)
    (hc : s.conns[i]? = some c) :
    Accounting { s.setConn i { c with stage := .disconnected } with
      phase := .select, log := s.log ++ [.onDisconnectReturn i] } := by
  have h := g.tracked i c hc
  have hst := g.disconnecting hp hc
  obtain ⟨r, hev, hds⟩ := h.trace
  have hev' : Callback.of i s.log = Stage.callbacks i c.body.id r .disconnecting := by rw [hst] at hev; exact hev
  have hds' : s.disconnections.queue.filter (·.conn = i) = [] := by simpa [Server.view, Conn.message, hst] using hds
  refine g.set hc rfl (fun j hj => ?_) ?_ (by simp [Server.setConn, isAccepted, hst]) (fun h => by cases h)
  · simp [Server.view, Server.setConn, hp, ServerPhase.handler, Callback.conn, Ne.symm hj]
  · refine h.setStage rfl rfl (by rw [hst]; rfl) ?_ rfl ⟨r, ?_, hds'.trans ?_⟩ (by simp) fun _ => h.done (.inl hst)
    · have := h.queued
      rw [hst] at this; exact this
    · simp [Server.view, hev', Callback.conn, Stage.callbacks]
    · simp [Conn.message]

theorem disconnected_accounting (g : Accounting s) {a : SessionActor ID SC} {r : SessionResult}
    (hc : s.conns[i]? = some c) (hb : c.body = .session a) (hw : c.watcher = .aborted r) :
    Accounting ((s.setConn i { c with watcher := .done }).disconnected i a.id r) := by
  have h := g.tracked i c hc
  -- the watcher was still to report, so the connection is accepted and has no message yet
  have hst : c.stage = .accepted := by
    have ho := h.watched
    rw [hw] at ho
    have hd := fun hx => h.done hx
    rw [hw] at hd
    cases hs : c.stage <;> simp [hs, Stage.opened, Watcher.isAbsent] at ho hd ⊢
  obtain ⟨r', hev, hds⟩ := h.trace
  have hev' : Callback.of i s.log = [.onConnect i, .onConnectReturn i true] := by rw [hst] at hev; exact hev
  have hds' : s.disconnections.queue.filter (·.conn = i) = [] := by
    simpa [Server.view, Conn.message, hw, Watcher.isDone] using hds
  have hpos := g.active_pos hc hst
  have hdr : s.isDropped = false := by
    apply Bool.eq_false_iff.mpr
    intro hd
    have hx := g.exit (Server.isDropped_inLoop hd)
    simp [Server.drained] at hx
    omega
  simp only [Server.disconnected, show (s.setConn i { c with watcher := .done }).isDropped = false from hdr,
    Bool.false_eq_true, if_false]
  refine g.set hc rfl (fun j hj => ?_) ?_ (by simp [Server.setConn, isAccepted, hst]) g.exit
  · simp [Server.view, Server.setConn, Ne.symm hj]
  · exact {
      queued := h.queued
      handler := h.handler
      trace := ⟨r, hev'.trans (by rw [hst]; rfl), by
        simp [Server.view, Server.setConn, hds', Conn.message, Watcher.isDone, hst, hb, Body.id]⟩
      bare := fun hq => by rw [hst] at hq; cases hq
      session := fun _ => ⟨a, hb⟩
      watched := by rw [hst]; rfl
      done := fun _ => rfl
      panicked := fun hx => by cases hx
      good := h.good
      indicator := fun b _ hx => by cases hx
      late := fun b hb' _ => h.late b hb' (by rw [hw]; rfl) }

theorem session_accounting (g : Accounting s) {a b : SessionActor ID SC} {act : SessionAct SC}
    (hc : s.conns[i]? = some c) (hb : c.body = .session a) (hs : a.step act = some b) :
    Accounting (s.setConn i { c with body := .session b }) := by
  refine g.setConn hc rfl fun h => ?_
  obtain ⟨hg, hl⟩ := SessionActor.step_later (h.good a hb) hs
  exact h.setSession hb rfl rfl rfl hg hl

theorem respond_accounting (g : Accounting s) (o : Option Nat) : Accounting (s.respondOpt o) := by
  rcases Server.respond_cases s o with h | ⟨i, c, a, b, -, hc, hb, hs, h⟩
  · rw [h]; exact g
  · rw [h]; exact session_accounting g hc hb hs

theorem dropFields_accounting (g : Accounting s) (hp : s.phase = .left) : Accounting s.dropFields := by
  have hx : s.drained = true := g.exit (by simp [Server.inLoop, hp])
  -- nothing is accepted any more, so no disconnect message is lost
  have hacc : ∀ c ∈ s.conns, isAccepted c = false := by
    have hz : s.conns.countP isAccepted = 0 := by
      simp only [Server.drained, Bool.and_eq_true, beq_iff_eq] at hx
      rw [← g.active]; exact hx.2
    intro c hc
    simpa using List.countP_eq_zero.mp hz c hc
  have hget : ∀ j d, (s.conns.mapIdx s.discard)[j]? = some d → ∃ c, s.conns[j]? = some c ∧ d = s.discard j c := by
    intro j d hd
    rw [List.getElem?_mapIdx] at hd
    obtain ⟨c, hc, rfl⟩ := Option.map_eq_some_iff.mp hd
    exact ⟨c, hc, rfl⟩
  refine ⟨fun j d hd => ?_, fun j hj => ?_, ?_, fun _ => hx⟩
  · obtain ⟨c, hc, rfl⟩ := hget j d hd
    have h := g.tracked j c hc
    have hna : (c.stage == .accepted) = false := hacc c (List.mem_of_getElem? hc)
    obtain ⟨r, hev, hds⟩ := h.trace
    have hh : c.stage.handler = none := by rw [← h.handler]; simp [Server.view, hp, ServerPhase.handler]
    unfold Server.discard
    split
    · rename_i hj
      have hst : c.stage = .queued := (g.queued_iff hc).mp hj
      have h' : Tracked (s.view j) j { c with body := c.body.mapSocket (·.drop) } := h.mapSocket fun x _ => by simp
      refine h'.setStage rfl rfl (by rw [hst]; rfl) rfl rfl ⟨r, ?_, ?_⟩ (by simp) (by simp)
      · rw [hst] at hev; exact hev
      · simp [Server.view, Server.dropFields, Conn.message]
    · rename_i hj
      have hq : c.stage.waits = 0 := by rw [← h.queued]; exact List.count_eq_zero.mpr hj
      exact { h with
        queued := hq.symm
        handler := hh.symm
        trace := ⟨r, hev, by simp [Server.view, Server.dropFields, Conn.message, hna]⟩ }
  · simp only [Server.dropFields, List.length_mapIdx] at hj
    have hf := g.fresh j hj
    simp only [Server.view, View.none, View.mk.injEq] at hf
    simp [Server.view, Server.dropFields, View.none, ServerPhase.handler, hf.2.2.2]
  · rw [show s.dropFields.activeSessions = s.activeSessions from rfl, g.active]
    have hz : s.conns.countP isAccepted = 0 := List.countP_eq_zero.mpr fun c hc => by simp [hacc c hc]
    rw [hz, eq_comm, List.countP_eq_zero]
    intro d hd
    obtain ⟨j, hj⟩ := List.getElem?_of_mem hd
    obtain ⟨c, hc, rfl⟩ := hget j d hj
    have := hacc c (List.mem_of_getElem? hc)
    unfold Server.discard
    split
    · simp [isAccepted]
    · simp [this]

theorem dropActor_accounting (g : Accounting s) (hp : s.phase = .left) : Accounting s.dropActor :=
  Server.foldl_respond_inv (I := Accounting) (fun _ o g => respond_accounting g o) _ (dropFields_accounting g hp)

theorem step_accounting {a : ServerAct ID C SC} (g : Accounting s) (h : s.step a = some t) : Accounting t := by
  cases Server.step_cases h with
  | accept socket => exact accept_accounting g socket
  | call call hd => exact g.same rfl (fun _ => rfl) rfl g.exit
  | callClosed call hd => exact g
  | gracefulShutdown =>
    unfold Server.gracefulShutdown
    split
    · exact g.same rfl (fun _ => rfl) rfl g.exit
    · exact g.same rfl (fun _ => rfl) rfl g.exit
  | takeShutdown hs hp =>
    have hl : s.inLoop = true := by simp [Server.inLoop, (Server.selecting_iff.mp hs).1]
    unfold Server.takeShutdown
    split
    · exact g.same rfl (fun _ => rfl) rfl g.exit
    · refine g.same rfl (fun _ => rfl) rfl fun hx => ?_
      have hx' : s.inLoop = false := hx
      rw [hl] at hx'; cases hx'
  | takeConnection hs hp hc hb => exact takeConnection_accounting g hs hp hc hb
  | createSession id hp hc hb => exact createSession_accounting g id hp hc
  | onConnectOk hp hc hb => exact onConnectOk_accounting g hp hc hb
  | onConnectErr frame hp hc => exact onConnectErr_accounting g frame hp hc
  | takeDisconnected hs hp hc => exact takeDisconnected_accounting g hs hp hc
  | onDisconnectReturn res hp hc => exact onDisconnectReturn_accounting g hp hc
  | takeCall hs hd hp =>
    refine g.same rfl (fun j => ?_) rfl (fun h => by cases h)
    simp [Server.view, (Server.selecting_iff.mp hs).1, ServerPhase.handler, Callback.conn]
  | respond hp =>
    refine (respond_accounting g _).same rfl (fun j => ?_) rfl (fun h => by cases h)
    simp [Server.view, Server.respondOpt_phase, hp, ServerPhase.handler]
  | onCallReturn res hp =>
    refine (respond_accounting g _).same rfl (fun j => ?_) rfl (fun h => by cases h)
    simp [Server.view, Server.respondOpt_phase, hp, ServerPhase.handler]
  | leave hp hd =>
    refine g.same rfl (fun j => ?_) rfl fun _ => hd
    simp [Server.view, Server.leave, hp, ServerPhase.handler]
  | dropActor hp => exact dropActor_accounting g hp
  | session a hc hb hs _ _ => exact session_accounting g hc hb hs
  | callWith call hc hb hs _ =>
    have g' := session_accounting g hc hb hs
    exact g'.same rfl (fun _ => rfl) rfl g'.exit
  | callWithClosed call _ => exact g
  | socket a hc hb hs => exact g.setConn hc rfl fun h => h.setSocket hb rfl rfl rfl
  | spawnCloser hc hw =>
    refine g.setConn hc rfl fun h => h.setWatcher rfl rfl ?_ rfl ?_ rfl ?_ ?_ fun _ _ hx => ?_
    · rw [hw]; rfl
    · rw [hw]; rfl
    · intro hx
      cases hx
    · intro _
      rw [hw]; rfl
    · cases hx
  | @takeIndicator i c a hc hb hw hi =>
    refine g.setConn hc rfl fun h => ?_
    -- the receiver leaves the mutex, and nobody else comes for it
    obtain ⟨r, hev, hds⟩ := h.trace
    have ho : c.stage.opened = true := by have := h.watched; rw [hw] at this; simpa [Watcher.isAbsent] using this
    exact {
      queued := h.queued
      handler := h.handler
      trace := ⟨r, by simpa [hb, Body.id] using hev, by
        simpa [Conn.message, hw, Watcher.isDone] using hds⟩
      bare := fun hq => by rw [show c.stage = .queued from hq] at ho; cases ho
      session := fun _ => ⟨_, rfl⟩
      watched := by rw [ho]; rfl
      done := fun hx => by have := h.done hx; rw [hw] at this; cases this
      panicked := fun hx => by cases hx
      good := fun b hb' => by cases hb'; exact ⟨(h.good a hb).ended, (h.good a hb).noClose, (h.good a hb).dropped⟩
      indicator := fun b _ hx => by cases hx
      late := fun b _ hx => by cases hx }
  | takeIndicatorPanic hc hb hw hi =>
    have h := (g.tracked _ _ hc).indicator _ hb (by rw [hw]; rfl)
    rw [hi] at h; cases h
  | awaitClose hc hb hw hr =>
    refine g.setConn hc rfl fun h => h.setWatcher rfl rfl ?_ rfl ?_ rfl ?_ ?_ fun b hb' _ => ?_
    · rw [hw]; rfl
    · rw [hw]; rfl
    · intro hx
      cases hx
    · intro hx
      cases hx
    · rw [hb] at hb'; cases hb'
      rw [hr]; exact Option.some_ne_none _
  | abortCloser hc hw =>
    refine g.setConn hc rfl fun h => h.setWatcher rfl rfl ?_ rfl ?_ rfl ?_ ?_ fun b hb' _ => ?_
    · rw [hw]; rfl
    · rw [hw]; rfl
    · intro hx
      cases hx
    · intro hx
      cases hx
    · exact h.late b hb' (by rw [hw]; rfl)
  | disconnected hc hb hw => exact disconnected_accounting g hc hb hw
  | borrow hc hw => exact g.setConn hc rfl fun h => h.keep rfl rfl rfl
  | changed hc hw hv => exact g.setConn hc rfl fun h => h.keep rfl rfl rfl
  | @changedErr i c hc hw hv =>
    have g' : Accounting (s.setConn i { c with closer := .done }) :=
      g.setConn hc rfl fun h => h.keep rfl rfl rfl
    exact g'.same rfl (fun _ => rfl) rfl g'.exit
  | @close i c a hc hb hw =>
    have g' : Accounting (s.setConn i { c with
        body := .session (a.close (some awayFrame)), closer := .done,
        closes := if a.live then c.closes + 1 else c.closes }) :=
      g.setConn hc rfl fun h =>
        have ⟨hg, hl⟩ := SessionActor.send_step (h.good a hb) (.close (some awayFrame))
        h.setSession hb rfl rfl rfl hg hl
    exact g'.same rfl (fun _ => rfl) rfl g'.exit
  | @cancel i c hc ha hw =>
    have g' : Accounting (s.setConn i { c with closer := .cancelled }) :=
      g.setConn hc rfl fun h => h.keep rfl rfl rfl
    exact g'.same rfl (fun _ => rfl) rfl g'.exit

theorem reach_accounting (h : Lts.Reach Server.step .create s) : Accounting s :=
  Lts.reach_inv create_accounting (fun _ _ _ _ g hs => step_accounting g hs) h

end

end Ezsockets
