import Ezsockets.Server

/-!
# What a step of the server can do

`Server.Step` lists the branches of `Server.step`, each with its guard; every
invariant is proved by cases on it (`step_cases`).
-/

namespace Ezsockets.Server

variable {ID C SC : Type}

inductive Step (s : Server ID C SC) : ServerAct ID C SC → Server ID C SC → Prop
  | accept (socket : Socket) : Step s (.accept socket) (s.accept socket)
  | call (call : C) : s.isDropped = false → Step s (.call call) (s.call call none)
  | callClosed (call : C) : s.isDropped = true → Step s (.call call) s
  | gracefulShutdown : Step s .gracefulShutdown s.gracefulShutdown
  | takeShutdown {ack q} : s.selecting = true → s.shutdowns.pop? = some (ack, q) →
      Step s .takeShutdown ({ s with shutdowns := q }.takeShutdown ack)
  | takeConnection {i q c socket} : s.selecting = true → s.connections.pop? = some (i, q) →
      s.conns[i]? = some c → c.body = .socket socket →
      Step s .takeConnection ({ s with connections := q }.takeConnection i c socket)
  | createSession {i c socket} (id : ID) : s.phase = .onConnect i → s.conns[i]? = some c → c.body = .socket socket →
      Step s (.createSession id) (s.setConn i { c with body := .session (.create id socket) })
  | onConnectOk {i c a} : s.phase = .onConnect i → s.conns[i]? = some c → c.body = .session a →
      Step s (.onConnectReturn (.ok ())) (s.onConnectOk i c)
  | onConnectErr {i c} (frame : Option CloseFrame) : s.phase = .onConnect i → s.conns[i]? = some c →
      Step s (.onConnectReturn (.error frame)) (s.onConnectErr i c frame)
  | takeDisconnected {d q c} : s.selecting = true → s.disconnections.pop? = some (d, q) →
      s.conns[d.conn]? = some c →
      Step s .takeDisconnected ({ s with disconnections := q }.takeDisconnected d c)
  | onDisconnectReturn {i c} (res : Except Error Unit) : s.phase = .onDisconnect i → s.conns[i]? = some c →
      Step s (.onDisconnectReturn res) { s.setConn i { c with stage := .disconnected } with
        phase := .select, log := s.log ++ [.onDisconnectReturn i] }
  | takeCall {call q} : s.selecting = true → s.shuttingDown = false → s.calls.pop? = some (call, q) →
      Step s .takeCall { s with calls := q, phase := .onCall call, log := s.log ++ [.onCall call.call] }
  | respond {call} : s.phase = .onCall call →
      Step s .respond { s.respondOpt call.respondTo with phase := .onCall { call with respondTo := none } }
  | onCallReturn {call} (res : Except Error Unit) : s.phase = .onCall call →
      Step s (.onCallReturn res) { s.respondOpt call.respondTo with phase := .select }
  | leave : s.phase = .select → s.drained = true → Step s .leave s.leave
  | dropActor : s.phase = .left → Step s .dropActor s.dropActor
  | session {i c x y} (a : SessionAct SC) : s.conns[i]? = some c → c.body = .session x → x.step a = some y →
      a ≠ .callWith → a ≠ .resume → Step s (.session i a) (s.setConn i { c with body := .session y })
  | callWith {i c x y} (call : C) : s.conns[i]? = some c → c.body = .session x → x.step .callWith = some y →
      s.isDropped = false →
      Step s (.callWith i call) ((s.setConn i { c with body := .session y }).call call (some i))
  | callWithClosed {i} (call : C) : s.isDropped = true → Step s (.callWith i call) s
  | socket {i c x y} (a : SocketAct) : s.conns[i]? = some c → c.body = .socket x → x.step a = some y →
      Step s (.socket i a) (s.setConn i { c with body := .socket y })
  | spawnCloser {i c} : s.conns[i]? = some c → c.watcher = .spawned →
      Step s (.spawnCloser i) (s.setConn i { c with watcher := .started, closer := .borrow })
  | takeIndicator {i c a} : s.conns[i]? = some c → c.body = .session a → c.watcher = .started → a.indicator = true →
      Step s (.takeIndicator i)
        (s.setConn i { c with watcher := .awaiting, body := .session { a with indicator := false } })
  | takeIndicatorPanic {i c a} : s.conns[i]? = some c → c.body = .session a → c.watcher = .started →
      a.indicator = false → Step s (.takeIndicator i) (s.setConn i { c with watcher := .panicked })
  | awaitClose {i c a r} : s.conns[i]? = some c → c.body = .session a → c.watcher = .awaiting → a.result = some r →
      Step s (.awaitClose i) (s.setConn i { c with watcher := .resolved (Server.awaitClose r) })
  | abortCloser {i c r} : s.conns[i]? = some c → c.watcher = .resolved r →
      Step s (.abortCloser i) (s.setConn i { c with watcher := .aborted r, abort := true })
  | disconnected {i c a r} : s.conns[i]? = some c → c.body = .session a → c.watcher = .aborted r →
      Step s (.disconnected i) ((s.setConn i { c with watcher := .done }).disconnected i a.id r)
  | borrow {i c} : s.conns[i]? = some c → c.closer = .borrow →
      Step s (.borrow i) (s.setConn i { c with closer := if s.shutdownSignal.value then .close else .changed })
  | changed {i c v} : s.conns[i]? = some c → c.closer = .changed → s.shutdownSignal.changed c.seen = some (.ok v) →
      Step s (.changed i) (s.setConn i { c with closer := .borrow, seen := v })
  | changedErr {i c} : s.conns[i]? = some c → c.closer = .changed →
      s.shutdownSignal.changed c.seen = some (.error ()) →
      Step s (.changed i) (s.setConn i { c with closer := .done }).dropReceiver
  | close {i c a} : s.conns[i]? = some c → c.body = .session a → c.closer = .close →
      Step s (.close i) (s.setConn i { c with
        body := .session (a.close (some awayFrame)), closer := .done,
        closes := if a.live then c.closes + 1 else c.closes }).dropReceiver
  | cancel {i c} : s.conns[i]? = some c → c.abort = true → c.closer = .borrow ∨ c.closer = .changed →
      Step s (.cancel i) (s.setConn i { c with closer := .cancelled }).dropReceiver

variable {s t : Server ID C SC} {i : Nat}

theorem withConn_some {f : Conn ID SC → Option (Server ID C SC)} :
    s.withConn i f = some t ↔ ∃ c, s.conns[i]? = some c ∧ f c = some t := by
  unfold withConn; cases s.conns[i]? <;> simp

theorem withSession_some {f : Conn ID SC → SessionActor ID SC → Option (Server ID C SC)} :
    s.withSession i f = some t ↔ ∃ c a, s.conns[i]? = some c ∧ c.body = .session a ∧ f c a = some t := by
  unfold withSession
  rw [withConn_some]
  constructor
  · rintro ⟨c, hc, h⟩
    cases hb : c.body with
    | socket x => simp [hb] at h
    | session a => exact ⟨c, a, hc, hb, by simpa [hb] using h⟩
  · rintro ⟨c, a, hc, hb, h⟩
    exact ⟨c, hc, by simpa [hb] using h⟩

theorem step_cases {a : ServerAct ID C SC} (h : s.step a = some t) : Step s a t := by
  cases a with
  | accept socket => cases h; exact .accept socket
  | call call =>
    simp only [step, Option.some.injEq] at h
    split at h
    · rename_i hd; subst h; exact .callClosed call hd
    · rename_i hd; subst h; exact .call call (by simpa using hd)
  | gracefulShutdown => cases h; exact .gracefulShutdown
  | takeShutdown =>
    simp only [step] at h
    split at h
    · rename_i hs
      split at h
      · rename_i hp; cases h; exact .takeShutdown hs hp
      · cases h
    · cases h
  | takeConnection =>
    simp only [step] at h
    split at h
    · rename_i hs
      split at h
      · rename_i hp
        obtain ⟨c, hc, h⟩ := withConn_some.mp h
        split at h
        · rename_i hb; cases h; exact .takeConnection hs hp hc hb
        · cases h
      · cases h
    · cases h
  | createSession id =>
    simp only [step] at h
    split at h
    · rename_i hp
      obtain ⟨c, hc, h⟩ := withConn_some.mp h
      split at h
      · rename_i hb; cases h; exact .createSession id hp hc hb
      · cases h
    · cases h
  | onConnectReturn res =>
    simp only [step] at h
    split at h
    · rename_i hp
      split at h
      · obtain ⟨c, a, hc, hb, h⟩ := withSession_some.mp h
        cases h; exact .onConnectOk hp hc hb
      · obtain ⟨c, hc, h⟩ := withConn_some.mp h
        cases h; exact .onConnectErr _ hp hc
    · cases h
  | takeDisconnected =>
    simp only [step] at h
    split at h
    · rename_i hs
      split at h
      · rename_i hp
        obtain ⟨c, hc, h⟩ := withConn_some.mp h
        cases h; exact .takeDisconnected hs hp hc
      · cases h
    · cases h
  | onDisconnectReturn res =>
    simp only [step] at h
    split at h
    · rename_i hp
      obtain ⟨c, hc, h⟩ := withConn_some.mp h
      cases h; exact .onDisconnectReturn res hp hc
    · cases h
  | takeCall =>
    simp only [step] at h
    split at h
    · rename_i hs
      simp only [Bool.and_eq_true, Bool.not_eq_true'] at hs
      split at h
      · rename_i hp; cases h; exact .takeCall hs.1 hs.2 hp
      · cases h
    · cases h
  | respond =>
    simp only [step] at h
    split at h
    · rename_i hp; cases h; exact .respond hp
    · cases h
  | onCallReturn res =>
    simp only [step] at h
    split at h
    · rename_i hp; cases h; exact .onCallReturn res hp
    · cases h
  | leave =>
    simp only [step] at h
    split at h
    · rename_i hp
      split at h
      · rename_i hd; cases h; exact .leave hp hd
      · cases h
    · cases h
  | dropActor =>
    simp only [step] at h
    split at h
    · rename_i hp; cases h; exact .dropActor hp
    · cases h
  | session i a =>
    obtain ⟨c, x, hc, hb, h⟩ := withSession_some.mp h
    split at h
    · cases h
    · cases h
    · rename_i h1 h2
      obtain ⟨y, hy, rfl⟩ := Option.map_eq_some_iff.mp h
      exact .session a hc hb hy (fun e => h1 e) (fun e => h2 e)
  | callWith i call =>
    obtain ⟨c, x, hc, hb, h⟩ := withSession_some.mp h
    split at h
    · rename_i y hy
      simp only [Option.some.injEq] at h
      split at h
      · rename_i hd; subst h; exact .callWithClosed call hd
      · rename_i hd; subst h; exact .callWith call hc hb hy (by simpa using hd)
    · cases h
  | socket i a =>
    obtain ⟨c, hc, h⟩ := withConn_some.mp h
    split at h
    · rename_i x hb
      obtain ⟨y, hy, rfl⟩ := Option.map_eq_some_iff.mp h
      exact .socket a hc hb hy
    · cases h
  | spawnCloser i =>
    obtain ⟨c, hc, h⟩ := withConn_some.mp h
    split at h
    · rename_i hw; cases h; exact .spawnCloser hc hw
    · cases h
  | takeIndicator i =>
    obtain ⟨c, a, hc, hb, h⟩ := withSession_some.mp h
    split at h
    · rename_i hw
      split at h
      · rename_i hi; cases h; exact .takeIndicator hc hb hw hi
      · rename_i hi; cases h; exact .takeIndicatorPanic hc hb hw (by simpa using hi)
    · cases h
  | awaitClose i =>
    obtain ⟨c, a, hc, hb, h⟩ := withSession_some.mp h
    split at h
    · rename_i hw hr; cases h; exact .awaitClose hc hb hw hr
    · cases h
  | abortCloser i =>
    obtain ⟨c, hc, h⟩ := withConn_some.mp h
    split at h
    · rename_i hw; cases h; exact .abortCloser hc hw
    · cases h
  | disconnected i =>
    obtain ⟨c, a, hc, hb, h⟩ := withSession_some.mp h
    split at h
    · rename_i hw; cases h; exact .disconnected hc hb hw
    · cases h
  | borrow i =>
    obtain ⟨c, hc, h⟩ := withConn_some.mp h
    split at h
    · rename_i hw; cases h; exact .borrow hc hw
    · cases h
  | changed i =>
    obtain ⟨c, hc, h⟩ := withConn_some.mp h
    split at h
    · rename_i hw
      split at h
      · rename_i hv; cases h; exact .changed hc hw hv
      · rename_i hv; cases h; exact .changedErr hc hw hv
      · cases h
    · cases h
  | close i =>
    obtain ⟨c, a, hc, hb, h⟩ := withSession_some.mp h
    split at h
    · rename_i hw; cases h; exact .close hc hb hw
    · cases h
  | cancel i =>
    obtain ⟨c, hc, h⟩ := withConn_some.mp h
    split at h
    · rename_i ha hw; cases h; exact .cancel hc ha (.inl hw)
    · rename_i ha hw; cases h; exact .cancel hc ha (.inr hw)
    · cases h

theorem selecting_iff : s.selecting = true ↔ s.phase = .select ∧ s.drained = false := by
  unfold selecting
  split
  · rename_i h; simp [h]
  · rename_i h; simpa using fun hs => absurd hs h

theorem isDropped_inLoop (h : s.isDropped = true) : s.inLoop = false := by
  unfold isDropped at h
  unfold inLoop
  split at h
  · rename_i hp; rw [hp]
  · cases h

/-! ## Answering a call -/

theorem respond_cases (s : Server ID C SC) (o : Option Nat) : s.respondOpt o = s ∨ ∃ i c a b,
    o = some i ∧ s.conns[i]? = some c ∧ c.body = .session a ∧ a.step .resume = some b ∧
      s.respondOpt o = s.setConn i { c with body := .session b } := by
  cases o with
  | none => exact .inl rfl
  | some i =>
    simp only [respondOpt, respond]
    cases hc : s.conns[i]? with
    | none => exact .inl rfl
    | some c =>
      cases hb : c.body with
      | socket x => simp [hb]
      | session a =>
        cases hs : a.step .resume with
        | none => simp [hb, hs]
        | some b => exact .inr ⟨i, c, a, b, rfl, hc, hb, hs, by simp [hb, hs]⟩

theorem respondOpt_eq (s : Server ID C SC) (o : Option Nat) :
    s.respondOpt o = { s with conns := (s.respondOpt o).conns } := by
  rcases respond_cases s o with h | ⟨i, c, a, b, -, -, -, -, h⟩
  · rw [h]
  · rw [h]; rfl

@[simp] theorem respondOpt_phase {o : Option Nat} : (s.respondOpt o).phase = s.phase := by rw [respondOpt_eq]

theorem foldl_respond_eq (l : List (ServerCall C)) (s : Server ID C SC) :
    l.foldl (fun s call => s.respondOpt call.respondTo) s =
      { s with conns := (l.foldl (fun s call => s.respondOpt call.respondTo) s).conns } := by
  induction l generalizing s with
  | nil => rfl
  | cons call l ih =>
    rw [List.foldl_cons, ih, respondOpt_eq s call.respondTo]

/-- Dropping the actor empties its channels, resolves the calls left in the
shutdown channel and ends the signal. -/
theorem dropActor_eq (s : Server ID C SC) : s.dropActor = { s with
    phase := .dropped
    conns := s.dropActor.conns
    connections := s.connections.clear
    disconnections := s.disconnections.clear
    calls := s.calls.clear
    shutdowns := s.shutdowns.clear
    callers := resolve s.callers s.shutdowns.queue .serverStopped
    shutdownSignal := s.shutdownSignal.dropSender } := by
  unfold dropActor
  rw [foldl_respond_eq]
  rfl

/-- An invariant of the connections that answering a call keeps holds after any number of answers. -/
theorem foldl_respond_inv {I : Server ID C SC → Prop} (hI : ∀ s o, I s → I (s.respondOpt o))
    (l : List (ServerCall C))
    {s : Server ID C SC} (h : I s) : I (l.foldl (fun s call => s.respondOpt call.respondTo) s) := by
  induction l generalizing s with
  | nil => exact h
  | cons call l ih => exact ih (hI s call.respondTo h)

end Ezsockets.Server
