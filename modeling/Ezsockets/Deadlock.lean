import Ezsockets.Broadcast

/-!
# Progress of a shutdown

While a shutdown drains, some task can move unless every session that is
left waits for the answer to a `call_with`, which the actor no longer
takes. `Free` says that no session does.
-/

namespace Ezsockets

variable {ID C SC : Type} {s t : Server ID C SC}

/-- The steps of the actors and of the watchers: no frame and no call from outside. -/
def ServerAct.internal : ServerAct ID C SC → Bool
  | .accept _ | .call _ | .gracefulShutdown | .callWith _ _ | .socket _ _ => false
  | .session _ a =>
    match a with
    | .outgoing | .takeCall | .incoming | .handlerReturn _ | .handlerPanic | .notify => true
    | _ => false
  | _ => true

def Server.canStep (s : Server ID C SC) : Prop := ∃ a : ServerAct ID C SC, a.internal = true ∧ s.step a ≠ none

/-! ## Sessions that wait for the server -/

def SessionActor.waiting (a : SessionActor ID SC) : Bool :=
  match a.phase with
  | .handler _ true => true
  | _ => false

def Body.waiting : Body ID SC → Bool
  | .socket _ => false
  | .session a => a.waiting

@[simp] theorem Body.mapSocket_waiting (b : Body ID SC) (f : Socket → Socket) :
    (b.mapSocket f).waiting = b.waiting := by
  cases b <;> rfl

theorem SessionActor.step_waiting {a b : SessionActor ID SC} {x : SessionAct SC} (h : a.step x = some b)
    (hx : x ≠ .callWith) (hw : b.waiting = true) : a.waiting = true := by
  cases step_cases h with
  | text m | binary m | close m => simpa [waiting] using hw
  | call c => simpa [waiting] using hw
  | handOver | socket => exact hw
  | handOverClose | sendFailed | takeCall | resume | handlerOk | handlerErr | handlerPanic | notify => cases hw
  | @incoming item y hp =>
    rcases incoming_cases { a with socket := y } item with ⟨hd, he⟩ | ⟨frame, he⟩ | he
    · rw [he] at hw; cases hw
    · rw [he] at hw; cases hw
    · rw [he] at hw; exact hw
  | callWith => exact absurd rfl hx

/-- Once shutdown has begun, no accepted session waits for the server. -/
def Free (s : Server ID C SC) : Prop :=
  s.shuttingDown = true → ∀ (i : Nat) c, s.conns[i]? = some c → c.stage = .accepted → c.body.waiting = false

/-- No accepted session waits for the server when shutdown begins, and none calls it afterwards. -/
def Uncalled (s : Server ID C SC) (a : ServerAct ID C SC) : Prop :=
  (a = .takeShutdown → ∀ (i : Nat) c, s.conns[i]? = some c → c.stage = .accepted → c.body.waiting = false) ∧
    (∀ i call, a = .callWith i call → s.shuttingDown = true → ∀ c, s.conns[i]? = some c → c.stage ≠ .accepted)

theorem create_free : Free (.create : Server ID C SC) := fun h => by cases h

section
variable {i : Nat} {c c' : Conn ID SC}

theorem Free.set (f : Free s) (hc : s.conns[i]? = some c) (ht : t.conns = s.conns.set i c')
    (hd : t.shuttingDown = s.shuttingDown)
    (hk : s.shuttingDown = true → c'.stage = .accepted → c.stage = .accepted ∧
      (c'.body.waiting = true → c.body.waiting = true)) : Free t := by
  intro h
  rw [hd] at h
  rw [ht]
  refine List.forall_set hc (fun hs => ?_) fun j d _ hj => f h j d hj
  obtain ⟨hs', hw⟩ := hk h hs
  have := f h i c hc hs'
  apply Bool.eq_false_iff.mpr
  intro hx
  rw [hw hx] at this; cases this

theorem Free.same (f : Free s) (hc : t.conns = s.conns) (hd : t.shuttingDown = s.shuttingDown) : Free t := by
  unfold Free
  rw [hc, hd]; exact f

theorem respond_free (f : Free s) (o : Option Nat) : Free (s.respondOpt o) := by
  rcases Server.respond_cases s o with h | ⟨i, c, a, b, -, hc, hb, hs, h⟩
  · rw [h]; exact f
  · rw [h]
    refine f.set hc rfl rfl fun _ hst => ⟨hst, fun hw => ?_⟩
    rw [hb]; exact SessionActor.step_waiting hs (by simp) hw

theorem dropActor_free (f : Free s) : Free s.dropActor := by
  refine Server.foldl_respond_inv (I := Free) (fun u o h => respond_free h o) _ ?_
  intro h
  apply List.forall_mapIdx
  intro j d hj hs
  unfold Server.discard at hs ⊢
  split at hs
  · cases hs
  · rename_i hq; rw [if_neg hq]; exact f h j d hj hs

theorem step_free {a : ServerAct ID C SC} (p : Halted s) (f : Free s) (hC : Uncalled s a) (h : s.step a = some t) :
    Free t := by
  cases Server.step_cases h with
  | accept socket =>
    unfold Server.accept
    split
    · exact f
    · intro h
      exact List.forall_append_one (fun hs => by cases hs) (f h)
  | gracefulShutdown => unfold Server.gracefulShutdown; split <;> exact f
  | takeShutdown hs hp =>
    unfold Server.takeShutdown
    split <;> exact fun _ => hC.1 rfl
  | takeConnection hs hp hc hb =>
    unfold Server.takeConnection
    split
    · exact f.set hc rfl rfl fun _ hst => by cases hst
    · exact f.set hc rfl rfl fun _ hst => by cases hst
  | createSession id hp hc hb => exact f.set hc rfl rfl fun _ hst => ⟨hst, fun hw => by cases hw⟩
  | onConnectOk hp hc =>
    refine f.set hc rfl rfl fun hd => ?_
    have := p hd
    rw [hp] at this; cases this
  | onConnectErr _ hp hc => exact f.set hc rfl rfl fun _ hst => by cases hst
  | takeDisconnected hs hp hc => exact f.set hc rfl rfl fun _ hst => by cases hst
  | onDisconnectReturn res hp hc => exact f.set hc rfl rfl fun _ hst => by cases hst
  | respond | onCallReturn => exact (respond_free f _).same rfl rfl
  | dropActor => exact dropActor_free f
  | session a hc hb hs hx =>
    exact f.set hc rfl rfl fun _ hst => ⟨hst, fun hw => by rw [hb]; exact SessionActor.step_waiting hs hx hw⟩
  | @callWith i c x y call hc hb hs =>
    exact f.set hc rfl rfl fun hd hst => absurd hst (hC.2 i call rfl hd c hc)
  | socket a hc hb hs => exact f.set hc rfl rfl fun _ hst => ⟨hst, fun hw => by cases hw⟩
  | takeIndicator hc hb => exact f.set hc rfl rfl fun _ hst => ⟨hst, fun hw => by rw [hb]; exact hw⟩
  | close hc hb =>
    refine f.set hc rfl rfl fun _ hst => ⟨hst, fun hw => ?_⟩
    rw [hb]; exact SessionActor.step_waiting (x := .close (some awayFrame)) rfl (by simp) hw
  | disconnected hc hb =>
    unfold Server.disconnected
    split <;> exact f.set hc rfl rfl fun _ hst => ⟨hst, fun hw => hw⟩
  | spawnCloser hc | takeIndicatorPanic hc | awaitClose hc | abortCloser hc | borrow hc | changed hc
  | changedErr hc | cancel hc => exact f.set hc rfl rfl fun _ hst => ⟨hst, fun hw => hw⟩
  | _ => exact f.same rfl rfl

/-! ## Something can move -/

/-- A session that was sent its `Close` and does not wait for the server can move. -/
theorem session_canStep (hc : s.conns[i]? = some c) {a : SessionActor ID SC} (hb : c.body = .session a) (g : a.Good)
    (hl : a.live = true) (hk : c.body.closing) (hw : c.body.waiting = false) : s.canStep := by
  rw [hb] at hk hw
  cases hp : a.phase with
  | select =>
    -- a live actor has not taken a `Close`, so this one is still queued
    obtain ⟨m, hm, hf⟩ := hk
    have hq : m ∈ a.toSocket.queue := by
      rcases List.mem_append.mp hm with h | h
      · rw [g.noClose hl m h] at hf; cases hf
      · exact h
    refine ⟨.session i .outgoing, rfl, ?_⟩
    cases hx : a.toSocket.pop? with
    | none => rw [Chan.pop?_none.mp hx] at hq; cases hq
    | some p => simp [Server.step, Server.withSession, Server.withConn, hc, hb, SessionActor.step, hp, hx]
  | handler h w =>
    cases w with
    | true => simp [Body.waiting, SessionActor.waiting, hp] at hw
    | false =>
      refine ⟨.session i (.handlerReturn (.ok ())), rfl, ?_⟩
      simp [Server.step, Server.withSession, Server.withConn, hc, hb, SessionActor.step, hp]
  | finished r => simp [SessionActor.live, hp] at hl
  | ended => simp [SessionActor.live, hp] at hl

/-- A watcher that waits for its session lets it go on, or is let go on by it. -/
theorem ended_canStep (hc : s.conns[i]? = some c) {a : SessionActor ID SC} (hb : c.body = .session a) (g : a.Good)
    (hl : a.live = false) (hw : c.watcher = .awaiting) : s.canStep := by
  cases hp : a.phase with
  | select | handler => simp [SessionActor.live, hp] at hl
  | finished r =>
    refine ⟨.session i .notify, rfl, ?_⟩
    simp [Server.step, Server.withSession, Server.withConn, hc, hb, SessionActor.step, hp]
  | ended =>
    obtain ⟨r, hr⟩ := Option.ne_none_iff_exists'.mp (g.ended.mp hp)
    refine ⟨.awaitClose i, rfl, ?_⟩
    simp [Server.step, Server.withSession, Server.withConn, hc, hb, hw, hr]

theorem Accounting.phase_conn (n : Accounting s) (hp : s.phase.handler i ≠ none) : ∃ c, s.conns[i]? = some c := by
  apply Option.ne_none_iff_exists'.mp
  intro hn
  have hv := congrArg View.handler (n.fresh i (List.getElem?_eq_none_iff.mp hn))
  exact hp hv

theorem disconnected_canStep (n : Accounting s) (hs : s.selecting = true) (hq : s.disconnections.queue ≠ []) :
    s.canStep := by
  obtain ⟨d, l, hl⟩ := List.exists_cons_of_ne_nil hq
  obtain ⟨c, hc⟩ : ∃ c, s.conns[d.conn]? = some c := by
    apply Option.ne_none_iff_exists'.mp
    intro hn
    have hv := congrArg View.disconnections (n.fresh d.conn (List.getElem?_eq_none_iff.mp hn))
    simp [Server.view, hl, View.none] at hv
  refine ⟨.takeDisconnected, rfl, ?_⟩
  have hp : s.disconnections.pop? = some (d, ⟨s.disconnections.got ++ [d], l⟩) := by
    rw [Chan.pop?_some]; exact ⟨hl, rfl⟩
  simp [Server.step, hs, hp, Server.withConn, hc]

/-- A session that is left keeps somebody busy. -/
theorem accepted_canStep (n : Accounting s) (g : Broadcast s) (f : Free s) (hd : s.shuttingDown = true)
    (hs : s.selecting = true) (hc : s.conns[i]? = some c) (hst : c.stage = .accepted) : s.canStep := by
  have k := n.tracked i c hc
  have ho : c.stage.opened = true := by rw [hst]; rfl
  obtain ⟨a, hb⟩ := k.session ho
  by_cases hx : ∀ x ∈ ServerAct.watchers i, s.step x = none
  · rcases stuck_watcher k hc hb ho hx with hw | hw
    · cases hl : a.live with
      | false => exact ended_canStep hc hb (k.good a hb) hl hw
      | true =>
        rcases stuck_closer g hd hc hb hw hx with h | ⟨-, h⟩
        · rw [hl] at h; cases h
        · exact session_canStep hc hb (k.good a hb) hl h (f hd i c hc hst)
    · apply disconnected_canStep n hs
      intro hq
      obtain ⟨r, -, hds⟩ := k.trace
      simp [Server.view, hq, Conn.message, hw, hst, hb, Body.id, Watcher.isDone] at hds
  · push Not at hx
    obtain ⟨x, hm, hx⟩ := hx
    refine ⟨x, ?_, hx⟩
    simp only [ServerAct.watchers, List.mem_cons, List.not_mem_nil, or_false] at hm
    rcases hm with rfl | rfl | rfl | rfl | rfl | rfl | rfl | rfl | rfl <;> rfl

theorem draining_canStep (n : Accounting s) (g : Broadcast s) (p : Halted s) (f : Free s)
    (hd : s.shuttingDown = true) (ha : 0 < s.activeSessions) : s.canStep := by
  have hnd : s.drained = false := by
    apply Bool.eq_false_iff.mpr
    intro hx
    simp only [Server.drained, Bool.and_eq_true, beq_iff_eq] at hx
    omega
  cases hp : s.phase with
  | select =>
    have hs := Server.selecting_iff.mpr ⟨hp, hnd⟩
    rw [n.active, List.countP_pos_iff] at ha
    obtain ⟨c, hm, hst⟩ := ha
    obtain ⟨i, hc⟩ := List.getElem?_of_mem hm
    exact accepted_canStep n g f hd hs hc (by simpa [isAccepted] using hst)
  | onDisconnect i =>
    obtain ⟨c, hc⟩ := n.phase_conn (i := i) (by simp [hp, ServerPhase.handler])
    exact ⟨.onDisconnectReturn (.ok ()), rfl, by simp [Server.step, hp, Server.withConn, hc]⟩
  | onConnect i | onCall call => have := p hd; rw [hp] at this; cases this
  | left | dropped => rw [n.exit (by simp [Server.inLoop, hp])] at hnd; cases hnd

end

/-- In a run where no session waits for the server once shutdown has begun, a shutdown is never stuck. -/
theorem shutdown_progress (as : List (ServerAct ID C SC)) (h : Lts.exec Server.step .create as = some s)
    (hC : Lts.Along Server.step Uncalled .create as) (hd : s.shuttingDown = true) (ha : 0 < s.activeSessions) :
    s.canStep := by
  have hr : Lts.Reach Server.step .create s := ⟨as, h⟩
  have f : Free s := Lts.along_inv create_free
    (fun u a v hr f hC hs => step_free (reach_halted hr) f hC hs) hC h
  exact draining_canStep (reach_accounting hr) (reach_broadcast hr) (reach_halted hr) f hd ha

/-- A text arrives, its handler calls the server, and the shutdown is taken before the call. -/
theorem shutdown_stuck : ∃ (as : List (ServerAct Nat Nat Nat)) (s : Server Nat Nat Nat),
    Lts.exec Server.step .create as = some s ∧ s.shuttingDown = true ∧ s.activeSessions = 1 ∧ ¬ s.canStep := by
  have h : Lts.exec Server.step (.create : Server Nat Nat Nat) [
    .accept (.new .default), .takeConnection, .createSession 7, .onConnectReturn (.ok ()), .spawnCloser 0,
    .takeIndicator 0, .session 0 (.socket (.streamNext (.ok (.text "hi")))), .session 0 .incoming, .callWith 0 5,
    .gracefulShutdown, .takeShutdown, .borrow 0, .close 0] = some _ := rfl
  refine ⟨_, _, h, rfl, rfl, ?_⟩
  rintro ⟨a, ha, hs⟩
  cases a with
  | session i a =>
    cases i with
    | zero => cases a <;> first | exact hs rfl | cases ha
    | succ i => exact hs rfl
  | spawnCloser i | takeIndicator i | awaitClose i | abortCloser i | disconnected i | borrow i | changed i | close i
  | cancel i => cases i <;> exact hs rfl
  | _ => first | exact hs rfl | cases ha

/-- A session that does not call the server is there when shutdown begins. -/
theorem shutdown_progress_one : ∃ s : Server Nat Nat Nat, s.shuttingDown = true ∧ s.activeSessions = 1 ∧
    s.canStep := by
  have h : Lts.exec Server.step (.create : Server Nat Nat Nat) [
    .accept (.new .default), .takeConnection, .createSession 7, .onConnectReturn (.ok ()), .gracefulShutdown,
    .takeShutdown] = some _ := rfl
  have other : ∀ {u : Server Nat Nat Nat} {a : ServerAct Nat Nat Nat}, a ≠ .takeShutdown →
      (∀ i call, a ≠ .callWith i call) → Uncalled u a :=
    fun h1 h2 => ⟨fun e => absurd e h1, fun i call e => absurd e (h2 i call)⟩
  refine ⟨_, rfl, rfl, shutdown_progress _ h ?_ rfl (by decide)⟩
  refine Lts.along_cons (other (by simp) (by simp)) rfl (Lts.along_cons (other (by simp) (by simp)) rfl
    (Lts.along_cons (other (by simp) (by simp)) rfl (Lts.along_cons (other (by simp) (by simp)) rfl
    (Lts.along_cons (other (by simp) (by simp)) rfl (Lts.along_cons ⟨fun _ i c hc _ => ?_, by simp⟩ rfl trivial)))))
  cases i with
  | zero => cases hc; rfl
  | succ i => cases hc

end Ezsockets
