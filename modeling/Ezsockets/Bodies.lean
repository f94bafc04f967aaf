import Ezsockets.Completion
import Ezsockets.Disconnects
import Ezsockets.Owner
import Ezsockets.Rejection
import Ezsockets.Signals
import Ezsockets.Supervision
import Mathlib.Logic.Relation

/-!
# The sockets of the server and the client

`Conn.Turn` lists what a step of the server does to the socket or the session
of one connection. The server, the session actor and the client's actor use
each of their sockets as `Socket.run` allows, so that no part of a socket is
touched after it was dropped (`server_sockets_run`, `client_sockets_run`).
-/

namespace Ezsockets

variable {ID C SC : Type} {s t : Server ID C SC} {i j : Nat} {c d : Conn ID SC}

namespace Body

def sock : Body ID SC → Socket
  | .socket x => x
  | .session a => a.socket

@[simp] theorem sock_socket (x : Socket) : (Body.socket x : Body ID SC).sock = x := rfl

@[simp] theorem sock_session (a : SessionActor ID SC) : (Body.session a : Body ID SC).sock = a.socket := rfl

end Body

namespace Stage

/-- The server actor owns the socket until a session does. -/
def unopened : Stage → Bool
  | .queued | .connecting => true
  | _ => false

/-- `on_connect` has not been called, and never is once the socket was refused or discarded. -/
def unasked : Stage → Bool
  | .queued | .rejected _ | .discarded => true
  | _ => false

/-- What has become of the connection, whether or not its session is over. -/
def settled : Stage → Stage
  | .disconnecting | .disconnected => .accepted
  | stage => stage

theorem unopened_settled (stage : Stage) : stage.settled.unopened = stage.unopened := by cases stage <;> rfl

theorem unasked_settled (stage : Stage) : stage.settled.unasked = stage.unasked := by cases stage <;> rfl

theorem settled_connecting {stage : Stage} : stage.settled = .connecting ↔ stage = .connecting := by
  cases stage <;> simp [settled]

end Stage

/-- The connection is at stage `stage` and what it is made of is `body`. -/
structure Conn.Is (c : Conn ID SC) (stage : Stage) (body : Body ID SC) : Prop where
  stage : c.stage = stage
  body : c.body = body

/-- What the action has connection `i` do, its session or the tasks of its socket. -/
def ServerAct.Gives (a : ServerAct ID C SC) (i : Nat) (b : SessionAct SC) : Prop :=
  a = .session i b ∨ b = .resume ∨ b = .callWith ∨ a = .close i ∧ b = .close (some awayFrame) ∨
    ∃ x, a = .socket i x ∧ b = .socket x

/-- In `s` the action has the server refuse connection `i`, with the frame. -/
inductive Server.Refuses (s : Server ID C SC) (i : Nat) : ServerAct ID C SC → Option CloseFrame → Prop
  | declined {frame} : s.phase = .onConnect i → Refuses s i (.onConnectReturn (.error frame)) frame
  | rejected : s.connections.queue.head? = some i → s.shuttingDown = true →
      Refuses s i .takeConnection (some awayFrame)

/-- `Q` says which actions the connection may take and `F` with which frames it may be refused. -/
inductive Conn.Turn (Q : SessionAct SC → Prop) (F : Option CloseFrame → Prop) (c d : Conn ID SC) : Prop
  | stay : d.body = c.body → d.stage.settled = c.stage.settled → Turn Q F c d
  | socket {x y : Socket} (a : SocketAct) : Q (.socket a) → c.body = .socket x → x.step a = some y →
      d.Is c.stage (.socket y) → Turn Q F c d
  | session {x y : SessionActor ID SC} (a : SessionAct SC) : Q a → c.body = .session x → x.step a = some y →
      d.Is c.stage (.session y) → Turn Q F c d
  | indicator {x : SessionActor ID SC} : c.body = .session x →
      d.Is c.stage (.session { x with indicator := false }) → Turn Q F c d
  | take {x : Socket} : c.Is .queued (.socket x) → d.Is .connecting (.socket x.cloneSink) → Turn Q F c d
  | reject {x : Socket} (ok : Bool) : F (some awayFrame) → c.Is .queued (.socket x) →
      d.Is (.rejected ok) (.socket (x.send (.new (.close (some awayFrame)) .own)).1.drop) → Turn Q F c d
  | create {x : Socket} (id : ID) :
      c.Is .connecting (.socket x) → d.Is .connecting (.session (.create id x)) → Turn Q F c d
  | accept {x : SessionActor ID SC} : c.Is .connecting (.session x) →
      d.Is .accepted (.session { x with socket := x.socket.dropSink }) → Turn Q F c d
  | declineSocket {x : Socket} (frame : Option CloseFrame) : F frame → c.Is .connecting (.socket x) →
      d.Is .declined (.socket (x.drop.send (.new (.close frame) .own)).1.dropSink) → Turn Q F c d
  | declineSession {x : SessionActor ID SC} (frame : Option CloseFrame) : F frame → c.Is .connecting (.session x) →
      d.Is .declined (.session { x with socket := (x.socket.send (.new (.close frame) .own)).1.dropSink }) →
      Turn Q F c d
  | discard {x : Socket} : c.Is .queued (.socket x) → d.Is .discarded (.socket x.drop) → Turn Q F c d

abbrev Conn.Turns (Q : SessionAct SC → Prop) (F : Option CloseFrame → Prop) (c d : Conn ID SC) : Prop :=
  Relation.ReflTransGen (Conn.Turn Q F) c d

variable {Q : SessionAct SC → Prop} {F : Option CloseFrame → Prop}

theorem turns_set {Q : Nat → SessionAct SC → Prop} {F : Nat → Option CloseFrame → Prop} (hi : s.conns[i]? = some c)
    (ht : t.conns = s.conns.set i d) (h : c.Turn (Q i) (F i) d) {e : Conn ID SC} (hj : s.conns[j]? = some e) :
    ∃ d, t.conns[j]? = some d ∧ e.Turns (Q j) (F j) d := by
  rw [ht, List.getElem?_set_of hi]
  by_cases hji : j = i
  · subst hji
    cases hi.symm.trans hj
    exact ⟨d, if_pos rfl, .single h⟩
  · rw [if_neg hji]
    exact ⟨e, hj, .refl⟩

theorem turns_same (ht : t.conns = s.conns) (hj : s.conns[j]? = some c) :
    ∃ d, t.conns[j]? = some d ∧ c.Turns Q F d := by
  rw [ht]
  exact ⟨c, hj, .refl⟩

theorem respond_turns (hq : Q .resume) (s : Server ID C SC) (o : Option Nat) (hj : s.conns[j]? = some c) :
    ∃ d, (s.respondOpt o).conns[j]? = some d ∧ c.Turns Q F d := by
  rcases Server.respond_cases s o with h | ⟨i, e, x, y, -, hi, hb, hs, h⟩
  · exact turns_same (by rw [h]) hj
  · rw [h]
    refine turns_set (Q := fun _ => Q) (F := fun _ => F) hi rfl ?_ hj
    exact .session .resume hq hb hs ⟨rfl, rfl⟩

theorem dropActor_turns (hq : Q .resume) (n : Accounting s) (hj : s.conns[j]? = some c) :
    ∃ d, s.dropActor.conns[j]? = some d ∧ c.Turns Q F d := by
  refine Server.foldl_respond_inv (I := fun u => ∃ d, u.conns[j]? = some d ∧ c.Turns Q F d) ?_ _ ?_
  · rintro u o ⟨e, he, hce⟩
    obtain ⟨d, hd, hed⟩ := respond_turns hq u o he
    exact ⟨d, hd, hce.trans hed⟩
  · refine ⟨s.discard j c, by simp [Server.dropFields, List.getElem?_mapIdx, hj], ?_⟩
    unfold Server.discard
    by_cases hm : j ∈ s.connections.queue
    · rw [if_pos hm]
      have hst := (n.queued_iff hj).mp hm
      obtain ⟨x, hx⟩ := (n.tracked j c hj).bare hst
      exact .single (.discard ⟨hst, hx⟩ ⟨rfl, by simp only [hx, Body.mapSocket]⟩)
    · rw [if_neg hm]

theorem step_turns {a : ServerAct ID C SC} (n : Accounting s) (h : s.step a = some t) (hj : s.conns[j]? = some c) :
    ∃ d, t.conns[j]? = some d ∧ c.Turns (a.Gives j) (fun frame => s.Refuses j a frame) d := by
  cases Server.step_cases h with
  | accept socket =>
    unfold Server.accept
    by_cases hd : s.isDropped = true
    · rw [if_pos hd]; exact ⟨c, hj, .refl⟩
    · rw [if_neg hd]
      refine ⟨c, ?_, .refl⟩
      simp only [List.getElem?_append_left (List.getElem?_eq_some_iff.mp hj).1, hj]
  | gracefulShutdown => exact turns_same (by unfold Server.gracefulShutdown; split <;> rfl) hj
  | takeShutdown => exact turns_same (by unfold Server.takeShutdown; split <;> rfl) hj
  | @takeConnection i q e x hs hp he hb =>
    have hst : e.stage = .queued :=
      (n.queued_iff he).mp (by rw [(Chan.pop?_some.mp hp).1]; exact List.mem_cons_self)
    unfold Server.takeConnection
    by_cases hd : s.shuttingDown = true
    · simp only [hd, if_true]
      refine turns_set (Q := ServerAct.Gives _) (F := fun j frame => s.Refuses j _ frame) he rfl ?_ hj
      exact .reject _ (.rejected (by rw [(Chan.pop?_some.mp hp).1]; rfl) hd) ⟨hst, hb⟩ ⟨rfl, rfl⟩
    · simp only [hd, Bool.false_eq_true, if_false]
      refine turns_set (Q := ServerAct.Gives _) (F := fun j frame => s.Refuses j _ frame) he rfl ?_ hj
      exact .take ⟨hst, hb⟩ ⟨rfl, rfl⟩
  | createSession id hp he hb =>
    refine turns_set (Q := ServerAct.Gives _) (F := fun j frame => s.Refuses j _ frame) he rfl ?_ hj
    exact .create id ⟨(n.connecting hp he).1, hb⟩ ⟨(n.connecting hp he).1, rfl⟩
  | onConnectOk hp he hb =>
    refine turns_set (Q := ServerAct.Gives _) (F := fun j frame => s.Refuses j _ frame) he rfl ?_ hj
    exact .accept ⟨(n.connecting hp he).1, hb⟩ ⟨rfl, by simp only [hb, Body.mapSocket]⟩
  | @onConnectErr i e frame hp he =>
    have hst := (n.connecting hp he).1
    cases hb : e.body with
    | socket x =>
      refine turns_set (Q := ServerAct.Gives _) (F := fun j frame => s.Refuses j _ frame) he rfl ?_ hj
      exact .declineSocket frame (.declined hp) ⟨hst, hb⟩ ⟨rfl, by simp only [hb, Body.mapSocket]⟩
    | session x =>
      refine turns_set (Q := ServerAct.Gives _) (F := fun j frame => s.Refuses j _ frame) he rfl ?_ hj
      exact .declineSession frame (.declined hp) ⟨hst, hb⟩ ⟨rfl, by simp only [hb, Body.mapSocket]⟩
  | takeDisconnected hs hp he =>
    have hst := (n.message (Chan.pop?_some.mp hp).1 he).1
    refine turns_set (Q := ServerAct.Gives _) (F := fun j frame => s.Refuses j _ frame) he rfl ?_ hj
    exact .stay rfl (by rw [hst]; rfl)
  | onDisconnectReturn res hp he =>
    have hst := n.disconnecting hp he
    refine turns_set (Q := ServerAct.Gives _) (F := fun j frame => s.Refuses j _ frame) he rfl ?_ hj
    exact .stay rfl (by rw [hst]; rfl)
  | respond | onCallReturn => exact respond_turns (.inr (.inl rfl)) s _ hj
  | dropActor => exact dropActor_turns (.inr (.inl rfl)) n hj
  | session a he hb hs =>
    refine turns_set (Q := ServerAct.Gives _) (F := fun j frame => s.Refuses j _ frame) he rfl ?_ hj
    exact .session a (.inl rfl) hb hs ⟨rfl, rfl⟩
  | callWith call he hb hs =>
    refine turns_set (Q := ServerAct.Gives _) (F := fun j frame => s.Refuses j _ frame) he rfl ?_ hj
    exact .session .callWith (.inr (.inr (.inl rfl))) hb hs ⟨rfl, rfl⟩
  | socket a he hb hs =>
    refine turns_set (Q := ServerAct.Gives _) (F := fun j frame => s.Refuses j _ frame) he rfl ?_ hj
    exact .socket a (.inr (.inr (.inr (.inr ⟨a, rfl, rfl⟩)))) hb hs ⟨rfl, rfl⟩
  | takeIndicator he hb =>
    refine turns_set (Q := ServerAct.Gives _) (F := fun j frame => s.Refuses j _ frame) he rfl ?_ hj
    exact .indicator hb ⟨rfl, rfl⟩
  | close he hb =>
    refine turns_set (Q := ServerAct.Gives _) (F := fun j frame => s.Refuses j _ frame) he rfl ?_ hj
    exact .session (.close (some awayFrame)) (.inr (.inr (.inr (.inl ⟨rfl, rfl⟩)))) hb rfl ⟨rfl, rfl⟩
  | @disconnected i e x r he =>
    have ht : ((s.setConn i { e with watcher := .done }).disconnected i x.id r).conns =
        s.conns.set i { e with watcher := .done } := by
      unfold Server.disconnected
      split <;> rfl
    exact turns_set (Q := ServerAct.Gives _) (F := fun j frame => s.Refuses j _ frame) he ht (.stay rfl rfl) hj
  | spawnCloser he | takeIndicatorPanic he | awaitClose he | abortCloser he | borrow he | changed he | changedErr he
  | cancel he =>
    refine turns_set (Q := ServerAct.Gives _) (F := fun j frame => s.Refuses j _ frame) he rfl ?_ hj
    exact .stay rfl rfl
  | _ => exact turns_same rfl hj

/-- Both runners hand over each socket as `Socket::new` has made it. -/
def Fresh (as : List (ServerAct ID C SC)) : Prop := ∀ socket, .accept socket ∈ as → ∃ config, socket = .new config

/-- What holds of a new connection and is kept by each turn holds of every connection of the server. -/
theorem conns_run_inv {P : List (ServerAct ID C SC) → Nat → Conn ID SC → Prop}
    (hn : ∀ as i config early, P as i (.new (.new config) early)) (hm : ∀ as a i c, P as i c → P (as ++ [a]) i c)
    (hs : ∀ as u a i c d, Lts.exec Server.step .create as = some u → P (as ++ [a]) i c →
      c.Turn (a.Gives i) (fun frame => u.Refuses i a frame) d → P (as ++ [a]) i d) {as : List (ServerAct ID C SC)}
    (hf : Fresh as) (h : Lts.exec Server.step .create as = some s) :
      ∀ (i : Nat) c, s.conns[i]? = some c → P as i c := by
  refine Lts.run_inv (I := fun as (s : Server ID C SC) => Fresh as → ∀ (i : Nat) c, s.conns[i]? = some c → P as i c)
    (fun _ i c hc => by simp [Server.create] at hc) ?_ h hf
  intro as u a t hu g ht hf j d hd
  cases hj : u.conns[j]? with
  | some c =>
    obtain ⟨d', hd', hturns⟩ := step_turns (reach_accounting ⟨as, hu⟩) ht hj
    cases hd.symm.trans hd'
    have hc := hm as a j c (g (fun socket hm => hf socket (List.mem_append_left _ hm)) j c hj)
    clear hd hd'
    induction hturns with
    | refl => exact hc
    | tail _ hturn ih => exact hs as u a _ _ _ hu ih hturn
  | none =>
    have hlt := (List.getElem?_eq_some_iff.mp hd).1
    have hle := List.getElem?_eq_none_iff.mp hj
    rcases step_length ht with hl | ⟨socket, rfl, rfl⟩
    · omega
    · obtain ⟨config, rfl⟩ := hf socket (by simp)
      unfold Server.accept at hd hlt
      by_cases hdr : u.isDropped = true
      · rw [if_pos hdr] at hlt
        omega
      · rw [if_neg hdr] at hd hlt
        simp only [List.length_append, List.length_singleton] at hlt
        have hlen : j = u.conns.length := by omega
        rw [hlen, List.getElem?_concat_length] at hd
        cases hd
        exact hn _ _ config _

/-! ## Sockets are used as `Socket.run` allows -/

namespace Socket

variable {x y : Socket}

theorem send_frame (x : Socket) (m : InMessage) :
    (x.send m).1 = { x with toSink := (x.send m).1.toSink, writes := (x.send m).1.writes } :=
    sendRaw_frame x m.toRaw

@[simp] theorem send_sinkClones (m : InMessage) : (x.send m).1.sinkClones = x.sinkClones := by rw [send_frame]

@[simp] theorem drop_sinkClones : x.drop.sinkClones = x.sinkClones := by simp [drop]

@[simp] theorem dropSink_sinkClones : x.dropSink.sinkClones = x.sinkClones - 1 := by simp [dropSink]

theorem held_owned (h : x.owned = true) : x.held = true := by simp [held, h]

theorem ran_send (m : InMessage) (h : x.held = true) : Lts.Reach run x (x.send m).1 :=
  .single (a := .send m) (by simp [run, h])

theorem ran_drop (h : x.owned = true) : Lts.Reach run x x.drop := .single (a := .drop) (by simp [run, h])

theorem ran_recv {item : Option (Except WSError Message)} (h : x.owned = true) (hr : x.recv = some (item, y)) :
    Lts.Reach run x y := .single (a := .recv) (by simp [run, h, hr])

theorem ran_push (m : InMessage) (h : x.owned = true) (hs : x.sink.isClosed = false) :
    Lts.Reach run x { x with toSink := x.toSink.push m.toRaw } := by
  have hr := ran_send m (held_owned h)
  rw [send, sendRaw_open _ hs] at hr
  exact hr

theorem ran_refused (m : InMessage) (h : x.owned = true) (hs : x.sink.isClosed = true) :
    Lts.Reach run x { x with writes := x.writes ++ m.drop } := by
  have hr := ran_send m (held_owned h)
  rw [send, sendRaw_closed _ hs] at hr
  exact hr

theorem ran_awaitSinkClose {res : Except WSError Unit} (h : x.owned = true)
    (hr : x.awaitSinkClose = some (res, y)) :
    Lts.Reach run x y := .single (a := .awaitSinkClose) (by simp [run, h, hr])

theorem ran_dropSink (h : 0 < x.sinkClones) : Lts.Reach run x x.dropSink :=
  .single (a := .dropSink) (by simp [run, h])

end Socket

namespace SessionActor

variable {x y : SessionActor ID SC}

/-- A live session owns its socket, and uses it as long as it is live. -/
theorem step_ran {a : SessionAct SC} (ho : x.socket.owned = x.live) (h : x.step a = some y) :
    Lts.Reach Socket.run x.socket y.socket ∧ y.socket.owned = y.live ∧
    y.socket.sinkClones = x.socket.sinkClones := by
  have same : y.socket = x.socket → y.live = x.live → Lts.Reach Socket.run x.socket y.socket ∧
      y.socket.owned = y.live ∧ y.socket.sinkClones = x.socket.sinkClones := by
    intro hs hl
    rw [hs, hl]
    exact ⟨.refl _, ho, rfl⟩
  have dropped : ∀ {z : Socket}, Lts.Reach Socket.run x.socket z → z.owned = true →
      z.sinkClones = x.socket.sinkClones → y.socket = z.drop → y.live = false →
      Lts.Reach Socket.run x.socket y.socket ∧
      y.socket.owned = y.live ∧ y.socket.sinkClones = x.socket.sinkClones := by
    intro z hz hzo hzc hs hl
    rw [hs, hl]
    exact ⟨hz.trans (Socket.ran_drop hzo), Socket.drop_owned, by rw [Socket.drop_sinkClones, hzc]⟩
  cases step_cases h with
  | text m | binary m | close m => exact same (send_socket _) (by simp [live])
  | call c => exact same (call_socket c) (by simp [live])
  | @handOver m c hp =>
    have hx : x.socket.owned = true := by simp [ho, live, hp]
    exact ⟨Socket.ran_send m (Socket.held_owned hx), by simp [hx, live, hp], Socket.send_sinkClones m⟩
  | @handOverClose m c frame hp =>
    have hx : x.socket.owned = true := by simp [ho, live, hp]
    exact dropped (Socket.ran_send m (Socket.held_owned hx)) (by simp [hx]) (Socket.send_sinkClones m) rfl rfl
  | @sendFailed m c hp =>
    have hx : x.socket.owned = true := by simp [ho, live, hp]
    exact dropped (Socket.ran_send m (Socket.held_owned hx)) (by simp [hx]) (Socket.send_sinkClones m) rfl rfl
  | @incoming item z hp _ _ hr =>
    have hx : x.socket.owned = true := by simp [ho, live, hp]
    have hz := Socket.ran_recv hx hr
    have hzo : z.owned = true := by rw [Socket.recv_frame hr]; exact hx
    have hzc : z.sinkClones = x.socket.sinkClones := by rw [Socket.recv_frame hr]
    rcases incoming_cases { x with socket := z } item with ⟨hd, he⟩ | ⟨frame, he⟩ | he
    · rw [he]
      exact ⟨hz, hzo, hzc⟩
    · rw [he] at dropped ⊢
      exact dropped hz hzo hzc rfl rfl
    · rw [he]
      exact ⟨hz, by rw [hzo]; simp [live, hp], hzc⟩
  | takeCall hp | callWith hp | resume hp | handlerOk hp => exact same rfl (by simp [live, hp, start])
  | handlerErr err hp | handlerPanic hp =>
    have hx : x.socket.owned = true := by simp [ho, live, hp]
    exact dropped (.refl _) hx rfl rfl rfl
  | notify hp => exact same rfl (by simp [live, hp])
  | socket b hy => exact ⟨.single (a := .task b) hy, (Socket.step_owner hy).1.trans ho, Socket.step_sinkClones hy⟩

end SessionActor

/-- A socket is owned while it waits for the actor, while `on_connect` has it and while its session is live. -/
def Body.owns (stage : Stage) : Body ID SC → Bool
  | .socket _ => stage.unopened
  | .session x => x.live

structure Keeps (stage : Stage) (body : Body ID SC) : Prop where
  ran : ∃ config, Lts.Reach Socket.run (.new config) body.sock
  owned : body.sock.owned = body.owns stage
  clones : body.sock.sinkClones = if stage = .connecting then 1 else 0
  bare : stage.unasked = true → ∃ x, body = .socket x

theorem Keeps.to {stage stage' : Stage} {body body' : Body ID SC} (g : Keeps stage body)
    (hr : Lts.Reach Socket.run body.sock body'.sock) (ho : body'.sock.owned = body'.owns stage')
    (hn : body'.sock.sinkClones = if stage' = .connecting then 1 else 0)
    (hb : stage'.unasked = true → ∃ x, body' = .socket x) : Keeps stage' body' := by
  obtain ⟨config, h⟩ := g.ran
  exact ⟨⟨config, h.trans hr⟩, ho, hn, hb⟩

theorem Conn.Is.keeps {stage : Stage} {body : Body ID SC} (h : c.Is stage body) :
    Keeps c.stage c.body ↔ Keeps stage body := by rw [h.stage, h.body]

/-- A connection that a session was created for has been asked about. -/
theorem Keeps.asked {stage : Stage} {x : SessionActor ID SC} (g : Keeps stage (.session x)) {P : Prop}
    (h : stage.unasked = true) : P := by
  obtain ⟨y, hy⟩ := g.bare h
  cases hy

theorem turn_keeps (g : Keeps c.stage c.body) (h : c.Turn Q F d) : Keeps d.stage d.body := by
  cases h with
  | stay hb hst =>
    have hu : d.stage.unopened = c.stage.unopened := by rw [← Stage.unopened_settled, hst, Stage.unopened_settled]
    have ha : d.stage.unasked = c.stage.unasked := by rw [← Stage.unasked_settled, hst, Stage.unasked_settled]
    have hc : d.stage = .connecting ↔ c.stage = .connecting := by
      rw [← Stage.settled_connecting, hst, Stage.settled_connecting]
    rw [hb]
    refine ⟨g.ran, ?_, by simp only [hc, g.clones], by rw [ha]; exact g.bare⟩
    rw [g.owned]
    unfold Body.owns
    rw [hu]
  | socket b _ hb hs hd =>
    rw [hb] at g
    rw [hd.keeps]
    exact g.to (.single (a := .task b) hs) ((Socket.step_owner hs).1.trans g.owned)
      ((Socket.step_sinkClones hs).trans g.clones) fun _ => ⟨_, rfl⟩
  | session b _ hb hs hd =>
    rw [hb] at g
    rw [hd.keeps]
    obtain ⟨hrun, hown, hclones⟩ := SessionActor.step_ran g.owned hs
    exact g.to hrun hown (hclones.trans g.clones) g.asked
  | indicator hb hd =>
    rw [hb] at g
    rw [hd.keeps]
    exact g.to (.refl _) g.owned g.clones g.asked
  | @take x hc hd =>
    rw [hc.keeps] at g
    rw [hd.keeps]
    have hx : x.owned = true := g.owned
    have hn : x.sinkClones = 0 := g.clones
    refine g.to (.single (a := .cloneSink) ?_) hx (by simp [Socket.cloneSink, hn]) fun _ => ⟨_, rfl⟩
    simp [Socket.run, Socket.held_owned hx]
  | @reject x ok _ hc hd =>
    rw [hc.keeps] at g
    rw [hd.keeps]
    have hx : x.owned = true := g.owned
    have hn : x.sinkClones = 0 := g.clones
    refine g.to ((Socket.ran_send _ (Socket.held_owned hx)).trans (Socket.ran_drop ?_)) Socket.drop_owned
      (by simp [hn])
      fun _ => ⟨_, rfl⟩
    rw [Socket.send_owned, hx]
  | create id hc hd =>
    rw [hc.keeps] at g
    rw [hd.keeps]
    exact g.to (.refl _) g.owned g.clones fun h => by cases h
  | @accept x hc hd =>
    rw [hc.keeps] at g
    rw [hd.keeps]
    have hn : x.socket.sinkClones = 1 := g.clones
    refine g.to (Socket.ran_dropSink (by simp [hn])) ?_ (by simp [hn]) fun h => by cases h
    exact Socket.dropSink_owned.trans g.owned
  | @declineSocket x frame _ hc hd =>
    rw [hc.keeps] at g
    rw [hd.keeps]
    have hx : x.owned = true := g.owned
    have hn : x.sinkClones = 1 := g.clones
    -- the clone of the sink is all that is left of the socket
    refine g.to ((Socket.ran_drop hx).trans ((Socket.ran_send _ ?_).trans (Socket.ran_dropSink ?_))) ?_
      (by simp [hn])
      fun h => by cases h
    · simp [Socket.held, hn]
    · simp [hn]
    · simp [Body.owns, Stage.unopened]
  | @declineSession x frame _ hc hd =>
    rw [hc.keeps] at g
    rw [hd.keeps]
    have hn : x.socket.sinkClones = 1 := g.clones
    refine g.to ((Socket.ran_send _ ?_).trans (Socket.ran_dropSink ?_)) ?_ (by simp [hn]) fun h => by cases h
    · simp [Socket.held, hn]
    · simp [hn]
    · exact Socket.dropSink_owned.trans ((Socket.send_owned _).trans g.owned)
  | @discard x hc hd =>
    rw [hc.keeps] at g
    rw [hd.keeps]
    have hn : x.sinkClones = 0 := g.clones
    exact g.to (Socket.ran_drop g.owned) Socket.drop_owned (by simp [hn]) fun _ => ⟨_, rfl⟩

theorem reach_keeps {as : List (ServerAct ID C SC)} (hf : Fresh as) (h : Lts.exec Server.step .create as = some s)
    (hi : s.conns[i]? = some c) : Keeps c.stage c.body := by
  refine conns_run_inv (P := fun _ _ c => Keeps c.stage c.body) ?_ (fun _ _ _ _ g => g)
    (fun _ _ _ _ _ _ _ g ht => turn_keeps g ht) hf h i c hi
  intro as i config early
  exact ⟨⟨config, .refl _⟩, rfl, rfl, fun _ => ⟨_, rfl⟩⟩

/-- A session that the server is done with is over. -/
theorem reported_over (n : Accounting s) (hi : s.conns[i]? = some c) {x : SessionActor ID SC}
    (hb : c.body = .session x) (hd : c.stage = .disconnecting ∨ c.stage = .disconnected) : x.live = false := by
  have g := n.tracked i c hi
  have hr := g.late x hb (by rw [g.done hd]; rfl)
  have hp := (g.good x hb).ended.mpr hr
  unfold SessionActor.live
  rw [hp]

/-- Every socket given to the server is used as `Socket.run` allows, in every state of every run, where `on_connect`
gives its socket to `Session::create` or drops it and keeps no `Sink`. It is owned while it waits for the actor,
while `on_connect` has it and while its session is live, and a clone of its sink is held while `on_connect` has it.
The actor leaves no socket behind: what is owned after it belongs to a session whose `on_connect` failed after it
had created it. -/
theorem server_sockets_run {as : List (ServerAct ID C SC)} (hf : Fresh as)
    (h : Lts.exec Server.step .create as = some s) (hi : s.conns[i]? = some c) :
    (∃ config, Lts.Reach Socket.run (.new config) c.body.sock) ∧
      c.body.sock.owned = c.body.owns c.stage ∧
      c.body.sock.sinkClones = (if c.stage = .connecting then 1 else 0) ∧
      (s.isDropped = true → c.body.sock.owned = true → c.stage = .declined) := by
  have g := reach_keeps hf h hi
  have n : Accounting s := reach_accounting ⟨as, h⟩
  refine ⟨g.ran, g.owned, g.clones, fun hd ho => ?_⟩
  have ht := n.tracked i c hi
  rw [g.owned] at ho
  cases hst : c.stage with
  | declined => rfl
  | queued =>
    have hq := (n.queued_iff hi).mpr hst
    rw [(reach_emptied ⟨as, h⟩ hd).2] at hq
    cases hq
  | connecting =>
    have hh : s.phase.handler i = some .connecting := ht.handler.trans (by rw [hst]; rfl)
    unfold ServerPhase.handler at hh
    unfold Server.isDropped at hd
    split at hd
    · rename_i hp; rw [hp] at hh; cases hh
    · cases hd
  | accepted =>
    have hpos := n.active_pos hi hst
    have hdr := n.exit (Server.isDropped_inLoop hd)
    simp only [Server.drained, Bool.and_eq_true, beq_iff_eq] at hdr
    omega
  | disconnecting | disconnected =>
    obtain ⟨x, hb⟩ := ht.session (by rw [hst]; rfl)
    have hx := reported_over n hi hb (by simp [hst])
    rw [hb] at ho
    cases hx.symm.trans ho
  | rejected ok | discarded =>
    obtain ⟨x, hb⟩ := g.bare (by rw [hst]; rfl)
    rw [hb, hst] at ho
    cases ho

/-- Connection 0's `on_connect` fails after it has created a session, connection 1 is never asked about. -/
def socketsRun : List (ServerAct Nat Nat Nat) := [
  .accept (.new .default), .takeConnection, .createSession 7, .onConnectReturn (.error none),
  .accept (.new .default), .gracefulShutdown, .takeShutdown, .leave, .dropActor]

theorem server_sockets_run_two : ∃ s : Server Nat Nat Nat, Lts.exec Server.step .create socketsRun = some s ∧
    s.isDropped = true ∧ (s.conns.map fun c => (c.stage, c.body.sock.owned)) =
    [(.declined, true), (.discarded, false)] ∧
      ∀ (i : Nat) c, s.conns[i]? = some c → ∃ config, Lts.Reach Socket.run (.new config) c.body.sock := by
  have h : Lts.exec Server.step (.create : Server Nat Nat Nat) socketsRun = some _ := rfl
  have hf : Fresh socketsRun := by
    intro socket hm
    simp only [socketsRun, List.mem_cons, reduceCtorEq, ServerAct.accept.injEq, List.not_mem_nil, or_false,
      false_or, or_self] at hm
    exact ⟨.default, hm⟩
  exact ⟨_, h, rfl, rfl, fun i c hi => (server_sockets_run hf h hi).1⟩

/-! ## The client -/

/-- The stages at which the client holds its connection. -/
def ClientPhase.holding : ClientPhase → Bool
  | .select | .awaitSink _ | .handler | .onClose | .onDisconnect => true
  | _ => false

namespace Socket

variable {x y : Socket}

/-- What is done to a socket is a step of its tasks, or leaves what the stream has yielded as it was. -/
theorem run_kept {e : SocketEvent} (h : x.run e = some y) : (∃ a, e = .task a ∧ x.step a = some y) ∨ Kept x y := by
  cases e with
  | task a => exact .inl ⟨a, rfl, h⟩
  | send m =>
    simp only [run] at h
    split at h
    · cases h; exact .inr (Used.send x m).kept
    · cases h
  | sendRaw m =>
    simp only [run] at h
    split at h
    · cases h; exact .inr (sendRaw_kept x m)
    · cases h
  | recv =>
    simp only [run] at h
    split at h
    · obtain ⟨⟨item, z⟩, hr, rfl⟩ := Option.map_eq_some_iff.mp h
      exact .inr (Used.recv hr).kept
    · cases h
  | awaitSinkClose =>
    simp only [run] at h
    split at h
    · obtain ⟨⟨res, z⟩, hr, rfl⟩ := Option.map_eq_some_iff.mp h
      exact .inr (Used.awaitSinkClose hr).kept
    · cases h
  | drop =>
    simp only [run] at h
    split at h
    · cases h; exact .inr (Used.drop x).kept
    · cases h
  | cloneSink =>
    simp only [run] at h
    split at h
    · cases h; exact .inr ⟨rfl, rfl, rfl, rfl, rfl⟩
    · cases h
  | dropSink =>
    simp only [run] at h
    split at h
    · cases h
      exact .inr ⟨by simp [dropSink], by simp [dropSink], by simp [dropSink], by simp [dropSink],
        by simp [dropSink]⟩
    · cases h

theorem run_freed {e : SocketEvent} (g : Freed x) (h : x.run e = some y) : Freed y := by
  have unheld : x.freed = true → x.held = false := by
    intro hf
    have hn := (g.mp hf).2
    unfold sinkSenders at hn
    unfold held
    cases ho : x.owned with
    | true => simp [ho] at hn
    | false => simp at hn ⊢; omega
  have held : x.held = true → x.freed = false := by
    intro hh
    apply Bool.eq_false_iff.mpr
    intro hf
    cases hh.symm.trans (unheld hf)
  cases e with
  | task a => exact step_freed g h
  | send m =>
    simp only [run] at h
    split at h
    · cases h; exact (Used.send x m).freed g
    · cases h
  | sendRaw m =>
    simp only [run] at h
    split at h
    · cases h; rw [sendRaw_frame]; exact g.keep rfl rfl rfl
    · cases h
  | recv =>
    simp only [run] at h
    split at h
    · obtain ⟨⟨item, z⟩, hr, rfl⟩ := Option.map_eq_some_iff.mp h
      exact (Used.recv hr).freed g
    · cases h
  | awaitSinkClose =>
    simp only [run] at h
    split at h
    · obtain ⟨⟨res, z⟩, hr, rfl⟩ := Option.map_eq_some_iff.mp h
      exact (Used.awaitSinkClose hr).freed g
    · cases h
  | drop =>
    simp only [run] at h
    split at h
    · cases h; exact (Used.drop x).freed g
    · cases h
  | cloneSink =>
    simp only [run] at h
    split at h
    · rename_i hh
      cases h
      have hf := held hh
      refine ⟨fun h => absurd (hf.symm.trans h) (by decide), fun h => ?_⟩
      simp [sinkSenders, cloneSink] at h
    · cases h
  | dropSink =>
    simp only [run] at h
    split at h
    · rename_i hh
      cases h
      apply free_freed
      intro h
      cases (held (by simp [Socket.held, hh])).symm.trans h
    · cases h

theorem ran_freed {config : SocketConfig} (h : Lts.Reach run (.new config) x) : Freed x :=
  Lts.reach_inv (I := Freed) (new_freed config) (fun _ _ _ _ g h => run_freed g h) h

/-- A socket that its owner has dropped is not changed by a second drop. -/
theorem drop_dropped (g : Freed x) (h : x.owned = false) : x.drop = x := by
  have ho : { x with owned := false } = x := by rw [← h]
  unfold drop
  rw [ho]
  unfold free
  split
  · rename_i hc
    simp only [Bool.and_eq_true, beq_iff_eq, Bool.not_eq_true'] at hc
    cases (g.mpr hc.1).symm.trans hc.2
  · rfl

end Socket

namespace ClientActor

variable {C : Type} {s t : ClientActor C} {config : ClientConfig}

structure Held (s : ClientActor C) (k : Nat) (x : Socket) : Prop where
  ran : Lts.Reach Socket.run (.new s.config.socket) x
  owned : x.owned = (s.phase.holding && k + 1 == s.socks.length)

def Holds (s : ClientActor C) : Prop := ∀ (k : Nat) x, s.socks[k]? = some x → s.Held k x

theorem Holds.keep (g : s.Holds) (hc : t.config = s.config) (hs : t.socks = s.socks)
    (hp : t.phase.holding = s.phase.holding) : t.Holds := by
  intro k x hx
  rw [hs] at hx
  have gx := g k x hx
  exact ⟨by rw [hc]; exact gx.ran, by rw [hs, hp]; exact gx.owned⟩

theorem Holds.set (g : s.Holds) {k : Nat} {x y : Socket} (hx : s.socks[k]? = some x) (hr : Lts.Reach Socket.run x y)
    (ho : y.owned = x.owned) (hc : t.config = s.config) (hs : t.socks = s.socks.set k y)
    (hp : t.phase.holding = s.phase.holding) : t.Holds := by
  intro j z hz
  rw [hs, List.getElem?_set_of hx] at hz
  by_cases hj : j = k
  · subst hj
    rw [if_pos rfl] at hz
    cases hz
    have gx := g j x hx
    exact ⟨by rw [hc]; exact gx.ran.trans hr, by rw [hs, hp, List.length_set, ho]; exact gx.owned⟩
  · rw [if_neg hj] at hz
    have gz := g j z hz
    exact ⟨by rw [hc]; exact gz.ran, by rw [hs, hp, List.length_set]; exact gz.owned⟩

/-- When the actor lets its connection go no socket is its own any more. -/
theorem Holds.dropped (g : s.Holds) (hc : t.config = s.config) (hs : t.socks = s.dropSocket.socks)
    (hp : t.phase.holding = false) : t.Holds := by
  intro k y hy
  rw [hs, dropSocket, List.getElem?_modify] at hy
  obtain ⟨x, hx, rfl⟩ := Option.map_eq_some_iff.mp hy
  have gx := g k x hx
  by_cases hk : s.conn = k
  · rw [if_pos hk]
    refine ⟨?_, by rw [hp, Bool.false_and]; exact Socket.drop_owned⟩
    rw [hc]
    cases ho : x.owned with
    | true => exact gx.ran.trans (Socket.ran_drop ho)
    | false => rw [Socket.drop_dropped (Socket.ran_freed gx.ran) ho]; exact gx.ran
  · rw [if_neg hk]
    refine ⟨by rw [hc]; exact gx.ran, ?_⟩
    rw [hp, Bool.false_and, gx.owned]
    have hlt := (List.getElem?_eq_some_iff.mp hx).1
    unfold conn at hk
    simp
    omega

theorem Holds.finish (g : s.Holds) (res : Except Error Unit) : (s.finish res).Holds :=
  g.dropped finish_config finish_socks (by rw [finish_phase]; rfl)

/-- The connection that the actor works on is one that it owns. -/
theorem Holds.current (g : s.Holds) (hp : s.phase.holding = true) {x : Socket} (hx : s.socks[s.conn]? = some x) :
    x.owned = true := by
  have hlt := (List.getElem?_eq_some_iff.mp hx).1
  rw [(g _ x hx).owned, hp]
  unfold conn at hlt ⊢
  simp
  omega

theorem Holds.connect (g : s.Holds) (hp : s.phase.holding = false) (hc : t.config = s.config)
    (hs : t.socks = s.socks ++ [.new s.config.socket]) (ht : t.phase.holding = true) : t.Holds := by
  intro k x hx
  rw [hs] at hx
  by_cases hk : k < s.socks.length
  · rw [List.getElem?_append_left hk] at hx
    have gx := g k x hx
    refine ⟨by rw [hc]; exact gx.ran, ?_⟩
    rw [gx.owned, hp, ht, hs]
    simp
    omega
  · have hle := (List.getElem?_eq_some_iff.mp hx).1
    simp only [List.length_append, List.length_singleton] at hle
    have he : k = s.socks.length := by omega
    rw [he, List.getElem?_concat_length] at hx
    cases hx
    exact ⟨by rw [hc]; exact .refl _, by simp [ht, hs, he, Socket.new]⟩

theorem step_sockets {a : ClientAct C} (g : s.Holds) (h : s.step a = some t) : t.Holds := by
  cases step_cases h with
  | text m | binary m | close m => exact g.keep (send_config _) (send_socks _) (by rw [send_phase])
  | call c => exact g.keep (call_config c) (call_socks c) (by rw [call_phase])
  | dropClients => exact g.keep (by simp) (by simp) (by simp)
  | dropCallSenders | drainMessage => exact g.keep rfl rfl rfl
  | drainEmpty hp | connected hp | connectFailed _ hp | retry hp | slept hp | closeSlept hp | takeCall hp
  | handlerOk hp => exact g.keep rfl rfl (by rw [hp]; rfl)
  | @drainClose attempt max m c frame hp =>
    have gd : Holds { s with toSocket := c, writes := s.writes ++ m.drop } := g.keep rfl rfl rfl
    exact gd.finish _
  | drainDead | onConnectErr | exhausted | connectFailClose | connectFailErr | outgoingClosed | callsClosed
  | handlerErr | onCloseClose | onCloseErr | onDisconnectClose | onDisconnectErr | panic => exact g.finish _
  | onConnectOk hp => exact g.connect (by rw [hp]; rfl) rfl rfl rfl
  | @handOver m c x hp hq hx hs =>
    have ho := g.current (by rw [hp]; rfl) hx
    exact g.set hx (Socket.ran_push m ho hs) rfl rfl rfl rfl
  | @handOverClose m c x frame hp hq hx hs =>
    have ho := g.current (by rw [hp]; rfl) hx
    have gs : Holds ({ s with toSocket := c }.setSocket { x with toSink := x.toSink.push m.toRaw }) :=
      g.set hx (Socket.ran_push m ho hs) rfl rfl rfl rfl
    exact gs.finish _
  | @sendFailed m c x hp hq hx hs =>
    have ho := g.current (by rw [hp]; rfl) hx
    exact g.set hx (Socket.ran_refused m ho hs) rfl rfl rfl (by rw [hp]; rfl)
  | @incoming x y item hp hx hr =>
    have ho := g.current (by rw [hp]; rfl) hx
    have hf := handleIncomingMsg_frame (s.setSocket y) item
    refine g.set hx (Socket.ran_recv ho hr) (by rw [Socket.recv_frame hr]) (by rw [hf]; rfl) (by rw [hf]; rfl) ?_
    rw [hp]
    rcases item with _ | (_ | (_ | _ | _)) <;> rfl
  | @sinkClosed x y res closedSelf hp hx hr =>
    have ho := g.current (by rw [hp]; rfl) hx
    have gs : Holds (s.setSocket y) :=
      g.set hx (Socket.ran_awaitSinkClose ho hr) (by rw [Socket.awaitSinkClose_frame hr]) rfl rfl rfl
    rcases sinkClosed_cases (s.setSocket y) closedSelf res with ⟨r, he⟩ | ⟨-, -, he⟩ | he
    · rw [he]; exact gs.finish r
    · rw [he]; exact gs.keep rfl rfl (by rw [setSocket, hp]; rfl)
    · rw [he]; exact gs.keep rfl rfl (by rw [setSocket, hp]; rfl)
  | onCloseReconnect | onDisconnectReconnect => exact g.dropped rfl rfl rfl
  | @socket k x y b hx hs => exact g.set hx (.single (a := .task b) hs) (Socket.step_owner hs).1 rfl rfl rfl

theorem reach_holds (h : Lts.Reach step (create config) s) : s.Holds :=
  Lts.reach_inv (I := Holds) (fun k x hx => by simp [create] at hx) (fun _ _ _ _ g h => step_sockets g h) h

/-- Every socket of the client is made with the client's own configuration and used as `Socket.run` allows. The
client owns at most one of them, its last, and only while it holds the connection: the sockets of earlier
connections and of a client that is over have all been dropped. -/
theorem client_sockets_run (h : Lts.Reach step (create config) s) {k : Nat} {x : Socket}
    (hx : s.socks[k]? = some x) :
    Lts.Reach Socket.run (.new config.socket) x ∧
      (x.owned = true ↔ s.phase.holding = true ∧ k + 1 = s.socks.length) := by
  have gx := reach_holds h k x hx
  refine ⟨?_, by rw [gx.owned]; simp⟩
  rw [← reach_config h]
  exact gx.ran

theorem client_sockets_run_two : ∃ s : ClientActor Nat,
    Lts.Reach step (create ⟨1, 1, none⟩) s ∧ (s.socks.map (·.owned)) = [false, true] ∧
      ∀ (k : Nat) x, s.socks[k]? = some x → Lts.Reach Socket.run (.new .default) x := by
  have h : Lts.exec step (create ⟨1, 1, none⟩ : ClientActor Nat) [
    .tryRecv, .connected, .onConnectReturn (.ok ()), .socket 0 (.streamNext (.ok (.close none))), .incoming,
    .onCloseReturn (.ok .reconnect), .slept, .tryRecv, .connected, .onConnectReturn (.ok ())] = some _ := rfl
  exact ⟨_, ⟨_, h⟩, rfl, fun k x hx => (client_sockets_run ⟨_, h⟩ hx).1⟩

end ClientActor

end Ezsockets
