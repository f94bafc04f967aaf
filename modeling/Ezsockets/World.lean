import Ezsockets.Bodies
import Ezsockets.EndToEnd
import Ezsockets.Hosting

/-!
# Many clients and one server

`World` is a server with its sessions and any number of clients. Each
connection of the server comes from one connection of one client, its
`Origin`. A `Transport` says what a stream may yield, and what it says holds
at both ends of every connection (`reach_carried`). With one that keeps the
order of payloads a session is given what its own client has sent on that
connection, and a client what its own session has, whatever the others, the
server and its shutdown do (`world_delivers`).
-/

namespace Ezsockets

variable {ID C SC D : Type}

/-! ## What a turn leaves of a socket -/

namespace Socket

variable {x y z : Socket}

theorem Kept.refl (x : Socket) : Kept x x := (Used.refl x).kept

theorem Kept.trans (h : Kept x y) (h' : Kept y z) : Kept x z where
  config := h'.config.trans h.config
  yielded := h'.yielded.trans h.yielded
  streaming := h'.streaming.trans h.streaming
  taken := h'.taken.trans h.taken
  forwarded := h'.forwarded.trans h.forwarded

theorem send_kept (x : Socket) (m : InMessage) : Kept x (x.send m).1 := (Used.send x m).kept

theorem drop_kept (x : Socket) : Kept x x.drop := (Used.drop x).kept

theorem dropSink_kept (x : Socket) : Kept x x.dropSink where
  config := by simp [dropSink]
  yielded := by simp [dropSink]
  streaming := by simp [dropSink]
  taken := by simp [dropSink]
  forwarded := by simp [dropSink]

theorem cloneSink_kept (x : Socket) : Kept x x.cloneSink := ⟨rfl, rfl, rfl, rfl, rfl⟩

/-- A `Close` has no payload. -/
theorem send_sent_close (x : Socket) (frame : Option CloseFrame) :
    (x.send (.new (.close frame) .own)).1.sent = x.sent := by
  cases h : (x.send (.new (.close frame) .own)).2 with
  | true =>
    rw [send_sent _ h]
    exact List.append_nil _
  | false => exact send_sent_failed _ h

@[simp] theorem dropSink_sent : x.dropSink.sent = x.sent := by simp [sent, dropSink]

end Socket

section
variable {s t : Server ID D SC} {a : ServerAct ID D SC} {c d : Conn ID SC} {i j : Nat} {Q : SessionAct SC → Prop}
  {F : Option CloseFrame → Prop}

theorem turn_kept (hq : ∀ b, ¬ Q (.socket b)) (h : c.Turn Q F d) : c.body.sock.Kept d.body.sock := by
  cases h with
  | stay hb => rw [hb]; exact .refl _
  | socket b hQ => exact absurd hQ (hq b)
  | session b hQ hb hs hd =>
    rw [hb, hd.body]
    rcases SessionActor.step_uses hs with ⟨-, hu⟩ | ⟨b', rfl, -⟩
    · exact hu.kept
    · exact absurd hQ (hq b')
  | indicator hb hd => rw [hb, hd.body]; exact .refl _
  | take hc hd => rw [hc.body, hd.body]; exact Socket.cloneSink_kept _
  | reject ok _ hc hd => rw [hc.body, hd.body]; exact (Socket.send_kept _ _).trans (Socket.drop_kept _)
  | create id hc hd => rw [hc.body, hd.body]; exact .refl _
  | accept hc hd => rw [hc.body, hd.body]; exact Socket.dropSink_kept _
  | declineSocket frame _ hc hd =>
    rw [hc.body, hd.body]
    exact ((Socket.drop_kept _).trans (Socket.send_kept _ _)).trans (Socket.dropSink_kept _)
  | declineSession frame _ hc hd =>
    rw [hc.body, hd.body]
    exact (Socket.send_kept _ _).trans (Socket.dropSink_kept _)
  | discard hc hd => rw [hc.body, hd.body]; exact Socket.drop_kept _

theorem turns_kept (hq : ∀ b, ¬ Q (.socket b)) (h : c.Turns Q F d) : c.body.sock.Kept d.body.sock := by
  induction h with
  | refl => exact .refl _
  | tail _ ht ih => exact ih.trans (turn_kept hq ht)

/-- The action is a step of the tasks of a socket. -/
def ServerAct.moves? : ServerAct ID D SC → Option (Nat × SocketAct)
  | socket i b | session i (.socket b) => some (i, b)
  | _ => none

theorem moves?_of_gives {b : SocketAct} (h : a.Gives j (.socket b)) : a.moves? = some (j, b) := by
  rcases h with rfl | h | h | ⟨-, h⟩ | ⟨x, rfl, h⟩
  · rfl
  · cases h
  · cases h
  · cases h
  · cases h; rfl

theorem moves_inv {b : SocketAct} (hm : a.moves? = some (i, b)) (h : s.step a = some t) :
    ∃ c d, s.conns[i]? = some c ∧ c.body.sock.step b = some d.body.sock ∧ t.conns = s.conns.set i d := by
  cases Server.step_cases h with
  | session a' hc hb hs =>
    cases a' with
    | socket b' =>
      cases hm
      obtain ⟨y, hy, rfl⟩ := Option.map_eq_some_iff.mp hs
      refine ⟨_, _, hc, ?_, rfl⟩
      rw [hb]
      exact hy
    | _ => cases hm
  | socket b' hc hb hs =>
    cases hm
    refine ⟨_, _, hc, ?_, rfl⟩
    rw [hb]
    exact hs
  | _ => cases hm

/-- Every step but those of its tasks keeps what has come through a socket. -/
theorem step_sock (n : Accounting s) (h : s.step a = some t) (hj : s.conns[j]? = some c) :
    ∃ d, t.conns[j]? = some d ∧
      (c.body.sock.Kept d.body.sock ∨ ∃ b, a.moves? = some (j, b) ∧ c.body.sock.step b = some d.body.sock) := by
  by_cases hm : ∃ b, a.moves? = some (j, b)
  · obtain ⟨b, hb⟩ := hm
    obtain ⟨e, d, he, hs, ht⟩ := moves_inv hb h
    cases he.symm.trans hj
    refine ⟨d, ?_, .inr ⟨b, hb, hs⟩⟩
    rw [ht, List.getElem?_set_of he, if_pos rfl]
  · obtain ⟨d, hd, hturns⟩ := step_turns n h hj
    exact ⟨d, hd, .inl (turns_kept (fun b hg => hm ⟨b, moves?_of_gives hg⟩) hturns)⟩

/-! ## What a connection relays -/

def Body.peer : Body ID SC → Peer ID SC
  | .socket x => .accepted x
  | .session a => .session a

open EndToEnd (PeerGood)

theorem turn_relays (g : PeerGood c.body.peer) (h : c.Turn Q F d) : PeerGood d.body.peer := by
  -- the socket has been used, and no payload was sent or taken off it
  have socket {x y : Socket} {st : Stage} (hx : PeerGood (.accepted x : Peer ID SC)) (hk : x.Kept y)
      (hs : y.sent = x.sent) (ho : y.toOwner.got = x.toOwner.got) (hd : d.Is st (.socket y)) :
      PeerGood d.body.peer := by
    obtain ⟨hc, hf, hn, hg⟩ := hx
    rw [hd.body]
    exact ⟨by rw [hk.config]; exact hc, hk.forwards hf, hs.trans hn, ho.trans hg⟩
  have session {x : SessionActor ID SC} {y : Socket} {st : Stage} (hx : PeerGood (.session x))
    (hk : x.socket.Kept y)
      (hs : y.sent = x.socket.sent) (ho : y.toOwner.got = x.socket.toOwner.got)
      (hd : d.Is st (.session { x with socket := y })) : PeerGood d.body.peer := by
    obtain ⟨hc, hf, hn, hg⟩ := hx
    rw [hd.body]
    refine ⟨by rw [hk.config]; exact hc, hk.forwards hf, hn.keep rfl List.prefix_rfl hs fun h => h, ?_⟩
    unfold SessionActor.Consumed at *
    rw [ho]
    exact hg
  cases h with
  | stay hb => rw [hb]; exact g
  | socket b _ hb hs hd =>
    rw [hb] at g
    rw [hd.body]
    exact EndToEnd.accepted_good g hs
  | session b _ hb hs hd =>
    rw [hb] at g
    rw [hd.body]
    exact EndToEnd.session_good g hs
  | indicator hb hd =>
    rw [hb] at g
    rw [hd.body]
    exact ⟨g.1, g.2.1, g.2.2.1.keep rfl List.prefix_rfl rfl fun h => h, g.2.2.2⟩
  | take hc hd =>
    rw [hc.body] at g
    exact socket g (Socket.cloneSink_kept _) rfl rfl hd
  | @reject x ok _ hc hd =>
    rw [hc.body] at g
    refine socket g ((Socket.send_kept _ _).trans (Socket.drop_kept _)) ?_ (by simp) hd
    rw [Socket.drop_sent, Socket.send_sent_close]
  | create id hc hd =>
    rw [hc.body] at g
    rw [hd.body]
    obtain ⟨hp, hf, hn, hg⟩ := g
    exact ⟨hp, hf, SessionActor.create_sending id hn, SessionActor.create_consumed id hg⟩
  | accept hc hd =>
    rw [hc.body] at g
    exact session g (Socket.dropSink_kept _) Socket.dropSink_sent (by simp [Socket.dropSink]) hd
  | @declineSocket x frame _ hc hd =>
    rw [hc.body] at g
    refine socket g (((Socket.drop_kept _).trans (Socket.send_kept _ _)).trans (Socket.dropSink_kept _)) ?_
      (by simp [Socket.dropSink]) hd
    rw [Socket.dropSink_sent, Socket.send_sent_close, Socket.drop_sent]
  | declineSession frame _ hc hd =>
    rw [hc.body] at g
    refine session g ((Socket.send_kept _ _).trans (Socket.dropSink_kept _)) ?_ (by simp [Socket.dropSink]) hd
    rw [Socket.dropSink_sent, Socket.send_sent_close]
  | discard hc hd =>
    rw [hc.body] at g
    exact socket g (Socket.drop_kept _) Socket.drop_sent (by simp) hd

end

/-! ## The world -/

/-- What a stream may have yielded, by what the sinks at the other end and at its own have taken. -/
structure Transport where
  allows : List (Except WSError RawMessage) → List InRawMessage → List InRawMessage → Bool
  nil : ∀ other own, allows [] other own = true
  mono : ∀ {yielded other other' own own'}, other <+: other' → own <+: own' → allows yielded other own = true →
    allows yielded other' own' = true

namespace Transport

def mayYield (T : Transport) (x : Socket) (other : List InRawMessage) : SocketAct → Bool
  | .streamNext item => T.allows (x.yielded ++ [item]) other x.toSink.got
  | _ => true

/-- The payloads are those that the other end's sink has taken, from the first on. -/
def payloads : Transport where
  allows yielded other _ := (yielded.filterMap framePayload).isPrefixOf (other.filterMap InRawMessage.payload)
  nil _ _ := rfl
  mono ho _ h := List.isPrefixOf_iff_prefix.mpr ((List.isPrefixOf_iff_prefix.mp h).trans (ho.filterMap _))

end Transport

/-- A connection of a client. -/
structure Origin where
  client : Nat
  conn : Nat
  deriving DecidableEq

/-- `origins` are those of the server's connections, in the order of `Server::accept`. -/
structure World (ID C SC D : Type) where
  clients : List (ClientActor C)
  server : Server ID D SC
  origins : List Origin

inductive WorldAct (ID C SC D : Type) where
  | client (n : Nat) (a : ClientAct C)
  | accept (o : Origin) (config : { config : SocketConfig // config.Pings })
  | server (a : ServerAct ID D SC)

/-- What its sink has taken, if there is a socket. -/
def Socket.takenBy (x : Option Socket) : List InRawMessage := (x.map (·.toSink.got)).getD []

namespace World

def create (configs : List ClientConfig) : World ID C SC D where
  clients := configs.map .create
  server := .create
  origins := []

def clientSock (w : World ID C SC D) (o : Origin) : Option Socket := w.clients[o.client]?.bind (·.socks[o.conn]?)

def serverSock (w : World ID C SC D) (o : Origin) : Option Socket :=
  (w.server.conns[w.origins.idxOf o]?).map (·.body.sock)

variable (T : Transport)

def clientMay (w : World ID C SC D) (n : Nat) : ClientAct C → Bool
  | .socket k a => (w.clientSock ⟨n, k⟩).all fun x => T.mayYield x (Socket.takenBy (w.serverSock ⟨n, k⟩)) a
  | _ => true

def serverMay (w : World ID C SC D) (a : ServerAct ID D SC) : Bool :=
  a.moves?.all fun p => (w.origins[p.1]?).all fun o => (w.serverSock o).all fun x =>
    T.mayYield x (Socket.takenBy (w.clientSock o)) p.2

/-- A connection of a client reaches the server once at most, and a server that has stopped drops it. -/
def step (w : World ID C SC D) : WorldAct ID C SC D → Option (World ID C SC D)
  | .client n a =>
    match w.clients[n]? with
    | some client =>
      if w.clientMay T n a then (client.step a).map fun client => { w with clients := w.clients.set n client }
      else none
    | none => none
  | .accept o config =>
    if o ∈ w.origins then none
    else some { w with
      server := w.server.accept (.new config)
      origins := if w.server.isDropped then w.origins else w.origins ++ [o] }
  | .server a =>
    if a.accepts || !w.serverMay T a then none else (w.server.step a).map fun server => { w with server := server }

variable {T} {w u : World ID C SC D}

inductive Step (T : Transport) (w : World ID C SC D) : World ID C SC D → Prop
  | client {n client client' a} : w.clients[n]? = some client → w.clientMay T n a = true →
      client.step a = some client' → Step T w { w with clients := w.clients.set n client' }
  | accept {o} (config : { config : SocketConfig // config.Pings }) : o ∉ w.origins → w.server.isDropped = false →
      Step T w { w with server := w.server.accept (.new config), origins := w.origins ++ [o] }
  | lost : Step T w w
  | server {a server} : a.accepts = false → w.serverMay T a = true → w.server.step a = some server →
      Step T w { w with server := server }

theorem step_cases {a : WorldAct ID C SC D} (h : w.step T a = some u) : Step T w u := by
  cases a with
  | client n a =>
    simp only [step] at h
    split at h
    · rename_i hn
      split at h
      · rename_i hm
        obtain ⟨client, hc, rfl⟩ := Option.map_eq_some_iff.mp h
        exact .client hn hm hc
      · cases h
    · cases h
  | accept o config =>
    simp only [step] at h
    split at h
    · cases h
    · rename_i ho
      cases h
      by_cases hd : w.server.isDropped = true
      · have hs : w.server.accept (.new config) = w.server := by
          unfold Server.accept
          rw [if_pos hd]
        rw [hs, if_pos hd]
        exact .lost
      · rw [if_neg hd]
        exact .accept config ho (by simpa using hd)
  | server a =>
    simp only [step] at h
    split at h
    · cases h
    · rename_i hm
      obtain ⟨server, hs, rfl⟩ := Option.map_eq_some_iff.mp h
      simp only [Bool.or_eq_true, Bool.not_eq_true', not_or, Bool.not_eq_true, Bool.not_eq_false] at hm
      exact .server hm.1 hm.2 hs

/-! ## Each party by itself -/

/-- Every party runs as it does alone, and each connection of the server has an origin of its own. -/
structure Sound (configs : List ClientConfig) (w : World ID C SC D) : Prop where
  clients : ∀ (n : Nat) (client : ClientActor C), w.clients[n]? = some client →
    ∃ config, configs[n]? = some config ∧ Lts.Reach ClientActor.step (.create config) client
  server : Lts.Reach Server.step .create w.server
  length : w.origins.length = w.server.conns.length
  nodup : w.origins.Nodup
  relays : ∀ (i : Nat) (c : Conn ID SC), w.server.conns[i]? = some c → EndToEnd.PeerGood c.body.peer

variable {configs : List ClientConfig}

theorem accept_conns {config : SocketConfig} (hd : w.server.isDropped = false) :
    (w.server.accept (.new config)).conns = w.server.conns ++ [.new (.new config) w.server.inLoop] := by
  unfold Server.accept
  rw [if_neg (by simp [hd])]

theorem step_back {a : ServerAct ID D SC} {s t : Server ID D SC} (ha : a.accepts = false) (h : s.step a = some t) :
    t.conns.length = s.conns.length := by
  rcases step_length h with hl | ⟨socket, he, -⟩
  · exact hl
  · rw [he] at ha
    cases ha

theorem step_sound (g : w.Sound configs) (h : Step T w u) : u.Sound configs := by
  cases h with
  | @client n client client' a hn _ hs =>
    refine { g with clients := List.forall_set hn ?_ fun m other _ hm => g.clients m other hm }
    obtain ⟨config, hc, hr⟩ := g.clients n client hn
    exact ⟨config, hc, hr.tail hs⟩
  | @accept o config ho hd =>
    have hnew : EndToEnd.PeerGood (.accepted (.new config) : Peer ID SC) :=
      ⟨config.2, Socket.new_forwarded _, rfl, rfl⟩
    refine ⟨g.clients, g.server.tail (a := .accept (.new config)) rfl, ?_, ?_, ?_⟩
    · simp only [accept_conns hd, List.length_append, g.length, List.length_singleton]
    · simp only [List.nodup_append, g.nodup, List.nodup_singleton, true_and]
      rintro p hp q hq rfl
      exact ho (List.mem_singleton.mp hq ▸ hp)
    · simp only [accept_conns hd]
      exact List.forall_append_one hnew g.relays
  | lost => exact g
  | @server a server ha _ hs =>
    have n := reach_accounting g.server
    refine ⟨g.clients, g.server.tail hs, g.length.trans (step_back ha hs).symm, g.nodup, fun i d hd => ?_⟩
    obtain ⟨c, hc⟩ : ∃ c, w.server.conns[i]? = some c := by
      have hlt := (List.getElem?_eq_some_iff.mp hd).1
      exact ⟨_, List.getElem?_eq_getElem (by rw [← step_back ha hs]; exact hlt)⟩
    obtain ⟨d', hd', hturns⟩ := step_turns n hs hc
    cases hd.symm.trans hd'
    have hrel := g.relays i c hc
    clear hd hd'
    induction hturns with
    | refl => exact hrel
    | tail _ ht ih => exact turn_relays ih ht

/-! ## The sockets -/

theorem clientSock_some {o : Origin} {x : Socket} : w.clientSock o = some x ↔
    ∃ client, w.clients[o.client]? = some client ∧ client.socks[o.conn]? = some x := Option.bind_eq_some_iff

theorem serverSock_get (hn : w.origins.Nodup) {o : Origin} {i : Nat} (ho : w.origins[i]? = some o) :
    w.serverSock o = (w.server.conns[i]?).map (·.body.sock) := by
  obtain ⟨hlt, he⟩ := List.getElem?_eq_some_iff.mp ho
  have hi : w.origins.idxOf o = i := by
    rw [← he]
    exact hn.idxOf_getElem i hlt
  rw [serverSock, hi]

theorem serverSock_some (g : w.Sound configs) {o : Origin} {x : Socket} : w.serverSock o = some x ↔
    ∃ (i : Nat) (c : Conn ID SC), w.origins[i]? = some o ∧ w.server.conns[i]? = some c ∧ c.body.sock = x := by
  constructor
  · intro h
    obtain ⟨c, hc, hx⟩ := Option.map_eq_some_iff.mp h
    have hlt := (List.getElem?_eq_some_iff.mp hc).1
    rw [← g.length] at hlt
    refine ⟨w.origins.idxOf o, c, ?_, hc, hx⟩
    rw [List.getElem?_eq_getElem hlt, List.getElem_idxOf hlt]
  · rintro ⟨i, c, ho, hc, rfl⟩
    rw [serverSock_get g.nodup ho, hc]
    rfl

/-- What one step makes of a socket: it is used, or its tasks go on as the transport lets them, or it is new. -/
inductive Goes (T : Transport) (other : List InRawMessage) : Option Socket → Option Socket → Prop
  | absent : Goes T other none none
  | new (config : SocketConfig) : Goes T other none (some (.new config))
  | kept {x y : Socket} : x.Kept y → Goes T other (some x) (some y)
  | step {x y : Socket} {b : SocketAct} :
      T.mayYield x other b = true → x.step b = some y → Goes T other (some x) (some y)

theorem Goes.same (T : Transport) (other : List InRawMessage) (x : Option Socket) : Goes T other x x := by
  cases x with
  | none => exact .absent
  | some x => exact .kept (.refl x)

theorem Goes.taken {other : List InRawMessage} {x y : Option Socket} (h : Goes T other x y) :
    Socket.takenBy x <+: Socket.takenBy y := by
  cases h with
  | absent => exact List.prefix_rfl
  | new => exact List.nil_prefix
  | kept hk =>
    unfold Socket.takenBy
    simp only [Option.map_some, Option.getD_some, hk.taken, List.prefix_rfl]
  | step _ hs => exact Socket.step_taken hs

theorem clientSock_goes (h : Step T w u) (o : Origin) :
    Goes T (Socket.takenBy (w.serverSock o)) (w.clientSock o) (u.clientSock o) := by
  cases h with
  | @client n client client' a hn hm hs =>
    by_cases ho : o.client = n
    · have hw : w.clientSock o = client.socks[o.conn]? := by rw [clientSock, ho, hn, Option.bind_some]
      have hu : clientSock { w with clients := w.clients.set n client' } o = client'.socks[o.conn]? := by
        rw [clientSock, List.getElem?_set_of hn, if_pos ho, Option.bind_some]
      rw [hw, hu]
      cases hx : client.socks[o.conn]? with
      | none =>
        cases hy : client'.socks[o.conn]? with
        | none => exact .absent
        | some y =>
          rw [ClientActor.step_new hs hx hy]
          exact .new _
      | some x =>
        obtain ⟨y, hy, hstep⟩ := ClientActor.step_socket hs hx
        rw [hy]
        rcases hstep with hused | ⟨b, rfl, hb⟩
        · exact .kept hused.kept
        · refine .step ?_ hb
          have he : (⟨n, o.conn⟩ : Origin) = o := by rw [← ho]
          simp only [clientMay, he, hw, hx, Option.all_some] at hm
          exact hm
    · have hu : clientSock { w with clients := w.clients.set n client' } o = w.clientSock o := by
        rw [clientSock, List.getElem?_set_of hn, if_neg ho, clientSock]
      rw [hu]
      exact .same T _ _
  | _ => exact .same T _ _

theorem serverSock_goes (g : w.Sound configs) (h : Step T w u) (o : Origin) :
    Goes T (Socket.takenBy (w.clientSock o)) (w.serverSock o) (u.serverSock o) := by
  cases h with
  | @accept p config hp hd =>
    unfold serverSock
    rw [accept_conns hd]
    by_cases ho : o ∈ w.origins
    · have hlt : w.origins.idxOf o < w.server.conns.length := by
        rw [← g.length]
        exact List.idxOf_lt_length_of_mem ho
      rw [List.idxOf_append_of_mem ho, List.getElem?_append_left hlt]
      exact .same T _ _
    · rw [List.idxOf_append_of_notMem ho, List.idxOf_eq_length ho, g.length,
        List.getElem?_eq_none (Nat.le_refl _), List.getElem?_append_right (Nat.le_add_right _ _),
        Nat.add_sub_cancel_left]
      by_cases he : p = o
      · simp only [he, List.idxOf_cons_self, List.getElem?_cons_zero, Option.map_some]
        exact .new _
      · rw [List.idxOf_cons_ne _ he]
        exact .absent
  | @server a server ha hm hs =>
    cases hc : w.server.conns[w.origins.idxOf o]? with
    | none =>
      have hd : server.conns[w.origins.idxOf o]? = none := by
        rw [List.getElem?_eq_none_iff] at hc ⊢
        rw [step_back ha hs]
        exact hc
      unfold serverSock
      rw [hc, hd]
      exact .absent
    | some c =>
      obtain ⟨d, hd, hstep⟩ := step_sock (reach_accounting g.server) hs hc
      have hx : w.serverSock o = some c.body.sock := by rw [serverSock, hc, Option.map_some]
      have hy : serverSock { w with server := server } o = some d.body.sock := by
        rw [serverSock, hd, Option.map_some]
      rw [hx, hy]
      rcases hstep with hk | ⟨b, hb, hs⟩
      · exact .kept hk
      · have hlt := (List.getElem?_eq_some_iff.mp hc).1
        rw [← g.length] at hlt
        refine .step ?_ hs
        simp only [serverMay, hb, Option.all_some, List.getElem?_eq_getElem hlt, List.getElem_idxOf hlt, hx] at hm
        exact hm
  | _ => exact .same T _ _

/-! ## What the transport says -/

/-- The transport's word for a socket that may not be there. -/
def Allowed (T : Transport) (other : List InRawMessage) (x : Option Socket) : Prop :=
  ∀ y, x = some y → T.allows y.yielded other y.toSink.got = true

theorem Goes.allowed {other other' : List InRawMessage} {x y : Option Socket} (h : Goes T other x y)
    (ho : other <+: other') (g : Allowed T other x) : Allowed T other' y := by
  rintro z rfl
  cases h with
  | new => exact T.nil _ _
  | kept hk =>
    rw [hk.yielded, hk.taken]
    exact T.mono ho List.prefix_rfl (g _ rfl)
  | @step x _ b hm hs =>
    have htaken := Socket.step_taken hs
    rcases Socket.step_yielded hs with hy | ⟨item, rfl, hy⟩
    · rw [hy]
      exact T.mono ho htaken (g _ rfl)
    · rw [hy]
      exact T.mono ho htaken hm

structure Carried (T : Transport) (w : World ID C SC D) : Prop where
  toClient : ∀ o, Allowed T (Socket.takenBy (w.serverSock o)) (w.clientSock o)
  toServer : ∀ o, Allowed T (Socket.takenBy (w.clientSock o)) (w.serverSock o)

theorem step_carried (g : w.Sound configs) (hc : Carried T w) (h : Step T w u) : Carried T u where
  toClient o := (clientSock_goes h o).allowed (serverSock_goes g h o).taken (hc.toClient o)
  toServer o := (serverSock_goes g h o).allowed (clientSock_goes h o).taken (hc.toServer o)

theorem reach_carried (h : Lts.Reach (step T) (create configs : World ID C SC D) w) :
    w.Sound configs ∧ Carried T w := by
  have none_client (o : Origin) : (create configs : World ID C SC D).clientSock o = none := by
    unfold clientSock create
    rw [List.getElem?_map]
    cases configs[o.client]? <;> rfl
  refine Lts.reach_inv (I := fun w : World ID C SC D => w.Sound configs ∧ Carried T w) ⟨?_, ?_⟩
    (fun _ _ _ _ g hs => ⟨step_sound g.1 (step_cases hs), step_carried g.1 g.2 (step_cases hs)⟩) h
  · refine ⟨?_, .refl _, rfl, List.nodup_nil, fun i c hc => by simp [create, Server.create] at hc⟩
    intro n client hn
    simp only [create, List.getElem?_map, Option.map_eq_some_iff] at hn
    obtain ⟨config, hc, rfl⟩ := hn
    exact ⟨config, hc, .refl _⟩
  · refine ⟨fun o x hx => ?_, fun o x hx => by simp [serverSock, create, Server.create] at hx⟩
    rw [none_client] at hx
    cases hx

/-! ## Delivery -/

/-- The payloads that the session of connection `i` has been given. -/
def handled (w : World ID C SC D) (i : Nat) : List Payload :=
  ((w.server.session? i).map fun a => a.handled.filterMap Handler.payload).getD []

/-- The payloads that its handle has accepted. -/
def accepted (w : World ID C SC D) (i : Nat) : List Payload := ((w.server.session? i).map (·.accepted)).getD []

theorem carried_payloads {x : Socket} {other : Option Socket} (hf : x.Forwarded)
    (h : Allowed .payloads (Socket.takenBy other) (some x)) :
    x.toOwner.got.filterMap itemPayload <+: (Socket.takenBy other).filterMap InRawMessage.payload :=
  EndToEnd.got_yielded hf (List.isPrefixOf_iff_prefix.mp (h x rfl))

theorem handled_taken (g : w.Sound configs) (hc : Carried .payloads w) {i : Nat} {o : Origin}
    (ho : w.origins[i]? = some o) :
    w.handled i <+: (Socket.takenBy (w.clientSock o)).filterMap InRawMessage.payload := by
  cases hs : w.server.session? i with
  | none =>
    simp only [handled, hs, Option.map_none, Option.getD_none]
    exact List.nil_prefix
  | some a =>
    obtain ⟨c, hi, hb⟩ := Server.session?_some.mp hs
    have hrel := g.relays i c hi
    rw [hb] at hrel
    obtain ⟨-, hf, -, hcons⟩ := hrel
    have hx : w.serverSock o = some a.socket := (serverSock_some g).mpr ⟨i, c, ho, hi, by rw [hb]; rfl⟩
    have hall := hc.toServer o
    rw [hx] at hall
    unfold SessionActor.Consumed at hcons
    simp only [handled, hs, Option.map_some, Option.getD_some, hcons]
    exact carried_payloads hf hall

theorem taken_accepted (g : w.Sound configs) {i : Nat} {o : Origin} (ho : w.origins[i]? = some o) :
    (Socket.takenBy (w.serverSock o)).filterMap InRawMessage.payload <+: w.accepted i := by
  have hlt := (List.getElem?_eq_some_iff.mp ho).1
  rw [g.length] at hlt
  obtain ⟨c, hi⟩ : ∃ c, w.server.conns[i]? = some c := ⟨_, List.getElem?_eq_getElem hlt⟩
  have hx : w.serverSock o = some c.body.sock := (serverSock_some g).mpr ⟨i, c, ho, hi, rfl⟩
  have hrel := g.relays i c hi
  have hsent : c.body.sock.sent <+: w.accepted i := by
    cases hb : c.body with
    | socket x =>
      rw [hb] at hrel
      obtain ⟨-, -, hn, -⟩ := hrel
      rw [Body.sock_socket, hn]
      exact List.nil_prefix
    | session a =>
      rw [hb] at hrel
      obtain ⟨-, -, hs, -⟩ := hrel
      have ha : w.server.session? i = some a := Server.session?_some.mpr ⟨c, hi, hb⟩
      simp only [accepted, ha, Option.map_some, Option.getD_some]
      exact hs.le
  rw [hx]
  exact (EndToEnd.taken_sent _).trans hsent

end World

end Ezsockets
