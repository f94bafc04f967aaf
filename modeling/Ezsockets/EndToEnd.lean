import Ezsockets.Relay
import Mathlib.Logic.Function.Basic

/-!
# End to end

A client, and for each of its connections a socket of the server that a
session is then created on. The transport is a condition on what a stream
yields: its payloads are a prefix of those that the sink of the other side
has taken. What else it yields (pings, pongs, closes, errors), where it ends
and when a connection is made is up to the actions.
-/

namespace Ezsockets

variable {ID C D : Type}

inductive Peer (ID D : Type) where
  | accepted (x : Socket)
  | session (a : SessionActor ID D)

def Peer.socket : Peer ID D → Socket
  | .accepted x => x
  | .session a => a.socket

/-- The payloads that the sink has taken. -/
def Socket.taken (s : Socket) : List Payload := s.toSink.got.filterMap InRawMessage.payload

structure EndToEnd (ID C D : Type) where
  client : ClientActor C
  peers : Nat → Option (Peer ID D)

inductive EndToEndAct (ID C D : Type) where
  | client (a : ClientAct C)
  | accept (k : Nat) (config : { config : SocketConfig // config.Pings })
  | peer (k : Nat) (a : SocketAct)
  | serve (k : Nat) (id : ID)
  | session (k : Nat) (a : SessionAct D)

namespace EndToEnd

def create (config : ClientConfig) : EndToEnd ID C D where
  client := .create config
  peers _ := none

def setPeer (s : EndToEnd ID C D) (k : Nat) (p : Peer ID D) : EndToEnd ID C D :=
  { s with peers := Function.update s.peers k (some p) }

def clientTaken (s : EndToEnd ID C D) (k : Nat) : List Payload :=
  match s.client.socks[k]? with
  | some x => x.taken
  | none => []

def peerTaken (s : EndToEnd ID C D) (k : Nat) : List Payload :=
  match s.peers k with
  | some p => p.socket.taken
  | none => []

def transports (taken : List Payload) (x : Socket) : SocketAct → Bool
  | .streamNext item => ((x.yielded ++ [item]).filterMap framePayload).isPrefixOf taken
  | _ => true

def clientMay (s : EndToEnd ID C D) : ClientAct C → Bool
  | .socket k a =>
    match s.client.socks[k]? with
    | some x => transports (s.peerTaken k) x a
    | none => true
  | _ => true

def sessionMay (s : EndToEnd ID C D) (k : Nat) (p : SessionActor ID D) : SessionAct D → Bool
  | .socket a => transports (s.clientTaken k) p.socket a
  | _ => true

def step (s : EndToEnd ID C D) : EndToEndAct ID C D → Option (EndToEnd ID C D)
  | .client a => if s.clientMay a then (s.client.step a).map fun c => { s with client := c } else none
  | .accept k config =>
    match s.peers k with
    | none => some (s.setPeer k (.accepted (.new config)))
    | some _ => none
  | .peer k a =>
    match s.peers k with
    | some (.accepted x) =>
      if transports (s.clientTaken k) x a then (x.step a).map fun x => s.setPeer k (.accepted x) else none
    | _ => none
  | .serve k id =>
    match s.peers k with
    | some (.accepted x) => some (s.setPeer k (.session (.create id x)))
    | _ => none
  | .session k a =>
    match s.peers k with
    | some (.session p) => if s.sessionMay k p a then (p.step a).map fun p => s.setPeer k (.session p) else none
    | _ => none

variable {s t : EndToEnd ID C D}

/-- A step is one of the client, or changes one peer. -/
inductive Step (s : EndToEnd ID C D) : EndToEnd ID C D → Prop
  | client {a c} : s.clientMay a = true → s.client.step a = some c → Step s { s with client := c }
  | accept {k} (config : { config : SocketConfig // config.Pings }) : s.peers k = none →
      Step s (s.setPeer k (.accepted (.new config)))
  | peer {k x a y} : s.peers k = some (.accepted x) → transports (s.clientTaken k) x a = true → x.step a = some y →
      Step s (s.setPeer k (.accepted y))
  | serve {k x} (id : ID) : s.peers k = some (.accepted x) → Step s (s.setPeer k (.session (.create id x)))
  | session {k p a q} : s.peers k = some (.session p) → s.sessionMay k p a = true → p.step a = some q →
      Step s (s.setPeer k (.session q))

theorem step_cases {a : EndToEndAct ID C D} (h : s.step a = some t) : Step s t := by
  cases a with
  | client a =>
    simp only [step] at h
    split at h
    · rename_i hm
      obtain ⟨c, hc, rfl⟩ := Option.map_eq_some_iff.mp h
      exact .client hm hc
    · cases h
  | accept k config =>
    simp only [step] at h
    split at h
    · rename_i hp; cases h; exact .accept config hp
    · cases h
  | peer k a =>
    simp only [step] at h
    split at h
    · rename_i hp
      split at h
      · rename_i hm
        obtain ⟨y, hy, rfl⟩ := Option.map_eq_some_iff.mp h
        exact .peer hp hm hy
      · cases h
    · cases h
  | serve k id =>
    simp only [step] at h
    split at h
    · rename_i hp; cases h; exact .serve id hp
    · cases h
  | session k a =>
    simp only [step] at h
    split at h
    · rename_i hp
      split at h
      · rename_i hm
        obtain ⟨q, hq, rfl⟩ := Option.map_eq_some_iff.mp h
        exact .session hp hm hq
      · cases h
    · cases h

theorem reach_client {config : ClientConfig} (h : Lts.Reach step (create config) s) :
    Lts.Reach ClientActor.step (.create config) s.client := by
  refine Lts.reach_inv (I := fun s : EndToEnd ID C D => Lts.Reach ClientActor.step (.create config) s.client)
    (.refl _) (fun s a t _ g h => ?_) h
  cases step_cases h with
  | client _ hc => exact g.tail hc
  | _ => exact g

/-! ## The peers -/

def PeerGood : Peer ID D → Prop
  | .accepted x => x.config.Pings ∧ x.Forwarded ∧ x.sent = [] ∧ x.toOwner.got = []
  | .session a => a.socket.config.Pings ∧ a.socket.Forwarded ∧ a.Sending ∧ a.Consumed

theorem setPeer_get (s : EndToEnd ID C D) (k j : Nat) (p : Peer ID D) :
    (s.setPeer k p).peers j = if j = k then some p else s.peers j := by
  unfold setPeer
  exact Function.update_apply ..

theorem forall_setPeer {P : Nat → Peer ID D → Prop} {k : Nat} {p : Peer ID D} (hp : P k p)
    (hs : ∀ j q, j ≠ k → s.peers j = some q → P j q) : ∀ j q, (s.setPeer k p).peers j = some q → P j q := by
  intro j q hq
  rw [setPeer_get] at hq
  by_cases hj : j = k
  · rw [if_pos hj] at hq
    cases hq
    rw [hj]; exact hp
  · rw [if_neg hj] at hq
    exact hs j q hj hq

theorem accepted_good {x y : Socket} {a : SocketAct} (g : PeerGood (.accepted x : Peer ID D))
    (h : x.step a = some y) :
    PeerGood (.accepted y : Peer ID D) := by
  obtain ⟨hc, hf, hs, hg⟩ := g
  obtain ⟨-, -, hgot, hconfig⟩ := Socket.step_owner h
  exact ⟨by rw [hconfig]; exact hc, Socket.step_forwarded hf h, (Socket.step_sent hc h).trans hs, hgot.trans hg⟩

theorem session_good {p q : SessionActor ID D} {a : SessionAct D} (g : PeerGood (.session p))
    (h : p.step a = some q) :
    PeerGood (.session q) := by
  obtain ⟨hc, hf, hs, hg⟩ := g
  refine ⟨?_, ?_, SessionActor.step_sending hc hs h, SessionActor.step_consumed hg h⟩
  · rcases SessionActor.step_uses h with ⟨-, hu⟩ | ⟨b, -, hb⟩
    · rw [hu.kept.config]; exact hc
    · rw [(Socket.step_owner hb).2.2.2]; exact hc
  · rcases SessionActor.step_uses h with ⟨-, hu⟩ | ⟨b, -, hb⟩
    · exact hu.kept.forwards hf
    · exact Socket.step_forwarded hf hb

theorem step_good {a : EndToEndAct ID C D} (g : ∀ k p, s.peers k = some p → PeerGood p) (h : s.step a = some t) :
    ∀ k p, t.peers k = some p → PeerGood p := by
  cases step_cases h with
  | client => exact g
  | accept config =>
    exact forall_setPeer (P := fun _ => PeerGood) ⟨config.2, Socket.new_forwarded _, rfl, rfl⟩ fun j q _ => g j q
  | peer hp _ hy => exact forall_setPeer (P := fun _ => PeerGood) (accepted_good (g _ _ hp) hy) fun j q _ => g j q
  | serve id hp =>
    obtain ⟨hc, hf, hs, hg⟩ := g _ _ hp
    exact forall_setPeer (P := fun _ => PeerGood)
      ⟨hc, hf, SessionActor.create_sending id hs, SessionActor.create_consumed id hg⟩ fun j q _ => g j q
  | session hp _ hq => exact forall_setPeer (P := fun _ => PeerGood) (session_good (g _ _ hp) hq) fun j q _ => g j q

/-! ## The wire -/

/-- What the streams have yielded is a prefix of what the other side's sink has taken. -/
structure Wired (s : EndToEnd ID C D) : Prop where
  toClient : ∀ (k : Nat) (x : Socket), s.client.socks[k]? = some x →
    x.yielded.filterMap framePayload <+: s.peerTaken k
  toPeer : ∀ (k : Nat) (p : Peer ID D), s.peers k = some p →
    p.socket.yielded.filterMap framePayload <+: s.clientTaken k

theorem step_taken {x y : Socket} {a : SocketAct} (h : x.step a = some y) : x.taken <+: y.taken :=
  (Socket.step_taken h).filterMap _

theorem step_transported {taken : List Payload} {x y : Socket} {a : SocketAct}
    (g : x.yielded.filterMap framePayload <+: taken) (hm : transports taken x a = true) (h : x.step a = some y) :
    y.yielded.filterMap framePayload <+: taken := by
  rcases Socket.step_yielded h with hy | ⟨item, rfl, hy⟩
  · rw [hy]; exact g
  · rw [hy]
    exact List.isPrefixOf_iff_prefix.mp hm

theorem kept_taken {x y : Socket} (h : Socket.Kept x y) : y.taken = x.taken := by
  unfold Socket.taken
  rw [h.taken]

theorem clientTaken_some {k : Nat} {x : Socket} (h : s.client.socks[k]? = some x) : s.clientTaken k = x.taken := by
  unfold clientTaken; rw [h]

theorem peerTaken_some {k : Nat} {p : Peer ID D} (h : s.peers k = some p) : s.peerTaken k = p.socket.taken := by
  unfold peerTaken; rw [h]

theorem client_taken {c : ClientActor C} {a : ClientAct C} (h : s.client.step a = some c) (k : Nat) :
    s.clientTaken k <+: clientTaken { s with client := c } k := by
  cases hx : s.client.socks[k]? with
  | none => simp only [clientTaken, hx, List.nil_prefix]
  | some x =>
    obtain ⟨y, hy, hu⟩ := ClientActor.step_socket h hx
    have hy : ({ s with client := c } : EndToEnd ID C D).client.socks[k]? = some y := hy
    rw [clientTaken_some hx, clientTaken_some hy]
    rcases hu with hu | ⟨b, -, hb⟩
    · rw [kept_taken hu.kept]
    · exact step_taken hb

theorem client_wired {c : ClientActor C} {a : ClientAct C} (g : s.Wired) (hm : s.clientMay a = true)
    (h : s.client.step a = some c) : Wired { s with client := c } := by
  refine ⟨fun k y hy => ?_, fun k p hp => (g.toPeer k p hp).trans (client_taken h k)⟩
  have hy : c.socks[k]? = some y := hy
  cases hx : s.client.socks[k]? with
  | none => rw [ClientActor.step_new h hx hy]; exact List.nil_prefix
  | some x =>
    obtain ⟨y', hy', hu⟩ := ClientActor.step_socket h hx
    cases hy.symm.trans hy'
    rcases hu with hu | ⟨b, rfl, hb⟩
    · rw [hu.kept.yielded]; exact g.toClient k x hx
    · simp only [clientMay, hx] at hm
      exact step_transported (g.toClient k x hx) hm hb

/-- A peer that takes nothing back and yields what the transport lets it. -/
theorem Wired.setPeer {k : Nat} {p : Peer ID D} (g : s.Wired) (ht : s.peerTaken k <+: p.socket.taken)
    (hy : p.socket.yielded.filterMap framePayload <+: s.clientTaken k) : (s.setPeer k p).Wired := by
  refine ⟨fun j x hx => (g.toClient j x hx).trans ?_, forall_setPeer hy fun j q _ => g.toPeer j q⟩
  by_cases hj : j = k
  · subst hj
    have hp : (s.setPeer j p).peers j = some p := by rw [setPeer_get, if_pos rfl]
    rw [peerTaken_some hp]; exact ht
  · have hp : (s.setPeer k p).peers j = s.peers j := by rw [setPeer_get, if_neg hj]
    unfold peerTaken
    rw [hp]

theorem session_wired {k : Nat} {p q : SessionActor ID D} {a : SessionAct D} (g : s.Wired)
    (hp : s.peers k = some (.session p)) (hm : s.sessionMay k p a = true) (h : p.step a = some q) :
    (s.setPeer k (.session q)).Wired := by
  have hy := g.toPeer k _ hp
  rcases SessionActor.step_uses h with ⟨-, hu⟩ | ⟨b, rfl, hb⟩
  · refine g.setPeer ?_ ?_
    · have hk := kept_taken hu.kept
      rw [peerTaken_some hp]
      unfold Peer.socket
      rw [hk]
    · have hk := hu.kept.yielded
      unfold Peer.socket at *
      rw [hk]; exact hy
  · refine g.setPeer ?_ (step_transported hy hm hb)
    rw [peerTaken_some hp]; exact step_taken hb

theorem step_wired {a : EndToEndAct ID C D} (g : s.Wired) (h : s.step a = some t) : t.Wired := by
  cases step_cases h with
  | client hm hc => exact client_wired g hm hc
  | accept config hp =>
    refine g.setPeer ?_ List.nil_prefix
    unfold peerTaken
    rw [hp]; exact List.nil_prefix
  | peer hp hm hy =>
    refine g.setPeer ?_ (step_transported (g.toPeer _ _ hp) hm hy)
    rw [peerTaken_some hp]; exact step_taken hy
  | serve id hp =>
    have hy := g.toPeer _ _ hp
    refine g.setPeer ?_ hy
    rw [peerTaken_some hp]; exact List.prefix_rfl
  | session hp hm hq => exact session_wired g hp hm hq

theorem reach_wired {config : ClientConfig} (h : Lts.Reach step (create config) s) :
    s.Wired ∧ ∀ k p, s.peers k = some p → PeerGood p :=
  Lts.reach_inv (I := fun s : EndToEnd ID C D => s.Wired ∧ ∀ k p, s.peers k = some p → PeerGood p)
    ⟨⟨fun k x h => by simp [create, ClientActor.create] at h, (fun k p h => by cases h)⟩, fun k p h => by cases h⟩
    (fun _ _ _ _ g h => ⟨step_wired g.1 h, step_good g.2 h⟩) h

/-! ## Delivery -/

def handled (s : EndToEnd ID C D) (k : Nat) : List Payload :=
  match s.peers k with
  | some (.session a) => a.handled.filterMap Handler.payload
  | _ => []

/-- The payloads that the handle of that session has accepted. -/
def accepted (s : EndToEnd ID C D) (k : Nat) : List Payload :=
  match s.peers k with
  | some (.session a) => a.accepted
  | _ => []

theorem taken_sent (x : Socket) : x.taken <+: x.sent := x.toSink.got_hist.filterMap _

/-- What an owner has taken off its stream comes from the other side's sink. -/
theorem got_yielded {x : Socket} {taken : List Payload} (hf : x.Forwarded)
    (hy : x.yielded.filterMap framePayload <+: taken) : x.toOwner.got.filterMap itemPayload <+: taken :=
  ((x.toOwner.got_hist.filterMap _).trans hf.le).trans hy

theorem handled_taken (hw : s.Wired) (hp : ∀ k p, s.peers k = some p → PeerGood p) (k : Nat) :
    s.handled k <+: s.clientTaken k := by
  unfold handled
  split
  · rename_i a ha
    obtain ⟨-, hf, -, hc⟩ := hp k _ ha
    unfold SessionActor.Consumed at hc
    rw [hc]
    exact got_yielded hf (hw.toPeer k _ ha)
  · exact List.nil_prefix

theorem peerTaken_accepted (hp : ∀ k p, s.peers k = some p → PeerGood p) (k : Nat) :
    s.peerTaken k <+: s.accepted k := by
  cases h : s.peers k with
  | none => simp only [peerTaken, h, List.nil_prefix]
  | some p =>
    rw [peerTaken_some h]
    cases p with
    | accepted x =>
      obtain ⟨-, -, hs, -⟩ := hp k _ h
      have ht := taken_sent x
      rw [hs] at ht
      simp only [accepted, h]
      exact ht
    | session a =>
      obtain ⟨-, -, hs, -⟩ := hp k _ h
      simp only [accepted, h]
      exact (taken_sent _).trans hs.le

/-- On each connection the session is given a prefix of a block of what the client's handle accepted, and these
blocks follow each other; the client is given a prefix of what the handle of the session accepted. -/
theorem delivered_in_order {config : ClientConfig} (hc : config.socket.Pings)
    (h : Lts.Reach step (create config) s) :
    ∃ start stop : Nat → Nat, (∀ k, start k ≤ stop k ∧ stop k ≤ s.client.toSocket.hist.length) ∧
      (∀ i j, i < j → stop i ≤ start j) ∧
      ∀ k, s.handled k <+:
          ((s.client.toSocket.hist.drop (start k)).take (stop k - start k)).filterMap InMessage.payload ∧
        s.client.received k <+: s.accepted k := by
  have hr := reach_client h
  obtain ⟨hw, hp⟩ := reach_wired h
  obtain ⟨hn, b, hb⟩ := ClientActor.reach_handing hr
  refine ⟨b.start, b.stop, fun k => ⟨b.start_le_stop k, ?_⟩, fun i j => b.stop_le_start, fun k => ⟨?_, ?_⟩⟩
  · have hk := b.stop_le k
    have hg := s.client.toSocket.got_hist.length_le
    rw [hb.cursor] at hk
    exact Nat.le_trans hk hg
  · apply (handled_taken hw hp k).trans
    cases hx : s.client.socks[k]? with
    | none => simp only [clientTaken, hx, List.nil_prefix]
    | some x =>
      rw [clientTaken_some hx, ← ClientActor.sent_block hn (ClientActor.reach_silent hc hr) hb hx]
      exact taken_sent x
  · have hg := ClientActor.reach_reading hr
    cases hx : s.client.socks[k]? with
    | none => rw [ClientActor.received_none hg hx]; exact List.nil_prefix
    | some x =>
      rw [ClientActor.received_eq hg hx]
      exact (got_yielded (ClientActor.socks_forwarded hr hx) (hw.toClient k x hx)).trans (peerTaken_accepted hp k)

/-- The session gets the client's first message and answers it; the second one is discarded when the connection
dies, and the session of the next connection gets the third. -/
theorem delivered_in_order_three : ∃ (as : List (EndToEndAct Nat Nat Nat)) (s : EndToEnd Nat Nat Nat),
    Lts.exec step (create ⟨1, 1, none⟩) as = some s ∧ s.handled 0 = [.binary [1]] ∧ s.handled 1 = [.binary [3]] ∧
      s.client.received 0 = [.binary [9]] ∧ ∃ start stop : Nat → Nat, stop 0 ≤ start 1 ∧
      ∀ k, s.handled k <+:
        ((s.client.toSocket.hist.drop (start k)).take (stop k - start k)).filterMap InMessage.payload := by
  let first : List (EndToEndAct Nat Nat Nat) := [
    .client .tryRecv, .client .connected, .client (.onConnectReturn (.ok ())),
    .accept 0 ⟨.default, SocketConfig.default_pings⟩,
    .client (.binary [1]), .client .outgoing, .client (.socket 0 .sinkRecv),
    .client (.socket 0 (.sinkSend (.ok ()))),
    .peer 0 (.streamNext (.ok (.binary [1]))), .serve 0 7, .session 0 .incoming, .session 0 (.binary [9]),
    .session 0 (.handlerReturn (.ok ())), .session 0 .outgoing, .session 0 (.socket .sinkRecv),
    .client (.socket 0 (.streamNext (.ok (.binary [9])))), .client .incoming, .client (.handlerReturn (.ok ()))]
  let second : List (EndToEndAct Nat Nat Nat) := [
    .client (.binary [2]), .client (.socket 0 .streamEnd), .client .incoming,
    .client (.onDisconnectReturn (.ok .reconnect)), .client .tryRecv, .client .tryRecv, .client .connected,
    .client (.onConnectReturn (.ok ())), .accept 1 ⟨.default, SocketConfig.default_pings⟩, .serve 1 8,
    .client (.binary [3]), .client .outgoing, .client (.socket 1 .sinkRecv),
    .session 1 (.socket (.streamNext (.ok (.binary [3])))),
    .session 1 .incoming]
  have h : Lts.exec step (create ⟨1, 1, none⟩) (first ++ second) = some _ :=
    Lts.exec_append (show Lts.exec step (create ⟨1, 1, none⟩) first = some _ from rfl) rfl
  have hc : (ClientConfig.socket ⟨1, 1, none⟩).Pings := SocketConfig.default_pings
  obtain ⟨start, stop, -, ho, hk⟩ := delivered_in_order hc ⟨_, h⟩
  exact ⟨_, _, h, rfl, rfl, rfl, start, stop, ho 0 1 (by decide), fun k => (hk k).1⟩

end EndToEnd

end Ezsockets
