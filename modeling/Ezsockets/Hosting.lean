import Ezsockets.Acceptor
import Ezsockets.Blocks
import Ezsockets.CallWith
import Ezsockets.Registry

/-!
# A runner and its server

A `Front` is the part of a runner that makes connections: what it has given
to `Server::accept`, in order. `Hosted` is a front with the server behind it.
`on_connect` is given the requests and the addresses that the front has
accepted, in this order and each once (`opened_spec`), whatever else the
server does.
-/

namespace Ezsockets

structure Front (σ α : Type) where
  step : σ → α → Option σ
  accepted : σ → List Accepted
  grows : ∀ {s a t}, step s a = some t → accepted s <+: accepted t

/-- `arguments` are the request and the address that came with each connection of the server. -/
structure Hosted (σ ID C SC : Type) where
  front : σ
  server : Server ID C SC
  arguments : List Accepted

inductive HostedAct (α ID C SC : Type) where
  | front (a : α)
  | server (a : ServerAct ID C SC)

def ServerAct.accepts {ID C SC : Type} : ServerAct ID C SC → Bool
  | accept _ => true
  | _ => false

namespace Hosted

variable {σ α ID C SC : Type}

def start (front : σ) : Hosted σ ID C SC := ⟨front, .create, []⟩

/-- `Server::accept` with a new socket. A server that has stopped drops what it is given. -/
def accept (config : SocketConfig) (s : Hosted σ ID C SC) (w : Accepted) : Hosted σ ID C SC :=
  { s with
    server := s.server.accept (.new config)
    arguments := if s.server.isDropped then s.arguments else s.arguments ++ [w] }

/-- Connections come from the front only. -/
def step (F : Front σ α) (config : SocketConfig) (s : Hosted σ ID C SC) :
    HostedAct α ID C SC → Option (Hosted σ ID C SC)
  | .front a => (F.step s.front a).map fun front =>
      ((F.accepted front).drop (F.accepted s.front).length).foldl (accept config) { s with front := front }
  | .server a => if a.accepts then none else (s.server.step a).map fun server => { s with server := server }

/-- What `on_connect` has been given. -/
def opened (s : Hosted σ ID C SC) : List Accepted :=
  (s.server.log.filterMap Callback.asked?).filterMap (s.arguments[·]?)

/-- What came with the connections that wait for the server's actor. -/
def waiting (s : Hosted σ ID C SC) : List Accepted := s.server.connections.queue.filterMap (s.arguments[·]?)

variable {F : Front σ α} {config : SocketConfig} {front₀ : σ} {s t : Hosted σ ID C SC}

/-- The arguments belong to the connections, and they are those of `history` while there is an actor to take
them. -/
structure Fed (history : List Accepted) (s : Hosted σ ID C SC) : Prop where
  server : Lts.Reach Server.step .create s.server
  length : s.arguments.length = s.server.conns.length
  le : s.arguments <+: history
  all : s.server.isDropped = false → s.arguments = history

theorem Fed.accept {history : List Accepted} (config : SocketConfig) (g : s.Fed history) (w : Accepted) :
    (s.accept config w).Fed (history ++ [w]) := by
  have hr : Lts.Reach Server.step .create (s.accept config w).server :=
    g.server.tail (a := .accept (.new config)) rfl
  by_cases hd : s.server.isDropped = true
  · have ha : s.accept config w = s := by
      unfold Hosted.accept Server.accept
      rw [if_pos hd, if_pos hd]
    rw [ha]
    refine ⟨g.server, g.length, g.le.trans (List.prefix_append ..), fun hn => ?_⟩
    rw [hd] at hn
    cases hn
  · have hw : (s.accept config w).arguments = s.arguments ++ [w] := if_neg hd
    have hall : s.arguments = history := g.all (by simpa using hd)
    refine ⟨hr, ?_, ?_, fun _ => ?_⟩
    · rw [hw]
      simp [Hosted.accept, Server.accept, hd, g.length]
    · rw [hw, hall]
    · rw [hw, hall]

theorem Fed.foldl (config : SocketConfig) {l : List Accepted} :
    ∀ {history : List Accepted} {s : Hosted σ ID C SC}, s.Fed history →
    (l.foldl (Hosted.accept config) s).Fed (history ++ l) := by
  induction l with
  | nil =>
    intro history s g
    rw [List.append_nil]
    exact g
  | cons w l ih =>
    intro history s g
    have h := ih (g.accept config w)
    rwa [List.append_assoc] at h

theorem accept_front (l : List Accepted) : ∀ s : Hosted σ ID C SC,
    (l.foldl (accept config) s).front = s.front := by
  induction l with
  | nil => exact fun _ => rfl
  | cons w l ih => exact fun s => ih (s.accept config w)

theorem Fed.server_step {history : List Accepted} {a : ServerAct ID C SC} {server : Server ID C SC}
    (g : s.Fed history) (h : s.server.step a = some server) (hn : a.accepts = false) :
    ({ s with server := server } : Hosted σ ID C SC).Fed history := by
  have hl : server.conns.length = s.server.conns.length := by
    rcases step_length h with hl | ⟨socket, ha, -⟩
    · exact hl
    · rw [ha] at hn; cases hn
  refine ⟨g.server.tail h, g.length.trans hl.symm, g.le, fun hd => g.all ?_⟩
  cases Server.step_inbox h with
  | call _ _ _ hs | take hs => exact hs
  | drop ht => exact absurd (ht.symm.trans hd) (by decide)
  | other _ _ _ hs => exact hs.symm.trans hd

theorem step_cases {a : HostedAct α ID C SC} (h : s.step F config a = some t) :
    (∃ b front, F.step s.front b = some front ∧
      t = ((F.accepted front).drop (F.accepted s.front).length).foldl (accept config) { s with front := front }) ∨
    ∃ b server, s.server.step b = some server ∧ b.accepts = false ∧ t = { s with server := server } := by
  cases a with
  | front b =>
    obtain ⟨front, hf, rfl⟩ := Option.map_eq_some_iff.mp h
    exact .inl ⟨b, front, hf, rfl⟩
  | server b =>
    simp only [step] at h
    split at h
    · cases h
    · rename_i hn
      obtain ⟨server, hs, rfl⟩ := Option.map_eq_some_iff.mp h
      exact .inr ⟨b, server, hs, by simpa using hn, rfl⟩

theorem step_front {a : α} {front : σ} {w : Accepted} (h : F.step s.front a = some front)
    (hw : F.accepted front = F.accepted s.front ++ [w]) :
    s.step F config (.front a) = some (accept config { s with front := front } w) := by
  simp only [step, h, Option.map_some, hw, List.drop_left]
  rfl

theorem reach_fed (h₀ : F.accepted front₀ = []) (h : Lts.Reach (step F config) (start front₀) s) :
    Lts.Reach F.step front₀ s.front ∧ s.Fed (F.accepted s.front) := by
  refine Lts.reach_inv
    (I := fun s : Hosted σ ID C SC => Lts.Reach F.step front₀ s.front ∧ s.Fed (F.accepted s.front))
    ⟨.refl _, .refl _, rfl, List.nil_prefix, fun _ => h₀.symm⟩ ?_ h
  intro s a t _ ⟨hf, g⟩ ht
  rcases step_cases ht with ⟨b, front, hb, rfl⟩ | ⟨b, server, hb, hn, rfl⟩
  · have hall : F.accepted s.front ++ (F.accepted front).drop (F.accepted s.front).length = F.accepted front :=
      List.prefix_iff_eq_append.mp (F.grows hb)
    have g' : ({ s with front := front } : Hosted σ ID C SC).Fed (F.accepted s.front) :=
      ⟨g.server, g.length, g.le, g.all⟩
    have hfed := Fed.foldl config (l := (F.accepted front).drop (F.accepted s.front).length) g'
    rw [accept_front]
    rw [hall] at hfed
    exact ⟨hf.tail hb, hfed⟩
  · exact ⟨hf, g.server_step hb hn⟩

theorem accept_shuttingDown (l : List Accepted) : ∀ s : Hosted σ ID C SC,
    (l.foldl (accept config) s).server.shuttingDown = s.server.shuttingDown := by
  induction l with
  | nil => exact fun _ => rfl
  | cons w l ih =>
    intro s
    refine (ih (s.accept config w)).trans ?_
    unfold Hosted.accept Server.accept
    split <;> rfl

/-- A run of the front alone is one of the front with its server. -/
theorem exec_front (config : SocketConfig) {as : List α} :
    ∀ {s : Hosted σ ID C SC} {front : σ}, Lts.exec F.step s.front as = some front →
    ∃ t, Lts.exec (step F config) s (as.map .front) = some t ∧ t.front = front ∧
      t.server.shuttingDown = s.server.shuttingDown := by
  induction as with
  | nil =>
    intro s front h
    cases h
    exact ⟨s, rfl, rfl, rfl⟩
  | cons a as ih =>
    intro s front h
    obtain ⟨mid, hm, hrest⟩ := Lts.exec_cons_inv h
    let u : Hosted σ ID C SC :=
      ((F.accepted mid).drop (F.accepted s.front).length).foldl (accept config) { s with front := mid }
    have hu : s.step F config (.front a) = some u := by
      simp only [step, hm, Option.map_some]
      rfl
    have hf : u.front = mid := accept_front _ _
    obtain ⟨t, ht, hft, hsd⟩ := ih (s := u) (by rw [hf]; exact hrest)
    exact ⟨t, Lts.exec_cons hu ht, hft, hsd.trans (accept_shuttingDown _ _)⟩

theorem filterMap_range (l : List Accepted) (n : Nat) : (List.range n).filterMap (l[·]?) = l.take n := by
  rw [List.range_eq_range', List.filterMap_range', List.drop_zero]

/-- The calls of `on_connect` are given what the front has accepted, in its order, each at most once and nothing
else. Until shutdown begins, what `on_connect` was not given yet waits for the actor. -/
theorem opened_spec (h₀ : F.accepted front₀ = []) (h : Lts.Reach (step F config) (start front₀) s) :
    s.opened <+: F.accepted s.front ∧
      (s.server.shuttingDown = false → s.opened ++ s.waiting = F.accepted s.front) := by
  obtain ⟨-, g⟩ := reach_fed h₀ h
  have r : s.server.registry.Lawful := Registry.reach_lawful (server_refines.reach g.server)
  have hopened : s.opened = s.arguments.take s.server.registry.asked.length := by
    rw [← filterMap_range, ← r.asked]
    rfl
  refine ⟨?_, fun hs => ?_⟩
  · rw [hopened]
    exact (List.take_prefix ..).trans g.le
  · have hd : s.server.isDropped = false := by
      by_contra hd
      have hl : s.server.inLoop = false := Server.isDropped_inLoop (by simpa using hd)
      have hc := (r.finished (by simp [Server.registry, hl])).1
      exact absurd (hc.symm.trans hs) (by decide)
    have hq := reach_arrivals g.server hd
    have hgot : s.server.registry.asked = s.server.connections.got := by
      have hp : s.server.connections.got <+: List.range s.server.conns.length := by
        rw [← hq]
        exact Chan.got_hist _
      have hle : s.server.connections.got.length ≤ s.server.conns.length := by simpa using hp.length_le
      have htake := List.prefix_iff_eq_take.mp hp
      rw [List.take_range, Nat.min_eq_left hle] at htake
      rw [r.asked, r.all hs, htake]
      simp [Server.registry]
    have hall : s.opened ++ s.waiting = s.server.connections.hist.filterMap (s.arguments[·]?) := by
      unfold opened waiting Chan.hist
      rw [List.filterMap_append, ← hgot]
      rfl
    rw [hall, hq, filterMap_range, ← g.length, List.take_length]
    exact g.all hd

end Hosted

/-! ## The accept loop -/

namespace AcceptLoop

variable {ID C SC : Type} {http : HttpCrate} {hs : Handshakes}

theorem step_accepted {s t : AcceptLoop} {a : AcceptAct} (h : s.step http hs a = some t) :
    s.accepted <+: t.accepted := by
  cases step_cases h with
  | done => exact List.prefix_append ..
  | _ => exact List.prefix_rfl

variable (http hs) in
def front : Front AcceptLoop AcceptAct where
  step := step http hs
  accepted := accepted
  grows := step_accepted

/-- The server's `on_connect` is called for peers that have finished their handshakes, TLS included, in the order of
the loop and at most once for each, with the address of the peer and the head of the request that it has sent. Until
shutdown begins no peer that was accepted is left out. -/
theorem listener_to_on_connect (http : HttpCrate) (hs : Handshakes) (acceptor : Acceptor)
    {s : Hosted AcceptLoop ID C SC}
    (h : Lts.Reach (Hosted.step (front http hs) .default) (.start (start acceptor)) s) :
    (s.opened.map Accepted.peer).Nodup ∧
      (∀ c ∈ s.opened, ∃ p, s.front.peers[c.peer]? = some p ∧ p.address = c.address ∧
        s.front.acceptor.accept http hs c.peer p = .done c.request ∧
        hs.websocket s.front.acceptor c.peer p.sent = .done c.request) ∧
      s.opened <+: s.front.accepted ∧
      (s.server.shuttingDown = false → s.opened ++ s.waiting = s.front.accepted) := by
  obtain ⟨hle, hall⟩ := Hosted.opened_spec (F := front http hs) rfl h
  obtain ⟨hn, hf⟩ := accepted_faithful (Hosted.reach_fed (F := front http hs) rfl h).1
  refine ⟨?_, fun c hc => hf c (hle.subset hc), hle, hall⟩
  exact (hle.sublist.map _).nodup hn

theorem handshake_known {s : Hosted AcceptLoop ID C SC} {k : Nat} {address : SocketAddr}
    (ha : s.front.acceptor = .plain)
    (hk : s.front.phase = .websocket k) (hp : s.front.peers[k]? = some ⟨address, requestBytes, false⟩) :
    s.step (front .standard knownRequest) .default (.front .handshake) =
      some (Hosted.accept .default { s with front := { s.front with
        phase := .listening, accepted := s.front.accepted ++ [⟨k, requestHead, address⟩] } }
          ⟨k, requestHead, address⟩) := by
  have ho : s.front.acceptor.websocketOutcome .standard knownRequest k ⟨address, requestBytes, false⟩ =
      .done requestHead := by
    rw [ha]
    exact plain_accept k address false
  apply Hosted.step_front
  · simp only [front, step, handshake, hk, hp, ho]
  · rfl

/-- Two peers connect and send their requests. -/
def hostedRun (bytes : List UInt8) : List (HostedAct AcceptAct Nat Nat Nat) := [
  .front (.connect ⟨"a"⟩), .front (.connect ⟨"b"⟩), .front (.send 0 bytes), .front (.send 1 bytes), .front .accept]

theorem listener_to_on_connect_two : ∃ s : Hosted AcceptLoop Nat Nat Nat,
    Lts.exec (Hosted.step (front .standard knownRequest) .default) (.start (start .plain))
      (hostedRun requestBytes ++ [.front .handshake, .server .takeConnection, .front .accept] ++
      [.front .handshake]) =
        some s ∧
    s.opened = [⟨0, requestHead, ⟨"a"⟩⟩] ∧ s.waiting = [⟨1, requestHead, ⟨"b"⟩⟩] ∧
    s.opened ++ s.waiting = s.front.accepted := by
  have first : Lts.exec (Hosted.step (front .standard knownRequest) .default) (.start (start .plain))
    (hostedRun requestBytes) = some ⟨twoPeers requestBytes requestBytes, .create, []⟩ := rfl
  have second := Lts.exec_append first (Lts.exec_cons (handshake_known rfl rfl rfl)
    (show Lts.exec _ _ [.server .takeConnection, .front .accept] = some _ from rfl))
  have h := Lts.exec_snoc second (handshake_known (k := 1) rfl rfl rfl)
  exact ⟨_, h, rfl, rfl, (listener_to_on_connect .standard knownRequest .plain ⟨_, h⟩).2.2.2 rfl⟩

/-- Where every pending peer has sent enough to be served or given up, the loop alone gives each peer that has
finished its handshakes to the server, in as many steps as its distance, and it is asked about or waits for the
actor. -/
theorem settled_peers_served (http : HttpCrate) (hs : Handshakes) (acceptor : Acceptor)
    {s : Hosted AcceptLoop ID C SC}
    (h : Lts.Reach (Hosted.step (front http hs) .default) (.start (start acceptor)) s)
    (hd : s.server.shuttingDown = false) (hall : ∀ j, s.front.Pending j → s.front.Settled http hs j) {k : Nat}
    (hk : s.front.Pending k) (hc : s.front.Complete http hs k) :
    ∃ (as : List AcceptAct) (t : Hosted AcceptLoop ID C SC), (∀ a ∈ as, a.isLoop = true) ∧
      as.length ≤ s.front.distance k ∧
      Lts.exec (Hosted.step (front http hs) .default) s (as.map .front) = some t ∧
        ∃ c ∈ t.opened ++ t.waiting, c.peer = k := by
  have hr := (Hosted.reach_fed (F := front http hs) rfl h).1
  obtain ⟨as, u, hl, hlen, hu, hacc⟩ := served _ (Nat.le_refl _) (reach_sound hr) hall hk hc
  obtain ⟨t, ht, rfl, hsd⟩ := Hosted.exec_front (F := front http hs) .default hu
  refine ⟨as, t, hl, hlen, ht, ?_⟩
  have hspec := (Hosted.opened_spec (F := front http hs) rfl (h.trans ⟨_, ht⟩)).2 (hsd.trans hd)
  rw [hspec]
  exact hacc

/-- The second peer waits in the backlog while the loop is in the handshake of the first. -/
theorem settled_peers_served_two : ∃ s : Hosted AcceptLoop Nat Nat Nat,
    Lts.exec (Hosted.step (front .standard knownRequest) .default) (.start (start .plain))
    (hostedRun requestBytes) =
      some s ∧ s.front.Pending 1 ∧ s.opened ++ s.waiting = [] ∧ s.front.distance 1 = 4 ∧
    ∃ (as : List AcceptAct) (t : Hosted AcceptLoop Nat Nat Nat), (∀ a ∈ as, a.isLoop = true) ∧ as.length ≤ 4 ∧
      Lts.exec (Hosted.step (front .standard knownRequest) .default) s (as.map .front) = some t ∧
        ∃ c ∈ t.opened ++ t.waiting, c.peer = 1 := by
  have h : Lts.exec (Hosted.step (front .standard knownRequest) .default) (.start (start .plain))
    (hostedRun requestBytes) = some ⟨twoPeers requestBytes requestBytes, .create, []⟩ := rfl
  have hall (j : Nat) (hj : (twoPeers requestBytes requestBytes).Pending j) :
      (twoPeers requestBytes requestBytes).Settled .standard knownRequest j := by
    rcases hj with hb | hp
    · cases List.mem_singleton.mp hb
      exact (complete_known rfl rfl).settled
    · cases hp
      exact (complete_known rfl rfl).settled
  exact ⟨_, h, .inl List.mem_cons_self, rfl, rfl, settled_peers_served .standard knownRequest .plain ⟨_, h⟩ rfl hall
    (.inl List.mem_cons_self) (complete_known rfl rfl)⟩

end AcceptLoop

end Ezsockets
