import Ezsockets.ClientQueue
import Ezsockets.ClientStream
import Ezsockets.Owner
import Ezsockets.SessionStream

/-!
# How payloads pass through an endpoint

Each stage passes on a prefix of what came into it: what an owner is given
is forwarded from what the stream has yielded (`Forwarded`), and what is sent
comes from the handle's queue (`Sending` for a session, `sent_block` for a
client), as long as the heartbeat sends only pings (`Pings`).
-/

namespace Ezsockets

variable {ID C : Type}

def framePayload : Except WSError RawMessage → Option Payload
  | .ok message => message.payload
  | .error _ => none

def SocketConfig.Pings (config : SocketConfig) : Prop :=
  ∀ timestamp, ∃ bytes, config.heartbeatPingMsgFn timestamp = .ping bytes

theorem SocketConfig.default_pings : SocketConfig.default.Pings := fun _ => ⟨_, rfl⟩

namespace Socket

variable {s t : Socket}

/-- The payloads that have been put into the sink. -/
def sent (s : Socket) : List Payload := s.toSink.hist.filterMap InRawMessage.payload

theorem Beat.payload (hc : s.config.Pings) {m : InRawMessage} (h : s.Beat m) : m.payload = none := by
  rcases h with rfl | ⟨timestamp, rfl⟩
  · rfl
  · obtain ⟨bytes, hb⟩ := hc timestamp
    rw [hb]; rfl

theorem step_sent {a : SocketAct} (hc : s.config.Pings) (h : s.step a = some t) : t.sent = s.sent := by
  obtain ⟨l, hl, hb⟩ := step_adds h
  have hn : l.filterMap InRawMessage.payload = [] := List.filterMap_eq_nil_iff.mpr fun m hm => (hb m hm).payload hc
  rw [sent, hl, List.filterMap_append, hn, List.append_nil]; rfl

@[simp] theorem drop_sent : s.drop.sent = s.sent := by simp [sent, drop]

theorem send_sent (m : InMessage) (h : (s.send m).2 = true) : (s.send m).1.sent = s.sent ++ m.payload.toList := by
  have hs : s.send m = s.sendRaw m.toRaw := rfl
  cases hc : s.sink.isClosed with
  | true => rw [hs, sendRaw_closed _ hc] at h; cases h
  | false =>
    rw [hs, sendRaw_open _ hc, ← InMessage.toRaw_payload]
    cases hm : m.toRaw.payload <;> simp [sent, hm]

theorem send_sent_failed (m : InMessage) (h : (s.send m).2 = false) : (s.send m).1.sent = s.sent := by
  have hs : s.send m = s.sendRaw m.toRaw := rfl
  cases hc : s.sink.isClosed with
  | true => rw [hs, sendRaw_closed _ hc]; rfl
  | false => rw [hs, sendRaw_open _ hc] at h; cases h

/-- What the owner can take is a prefix of what the stream has yielded, and all of it while there is a stream. -/
structure Forwarded (s : Socket) : Prop where
  le : s.toOwner.hist.filterMap itemPayload <+: s.yielded.filterMap framePayload
  all : s.streaming = true → s.toOwner.hist.filterMap itemPayload = s.yielded.filterMap framePayload

theorem new_forwarded (config : SocketConfig) : Forwarded (new config) := ⟨List.prefix_rfl, fun _ => rfl⟩

theorem Forwarded.keep (g : Forwarded s) (ho : t.toOwner.hist = s.toOwner.hist) (hy : t.yielded = s.yielded)
    (hs : t.streaming = true → s.streaming = true) : Forwarded t := by
  refine ⟨?_, fun h => ?_⟩
  · rw [ho, hy]; exact g.le
  · rw [ho, hy]; exact g.all (hs h)

theorem Kept.forwards (h : Kept s t) (g : Forwarded s) : Forwarded t :=
  g.keep h.forwarded h.yielded fun hs => h.streaming.symm.trans hs

theorem forward_cases (s : Socket) (item : Except WSError RawMessage) :
    ((s.forward item).toOwner.hist.filterMap itemPayload =
      s.toOwner.hist.filterMap itemPayload ++ (framePayload item).toList) ∨
    ((s.forward item).streaming = false ∧ (s.forward item).toOwner = s.toOwner) := by
  cases ho : s.owned with
  | true =>
    left
    rcases item with err | (x | x | x | x | x)
    all_goals simp [forward, ho, framePayload, RawMessage.payload, itemPayload, Message.payload]
  | false =>
    rcases item with err | (x | x | x | x | x)
    · exact .inr (by simp [forward, ho])
    · exact .inr (by simp [forward, ho])
    · exact .inr (by simp [forward, ho])
    · exact .inl (by simp [forward, framePayload, RawMessage.payload])
    · exact .inl (by simp [forward, framePayload, RawMessage.payload])
    · exact .inr (by simp [forward, ho])

theorem streamNext_forwarded (item : Except WSError RawMessage) (g : Forwarded s) (hs : s.streaming = true) :
    Forwarded (forward { s with yielded := s.yielded ++ [item] } item) := by
  have hy : (forward { s with yielded := s.yielded ++ [item] } item).yielded = s.yielded ++ [item] := by
    rw [forward_frame]
  have hf : [item].filterMap framePayload = (framePayload item).toList := by
    cases h : framePayload item <;> simp [h]
  rcases forward_cases { s with yielded := s.yielded ++ [item] } item with h | ⟨h, ho⟩
  · have heq : (forward { s with yielded := s.yielded ++ [item] } item).toOwner.hist.filterMap itemPayload =
        (forward { s with yielded := s.yielded ++ [item] } item).yielded.filterMap framePayload := by
      rw [h, hy, List.filterMap_append, hf, ← g.all hs]
    exact ⟨by rw [heq], fun _ => heq⟩
  · refine ⟨?_, fun hc => ?_⟩
    · rw [ho, hy, List.filterMap_append]
      exact g.le.trans (List.prefix_append ..)
    · rw [h] at hc; cases hc

theorem step_forwarded {a : SocketAct} (g : Forwarded s) (h : s.step a = some t) : Forwarded t := by
  cases step_cases h with
  | streamNext item hs => exact streamNext_forwarded item g hs
  | streamEnd | streamPanic => exact g.keep rfl rfl (fun h => by cases h)
  | heartbeat _ he => rw [handleHeartbeat_frame he]; exact g.keep rfl rfl fun h => h
  | heartbeatEnd _ he =>
    refine g.keep ?_ ?_ ?_
    · rw [free_toOwner, handleHeartbeat_frame he]
    · rw [free_yielded, handleHeartbeat_frame he]
    · rw [free_streaming, handleHeartbeat_frame he]; exact fun h => h
  | supervise h => rw [supervise_frame h]; exact g.keep rfl rfl fun h => h
  | _ => exact g.keep (by simp) (by simp) (by simp)

/-! ## The ends of the wire -/

theorem step_taken {a : SocketAct} (h : s.step a = some t) : s.toSink.got <+: t.toSink.got := by
  cases step_cases h with
  | sinkRecvNone _ hp | sinkRecv _ hp =>
    have hg := (Chan.pop?_some.mp hp).2
    simp only [hg, List.prefix_append]
  | streamNext item _ => rw [forward_frame]
  | heartbeat _ he =>
    have hg := handleHeartbeat_got he
    simp only [hg, List.prefix_rfl]
  | heartbeatEnd _ he => rw [free_toSink]; simp only [handleHeartbeat_got he, List.prefix_rfl]
  | supervise h => rw [supervise_frame h]
  | _ => simp

end Socket

/-! ## A session -/

namespace SessionActor

variable {s t : SessionActor ID C}

/-- The payloads that the handle has accepted. -/
def accepted (s : SessionActor ID C) : List Payload := s.toSocket.hist.filterMap InMessage.payload

structure Sending (s : SessionActor ID C) : Prop where
  le : s.socket.sent <+: s.accepted
  taken : s.live = true → s.socket.sent = s.toSocket.got.filterMap InMessage.payload

theorem create_sending (id : ID) {socket : Socket} (h : socket.sent = []) :
    (create id socket : SessionActor ID C).Sending := by
  have hs : (create id socket : SessionActor ID C).socket.sent = [] := h
  refine ⟨?_, fun _ => h⟩
  rw [hs]
  exact List.nil_prefix

theorem Sending.keep (g : s.Sending) (hq : t.toSocket.got = s.toSocket.got)
    (hh : s.toSocket.hist <+: t.toSocket.hist)
    (hs : t.socket.sent = s.socket.sent) (hl : t.live = true → s.live = true) : t.Sending := by
  refine ⟨?_, fun h => ?_⟩
  · rw [hs]
    exact g.le.trans (hh.filterMap _)
  · rw [hs, hq]; exact g.taken (hl h)

theorem finish_sending (g : s.Sending) (hq : t.toSocket = s.toSocket) (hs : t.socket.sent = s.socket.sent)
    (res : Option SessionResult) : (t.finish res).Sending := by
  refine g.keep (by rw [← hq]; rfl) (by rw [← hq]; exact List.prefix_rfl) ?_ (fun h => by simp [finish, live] at h)
  simpa [finish] using hs

theorem taken_payload {m : InMessage} {c : Chan InMessage} (g : s.Sending) (hl : s.live = true)
    (h : s.toSocket.pop? = some (m, c)) :
    c.got.filterMap InMessage.payload = s.socket.sent ++ m.payload.toList := by
  rw [(Chan.pop?_some.mp h).2, List.filterMap_append, g.taken hl]
  cases hm : m.payload <;> simp [hm]

/-- The message is added to what was sent if the sink is there to take it. -/
theorem outgoing_sent {m : InMessage} {c : Chan InMessage} (g : s.Sending) (hl : s.live = true)
    (h : s.toSocket.pop? = some (m, c)) : (s.socket.send m).1.sent <+: c.hist.filterMap InMessage.payload := by
  have hle : s.socket.sent ++ m.payload.toList <+: c.hist.filterMap InMessage.payload := by
    rw [← taken_payload g hl h]
    exact c.got_hist.filterMap _
  cases hok : (s.socket.send m).2 with
  | true => rw [Socket.send_sent m hok]; exact hle
  | false => rw [Socket.send_sent_failed m hok]; exact (List.prefix_append ..).trans hle

theorem step_sending {a : SessionAct C} (hc : s.socket.config.Pings) (g : s.Sending) (h : s.step a = some t) :
    t.Sending := by
  cases step_cases h with
  | text m | binary m | close m =>
    unfold send
    split
    · exact g.keep rfl (by simp) rfl fun h => h
    · exact g
  | call c =>
    refine g.keep (by rw [call_toSocket]) (by rw [call_toSocket]) (by rw [call_socket]) fun h => ?_
    simpa [live] using h
  | handOver hp hq _ hok =>
    have hl : s.live = true := by simp [live, hp]
    exact ⟨outgoing_sent g hl hq, fun _ => (Socket.send_sent _ hok).trans (taken_payload g hl hq).symm⟩
  | handOverClose hp hq | sendFailed hp hq =>
    refine ⟨?_, fun h => by simp [finish, live] at h⟩
    simpa [finish, accepted] using outgoing_sent g (by simp [live, hp]) hq
  | takeCall hp | callWith hp | resume hp | handlerOk hp =>
    exact g.keep rfl List.prefix_rfl rfl fun _ => by simp [live, hp]
  | notify => exact g.keep rfl List.prefix_rfl rfl fun h => by simp [live] at h
  | @incoming item y hp _ _ hr =>
    have hs : y.sent = s.socket.sent := by rw [Socket.recv_frame hr]; rfl
    rcases incoming_cases { s with socket := y } item with ⟨hd, he⟩ | ⟨frame, he⟩ | he
    · rw [he]; exact g.keep rfl List.prefix_rfl hs fun _ => by simp [live, hp]
    · rw [he]; exact finish_sending g (t := { s with socket := y }) rfl hs _
    · rw [he]; exact g.keep rfl List.prefix_rfl hs fun _ => by simp [live, hp]
  | handlerErr | handlerPanic => exact finish_sending g rfl rfl _
  | socket b hy => exact g.keep rfl List.prefix_rfl (Socket.step_sent hc hy) fun h => h

end SessionActor

/-! ## A client -/

namespace ClientActor

variable {s t : ClientActor C} {config : ClientConfig}

theorem step_socket {a : ClientAct C} (h : s.step a = some t) {k : Nat} {x : Socket} (hx : s.socks[k]? = some x) :
    ∃ y, t.socks[k]? = some y ∧ (x.Used y ∨ ∃ b, a = .socket k b ∧ x.step b = some y) := by
  have hk : k < s.socks.length := (List.getElem?_eq_some_iff.mp hx).1
  rcases step_uses h with ⟨-, hst | hst⟩ | ⟨j, b, z, y, ha, hz, hy, hst⟩
  · have hlen := (step_moved h).later.2.2
    have hy := List.getElem?_eq_getElem (Nat.lt_of_lt_of_le hk hlen)
    obtain ⟨x', hx', hu⟩ := hst k _ hy
    cases hx.symm.trans hx'
    exact ⟨_, hy, .inl hu⟩
  · refine ⟨x, ?_, .inl (.refl x)⟩
    rw [hst, List.getElem?_append_left hk]; exact hx
  · by_cases hkj : k = j
    · subst hkj
      cases hx.symm.trans hz
      refine ⟨y, ?_, .inr ⟨b, ha, hy⟩⟩
      rw [hst, List.getElem?_set_of hx, if_pos rfl]
    · refine ⟨x, ?_, .inl (.refl x)⟩
      rw [hst, List.getElem?_set_of hz, if_neg hkj]; exact hx

theorem step_new {a : ClientAct C} (h : s.step a = some t) {k : Nat} {y : Socket} (hx : s.socks[k]? = none)
    (hy : t.socks[k]? = some y) : y = .new s.config.socket := by
  rcases step_uses h with ⟨-, hst | hst⟩ | ⟨j, b, z, w, -, hz, -, hst⟩
  · obtain ⟨x, hx', -⟩ := hst k y hy
    rw [hx] at hx'; cases hx'
  · rw [hst, List.getElem?_append_right (List.getElem?_eq_none_iff.mp hx)] at hy
    exact List.mem_singleton.mp (List.mem_of_getElem? hy)
  · rw [hst, List.getElem?_set_of hz] at hy
    split at hy
    · rename_i hkj
      subst hkj
      rw [hx] at hz; cases hz
    · rw [hx] at hy; cases hy

theorem socks_forwarded (h : Lts.Reach step (create config) s) {k : Nat} {x : Socket} (hx : s.socks[k]? = some x) :
    x.Forwarded :=
  socks_inv (Socket.new_forwarded _) (fun _ _ hu => hu.kept.forwards) (fun _ _ _ => Socket.step_forwarded) h k x hx

theorem socks_pings (hc : config.socket.Pings) (h : Lts.Reach step (create config) s) {k : Nat} {x : Socket}
    (hx : s.socks[k]? = some x) : x.config.Pings :=
  socks_inv (P := fun x => x.config.Pings) hc (fun _ _ hu hp => by rw [hu.kept.config]; exact hp)
    (fun _ _ _ hp hs => by rw [(Socket.step_owner hs).2.2.2]; exact hp) h k x hx

/-- What is not the handle's has no payload. -/
def Silent (s : ClientActor C) : Prop :=
  ∀ (k : Nat) (l : List InRawMessage), s.sinks[k]? = some l → ∀ r ∈ l, r.number = none → r.payload = none

theorem Silent.step (hn : Numbered s) (hp : ∀ (k : Nat) (x : Socket), s.socks[k]? = some x → x.config.Pings)
    (g : s.Silent) (h : Moved s t) : t.Silent := by
  unfold Silent at *
  cases h with
  | same _ hs | accepted _ _ hs | dropped _ _ hs => rw [hs]; exact g
  | @handedOver m c l hpop _ _ hl hs =>
    rw [hs]
    refine List.forall_set hl ?_ (fun k l _ hl => g k l hl)
    intro r hr hrn
    rcases List.mem_append.mp hr with hr | hr
    · exact g _ l hl r hr hrn
    · rw [List.mem_singleton.mp hr, toRaw_number (hn.numbers _ m (Chan.pop?_getElem hpop))] at hrn
      cases hrn
  | connected _ hs =>
    rw [hs]
    exact List.forall_append_one (fun r hr => by cases hr) g
  | @beat k x l _ hx hs hb =>
    rw [hs]
    refine List.forall_set (sinks_get hx) ?_ (fun k l _ hl => g k l hl)
    intro r hr hrn
    rcases List.mem_append.mp hr with hr | hr
    · exact g k _ (sinks_get hx) r hr hrn
    · exact (hb r hr).payload (hp k x hx)

theorem reach_silent (hc : config.socket.Pings) (h : Lts.Reach step (create config) s) : s.Silent :=
  Lts.reach_inv (I := Silent) (fun k l h => by simp [sinks, create] at h)
    (fun _ _ _ hr g hs => g.step (reach_handing hr).1 (fun _ _ => socks_pings hc hr) (step_moved hs)) h

/-- What a connection is sent is the payloads of its block of the handle's messages. -/
theorem sent_block (hn : Numbered s) (hs : s.Silent) {b : Blocks} (hb : Handing s b) {k : Nat} {x : Socket}
    (hx : s.socks[k]? = some x) :
    x.sent = ((s.toSocket.hist.drop (b.start k)).take (b.stop k - b.start k)).filterMap InMessage.payload := by
  have hk := sinks_get hx
  have hpay : x.sent = x.handed.filterMap fun n => s.toSocket.hist[n]?.bind InMessage.payload := by
    rw [Socket.sent, Socket.handed, List.filterMap_filterMap]
    apply List.filterMap_congr
    intro r hr
    cases hrn : r.number with
    | none => exact hs k _ hk r hr hrn
    | some n =>
      obtain ⟨m, hm, rfl⟩ := hn.sources k _ hk r hr n hrn
      rw [InMessage.toRaw_payload, Option.bind_some, hm]; rfl
  have hblock : x.handed = (Block.mk (b.start k) (b.stop k)).indices := by
    have h : s.handed[k]? = some x.handed := by rw [handed, List.getElem?_map, hx]; rfl
    rw [hb.handed, List.getElem?_map] at h
    obtain ⟨c, hc, hi⟩ := Option.map_eq_some_iff.mp h
    rw [← hi, ← Blocks.bounds_eq hc]
  rw [hpay, hblock, ← List.filterMap_range', List.filterMap_filterMap]
  rfl

/-- The payloads that the callbacks of connection `k` were given. -/
def received (s : ClientActor C) (k : Nat) : List Payload := (s.passed k).filterMap Message.payload

theorem received_eq (g : Reading s) {k : Nat} {x : Socket} (hx : s.socks[k]? = some x) :
    s.received k = x.toOwner.got.filterMap itemPayload := by
  rw [received, g.passed k x.toOwner.got (by rw [gots, List.getElem?_map, hx]; rfl), List.filterMap_filterMap]
  apply List.filterMap_congr
  intro item _
  cases item <;> rfl

theorem received_none (g : Reading s) {k : Nat} (hk : s.socks[k]? = none) : s.received k = [] := by
  have hlen := List.getElem?_eq_none_iff.mp hk
  have hnil : s.passed k = [] := by
    rw [passed, List.filterMap_eq_nil_iff]
    intro e he
    have ht := g.tags e (List.mem_of_mem_filter he)
    have hke := (List.mem_filter.mp he).2
    rw [beq_iff_eq] at hke
    omega
  rw [received, hnil]; rfl

end ClientActor

end Ezsockets
