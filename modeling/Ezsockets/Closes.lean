import Ezsockets.ClientClose
import Ezsockets.Endings
import Ezsockets.World

/-!
# Where a `Close` comes from

A `Close` gets into a sink from the handle's queue, from the server's refusal
or from the heartbeat. With a transport that makes up no frames but those in
`made`, and answers a `Close` with its own frame, each frame that
`on_disconnect` or the client's `on_close` is told of can be traced to who
said it (`world_closes`).
-/

namespace Ezsockets

variable {ID C SC D : Type}

def InRawMessage.closeFrame (inmessage : InRawMessage) : Option (Option CloseFrame) :=
  match inmessage.message with
  | some (.close frame) => some frame
  | _ => none

@[simp] theorem InMessage.toRaw_closeFrame (m : InMessage) : m.toRaw.closeFrame = m.closeFrame := by
  obtain ⟨_ | (t | b | frame), signal⟩ := m <;> rfl

def rawClose : Except WSError RawMessage → Option (Option CloseFrame)
  | .ok (.close frame) => some frame
  | _ => none

/-- What the heartbeat closes with. -/
def inactiveFrame : CloseFrame := ⟨.abnormal, "remote partner is inactive"⟩

/-! ## What is put into a sink -/

namespace Socket

variable {x y : Socket} {frame : Option CloseFrame}

/-- The `Close` messages that have been put into the sink. -/
def closes (x : Socket) : List (Option CloseFrame) := x.toSink.hist.filterMap InRawMessage.closeFrame

theorem Beat.inactive (hc : x.config.Pings) {m : InRawMessage} (h : x.Beat m) (hm : m.closeFrame = some frame) :
    frame = some inactiveFrame := by
  rcases h with rfl | ⟨timestamp, rfl⟩
  · cases hm
    rfl
  · obtain ⟨bytes, hb⟩ := hc timestamp
    rw [hb] at hm
    cases hm

theorem step_closes {a : SocketAct} (hc : x.config.Pings) (h : x.step a = some y) (hf : frame ∈ y.closes) :
    frame ∈ x.closes ∨ frame = some inactiveFrame := by
  obtain ⟨l, hl, hb⟩ := step_adds h
  rw [closes, hl, List.filterMap_append, List.mem_append] at hf
  refine hf.imp_right fun hf => ?_
  obtain ⟨m, hm, he⟩ := List.mem_filterMap.mp hf
  exact (hb m hm).inactive hc he

theorem send_closes {m : InMessage} (hf : frame ∈ (x.send m).1.closes) :
    frame ∈ x.closes ∨ m.closeFrame = some frame := by
  have hs : x.send m = x.sendRaw m.toRaw := rfl
  cases hc : x.sink.isClosed with
  | true =>
    rw [hs, sendRaw_closed _ hc] at hf
    exact .inl hf
  | false =>
    rw [hs, sendRaw_open _ hc, closes, Chan.push_hist, List.filterMap_append, List.mem_append] at hf
    refine hf.imp_right fun hf => ?_
    obtain ⟨r, hr, he⟩ := List.mem_filterMap.mp hf
    rw [List.mem_singleton.mp hr, InMessage.toRaw_closeFrame] at he
    exact he

@[simp] theorem drop_closes : x.drop.closes = x.closes := by simp [closes, drop]

@[simp] theorem dropSink_closes : x.dropSink.closes = x.closes := by simp [closes, dropSink]

theorem recv_closes {item : Option (Except WSError Message)} (h : x.recv = some (item, y)) :
    y.closes = x.closes := by
  rw [recv_frame h]
  rfl

end Socket

/-! ## By a session -/

namespace SessionActor

variable {x y : SessionActor ID SC} {frame : Option CloseFrame}

/-- A session puts only those into its sink that it has taken from its own queue. -/
theorem step_closes {a : SessionAct SC} (hc : x.socket.config.Pings) (h : x.step a = some y)
    (hf : frame ∈ y.socket.closes) :
    frame ∈ x.socket.closes ∨ frame = some inactiveFrame ∨ frame ∈ y.closes := by
  have same : y.socket.closes = x.socket.closes → frame ∈ x.socket.closes ∨ frame = some inactiveFrame ∨
      frame ∈ y.closes := fun he => .inl (he ▸ hf)
  cases step_cases h with
  | text m | binary m | close m => exact same (by rw [send_socket])
  | call c => exact same (by rw [call_socket])
  | takeCall | callWith | resume | handlerOk | notify => exact same rfl
  | handlerErr | handlerPanic => exact same Socket.drop_closes
  | @handOver m c hp hq hm =>
    refine (Socket.send_closes hf).imp_right fun he => ?_
    cases hm.symm.trans he
  | @handOverClose m c frame' hp hq hm =>
    refine (Socket.send_closes (by simpa [finish] using hf)).imp_right fun he => .inr ?_
    have hcl := closes_pop (z := (x.socket.send m).1.drop) hq
    have hin : frame ∈
        ({ x with toSocket := c, socket := (x.socket.send m).1.drop } : SessionActor ID SC).closes := by
      rw [hcl, he]
      exact List.mem_append_right _ (by simp)
    exact hin
  | @sendFailed m c hp hq hm =>
    refine (Socket.send_closes (by simpa [finish] using hf)).imp_right fun he => ?_
    cases hm.symm.trans he
  | @incoming item z hp _ _ hr =>
    have hz := Socket.recv_closes hr
    rcases incoming_cases { x with socket := z } item with ⟨hd, he⟩ | ⟨frame', he⟩ | he
    · exact same (by rw [he]; exact hz)
    · exact same (by rw [he]; exact Socket.drop_closes.trans hz)
    · exact same (by rw [he]; exact hz)
  | socket b hs => exact (Socket.step_closes hc hs hf).imp_right .inl

theorem step_taken {a : SessionAct SC} (h : x.step a = some y) : x.toSocket.got <+: y.toSocket.got := by
  cases step_cases h with
  | text m | binary m | close m => unfold send; split <;> exact List.prefix_rfl
  | call c => rw [call_toSocket]
  | handOver _ hq | handOverClose _ hq | sendFailed _ hq =>
    have hg := (Chan.pop?_some.mp hq).2
    simp only [finish, hg, List.prefix_append]
  | @incoming item z =>
    rcases incoming_cases { x with socket := z } item with ⟨hd, he⟩ | ⟨frame', he⟩ | he
    · rw [he]; exact List.prefix_rfl
    · rw [he]; exact List.prefix_rfl
    · rw [he]
  | _ => exact List.prefix_rfl

theorem step_closes_subset {a : SessionAct SC} (h : x.step a = some y) : x.closes ⊆ y.closes :=
  ((step_taken h).filterMap _).subset

end SessionActor

/-! ## By the server -/

namespace Stage

/-- The server has told the client that it does not take the connection. -/
def refused : Stage → Bool
  | .declined | .rejected _ => true
  | _ => false

theorem refused_settled (stage : Stage) : stage.settled.refused = stage.refused := by cases stage <;> rfl

end Stage

section

variable {s : Server ID D SC} {i : Nat} {c d : Conn ID SC}

/-- The server has refused connection `i` with the frame. -/
def Refused (as : List (ServerAct ID D SC)) (i : Nat) (frame : Option CloseFrame) : Prop :=
  Lts.Once Server.step (fun s a => s.Refuses i a frame) .create as

/-- What has been put into the sink of connection `i`. -/
def Said (as : List (ServerAct ID D SC)) (i : Nat) (c : Conn ID SC) : Prop :=
  ∀ frame ∈ c.body.sock.closes, frame = some inactiveFrame ∨ (∃ a, c.body = .session a ∧ frame ∈ a.closes) ∨
    (c.stage.refused = true ∧ Refused as i frame)

theorem Said.later {as : List (ServerAct ID D SC)} (g : Said as i c) (a : ServerAct ID D SC) :
    Said (as ++ [a]) i c :=
  fun frame hf => (g frame hf).imp_right (.imp_right fun h => ⟨h.1, h.2.append _⟩)

/-- Only what is new in the sink has to be accounted for. -/
theorem Said.to {as : List (ServerAct ID D SC)} (g : Said as i c)
    (hr : c.stage.refused = true → d.stage.refused = true)
    (hb : ∀ a, c.body = .session a → ∃ b, d.body = .session b ∧ a.closes ⊆ b.closes)
    (hs : ∀ frame ∈ d.body.sock.closes, frame ∈ c.body.sock.closes ∨ frame = some inactiveFrame ∨
      (∃ a, d.body = .session a ∧ frame ∈ a.closes) ∨ d.stage.refused = true ∧ Refused as i frame) :
      Said as i d := by
  intro frame hf
  rcases hs frame hf with hc | h
  · rcases g frame hc with h | ⟨a, ha, h⟩ | ⟨h, href⟩
    · exact .inl h
    · obtain ⟨b, hd, hab⟩ := hb a ha
      exact .inr (.inl ⟨b, hd, hab h⟩)
    · exact .inr (.inr ⟨hr h, href⟩)
  · exact h

theorem turn_config {Q : SessionAct SC → Prop} {F : Option CloseFrame → Prop} (h : c.Turn Q F d) :
    d.body.sock.config = c.body.sock.config := by
  cases h with
  | stay hb => rw [hb]
  | socket b _ hb hs hd => rw [hb, hd.body]; exact (Socket.step_owner hs).2.2.2
  | session b _ hb hs hd =>
    rw [hb, hd.body]
    rcases SessionActor.step_uses hs with ⟨-, hu⟩ | ⟨b', -, hb⟩
    · exact hu.kept.config
    · exact (Socket.step_owner hb).2.2.2
  | indicator hb hd => rw [hb, hd.body]; rfl
  | take hc hd | create _ hc hd => rw [hc.body, hd.body]; rfl
  | reject ok _ hc hd => rw [hc.body, hd.body]; exact ((Socket.send_kept _ _).trans (Socket.drop_kept _)).config
  | accept hc hd => rw [hc.body, hd.body]; exact (Socket.dropSink_kept _).config
  | declineSocket frame _ hc hd =>
    rw [hc.body, hd.body]
    exact (((Socket.drop_kept _).trans (Socket.send_kept _ _)).trans (Socket.dropSink_kept _)).config
  | declineSession frame _ hc hd =>
    rw [hc.body, hd.body]
    exact ((Socket.send_kept _ _).trans (Socket.dropSink_kept _)).config
  | discard hc hd => rw [hc.body, hd.body]; exact (Socket.drop_kept _).config

theorem turn_said {as : List (ServerAct ID D SC)} {Q : SessionAct SC → Prop} {F : Option CloseFrame → Prop}
    (hF : ∀ frame, F frame → Refused as i frame) (hp : c.body.sock.config.Pings) (g : Said as i c)
    (h : c.Turn Q F d) :
    Said as i d := by
  -- there was no session
  have bare {x : Socket} {body : Body ID SC} (hb : c.body = .socket x) (a : SessionActor ID SC)
      (ha : c.body = .session a) : ∃ b, body = .session b ∧ a.closes ⊆ b.closes := by cases hb.symm.trans ha
  -- the session has not taken anything
  have same {x y : SessionActor ID SC} {stage : Stage} (hb : c.body = .session x) (hd : d.Is stage (.session y))
      (hc : x.closes ⊆ y.closes) (a : SessionActor ID SC) (ha : c.body = .session a) :
      ∃ b, d.body = .session b ∧ a.closes ⊆ b.closes := by
    cases hb.symm.trans ha
    exact ⟨y, hd.body, hc⟩
  have unrefused {stage : Stage} {body : Body ID SC} (hc : c.Is stage body) (hn : stage.refused = false)
      (h : c.stage.refused = true) : d.stage.refused = true := by
    rw [hc.stage, hn] at h
    cases h
  cases h with
  | stay hb hst =>
    refine g.to ?_ ?_ ?_
    · rw [← Stage.refused_settled, ← hst, Stage.refused_settled]
      exact fun h => h
    · intro a ha
      exact ⟨a, hb.trans ha, List.Subset.refl _⟩
    · rw [hb]
      exact fun frame hf => .inl hf
  | socket b _ hb hs hd =>
    refine g.to (by rw [hd.stage]; exact fun h => h) (bare hb) ?_
    rw [hb] at hp ⊢
    rw [hd.body]
    exact fun frame hf => (Socket.step_closes hp hs hf).imp_right .inl
  | @session x y b _ hb hs hd =>
    refine g.to (by rw [hd.stage]; exact fun h => h) (same hb hd (SessionActor.step_closes_subset hs)) ?_
    rw [hb] at hp ⊢
    rw [hd.body]
    exact fun frame hf => (SessionActor.step_closes hp hs hf).imp_right (.imp_right fun h => .inl ⟨y, rfl, h⟩)
  | indicator hb hd =>
    refine g.to (by rw [hd.stage]; exact fun h => h) (same hb hd (List.Subset.refl _)) ?_
    rw [hb, hd.body]
    exact fun frame hf => .inl hf
  | take hc hd | create id hc hd =>
    refine g.to (unrefused hc rfl) (bare hc.body) ?_
    rw [hc.body, hd.body]
    exact fun frame hf => .inl hf
  | reject ok hF' hc hd =>
    refine g.to (unrefused hc rfl) (bare hc.body) fun frame hf => ?_
    rw [hd.body, Body.sock_socket, Socket.drop_closes] at hf
    rw [hc.body, hd.stage]
    refine (Socket.send_closes hf).imp_right fun he => .inr (.inr ⟨rfl, ?_⟩)
    cases he
    exact hF _ hF'
  | accept hc hd =>
    refine g.to (unrefused hc rfl) (same hc.body hd (List.Subset.refl _)) fun frame hf => .inl ?_
    rw [hd.body, Body.sock_session, Socket.dropSink_closes] at hf
    rw [hc.body]
    exact hf
  | declineSocket frame' hF' hc hd =>
    refine g.to (unrefused hc rfl) (bare hc.body) fun frame hf => ?_
    rw [hd.body, Body.sock_socket, Socket.dropSink_closes] at hf
    rw [hc.body, hd.stage, Body.sock_socket, ← Socket.drop_closes]
    refine (Socket.send_closes hf).imp_right fun he => .inr (.inr ⟨rfl, ?_⟩)
    cases he
    exact hF _ hF'
  | declineSession frame' hF' hc hd =>
    refine g.to (unrefused hc rfl) (same hc.body hd (List.Subset.refl _)) fun frame hf => ?_
    rw [hd.body, Body.sock_session, Socket.dropSink_closes] at hf
    rw [hc.body, hd.stage]
    refine (Socket.send_closes hf).imp_right fun he => .inr (.inr ⟨rfl, ?_⟩)
    cases he
    exact hF _ hF'
  | discard hc hd =>
    refine g.to (unrefused hc rfl) (bare hc.body) fun frame hf => .inl ?_
    rw [hd.body, Body.sock_socket, Socket.drop_closes] at hf
    rw [hc.body]
    exact hf

theorem reach_said {as : List (ServerAct ID D SC)} (hf : Fresh as) (h : Lts.exec Server.step .create as = some s)
    (hi : s.conns[i]? = some c) (hp : c.body.sock.config.Pings) : Said as i c := by
  refine conns_run_inv
    (P := fun as i (c : Conn ID SC) => c.body.sock.config.Pings → Said as i c) ?_ ?_ ?_ hf h i c hi hp
  · intro as i config early _ frame hm
    cases hm
  · intro as a i c g hp
    exact (g hp).later a
  · intro as u a i c d hu g ht hp
    have hc := turn_config ht ▸ hp
    exact turn_said (fun frame hF => Lts.once_snoc hu hF) hc (g hc) ht

end

/-! ## By a client -/

namespace ClientActor

variable {s t : ClientActor C} {config : ClientConfig} {P : InRawMessage → Prop}

/-- What is not the handle's is the heartbeat's. -/
def Unnumbered (P : InRawMessage → Prop) (s : ClientActor C) : Prop :=
  ∀ (k : Nat) (l : List InRawMessage), s.sinks[k]? = some l → ∀ r ∈ l, r.number = none → P r

theorem Unnumbered.step (hn : Numbered s)
    (hb : ∀ (k : Nat) (x : Socket), s.socks[k]? = some x → ∀ r, x.Beat r → P r)
    (g : Unnumbered P s) (h : Moved s t) : Unnumbered P t := by
  unfold Unnumbered at *
  cases h with
  | same _ hs | accepted _ _ hs | dropped _ _ hs => rw [hs]; exact g
  | @handedOver m c l hpop _ _ hl hs =>
    rw [hs]
    refine List.forall_set hl ?_ (fun k l _ hl => g k l hl)
    intro r hr hrn
    rcases List.mem_append.mp hr with hr | hr
    · exact g _ l hl r hr hrn
    · rw [List.mem_singleton.mp hr, toRaw_number (hn.numbers _ m (Chan.pop?_getElem hpop))] at hrn
      cases hrn
  | connected _ hs =>
    rw [hs]
    exact List.forall_append_one (fun r hr => by cases hr) g
  | @beat k x l _ hx hs hl =>
    rw [hs]
    refine List.forall_set (sinks_get hx) ?_ (fun k l _ hl => g k l hl)
    intro r hr hrn
    rcases List.mem_append.mp hr with hr | hr
    · exact g k _ (sinks_get hx) r hr hrn
    · exact hb k x hx r (hl r hr)

theorem reach_unnumbered (hc : config.socket.Pings) (h : Lts.Reach step (create config) s) :
    Unnumbered (fun r => ∀ frame, r.closeFrame = some frame → frame = some inactiveFrame) s :=
  Lts.reach_inv (fun k l h => by simp [sinks, create] at h)
    (fun _ _ _ hr g hs => g.step (reach_handing hr).1
      (fun _ _ hx _ hb _ hm => hb.inactive (socks_pings hc hr hx) hm) (step_moved hs)) h

/-- What has been put into a sink has been taken off the handle's queue. -/
theorem number_taken {b : Blocks} (hb : Handing s b) {k : Nat} {l : List InRawMessage} (hl : s.sinks[k]? = some l)
    {r : InRawMessage} (hr : r ∈ l) {n : Nat} (hn : r.number = some n) : n < s.toSocket.got.length := by
  have hk : s.handed[k]? = some (l.filterMap InRawMessage.number) := by
    rw [handed_sinks, List.getElem?_map, hl]; rfl
  rw [hb.handed, List.getElem?_map] at hk
  obtain ⟨c, hc, hi⟩ := Option.map_eq_some_iff.mp hk
  have hmem : n ∈ c.indices := by
    rw [hi]
    exact List.mem_filterMap.mpr ⟨r, hr, hn⟩
  rw [← hb.cursor]
  exact Nat.lt_of_lt_of_le (Block.mem_indices.mp hmem).2 (b.below c (List.mem_of_getElem? hc))

/-- As long as no `Close` was taken off the handle's queue, none of the handle's is in a sink. -/
theorem unclosed_sinks (hn : Numbered s) {b : Blocks} (hb : Handing s b) (hc : ¬ s.Closed) {k : Nat}
    {l : List InRawMessage} (hl : s.sinks[k]? = some l) {r : InRawMessage} (hr : r ∈ l)
    (hs : r.number.isSome = true) :
    r.closeFrame = none := by
  obtain ⟨n, hrn⟩ := Option.isSome_iff_exists.mp hs
  obtain ⟨m, hm, rfl⟩ := hn.sources k l hl r hr n hrn
  rw [InMessage.toRaw_closeFrame]
  apply Option.not_isSome_iff_eq_none.mp
  exact fun hf => hc (closed_at hm hf (number_taken hb hl hr hrn))

/-- On a connection whose `on_close` was called the handle has not sent a `Close`. -/
def Answered (s : ClientActor C) : Prop :=
  ∀ (k : Nat) (frame : Option CloseFrame), (k + 1, .onClose frame) ∈ s.log →
  ∀ l, s.sinks[k]? = some l → ∀ r ∈ l, r.number.isSome = true → r.closeFrame = none

/-- Nothing is sent any more on such a connection. -/
theorem Answered.keep (gr : Reading s) {k : Nat} {frame : Option CloseFrame} (hm : (k + 1, .onClose frame) ∈ s.log)
    (h : Moved s t) {l : List InRawMessage} (hl : t.sinks[k]? = some l) :
    ∃ l', s.sinks[k]? = some l' ∧ ∀ r ∈ l, r ∈ l' ∨ r.number = none := by
  have hk : k < s.sinks.length := by
    have := gr.tags _ hm
    rw [sinks_length]
    omega
  have same : s.sinks[k]? = some l → ∃ l', s.sinks[k]? = some l' ∧ ∀ r ∈ l, r ∈ l' ∨ r.number = none :=
    fun h => ⟨l, h, fun _ => .inl⟩
  cases h with
  | same _ hs | accepted _ _ hs | dropped _ _ hs => exact same (hs ▸ hl)
  | @handedOver m c l₀ _ _ ho hl₀ hs =>
    have hne : k ≠ s.conn := by
      intro he
      have hcon : s.phase.connected = true := by
        have hsend := ho.1
        cases hp : s.phase <;> simp [hp, ClientPhase.sending] at hsend <;> rfl
      refine gr.unclosed hcon _ hm ?_ frame rfl
      rw [sinks_length] at hk
      unfold conn at he
      simp only
      omega
    rw [hs, List.getElem?_set_of hl₀, if_neg hne] at hl
    exact same hl
  | connected _ hs =>
    rw [hs, List.getElem?_append_left hk] at hl
    exact same hl
  | @beat j x l₀ _ hx hs hb =>
    rw [hs, List.getElem?_set_of (sinks_get hx)] at hl
    by_cases hkj : k = j
    · rw [if_pos hkj] at hl
      cases hl
      refine ⟨x.toSink.hist, by rw [hkj]; exact sinks_get hx, fun r hr => ?_⟩
      exact (List.mem_append.mp hr).imp_right fun hr => (hb r hr).number
    · rw [if_neg hkj] at hl
      exact same hl

theorem reach_answered (h : Lts.Reach step (create config) s) : s.Answered := by
  refine Lts.reach_inv (I := Answered) (fun k frame hm => by cases hm) ?_ h
  intro s a t hr g hs k frame hm l hl r hrl hrn
  by_cases hold : (k + 1, .onClose frame) ∈ s.log
  · obtain ⟨l', hl', hsub⟩ := Answered.keep (reach_reading hr) hold (step_moved hs) hl
    rcases hsub r hrl with hmem | hnone
    · exact g k frame hold l' hl' r hmem hrn
    · rw [hnone] at hrn
      cases hrn
  · -- after a `Close` of its own the client calls nothing
    have ht := hr.tail hs
    obtain ⟨hnum, b, hb⟩ := reach_handing ht
    refine unclosed_sinks hnum hb (fun hc => hold ?_) hl hrl hrn
    rw [← (closed_step (reach_obeys hr) hs hc).1]
    exact hm

/-- What `on_close` is told comes off the stream of a connection on which the client has not closed itself. -/
theorem onClose_heard (hc : config.socket.Pings) (h : Lts.Reach step (create config) s) {k : Nat}
    {frame : Option CloseFrame} (hm : (k + 1, .onClose frame) ∈ s.log) :
    ∃ x, s.socks[k]? = some x ∧ .ok (.close frame) ∈ x.yielded ∧ ∀ f ∈ x.closes, f = some inactiveFrame := by
  have gr := reach_reading h
  have hk : k < s.socks.length := by
    have := gr.tags _ hm
    omega
  obtain ⟨x, hx⟩ : ∃ x, s.socks[k]? = some x := ⟨_, List.getElem?_eq_getElem hk⟩
  refine ⟨x, hx, ?_, fun f hf => ?_⟩
  · have hpassed : .close frame ∈ s.passed k :=
      List.mem_filterMap.mpr ⟨_, List.mem_filter.mpr ⟨hm, by simp⟩, rfl⟩
    rw [gr.passed k x.toOwner.got (by rw [gots, List.getElem?_map, hx]; rfl)] at hpassed
    obtain ⟨item, hi, he⟩ := List.mem_filterMap.mp hpassed
    cases item with
    | error err => cases he
    | ok m =>
      cases he
      exact Socket.ran_heard (reach_holds h k x hx).ran frame (List.mem_append_left _ hi)
  · obtain ⟨r, hr, he⟩ := List.mem_filterMap.mp hf
    cases hn : r.number with
    | none => exact reach_unnumbered hc h k _ (sinks_get hx) r hr hn f he
    | some n =>
      rw [reach_answered h k frame hm _ (sinks_get hx) r hr (by rw [hn]; rfl)] at he
      cases he

/-- What a client has said on a connection its handle has, or the heartbeat. -/
theorem closes_given (hc : config.socket.Pings) (h : Lts.Reach step (create config) s) {k : Nat} {x : Socket}
    (hx : s.socks[k]? = some x) {frame : Option CloseFrame} (hf : frame ∈ x.closes) :
    frame = some inactiveFrame ∨ ∃ m ∈ s.toSocket.hist, m.closeFrame = some frame := by
  obtain ⟨r, hr, he⟩ := List.mem_filterMap.mp hf
  cases hn : r.number with
  | none => exact .inl (reach_unnumbered hc h k _ (sinks_get hx) r hr hn frame he)
  | some n =>
    obtain ⟨m, hm, rfl⟩ := (reach_handing h).1.sources k _ (sinks_get hx) r hr n hn
    rw [InMessage.toRaw_closeFrame] at he
    exact .inr ⟨m, List.mem_of_getElem? hm, he⟩

end ClientActor

/-! ## End to end -/

namespace Transport

variable {made : Option CloseFrame → Bool}

/-- A `Close` that a stream yields was taken by the sink at the other end, or answers one that its own sink has
taken, or its frame is one that the transport makes up. -/
def closes (made : Option CloseFrame → Bool) : Transport where
  allows yielded other own := yielded.all fun item => (rawClose item).all fun frame =>
    made frame || (other ++ own).any (·.closeFrame == some frame)
  nil _ _ := rfl
  mono := by
    intro yielded other other' own own' ho hw h
    rw [List.all_eq_true] at h ⊢
    intro item hi
    refine Option.all_eq_true_iff_get _ _ |>.mpr fun hs => ?_
    have hf := Option.all_eq_true_iff_get _ _ |>.mp (h item hi) hs
    simp only [Bool.or_eq_true, List.any_eq_true, List.mem_append] at hf ⊢
    refine hf.imp_right ?_
    rintro ⟨r, hr | hr, he⟩
    · exact ⟨r, .inl (ho.subset hr), he⟩
    · exact ⟨r, .inr (hw.subset hr), he⟩

theorem closes_allows {yielded : List (Except WSError RawMessage)} {other own : List InRawMessage}
    {frame : Option CloseFrame} (h : (closes made).allows yielded other own = true)
    (hm : .ok (.close frame) ∈ yielded) :
    made frame = true ∨ ∃ r, (r ∈ other ∨ r ∈ own) ∧ r.closeFrame = some frame := by
  have hf := List.all_eq_true.mp h _ hm
  simp only [rawClose, Option.all_some, Bool.or_eq_true, List.any_eq_true, List.mem_append, beq_iff_eq] at hf
  exact hf

end Transport

def WorldAct.server? : WorldAct ID C SC D → Option (ServerAct ID D SC)
  | .client _ _ => none
  | .accept _ config => some (.accept (.new config))
  | .server a => some a

namespace World

variable {T : Transport} {w u : World ID C SC D} {configs : List ClientConfig}

theorem Sound.pings (g : w.Sound configs) {i : Nat} {c : Conn ID SC} (hi : w.server.conns[i]? = some c) :
    c.body.sock.config.Pings := by
  have hrel := g.relays i c hi
  cases hb : c.body with
  | socket x => rw [hb] at hrel; exact hrel.1
  | session a => rw [hb] at hrel; exact hrel.1

theorem server_refines (T : Transport) (configs : List ClientConfig) :
    Lts.Refines (step T) (create configs : World ID C SC D) Server.step World.server fun _ a => a.server? := by
  intro w a u _ h
  cases a with
  | client n a =>
    simp only [step] at h
    split at h
    · split at h
      · obtain ⟨client, -, rfl⟩ := Option.map_eq_some_iff.mp h
        rfl
      · cases h
    · cases h
  | accept o config =>
    simp only [step] at h
    split at h
    · cases h
    · cases h
      rfl
  | server b =>
    simp only [step] at h
    split at h
    · cases h
    · obtain ⟨server, hs, rfl⟩ := Option.map_eq_some_iff.mp h
      exact hs

theorem step_fresh {a : WorldAct ID C SC D} (h : w.step T a = some u) {socket : Socket}
    (ha : a.server? = some (.accept socket)) : ∃ config, socket = .new config := by
  cases a with
  | client n a => cases ha
  | accept o config =>
    cases ha
    exact ⟨_, rfl⟩
  | server b =>
    cases ha
    cases h

/-- What the server does in a run of the world is a run of its own. -/
theorem exec_server {as : List (WorldAct ID C SC D)} (h : Lts.exec (step T) (create configs) as = some w) :
    Lts.exec Server.step .create (as.filterMap WorldAct.server?) = some w.server ∧
      Fresh (as.filterMap WorldAct.server?) := by
  refine ⟨?_, Lts.run_inv (I := fun as _ => Fresh (as.filterMap WorldAct.server?)) (fun _ hm => by cases hm) ?_ h⟩
  · rw [← Lts.collect_filterMap h]
    exact (server_refines T configs).exec h
  · intro as w a u _ g hs socket hm
    rw [List.filterMap_append, List.mem_append] at hm
    rcases hm with hm | hm
    · exact g socket hm
    · obtain ⟨b, hb, ha⟩ := List.mem_filterMap.mp hm
      cases List.mem_singleton.mp hb
      exact step_fresh hs ha

/-! ## Who said it -/

/-- What the server's actors, watchers and callers do in a run of the world. -/
def serverActs (as : List (WorldAct ID C SC D)) : List (ServerAct ID D SC) := as.filterMap WorldAct.server?

/-- The sink at the server's end has taken the `Close`. -/
theorem told_by_server (g : w.Sound configs) {as : List (ServerAct ID D SC)} (hf : Fresh as)
    (h : Lts.exec Server.step .create as = some w.server) {o : Origin} {r : InRawMessage}
    (hr : r ∈ Socket.takenBy (w.serverSock o)) {frame : Option CloseFrame} (he : r.closeFrame = some frame) :
    frame = some inactiveFrame ∨ ∃ i, w.origins[i]? = some o ∧
      (Given as i (.close frame) ∨ Refused as i frame) := by
  cases hx : w.serverSock o with
  | none =>
    rw [hx] at hr
    cases hr
  | some x =>
    obtain ⟨i, c, ho, hi, rfl⟩ := (serverSock_some g).mp hx
    rw [hx] at hr
    have hmem : frame ∈ c.body.sock.closes := List.mem_filterMap.mpr ⟨r, List.mem_append_left _ hr, he⟩
    rcases reach_said hf h hi (g.pings hi) frame hmem with hin | ⟨a, hb, ha⟩ | ⟨-, href⟩
    · exact .inl hin
    · obtain ⟨m, hm, hc⟩ := List.mem_filterMap.mp ha
      have hfate := (reach_fated hf h hi).fate a hb
      exact .inr ⟨i, ho, .inl (hfate.sent m (List.mem_append_left _ hm) frame hc)⟩
    · exact .inr ⟨i, ho, .inr href⟩

/-- The sink at the client's end has taken the `Close`. -/
theorem told_by_client (hp : ∀ config ∈ configs, config.socket.Pings) (g : w.Sound configs) {o : Origin}
    {r : InRawMessage} (hr : r ∈ Socket.takenBy (w.clientSock o)) {frame : Option CloseFrame}
    (he : r.closeFrame = some frame) : frame = some inactiveFrame ∨
      ∃ client m, w.clients[o.client]? = some client ∧ m ∈ client.toSocket.hist ∧ m.closeFrame = some frame := by
  cases hx : w.clientSock o with
  | none =>
    rw [hx] at hr
    cases hr
  | some x =>
    obtain ⟨client, hn, hk⟩ := clientSock_some.mp hx
    rw [hx] at hr
    have hmem : frame ∈ x.closes := List.mem_filterMap.mpr ⟨r, List.mem_append_left _ hr, he⟩
    obtain ⟨config, hc, hreach⟩ := g.clients _ client hn
    have hpings := hp config (List.mem_of_getElem? hc)
    refine (ClientActor.closes_given hpings hreach hk hmem).imp_right ?_
    rintro ⟨m, hm, hcl⟩
    exact ⟨client, m, hn, hm, hcl⟩

/-- No `Close` comes from nowhere, where the heartbeats send Pings only and `on_connect` keeps no `Sink`. A frame
that `on_disconnect` is told was given to `close` of the session's handle or of its shutdown, or of the handle of
the client whose connection it is. A frame that a client's `on_close` is told was given to the session of that very
connection, or the server has refused the connection with it. Otherwise it is what heartbeats close with, or the
transport has made it up. -/
theorem world_closes {made : Option CloseFrame → Bool} (hp : ∀ config ∈ configs, config.socket.Pings)
    {as : List (WorldAct ID C SC D)} (h : Lts.exec (step (.closes made)) (create configs) as = some w) :
    (∀ (i : Nat) (id : ID) (frame : CloseFrame), .onDisconnect i id (.ok (some frame)) ∈ w.server.log →
      made (some frame) = true ∨ frame = inactiveFrame ∨ Given (serverActs as) i (.close (some frame)) ∨
      ∃ o client m, w.origins[i]? = some o ∧ w.clients[o.client]? = some client ∧ m ∈ client.toSocket.hist ∧
        m.closeFrame = some (some frame)) ∧
    ∀ (n k : Nat) (client : ClientActor C) (frame : Option CloseFrame), w.clients[n]? = some client →
      (k + 1, .onClose frame) ∈ client.log → made frame = true ∨ frame = some inactiveFrame ∨
      ∃ i, w.origins[i]? = some ⟨n, k⟩ ∧
        (Given (serverActs as) i (.close frame) ∨ Refused (serverActs as) i frame) := by
  obtain ⟨g, hcarried⟩ := reach_carried ⟨as, h⟩
  obtain ⟨hexec, hfresh⟩ := exec_server h
  refine ⟨fun i id frame hm => ?_, fun n k client frame hn hm => ?_⟩
  · obtain ⟨c, a, e, hi, hb, hst, -, hr, he⟩ := told_fated hfresh hexec hm
    cases e with
    | closed f =>
      cases hr
      exact .inr (.inr (.inl he.2.2))
    | closedByPeer f =>
      cases hr
      have hlt := (List.getElem?_eq_some_iff.mp hi).1
      rw [← g.length] at hlt
      have ho := List.getElem?_eq_getElem hlt
      have hx : w.serverSock w.origins[i] = some a.socket := (serverSock_some g).mpr ⟨i, c, ho, hi, by rw [hb]; rfl⟩
      rcases Transport.closes_allows (hcarried.toServer _ _ hx) he.2.2 with hmade | ⟨r, hr | hr, hc⟩
      · exact .inl hmade
      · rcases told_by_client hp g hr hc with hin | ⟨client, m, hn, hm⟩
        · exact .inr (.inl (Option.some.inj hin))
        · exact .inr (.inr (.inr ⟨_, client, m, ho, hn, hm⟩))
      · -- the session has not closed itself and was not refused, so its sink has had the heartbeat's only
        have hmem : some frame ∈ c.body.sock.closes := by
          rw [hb]
          exact List.mem_filterMap.mpr ⟨r, List.mem_append_left _ hr, hc⟩
        rcases reach_said hfresh hexec hi (g.pings hi) _ hmem with hin | ⟨b, hb', hcl⟩ | ⟨href, -⟩
        · exact .inr (.inl (Option.some.inj hin))
        · cases hb.symm.trans hb'
          rw [he.1] at hcl
          cases hcl
        · rcases hst with hst | hst <;> rw [hst] at href <;> cases href
    | refused | streamOver | failed | panicked => cases hr
  · obtain ⟨config, hc, hreach⟩ := g.clients n client hn
    obtain ⟨x, hx, hy, hown⟩ := ClientActor.onClose_heard (hp config (List.mem_of_getElem? hc)) hreach hm
    have hsock : w.clientSock ⟨n, k⟩ = some x := clientSock_some.mpr ⟨client, hn, hx⟩
    rcases Transport.closes_allows (hcarried.toClient _ _ hsock) hy with hmade | ⟨r, hr | hr, hc⟩
    · exact .inl hmade
    · exact .inr (told_by_server g hfresh hexec hr hc)
    · exact .inr (.inl (hown _ (List.mem_filterMap.mpr ⟨r, List.mem_append_left _ hr, hc⟩)))

/-- The first client closes its connection, and the session of the second one's closes that. -/
theorem world_closes_two :
    ∃ (as : List (WorldAct Nat Nat Nat Nat)) (w : World Nat Nat Nat Nat) (client : ClientActor Nat),
    Lts.exec (step (.closes fun _ => false)) (create [⟨1, 1, none⟩, ⟨1, 1, none⟩]) as = some w ∧
      w.server.log.getLast? = some (.onDisconnect 0 7 (.ok (some ⟨.restart, "bye"⟩))) ∧
      (Given (serverActs as) 0 (.close (some ⟨.restart, "bye"⟩)) ∨ ∃ o client m, w.origins[0]? = some o ∧
        w.clients[o.client]? = some client ∧ m ∈ client.toSocket.hist ∧
        m.closeFrame = some (some ⟨.restart, "bye"⟩)) ∧
      w.clients[1]? = some client ∧ client.log.getLast? = some (1, .onClose none) ∧
      ∃ i, w.origins[i]? = some ⟨1, 0⟩ ∧
        (Given (serverActs as) i (.close none) ∨ Refused (serverActs as) i none) := by
  let connect (n id : Nat) : List (WorldAct Nat Nat Nat Nat) := [
    .client n .tryRecv, .client n .connected, .client n (.onConnectReturn (.ok ())),
    .accept ⟨n, 0⟩ ⟨.default, SocketConfig.default_pings⟩, .server .takeConnection, .server (.createSession id),
    .server (.onConnectReturn (.ok ()))]
  let byClient : List (WorldAct Nat Nat Nat Nat) := [
    .client 0 (.close (some ⟨.restart, "bye"⟩)), .client 0 .outgoing, .client 0 (.socket 0 .sinkRecv),
    .server (.session 0 (.socket (.streamNext (.ok (.close (some ⟨.restart, "bye"⟩)))))),
    .server (.session 0 .incoming), .server (.session 0 .notify), .server (.spawnCloser 0),
    .server (.takeIndicator 0),
    .server (.awaitClose 0), .server (.abortCloser 0), .server (.disconnected 0), .server .takeDisconnected]
  let bySession : List (WorldAct Nat Nat Nat Nat) := [
    .server (.session 1 (.close none)), .server (.session 1 .outgoing), .server (.session 1 (.socket .sinkRecv)),
    .client 1 (.socket 0 (.streamNext (.ok (.close none)))), .client 1 .incoming]
  have h : Lts.exec (step (.closes fun _ => false)) (create [⟨1, 1, none⟩, ⟨1, 1, none⟩])
      ((connect 0 7 ++ connect 1 8) ++ (bySession ++ byClient)) = some _ :=
    Lts.exec_append (show Lts.exec (step (.closes fun _ => false)) _ _ = some _ from rfl) rfl
  have hp : ∀ config ∈ [(⟨1, 1, none⟩ : ClientConfig), ⟨1, 1, none⟩], config.socket.Pings := by
    intro config hc
    have he : config = ⟨1, 1, none⟩ := by simpa using hc
    rw [he]
    exact SocketConfig.default_pings
  obtain ⟨hd, hc⟩ := world_closes hp h
  have hserver := ((hd 0 7 ⟨.restart, "bye"⟩ (List.mem_of_getLast? rfl)).resolve_left (by simp)).resolve_left
    (by decide)
  have hclient := ((hc 1 0 _ none rfl (List.mem_of_getLast? rfl)).resolve_left (by simp)).resolve_left (by simp)
  exact ⟨_, _, _, h, rfl, hserver, rfl, rfl, hclient⟩

end World

end Ezsockets
