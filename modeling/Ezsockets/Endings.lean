import Ezsockets.Bodies

/-!
# Why a session ended

`SessionActor::run` ends in one of six ways (`SessionEnd`), and each leaves
its mark on the session (`Explains`). A session takes no more than one `Close`
in its life, its own or the client's, and what `on_disconnect` is told can be
traced to it or to what ended the session without one
(`on_disconnect_explained`).
-/

namespace Ezsockets

variable {ID C SC : Type}

inductive SessionEnd where
  | closed (frame : Option CloseFrame)
  | closedByPeer (frame : Option CloseFrame)
  | refused
  | streamOver
  | failed (err : Error)
  | panicked

/-- What `run` returns, if it does. -/
def SessionEnd.result : SessionEnd → Option SessionResult
  | .closed frame | .closedByPeer frame => some (.ok frame)
  | .refused | .streamOver => some (.ok none)
  | .failed err => some (.error err)
  | .panicked => none

def itemClose : Except WSError Message → Option (Option CloseFrame)
  | .ok (.close frame) => some frame
  | _ => none

/-! ## What lasts on a socket -/

namespace Socket

variable {x y : Socket}

/-- What an end has left on the socket stays there. -/
structure Lasting (x y : Socket) : Prop where
  got : y.toOwner.got = x.toOwner.got
  closed : x.sink.isClosed = true → y.sink.isClosed = true
  past : x.streaming = false → y.streaming = false ∧ y.toOwner.queue = x.toOwner.queue
  yielded : x.yielded ⊆ y.yielded

theorem step_over {a : SocketAct} (h : x.step a = some y) (hs : x.streaming = false) : y.toOwner = x.toOwner := by
  cases step_cases h with
  | streamNext _ hn | streamEnd hn | streamPanic hn => cases hs.symm.trans hn
  | heartbeat _ he => rw [handleHeartbeat_frame he]
  | heartbeatEnd _ he => rw [free_toOwner, handleHeartbeat_frame he]
  | supervise h => rw [supervise_frame h]
  | _ => simp

theorem step_lasting {a : SocketAct} (h : x.step a = some y) : Lasting x y where
  got := (step_owner h).2.2.1
  closed := step_isClosed h
  past hs := ⟨step_streaming h hs, by rw [step_over h hs]⟩
  yielded := by
    rcases step_yielded h with he | ⟨item, -, he⟩
    · rw [he]; exact List.Subset.refl _
    · rw [he]; exact List.subset_append_left ..

theorem recv_none (h : x.recv = some (none, y)) : y.streaming = false ∧ y.toOwner.queue = [] := by
  unfold recv at h
  split at h
  · cases h
  · rename_i hp
    split at h
    · cases h
    · rename_i hs
      cases h
      exact ⟨by simpa using hs, Chan.pop?_none.mp hp⟩

theorem lasting_of_eq (ho : y.toOwner = x.toOwner) (hs : y.sink = x.sink) (ht : y.streaming = x.streaming)
    (hy : y.yielded = x.yielded) : Lasting x y where
  got := by rw [ho]
  closed h := by rw [hs]; exact h
  past h := ⟨by rw [ht]; exact h, by rw [ho]⟩
  yielded := by rw [hy]; exact List.Subset.refl _

theorem drop_lasting (x : Socket) : Lasting x x.drop :=
  lasting_of_eq drop_toOwner (by simp [drop]) (by simp [drop]) (by simp [drop])

theorem dropSink_lasting (x : Socket) : Lasting x x.dropSink :=
  lasting_of_eq (by simp [dropSink]) (by simp [dropSink]) (by simp [dropSink]) (by simp [dropSink])

theorem send_lasting (x : Socket) (m : InMessage) : Lasting x (x.send m).1 := by
  rw [send_frame]
  exact lasting_of_eq rfl rfl rfl rfl

theorem Lasting.trans {z : Socket} (h : Lasting x y) (h' : Lasting y z) : Lasting x z where
  got := h'.got.trans h.got
  closed hc := h'.closed (h.closed hc)
  past hs := by
    obtain ⟨hy, hq⟩ := h.past hs
    obtain ⟨hz, hq'⟩ := h'.past hy
    exact ⟨hz, hq'.trans hq⟩
  yielded := List.Subset.trans h.yielded h'.yielded

/-- A `Close` that the owner can take is one that the stream has yielded. -/
def Heard (x : Socket) : Prop := ∀ frame, .ok (.close frame) ∈ x.toOwner.hist → .ok (.close frame) ∈ x.yielded

theorem Heard.keep (g : Heard x) (ho : y.toOwner.hist = x.toOwner.hist) (hy : y.yielded = x.yielded) : Heard y := by
  unfold Heard
  rw [ho, hy]
  exact g

theorem step_heard {a : SocketAct} (g : Heard x) (h : x.step a = some y) : Heard y := by
  cases step_cases h with
  | streamNext item _ =>
    intro frame hm
    have hy : (forward { x with yielded := x.yielded ++ [item] } item).yielded = x.yielded ++ [item] := by
      rw [forward_frame]
    rw [hy, List.mem_append, List.mem_singleton]
    have pushed : ∀ m : Except WSError Message, .ok (.close frame) ∈ (x.toOwner.push m).hist →
        .ok (.close frame) ∈ x.yielded ∨ .ok (.close frame) = m := by
      intro m hm
      rw [Chan.push_hist, List.mem_append, List.mem_singleton] at hm
      exact hm.imp_left (g frame)
    cases ho : x.owned with
    | false =>
      refine .inl (g frame ?_)
      rcases item with err | (z | z | z | z | z) <;> simpa [forward, ho] using hm
    | true =>
      rcases item with err | (z | z | z | z | z)
      all_goals simp only [forward, ho, if_true] at hm
      · exact (pushed _ hm).imp_right fun he => by cases he
      · exact (pushed _ hm).imp_right fun he => by cases he
      · exact (pushed _ hm).imp_right fun he => by cases he
      · exact .inl (g frame hm)
      · exact .inl (g frame hm)
      · exact (pushed _ hm).imp_right fun he => by cases he; rfl
  | heartbeat _ he => rw [handleHeartbeat_frame he]; exact g.keep rfl rfl
  | heartbeatEnd _ he =>
    refine g.keep ?_ ?_
    · rw [free_toOwner, handleHeartbeat_frame he]
    · rw [free_yielded, handleHeartbeat_frame he]
  | supervise h => rw [supervise_frame h]; exact g.keep rfl rfl
  | _ => exact g.keep (by simp) (by simp)

theorem run_heard {e : SocketEvent} (g : Heard x) (h : x.run e = some y) : Heard y := by
  rcases run_kept h with ⟨a, -, hs⟩ | hk
  · exact step_heard g hs
  · exact g.keep hk.forwarded hk.yielded

theorem ran_heard {config : SocketConfig} (h : Lts.Reach run (.new config) x) : Heard x :=
  Lts.reach_inv (I := Heard) (fun _ hm => by cases hm) (fun _ _ _ _ g h => run_heard g h) h

end Socket

/-! ## What a session ends with -/

namespace SessionActor

variable {x y : SessionActor ID SC} {done : SessionAct SC → Prop}

/-- The `Close` messages that `run` has taken from its own queue. -/
def closes (x : SessionActor ID SC) : List (Option CloseFrame) := x.toSocket.got.filterMap InMessage.closeFrame

def peerCloses (x : SessionActor ID SC) : List (Option CloseFrame) := x.socket.toOwner.got.filterMap itemClose

end SessionActor

/-- The mark of an end on a session that has taken the actions `done`. -/
def SessionEnd.Explains (done : SessionAct SC → Prop) (x : SessionActor ID SC) : SessionEnd → Prop
  | .closed frame => x.closes = [frame] ∧ x.peerCloses = [] ∧ done (.close frame)
  | .closedByPeer frame => x.closes = [] ∧ x.peerCloses = [frame] ∧ .ok (.close frame) ∈ x.socket.yielded
  | .refused => x.closes = [] ∧ x.peerCloses = [] ∧ x.socket.sink.isClosed = true
  | .streamOver => x.closes = [] ∧ x.peerCloses = [] ∧ x.socket.streaming = false ∧ x.socket.toOwner.queue = []
  | .failed err => x.closes = [] ∧ x.peerCloses = [] ∧ done (.handlerReturn (.error err))
  | .panicked => x.closes = [] ∧ x.peerCloses = [] ∧ done .handlerPanic

namespace SessionActor

variable {x y : SessionActor ID SC} {done : SessionAct SC → Prop}

theorem explains_later {e : SessionEnd} (h : e.Explains done x) (hg : y.toSocket.got = x.toSocket.got)
    (hs : x.socket.Lasting y.socket) : e.Explains done y := by
  have hc : y.closes = x.closes := by unfold closes; rw [hg]
  have hp : y.peerCloses = x.peerCloses := by unfold peerCloses; rw [hs.got]
  cases e with
  | closed frame => exact ⟨hc.trans h.1, hp.trans h.2.1, h.2.2⟩
  | closedByPeer frame => exact ⟨hc.trans h.1, hp.trans h.2.1, hs.yielded h.2.2⟩
  | refused => exact ⟨hc.trans h.1, hp.trans h.2.1, hs.closed h.2.2⟩
  | streamOver =>
    obtain ⟨hy, hq⟩ := hs.past h.2.2.1
    exact ⟨hc.trans h.1, hp.trans h.2.1, hy, hq.trans h.2.2.2⟩
  | failed err => exact ⟨hc.trans h.1, hp.trans h.2.1, h.2.2⟩
  | panicked => exact ⟨hc.trans h.1, hp.trans h.2.1, h.2.2⟩

theorem explains_mono {done' : SessionAct SC → Prop} {e : SessionEnd} (hd : ∀ a, done a → done' a)
    (h : e.Explains done x) : e.Explains done' x := by
  cases e with
  | closed frame => exact ⟨h.1, h.2.1, hd _ h.2.2⟩
  | failed err => exact ⟨h.1, h.2.1, hd _ h.2.2⟩
  | panicked => exact ⟨h.1, h.2.1, hd _ h.2.2⟩
  | closedByPeer | refused | streamOver => exact h

/-- A live session has taken no `Close`, and one that is over has an end that explains its result. -/
structure Fate (done : SessionAct SC → Prop) (x : SessionActor ID SC) : Prop where
  sent : ∀ m ∈ x.toSocket.hist, ∀ frame, m.closeFrame = some frame → done (.close frame)
  live : x.live = true → x.result = none ∧ x.closes = [] ∧ x.peerCloses = []
  ended : ∀ res, x.phase = .finished res ∨ x.result = some res → ∃ e : SessionEnd, e.result = res ∧
    e.Explains done x

theorem create_fate (id : ID) {socket : Socket} (h : socket.toOwner.got = []) :
    Fate done (create id socket : SessionActor ID SC) where
  sent m hm := by cases hm
  live _ := ⟨rfl, rfl, by simp [peerCloses, create, h]⟩
  ended res h := by rcases h with h | h <;> cases h

theorem Fate.mono {done' : SessionAct SC → Prop} (hd : ∀ a, done a → done' a) (g : Fate done x) : Fate done' x where
  sent m hm frame hf := hd _ (g.sent m hm frame hf)
  live := g.live
  ended res h := by
    obtain ⟨e, he, hx⟩ := g.ended res h
    exact ⟨e, he, explains_mono hd hx⟩

/-- The session stays as it was, but for what its queue is given and what others do to its socket. -/
theorem Fate.later (g : Fate done x) (hp : y.phase = x.phase) (hr : y.result = x.result)
    (hg : y.toSocket.got = x.toSocket.got) (hs : x.socket.Lasting y.socket)
    (hh : ∀ m ∈ y.toSocket.hist, ∀ frame, m.closeFrame = some frame → done (.close frame)) : Fate done y where
  sent := hh
  live hl := by
    have hx : x.live = true := by unfold SessionActor.live at hl ⊢; rw [← hp]; exact hl
    obtain ⟨hn, hc, hpc⟩ := g.live hx
    exact ⟨hr.trans hn, by unfold closes; rw [hg]; exact hc, by unfold peerCloses; rw [hs.got]; exact hpc⟩
  ended res h := by
    rw [hp, hr] at h
    obtain ⟨e, he, hx⟩ := g.ended res h
    exact ⟨e, he, explains_later hx hg hs⟩

/-- The session goes on. -/
theorem Fate.goes_on (g : Fate done x) (hl : x.live = true) (hy : y.live = true) (hr : y.result = x.result)
    (hh : y.toSocket.hist = x.toSocket.hist) (hc : y.closes = x.closes) (hp : y.peerCloses = x.peerCloses) :
    Fate done y where
  sent := by rw [hh]; exact g.sent
  live _ := by
    rw [hr, hc, hp]
    exact g.live hl
  ended res h := by
    rcases h with h | h
    · unfold SessionActor.live at hy
      rw [h] at hy
      cases hy
    · rw [hr, (g.live hl).1] at h
      cases h

theorem Fate.finish (hh : ∀ m ∈ x.toSocket.hist, ∀ frame, m.closeFrame = some frame → done (.close frame))
    (hn : x.result = none) {e : SessionEnd} (he : e.Explains done x) : Fate done (x.finish e.result) where
  sent := hh
  live hl := by cases hl
  ended res h := by
    rcases h with h | h
    · cases h
      exact ⟨e, rfl, explains_later he rfl (Socket.drop_lasting _)⟩
    · cases hn.symm.trans h

theorem closes_pop {m : InMessage} {c : Chan InMessage} {z : Socket} (h : x.toSocket.pop? = some (m, c)) :
    ({ x with toSocket := c, socket := z } : SessionActor ID SC).closes = x.closes ++ m.closeFrame.toList := by
  have hm : [m].filterMap InMessage.closeFrame = m.closeFrame.toList := by
    cases hf : m.closeFrame <;> simp [hf]
  unfold closes
  rw [(Chan.pop?_some.mp h).2, List.filterMap_append, hm]

theorem peerCloses_recv {item : Option (Except WSError Message)} {z : Socket} (h : x.socket.recv = some (item, z)) :
    ({ x with socket := z } : SessionActor ID SC).peerCloses = x.peerCloses ++ (item.bind itemClose).toList := by
  unfold peerCloses
  rw [Socket.recv_got h, List.filterMap_append]
  cases item with
  | none => rfl
  | some item => cases hc : itemClose item <;> simp [hc]

theorem send_fate (g : Fate done x) (m : Message) (hm : ∀ frame, m = .close frame → done (.close frame)) :
    Fate done (x.send m) := by
  by_cases hl : x.live = true
  · refine g.later (send_phase m) ?_ ?_ ?_ ?_
    · simp [send, hl]
    · simp [send, hl]
    · rw [send_socket]
      exact Socket.lasting_of_eq rfl rfl rfl rfl
    · intro w hw frame hf
      rw [send_toSocket x m hl, Chan.push_hist, List.mem_append, List.mem_singleton] at hw
      rcases hw with hw | rfl
      · exact g.sent w hw frame hf
      · cases m with
        | text t | binary b => cases hf
        | close f => cases hf; exact hm frame rfl
  · have hs : x.send m = x := by simp [send, hl]
    rw [hs]
    exact g

/-- The session itself has taken the action `a`, or it is one that leaves no mark. -/
theorem step_fate {a : SessionAct SC} (g : Fate done x) (hy : x.socket.Heard) (ha : done a)
    (h : x.step a = some y) :
    Fate done y := by
  cases step_cases h with
  | text m | binary m => exact send_fate g _ fun frame he => by cases he
  | close frame => exact send_fate g _ fun _ he => by cases he; exact ha
  | call c =>
    unfold call
    split
    · exact g.later rfl rfl rfl (Socket.lasting_of_eq rfl rfl rfl rfl) g.sent
    · exact g
  | @handOver m c hp hq hm =>
    have hl : x.live = true := by simp [live, hp]
    refine g.goes_on hl hl rfl (Chan.pop?_hist hq) ?_ ?_
    · rw [closes_pop hq, hm]; simp
    · unfold peerCloses; rw [(Socket.send_lasting x.socket m).got]
  | @handOverClose m c frame hp hq hm =>
    obtain ⟨hn, hc, hpc⟩ := g.live (by simp [live, hp])
    have hin : m ∈ x.toSocket.hist := by simp [Chan.hist, (Chan.pop?_some.mp hq).1]
    refine Fate.finish (x := { x with toSocket := c, socket := (x.socket.send m).1 }) (e := .closed frame)
      (by rw [Chan.pop?_hist hq]; exact g.sent) hn ⟨?_, ?_, g.sent m hin frame hm⟩
    · rw [closes_pop hq, hc, hm]; rfl
    · unfold peerCloses at hpc ⊢; rw [(Socket.send_lasting x.socket m).got]; exact hpc
  | @sendFailed m c hp hq hm hs =>
    obtain ⟨hn, hc, hpc⟩ := g.live (by simp [live, hp])
    refine Fate.finish (x := { x with toSocket := c, socket := (x.socket.send m).1 }) (e := .refused)
      (by rw [Chan.pop?_hist hq]; exact g.sent) hn ⟨?_, ?_, ?_⟩
    · rw [closes_pop hq, hc, hm]; rfl
    · unfold peerCloses at hpc ⊢; rw [(Socket.send_lasting x.socket m).got]; exact hpc
    · apply (Socket.send_lasting x.socket m).closed
      apply Classical.byContradiction
      intro ho
      have hsend := Socket.sendRaw_open m.toRaw (by simpa using ho)
      have : (x.socket.sendRaw m.toRaw).2 = false := hs
      rw [hsend] at this
      cases this
  | takeCall hp =>
    have hl : x.live = true := by simp [live, hp]
    exact g.goes_on hl rfl rfl rfl rfl rfl
  | @incoming item z hp hq _ hr =>
    have hl : x.live = true := by simp [live, hp]
    obtain ⟨hn, hc, hpc⟩ := g.live hl
    have hpeer := peerCloses_recv hr
    rw [hpc, List.nil_append] at hpeer
    rcases item with _ | (err | (t | b | frame))
    · have hover := Socket.recv_none hr
      exact Fate.finish (x := { x with socket := z }) (e := .streamOver) g.sent hn ⟨hc, hpeer, hover⟩
    · exact g.goes_on hl hl rfl rfl rfl (hpeer.trans hpc.symm)
    · exact g.goes_on hl rfl rfl rfl rfl (hpeer.trans hpc.symm)
    · exact g.goes_on hl rfl rfl rfl rfl (hpeer.trans hpc.symm)
    · refine Fate.finish (x := { x with socket := z }) (e := .closedByPeer frame) g.sent hn ⟨hc, hpeer, ?_⟩
      obtain ⟨l, rfl, hqueue⟩ := Socket.recv_queue hr
      have hz : z.yielded = x.socket.yielded := by rw [Socket.recv_frame hr]
      show _ ∈ z.yielded
      rw [hz]
      exact hy frame (by simp [Chan.hist, hqueue])
  | callWith hp | resume hp | handlerOk hp =>
    have hl : x.live = true := by simp [live, hp]
    exact g.goes_on hl rfl rfl rfl rfl rfl
  | handlerErr err hp =>
    obtain ⟨hn, hc, hpc⟩ := g.live (by simp [live, hp])
    exact Fate.finish (e := .failed err) g.sent hn ⟨hc, hpc, ha⟩
  | handlerPanic hp =>
    obtain ⟨hn, hc, hpc⟩ := g.live (by simp [live, hp])
    exact Fate.finish (e := .panicked) g.sent hn ⟨hc, hpc, ha⟩
  | @notify res hp =>
    refine ⟨g.sent, (fun hl => by cases hl), fun res' h => ?_⟩
    rcases h with h | h
    · cases h
    · cases h
      obtain ⟨e, he, hx⟩ := g.ended res (.inl hp)
      exact ⟨e, he, explains_later hx rfl (Socket.lasting_of_eq rfl rfl rfl rfl)⟩
  | socket b hs => exact g.later rfl rfl rfl (Socket.step_lasting hs) g.sent

end SessionActor

/-! ## What the server tells about it -/

section

variable {s : Server ID C SC} {i : Nat} {c d : Conn ID SC}

/-- What the actions `as` have had connection `i` do. -/
def Given (as : List (ServerAct ID C SC)) (i : Nat) (b : SessionAct SC) : Prop := ∃ a ∈ as, a.Gives i b

structure Fated (as : List (ServerAct ID C SC)) (i : Nat) (c : Conn ID SC) : Prop where
  keeps : Keeps c.stage c.body
  bare : ∀ x, c.body = .socket x → x.toOwner.got = []
  fate : ∀ x, c.body = .session x → x.Fate (Given as i)

theorem turn_fated {as : List (ServerAct ID C SC)} {a : ServerAct ID C SC}
    {F : Option CloseFrame → Prop} (ha : a ∈ as)
    (g : Fated as i c) (h : c.Turn (a.Gives i) F d) : Fated as i d := by
  have socket : ∀ {x : Socket} {st : Stage}, d.Is st (.socket x) → x.toOwner.got = [] →
      (∀ z, d.body = .socket z → z.toOwner.got = []) ∧ ∀ z, d.body = .session z → z.Fate (Given as i) := by
    intro x st hd hx
    rw [hd.body]
    exact ⟨(fun z hz => by cases hz; exact hx), fun z hz => by cases hz⟩
  have session : ∀ {x : SessionActor ID SC} {st : Stage}, d.Is st (.session x) → x.Fate (Given as i) →
      (∀ z, d.body = .socket z → z.toOwner.got = []) ∧ ∀ z, d.body = .session z → z.Fate (Given as i) := by
    intro x st hd hx
    rw [hd.body]
    exact ⟨(fun z hz => by cases hz), fun z hz => by cases hz; exact hx⟩
  obtain ⟨hbare, hfate⟩ : (∀ z, d.body = .socket z → z.toOwner.got = []) ∧
      ∀ z, d.body = .session z → z.Fate (Given as i) := by
    cases h with
    | stay hb => rw [hb]; exact ⟨g.bare, g.fate⟩
    | @socket x y b _ hb hs hd => exact socket hd ((Socket.step_lasting hs).got.trans (g.bare x hb))
    | @session x y b hq hb hs hd =>
      obtain ⟨config, hr⟩ := g.keeps.ran
      rw [hb] at hr
      exact session hd (SessionActor.step_fate (g.fate x hb) (Socket.ran_heard hr) ⟨a, ha, hq⟩ hs)
    | @indicator x hb hd =>
      exact session hd ((g.fate x hb).later rfl rfl rfl (Socket.lasting_of_eq rfl rfl rfl rfl) (g.fate x hb).sent)
    | @take x hc hd => exact socket hd (g.bare x hc.body)
    | @reject x ok _ hc hd =>
      exact socket hd (((Socket.send_lasting x _).trans (Socket.drop_lasting _)).got.trans (g.bare x hc.body))
    | @create x id hc hd => exact session hd (SessionActor.create_fate id (g.bare x hc.body))
    | @accept x hc hd =>
      have gx := g.fate x hc.body
      exact session hd (gx.later rfl rfl rfl (Socket.dropSink_lasting _) gx.sent)
    | @declineSocket x frame _ hc hd =>
      exact socket hd ((((Socket.drop_lasting x).trans (Socket.send_lasting _ _)).trans
        (Socket.dropSink_lasting _)).got.trans (g.bare x hc.body))
    | @declineSession x frame _ hc hd =>
      have gx := g.fate x hc.body
      exact session hd (gx.later rfl rfl rfl ((Socket.send_lasting _ _).trans (Socket.dropSink_lasting _)) gx.sent)
    | @discard x hc hd => exact socket hd ((Socket.drop_lasting x).got.trans (g.bare x hc.body))
  exact ⟨turn_keeps g.keeps h, hbare, hfate⟩

theorem reach_fated {as : List (ServerAct ID C SC)} (hf : Fresh as) (h : Lts.exec Server.step .create as = some s)
    (hi : s.conns[i]? = some c) : Fated as i c := by
  refine conns_run_inv (P := Fated) ?_ ?_ (fun as u a i c d _ g ht => turn_fated (by simp) g ht) hf h i c hi
  · intro as i config early
    exact ⟨⟨⟨config, .refl _⟩, rfl, rfl, fun _ => ⟨_, rfl⟩⟩, (fun x hx => by cases hx; rfl),
      fun x hx => by cases hx⟩
  · intro as a i c g
    refine ⟨g.keeps, g.bare, fun x hx => (g.fate x hx).mono ?_⟩
    rintro b ⟨a', ha', hb⟩
    exact ⟨a', List.mem_append_left _ ha', hb⟩

/-- A session that `on_disconnect` was called for has ended as the call says. -/
theorem told_fated {as : List (ServerAct ID C SC)} (hf : Fresh as) (h : Lts.exec Server.step .create as = some s)
    {id : ID} {r : SessionResult} (hm : .onDisconnect i id r ∈ s.log) :
    ∃ c a e, s.conns[i]? = some c ∧ c.body = .session a ∧ (c.stage = .disconnecting ∨ c.stage = .disconnected) ∧
      a.Fate (Given as i) ∧ r = Server.awaitClose (SessionEnd.result e) ∧ e.Explains (Given as i) a := by
  have hr : Lts.Reach Server.step .create s := ⟨as, h⟩
  obtain ⟨a, res, ha, hres, rfl⟩ := on_disconnect_told hr hm
  obtain ⟨c, hi, hb⟩ := Server.session?_some.mp ha
  have d := reach_delivered hr
  have ht : s.taken i = true := by
    rw [d.taken_eq]
    exact List.any_eq_true.mpr ⟨_, hm, by simp [Callback.isDisconnect]⟩
  have hfate := (reach_fated hf h hi).fate a hb
  obtain ⟨e, rfl, he⟩ := hfate.ended res (.inr hres)
  exact ⟨c, a, e, hi, hb, ((reach_accounting hr).taken_iff d hi).mp ht, hfate, rfl, he⟩

/-- `on_disconnect` is told the id of the session that has ended and how its `run` ended, and the session shows that
it was so. A frame is that of the only `Close` that the session has taken: one that its handle or the shutdown has
sent, or one that the client's stream has yielded. Without a `Close` the sink was closed or the stream was over, or
a handler has returned that error or has panicked. -/
theorem on_disconnect_explained {as : List (ServerAct ID C SC)} (hf : Fresh as)
    (h : Lts.exec Server.step .create as = some s) {id : ID} {r : SessionResult}
    (hm : .onDisconnect i id r ∈ s.log) :
    ∃ a e, s.session? i = some a ∧ id = a.id ∧ r = Server.awaitClose (SessionEnd.result e) ∧
      e.Explains (Given as i) a := by
  have hr : Lts.Reach Server.step .create s := ⟨as, h⟩
  have g := reach_accounting hr
  have d := reach_delivered hr
  obtain ⟨c, a, e, hi, hb, hst, -, rfl, he⟩ := told_fated hf h hm
  obtain ⟨-, c', a', r', hc', hb', -, hlog⟩ := g.call_of_taken d ((g.taken_iff d hi).mpr hst)
  cases hi.symm.trans hc'
  cases hb.symm.trans hb'
  have hmem : .onDisconnect i id (Server.awaitClose e.result) ∈ s.log.filter (·.isDisconnect i) :=
    List.mem_filter.mpr ⟨hm, by simp [Callback.isDisconnect]⟩
  rw [hlog, List.mem_singleton] at hmem
  cases hmem
  exact ⟨a, e, Server.session?_some.mpr ⟨c, hi, hb⟩, rfl, rfl, he⟩

/-- The client closes with a frame and the server is told. -/
def endingsRun : List (ServerAct Nat Nat Nat) := [
  .accept (.new .default), .takeConnection, .createSession 7, .onConnectReturn (.ok ()), .spawnCloser 0,
  .takeIndicator 0, .session 0 (.socket (.streamNext (.ok (.close (some ⟨.restart, "bye"⟩))))),
  .session 0 .incoming, .session 0 .notify, .awaitClose 0, .abortCloser 0, .disconnected 0, .takeDisconnected]

theorem on_disconnect_explained_one : ∃ (s : Server Nat Nat Nat) (a : SessionActor Nat Nat) (e : SessionEnd),
    Lts.exec Server.step .create endingsRun = some s ∧
      s.log.getLast? = some (.onDisconnect 0 7 (.ok (some ⟨.restart, "bye"⟩))) ∧ s.session? 0 = some a ∧
      .ok (some ⟨.restart, "bye"⟩) = Server.awaitClose (SessionEnd.result e) ∧
      e.Explains (Given endingsRun 0) a := by
  have h : Lts.exec Server.step (.create : Server Nat Nat Nat) endingsRun = some _ := rfl
  have hf : Fresh endingsRun := by
    intro socket hm
    simp only [endingsRun, List.mem_cons, reduceCtorEq, ServerAct.accept.injEq, List.not_mem_nil, or_false] at hm
    exact ⟨.default, hm⟩
  obtain ⟨a, e, ha, -, hr, he⟩ := on_disconnect_explained hf h (List.mem_of_getLast? rfl)
  exact ⟨_, a, e, h, rfl, ha, hr, he⟩

end

end Ezsockets
