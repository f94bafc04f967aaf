import Ezsockets.Shutdown

/-!
# The shutdown broadcast

`shutdown_signal` has a receiver for each session whose watcher can still
miss it, and its value is stored only while there is one. `Closing` follows
one `watch_for_shutdown` task from `subscribe` to the `Close` it enqueues.
-/

namespace Ezsockets

variable {ID C SC : Type} {s t : Server ID C SC}

@[simp] def Watcher.isSpawned : Watcher → Bool
  | .spawned => true
  | _ => false

@[simp] def Closer.holds : Closer → Bool
  | .borrow | .changed | .close => true
  | _ => false

/-- The receiver of the connection's watcher has not been dropped. -/
def Conn.holds (c : Conn ID SC) : Bool := c.watcher.isSpawned || c.closer.holds

/-- The session was sent an away `Close`. -/
def Body.closing : Body ID SC → Prop
  | .session a => ∃ m ∈ a.toSocket.hist, m.closeFrame = some (some awayFrame)
  | .socket _ => False

structure Body.Later (b b' : Body ID SC) : Prop where
  live : b'.live = true → b.live = true
  closing : b.closing → b'.closing

theorem Body.Later.refl (b : Body ID SC) : b.Later b := ⟨fun h => h, fun h => h⟩

theorem Body.Later.mapSocket (b : Body ID SC) (f : Socket → Socket) : b.Later (b.mapSocket f) := by
  cases b with
  | socket x => exact ⟨fun h => h, fun h => h⟩
  | session a => exact ⟨fun h => h, fun h => h⟩

theorem Body.Later.socket (x y : Socket) : (Body.socket x : Body ID SC).Later (.socket y) :=
  ⟨fun h => h, fun h => h⟩

theorem Body.Later.session {a b : SessionActor ID SC} (h : a.Later b) : (Body.session a).Later (.session b) :=
  ⟨h.live, fun ⟨m, hm, hf⟩ => ⟨m, h.hist.subset hm, hf⟩⟩

structure Closing (value down : Bool) (c : Conn ID SC) : Prop where
  start : c.closer = .absent ↔ c.watcher = .absent ∨ c.watcher = .spawned
  seen : c.watcher = .spawned ∨ c.closer = .changed → c.seen = 0
  reread : c.closer = .borrow → c.seen = 0 ∨ value = true
  close : c.closer = .close → value = true
  done : c.closer = .done → c.closes = 1 ∨ c.body.live = false
  abort : c.abort = true → c.watcher.late = true
  cancelled : c.closer = .cancelled → c.abort = true
  closes : c.closes = 0 ∨ (c.closer = .done ∧ c.closes = 1 ∧ down = true ∧ c.body.closing)

section
variable {value down : Bool} {c : Conn ID SC}

theorem Closing.new (socket : Socket) (early : Bool) : Closing value down (.new socket early : Conn ID SC) where
  start := by simp [Conn.new]
  seen h := by simp [Conn.new] at h
  reread h := by cases h
  close h := by cases h
  done h := by cases h
  abort h := by cases h
  cancelled h := by cases h
  closes := .inl rfl

theorem Closing.notSpawned (h : Closing value down c) (hc : c.closer ≠ .absent) : c.watcher.isSpawned = false := by
  cases hw : c.watcher with
  | spawned => exact absurd (h.start.mpr (.inr hw)) hc
  | _ => rfl

theorem Closing.mono {value' down' : Bool} (h : Closing value down c) (hv : value = true → value' = true)
    (hd : down = true → down' = true) : Closing value' down' c where
  start := h.start
  seen := h.seen
  reread hc := (h.reread hc).imp_right hv
  close hc := hv (h.close hc)
  done := h.done
  abort := h.abort
  cancelled := h.cancelled
  closes := h.closes.imp_right fun ⟨h1, h2, h3, h4⟩ => ⟨h1, h2, hd h3, h4⟩

theorem Closing.setBody {b : Body ID SC} {st : Stage} (h : Closing value down c)
    (hb : c.closer ≠ .absent → c.body.Later b) : Closing value down { c with body := b, stage := st } where
  start := h.start
  seen := h.seen
  reread := h.reread
  close := h.close
  done hc := (h.done hc).imp_right fun hl => by
    have hb := hb (by rw [show c.closer = .done from hc]; exact fun e => by cases e)
    apply Bool.eq_false_iff.mpr
    intro hx
    rw [hb.live hx] at hl; cases hl
  abort := h.abort
  cancelled := h.cancelled
  closes := h.closes.imp_right fun ⟨h1, h2, h3, h4⟩ =>
    ⟨h1, h2, h3, (hb (by rw [h1]; exact fun e => by cases e)).closing h4⟩

theorem Closing.setWatcher {w : Watcher} {b : Bool} (h : Closing value down c)
    (hc : ¬ (c.watcher = .absent ∨ c.watcher = .spawned)) (hw : ¬ (w = .absent ∨ w = .spawned))
    (ha : b = true → w.late = true) (hb : c.abort = true → b = true) :
    Closing value down { c with watcher := w, abort := b } where
  start := by
    rw [show (c.closer = .absent) ↔ False from by rw [h.start]; exact iff_false_intro hc]
    exact (iff_false_intro hw).symm
  seen hx := h.seen (hx.imp_left fun hx => absurd (.inr hx) hw)
  reread := h.reread
  close := h.close
  done := h.done
  abort := ha
  cancelled hx := hb (h.cancelled hx)
  closes := h.closes

theorem Closing.setCloser {x : Closer} {n : Nat} (h : Closing value down c) (ha : c.closer ≠ .absent)
    (hn : c.closer ≠ .done) (hx : x ≠ .absent) (hs : x = .changed → n = 0)
    (hr : x = .borrow → n = 0 ∨ value = true) (hcl : x = .close → value = true)
    (hd : x = .done → c.body.live = false) (hca : x = .cancelled → c.abort = true) :
    Closing value down { c with closer := x, seen := n } where
  start := by
    rw [← h.start]
    exact ⟨fun e => absurd e hx, fun e => absurd e ha⟩
  seen hy := hs (hy.resolve_left fun hw => ha (h.start.mpr (.inr hw)))
  reread := hr
  close := hcl
  done hy := .inr (hd hy)
  abort := h.abort
  cancelled := hca
  closes := .inl (h.closes.resolve_right fun h => hn h.1)

end

structure Broadcast (s : Server ID C SC) : Prop where
  version : s.shutdownSignal.version = if s.shutdownSignal.value then 1 else 0
  receivers : s.shutdownSignal.receivers = s.conns.countP Conn.holds
  told : s.shutdownSignal.value = true → s.shuttingDown = true
  sender : s.shutdownSignal.sender = false → s.shuttingDown = true
  heard : s.shuttingDown = true → ∀ c ∈ s.conns, c.holds = true → s.shutdownSignal.value = true
  closing : ∀ (i : Nat) c, s.conns[i]? = some c → Closing s.shutdownSignal.value s.shuttingDown c

theorem create_broadcast : Broadcast (.create : Server ID C SC) where
  version := rfl
  receivers := rfl
  told h := by cases h
  sender h := by cases h
  heard h := by cases h
  closing i c h := by simp [Server.create] at h

section
variable {i : Nat} {c c' : Conn ID SC}

theorem Broadcast.set (g : Broadcast s) (hc : s.conns[i]? = some c) (ht : t.conns = s.conns.set i c')
    (hd : t.shuttingDown = s.shuttingDown) (hr : t.shutdownSignal = { s.shutdownSignal with
      receivers := s.shutdownSignal.receivers - if c.holds && !c'.holds then 1 else 0 })
    (hh : c'.holds = true → c.holds = true)
    (hk : Closing s.shutdownSignal.value s.shuttingDown c → Closing s.shutdownSignal.value s.shuttingDown c') :
    Broadcast t where
  version := by rw [hr]; exact g.version
  receivers := by
    have hcount := List.countP_set_of hc c' Conn.holds
    rw [ht, hr]
    simp only [g.receivers]
    cases hx : c'.holds with
    | true => simp [hx, hh hx] at hcount ⊢; omega
    | false => cases hy : c.holds <;> simp [hx, hy] at hcount ⊢ <;> omega
  told h := by rw [hr] at h; rw [hd]; exact g.told h
  sender h := by rw [hr] at h; rw [hd]; exact g.sender h
  heard h := by
    rw [hd] at h
    rw [hr, ht]
    intro d hm hx
    obtain ⟨j, hj⟩ := List.getElem?_of_mem hm
    rw [List.getElem?_set_of hc] at hj
    split at hj
    · cases hj; exact g.heard h c (List.mem_of_getElem? hc) (hh hx)
    · exact g.heard h d (List.mem_of_getElem? hj) hx
  closing := by
    rw [hr, hd, ht]
    exact List.forall_set hc (hk (g.closing i c hc)) fun j d _ hj => g.closing j d hj

theorem Broadcast.setConn (g : Broadcast s) (hc : s.conns[i]? = some c) (ht : t.conns = s.conns.set i c')
    (hd : t.shuttingDown = s.shuttingDown) (hv : t.shutdownSignal = s.shutdownSignal) (hh : c'.holds = c.holds)
    (hk : Closing s.shutdownSignal.value s.shuttingDown c → Closing s.shutdownSignal.value s.shuttingDown c') :
    Broadcast t :=
  g.set hc ht hd (by rw [hv, hh]; cases c.holds <;> simp) (fun h => hh ▸ h) hk

theorem Broadcast.drop (g : Broadcast s) (hc : s.conns[i]? = some c) (hw : c.closer.holds = true)
    (hw' : c'.closer.holds = false) (hs : c'.watcher = c.watcher)
    (hk : Closing s.shutdownSignal.value s.shuttingDown c → Closing s.shutdownSignal.value s.shuttingDown c') :
    Broadcast (s.setConn i c').dropReceiver := by
  have hn := (g.closing i c hc).notSpawned fun e => by rw [e] at hw; cases hw
  have h : c.holds = true := by rw [Conn.holds, hw, Bool.or_true]
  have h' : c'.holds = false := by rw [Conn.holds, hs, hn, hw']; rfl
  refine g.set hc rfl rfl ?_ (fun hx => by rw [h'] at hx; cases hx) hk
  rw [h, h']; rfl

theorem Broadcast.same (g : Broadcast s) (hc : t.conns = s.conns) (hd : t.shuttingDown = s.shuttingDown)
    (hv : t.shutdownSignal = s.shutdownSignal) : Broadcast t where
  version := by rw [hv]; exact g.version
  receivers := by rw [hv, hc]; exact g.receivers
  told := by rw [hv, hd]; exact g.told
  sender := by rw [hv, hd]; exact g.sender
  heard := by rw [hv, hd, hc]; exact g.heard
  closing := by rw [hv, hd, hc]; exact g.closing

theorem accept_broadcast (g : Broadcast s) (socket : Socket) : Broadcast (s.accept socket) := by
  unfold Server.accept
  split
  · exact g
  refine ⟨g.version, ?_, g.told, g.sender, fun h d hm hx => ?_, ?_⟩
  · simp [g.receivers, Conn.new, Conn.holds]
  · rcases List.mem_append.mp hm with h' | h'
    · exact g.heard h d h' hx
    · rw [List.mem_singleton.mp h'] at hx; simp [Conn.new, Conn.holds] at hx
  · exact List.forall_append_one (.new socket _) g.closing

theorem takeShutdown_broadcast (g : Broadcast s) (ack : Nat) : Broadcast (s.takeShutdown ack) := by
  unfold Server.takeShutdown
  split
  · exact g.same rfl rfl rfl
  rename_i hd
  have hv : s.shutdownSignal.value = false := by
    apply Bool.eq_false_iff.mpr
    intro hv
    exact hd (g.told hv)
  have hver := g.version
  have hmono : ∀ v i c, s.conns[i]? = some c → Closing v true c := fun v i c hc =>
    (g.closing i c hc).mono (fun h => by rw [hv] at h; cases h) fun _ => rfl
  by_cases hr : s.shutdownSignal.receivers = 0
  · have hs : s.shutdownSignal.send true = s.shutdownSignal := if_pos hr
    rw [hs]
    refine ⟨hver, g.receivers, fun _ => rfl, fun _ => rfl, fun _ c hm hx => ?_, hmono _⟩
    -- nobody can have missed what was not stored
    rw [g.receivers, List.countP_eq_zero] at hr
    exact absurd hx (hr c hm)
  · rw [Watch.send_of_receiver (Nat.pos_of_ne_zero hr)]
    refine ⟨?_, g.receivers, fun _ => rfl, fun _ => rfl, fun _ _ _ _ => rfl, hmono true⟩
    rw [hv] at hver
    simpa using hver

theorem onConnectOk_broadcast (n : Accounting s) (p : Halted s) (g : Broadcast s) (hp : s.phase = .onConnect i)
    (hc : s.conns[i]? = some c) : Broadcast (s.onConnectOk i c) := by
  have hd : s.shuttingDown = false := by
    apply Bool.eq_false_iff.mpr
    intro hd
    have hs := p hd
    rw [hp] at hs; cases hs
  have hv : s.shutdownSignal.value = false := by
    apply Bool.eq_false_iff.mpr
    intro hv
    rw [g.told hv] at hd; cases hd
  have hw : c.watcher = .absent := Watcher.of_isAbsent (n.connecting hp hc).2
  have k := g.closing i c hc
  have hcl : c.closer = .absent := k.start.mpr (.inl hw)
  have hver : s.shutdownSignal.version = 0 := by rw [g.version, hv]; rfl
  refine ⟨g.version, ?_, g.told, g.sender, fun h => ?_, List.forall_set hc ?_ fun j d _ hj => g.closing j d hj⟩
  · have h0 : c.holds = false := by simp [Conn.holds, hw, hcl]
    have hcount := List.countP_set_of hc { c with
      body := c.body.mapSocket (·.dropSink), stage := .accepted, watcher := .spawned,
      seen := s.shutdownSignal.version } Conn.holds
    rw [h0, if_neg Bool.false_ne_true, ← g.receivers] at hcount
    exact hcount.symm
  · cases hd.symm.trans h
  · exact {
      start := by simp [hcl]
      seen := fun _ => hver
      reread := fun h => by rw [show _ = c.closer from rfl, hcl] at h; cases h
      close := fun h => by rw [show _ = c.closer from rfl, hcl] at h; cases h
      done := fun h => by rw [show _ = c.closer from rfl, hcl] at h; cases h
      abort := fun h => by have := k.abort h; rw [hw] at this; cases this
      cancelled := fun h => by rw [show _ = c.closer from rfl, hcl] at h; cases h
      closes := k.closes.imp_right fun h => by rw [hcl] at h; cases h.1 }

theorem respond_broadcast (n : Accounting s) (g : Broadcast s) (o : Option Nat) : Broadcast (s.respondOpt o) := by
  rcases Server.respond_cases s o with h | ⟨i, c, a, b, -, hc, hb, hs, h⟩
  · rw [h]; exact g
  · rw [h]
    have hl := (SessionActor.step_later ((n.tracked i c hc).good a hb) hs).2
    refine g.setConn hc rfl rfl rfl rfl fun k => k.setBody fun _ => ?_
    rw [hb]; exact .session hl

theorem discard_holds (s : Server ID C SC) (i : Nat) (c : Conn ID SC) : (s.discard i c).holds = c.holds := by
  unfold Server.discard; split <;> rfl

theorem dropActor_broadcast (n : Accounting s) (g : Broadcast s) (hp : s.phase = .left) :
    Broadcast s.dropActor := by
  refine (Server.foldl_respond_inv (I := fun u => Accounting u ∧ Broadcast u)
    (fun u o h => ⟨respond_accounting h.1 o, respond_broadcast h.1 h.2 o⟩) _ ⟨dropFields_accounting n hp, ?_⟩).2
  refine ⟨g.version, ?_, g.told, fun _ => ?_, fun h d hm hx => ?_, List.forall_mapIdx fun j d hj => ?_⟩
  · exact g.receivers.trans (List.countP_mapIdx (discard_holds s)).symm
  · have hd := n.exit (by simp [Server.inLoop, hp])
    simp only [Server.drained, Bool.and_eq_true] at hd
    exact hd.1
  · obtain ⟨j, hj⟩ := List.getElem?_of_mem hm
    refine List.forall_mapIdx (P := fun _ d => d.holds = true → s.shutdownSignal.value = true) (fun k e he hx => ?_)
      j d hj hx
    rw [discard_holds] at hx
    exact g.heard h e (List.mem_of_getElem? he) hx
  · unfold Server.discard
    split
    · exact (g.closing j d hj).setBody fun _ => .mapSocket d.body _
    · exact g.closing j d hj

theorem borrow_broadcast (g : Broadcast s) (hc : s.conns[i]? = some c) (hw : c.closer = .borrow) :
    Broadcast (s.setConn i { c with closer := if s.shutdownSignal.value then .close else .changed }) := by
  refine g.setConn hc rfl rfl rfl (by cases s.shutdownSignal.value <;> simp [Conn.holds, hw]) fun k => ?_
  by_cases hv : s.shutdownSignal.value = true
  · rw [if_pos hv]
    exact k.setCloser (by simp [hw]) (by simp [hw]) (by simp) (by simp) (by simp) (fun _ => hv) (by simp) (by simp)
  · rw [if_neg hv]
    have hs : c.seen = 0 := (k.reread hw).resolve_right hv
    exact k.setCloser (by simp [hw]) (by simp [hw]) (by simp) (fun _ => hs) (by simp) (by simp) (by simp) (by simp)

/-- The value has flipped once a version is there to be seen. -/
theorem Broadcast.flipped (g : Broadcast s) (h : s.shutdownSignal.version ≠ 0) : s.shutdownSignal.value = true := by
  cases hv : s.shutdownSignal.value with
  | true => rfl
  | false => exact absurd (by rw [g.version, hv]; rfl) h

/-- A watcher that waits for a change it has not missed is not left behind by the sender. -/
theorem Broadcast.not_error (g : Broadcast s) (hc : s.conns[i]? = some c) (hw : c.closer = .changed) :
    s.shutdownSignal.changed c.seen ≠ some (.error ()) := by
  intro hv
  obtain ⟨hver, hs⟩ := Watch.changed_error hv
  have hx : c.holds = true := by simp [Conn.holds, hw]
  have hval := g.heard (g.sender hs) c (List.mem_of_getElem? hc) hx
  rw [(g.closing i c hc).seen (.inr hw), g.version, hval] at hver
  cases hver

theorem close_broadcast (g : Broadcast s) (a : SessionActor ID SC) (hc : s.conns[i]? = some c)
    (hw : c.closer = .close) : Broadcast (s.setConn i { c with
      body := .session (a.close (some awayFrame)), closer := .done,
      closes := if a.live then c.closes + 1 else c.closes }).dropReceiver := by
  refine g.drop hc (by simp [hw]) (by simp) rfl fun k => ?_
  have h0 : c.closes = 0 := k.closes.resolve_right fun h => by rw [hw] at h; cases h.1
  have hnotabsent : ¬ (c.watcher = .absent ∨ c.watcher = .spawned) := fun h => by
    rw [k.start.mpr h] at hw; cases hw
  refine {
    start := ⟨(fun h => by cases h), fun h => absurd h hnotabsent⟩
    seen := fun h => h.elim (fun h => absurd (.inr h) hnotabsent) fun h => by cases h
    reread := fun h => by cases h
    close := fun h => by cases h
    done := fun _ => ?_
    abort := k.abort
    cancelled := fun h => by cases h
    closes := ?_ }
  · cases hl : a.live with
    | true => exact .inl (by simp [h0])
    | false => exact .inr (by simp [Body.live, SessionActor.close, SessionActor.send, hl])
  · cases hl : a.live with
    | true =>
      refine .inr ⟨rfl, by simp [h0], g.told (k.close hw), ?_⟩
      refine ⟨.new (.close (some awayFrame)) (.handle a.toSocket.hist.length), ?_, rfl⟩
      simp [SessionActor.close, SessionActor.send_toSocket a _ hl]
    | false => exact .inl (by simp [h0])

theorem step_broadcast {a : ServerAct ID C SC} (n : Accounting s) (p : Halted s) (g : Broadcast s)
    (h : s.step a = some t) : Broadcast t := by
  cases Server.step_cases h with
  | accept socket => exact accept_broadcast g socket
  | gracefulShutdown => unfold Server.gracefulShutdown; split <;> exact g.same rfl rfl rfl
  | @takeShutdown ack q hs hp =>
    have g' : Broadcast { s with shutdowns := q } := g.same rfl rfl rfl
    exact takeShutdown_broadcast g' ack
  | takeConnection hs hp hc hb =>
    unfold Server.takeConnection
    split
    · exact g.setConn hc rfl rfl rfl rfl fun k => k.setBody fun _ => by rw [hb]; exact .socket ..
    · exact g.setConn hc rfl rfl rfl rfl fun k => k.setBody fun _ => by rw [hb]; exact .socket ..
  | createSession id hp hc hb =>
    refine g.setConn hc rfl rfl rfl rfl fun k => k.setBody fun ha => absurd (k.start.mpr (.inl ?_)) ha
    exact Watcher.of_isAbsent (n.connecting hp hc).2
  | onConnectOk hp hc => exact onConnectOk_broadcast n p g hp hc
  | @onConnectErr i c frame hp hc =>
    refine g.setConn hc rfl rfl rfl rfl fun k => k.setBody fun _ => ?_
    cases hb : c.body with
    | socket x => exact .socket ..
    | session a => exact .mapSocket ..
  | takeDisconnected hs hp hc => exact g.setConn hc rfl rfl rfl rfl fun k => k.setBody fun _ => .refl _
  | onDisconnectReturn res hp hc => exact g.setConn hc rfl rfl rfl rfl fun k => k.setBody fun _ => .refl _
  | respond | onCallReturn => exact (respond_broadcast n g _).same rfl rfl rfl
  | dropActor hp => exact dropActor_broadcast n g hp
  | session a hc hb hs | callWith call hc hb hs =>
    have hl := (SessionActor.step_later ((n.tracked _ _ hc).good _ hb) hs).2
    exact g.setConn hc rfl rfl rfl rfl fun k => k.setBody fun _ => by rw [hb]; exact .session hl
  | socket a hc hb hs =>
    exact g.setConn hc rfl rfl rfl rfl fun k => k.setBody fun _ => by rw [hb]; exact .socket ..
  | spawnCloser hc hw =>
    refine g.setConn hc rfl rfl rfl (by simp [Conn.holds, hw, Watcher.isSpawned, Closer.holds]) fun k => ?_
    have hcl := k.start.mpr (.inr hw)
    exact {
      start := by simp
      seen := fun hx => by simp at hx
      reread := fun _ => .inl (k.seen (.inl hw))
      close := fun hx => by cases hx
      done := fun hx => by cases hx
      abort := fun hx => by have := k.abort hx; rw [hw] at this; cases this
      cancelled := fun hx => by cases hx
      closes := .inl (k.closes.resolve_right fun h => by rw [hcl] at h; cases h.1) }
  | @takeIndicator i c a hc hb hw =>
    refine g.setConn hc rfl rfl rfl (by simp [Conn.holds, hw, Watcher.isSpawned]) fun k => ?_
    have k' := k.setWatcher (w := .awaiting) (by simp [hw]) (by simp)
      (fun hx => by have := k.abort hx; rw [hw] at this; cases this) fun h => h
    exact k'.setBody fun _ => by rw [hb]; exact ⟨fun h => h, fun h => h⟩
  | takeIndicatorPanic hc hb hw hi =>
    have h := (n.tracked _ _ hc).indicator _ hb (by rw [hw]; rfl)
    rw [hi] at h; cases h
  | awaitClose hc hb hw =>
    refine g.setConn hc rfl rfl rfl (by simp [Conn.holds, hw, Watcher.isSpawned]) fun k => ?_
    exact k.setWatcher (by simp [hw]) (by simp) (fun _ => rfl) fun h => h
  | abortCloser hc hw =>
    refine g.setConn hc rfl rfl rfl (by simp [Conn.holds, hw, Watcher.isSpawned]) fun k => ?_
    exact k.setWatcher (by simp [hw]) (by simp) (fun _ => rfl) fun _ => rfl
  | @disconnected i c a r hc hb hw =>
    have g' : Broadcast (s.setConn i { c with watcher := .done }) := by
      refine g.setConn hc rfl rfl rfl (by simp [Conn.holds, hw, Watcher.isSpawned]) fun k => ?_
      exact k.setWatcher (by simp [hw]) (by simp) (fun _ => rfl) fun h => h
    unfold Server.disconnected
    split <;> exact g'.same rfl rfl rfl
  | borrow hc hw => exact borrow_broadcast g hc hw
  | changed hc hw hv =>
    obtain ⟨hn, rfl⟩ := Watch.changed_ok hv
    refine g.setConn hc rfl rfl rfl (by simp [Conn.holds, hw]) fun k => ?_
    have hval := g.flipped (by rw [← k.seen (.inr hw)]; exact hn)
    exact k.setCloser (by simp [hw]) (by simp [hw]) (by simp) (by simp) (fun _ => .inr hval) (by simp) (by simp)
      (by simp)
  | changedErr hc hw hv => exact absurd hv (g.not_error hc hw)
  | close hc hb hw => exact close_broadcast g _ hc hw
  | cancel hc ha hw =>
    refine g.drop hc (by rcases hw with hw | hw <;> simp [hw]) rfl rfl fun k => ?_
    rcases hw with hw | hw <;>
      exact k.setCloser (by simp [hw]) (by simp [hw]) (by simp) (by simp) (by simp) (by simp) (by simp) fun _ => ha
  | _ => exact g.same rfl rfl rfl

theorem reach_broadcast (h : Lts.Reach Server.step .create s) : Broadcast s :=
  Lts.reach_inv create_broadcast
    (fun _ _ _ hr g hs => step_broadcast (reach_accounting hr) (reach_halted hr) g hs) h

/-! ## Watchers that are stuck -/

end

/-- The steps of the task spawned for a session and of the `watch_for_shutdown` task. -/
def ServerAct.watchers (i : Nat) : List (ServerAct ID C SC) :=
  [.spawnCloser i, .takeIndicator i, .awaitClose i, .abortCloser i, .disconnected i, .borrow i,
    .changed i, .close i, .cancel i]

section
variable {i : Nat} {c : Conn ID SC} {a : SessionActor ID SC}

/-- A task that is stuck waits for its session to end, or is over. -/
theorem stuck_watcher (n : Tracked (s.view i) i c) (hc : s.conns[i]? = some c) (hb : c.body = .session a)
    (ho : c.stage.opened = true) (hx : ∀ x ∈ ServerAct.watchers i, s.step x = none) :
    c.watcher = .awaiting ∨ c.watcher = .done := by
  cases hw : c.watcher with
  | absent => have := n.watched; rw [hw, ho] at this; cases this
  | spawned =>
    have := hx (.spawnCloser i) (by simp [ServerAct.watchers])
    simp [Server.step, Server.withConn, hc, hw] at this
  | started =>
    have := hx (.takeIndicator i) (by simp [ServerAct.watchers])
    simp [Server.step, Server.withSession, Server.withConn, hc, hb, hw] at this
    split at this <;> cases this
  | awaiting => exact .inl rfl
  | resolved r =>
    have := hx (.abortCloser i) (by simp [ServerAct.watchers])
    simp [Server.step, Server.withConn, hc, hw] at this
  | aborted r =>
    have := hx (.disconnected i) (by simp [ServerAct.watchers])
    simp [Server.step, Server.withSession, Server.withConn, hc, hb, hw] at this
  | done => exact .inr rfl
  | panicked => exact absurd hw n.panicked

/-- A closer that is stuck has closed its session, or was told that it has ended. -/
theorem stuck_closer (g : Broadcast s) (hd : s.shuttingDown = true) (hc : s.conns[i]? = some c)
    (hb : c.body = .session a) (hw : c.watcher = .awaiting) (hx : ∀ x ∈ ServerAct.watchers i, s.step x = none) :
    a.live = false ∨ (c.closes = 1 ∧ c.body.closing) := by
  have k := g.closing i c hc
  cases hcl : c.closer with
  | absent => have := k.start.mp hcl; rw [hw] at this; simp at this
  | borrow =>
    have := hx (.borrow i) (by simp [ServerAct.watchers])
    simp [Server.step, Server.withConn, hc, hcl] at this
  | changed =>
    -- the change it waits for is there
    have hval := g.heard hd c (List.mem_of_getElem? hc) (by simp [Conn.holds, hcl])
    have hver : s.shutdownSignal.version = 1 := by rw [g.version, hval]; rfl
    have := hx (.changed i) (by simp [ServerAct.watchers])
    simp [Server.step, Server.withConn, hc, hcl, Watch.changed, k.seen (.inr hcl), hver] at this
  | close =>
    have := hx (.close i) (by simp [ServerAct.watchers])
    simp [Server.step, Server.withSession, Server.withConn, hc, hb, hcl] at this
  | done =>
    rcases k.done hcl with h1 | hl
    · refine .inr ⟨h1, ?_⟩
      rcases k.closes with h0 | h
      · rw [h0] at h1; cases h1
      · exact h.2.2.2
    · rw [hb] at hl; exact .inl hl
  | cancelled =>
    have := k.abort (k.cancelled hcl)
    rw [hw] at this; cases this

end

/-- No broadcast is lost: a stuck watcher has sent its session the one away `Close`, or the session has ended. No
`Close` is sent before shutdown has begun, and none twice. -/
theorem shutdown_broadcast_exact (h : Lts.Reach Server.step .create s) :
    (s.shuttingDown = true → ∀ i, s.accepted i = true → (∀ x ∈ ServerAct.watchers i, s.step x = none) →
      ∃ c a, s.conns[i]? = some c ∧ c.body = .session a ∧ (a.live = false ∨ (c.closes = 1 ∧
        ∃ m ∈ a.toSocket.hist, m.closeFrame = some (some awayFrame)))) ∧
    ∀ (i : Nat) c, s.conns[i]? = some c → c.closes ≤ 1 ∧ (0 < c.closes → s.shuttingDown = true) := by
  have n := reach_accounting h
  have g := reach_broadcast h
  constructor
  · intro hd i hi hx
    obtain ⟨c, hc⟩ := n.known hi
    have ho : c.stage.opened = true := by rw [← n.accepted_eq hc]; exact hi
    have k := n.tracked i c hc
    obtain ⟨a, hb⟩ := k.session ho
    refine ⟨c, a, hc, hb, ?_⟩
    rcases stuck_watcher k hc hb ho hx with hw | hw
    · refine (stuck_closer g hd hc hb hw hx).imp_right fun h => ⟨h.1, ?_⟩
      have h2 := h.2
      rw [hb] at h2; exact h2
    · have he := (k.ended hb (by rw [hw]; rfl)).1
      exact .inl (by simp [SessionActor.live, he])
  · intro i c hc
    rcases (g.closing i c hc).closes with h0 | ⟨-, h1, hd, -⟩
    · exact ⟨by omega, fun h => by omega⟩
    · exact ⟨by omega, fun _ => hd⟩

/-- A session that is connected while the signal is sent, and its watcher once the `Close` is enqueued. -/
theorem shutdown_broadcast_exact_one : ∃ s : Server Nat Nat Nat, s.shuttingDown = true ∧
    ∃ c a, s.conns[0]? = some c ∧ c.body = .session a ∧ (a.live = false ∨ (c.closes = 1 ∧
      ∃ m ∈ a.toSocket.hist, m.closeFrame = some (some awayFrame))) := by
  have h : Lts.Reach Server.step (.create : Server Nat Nat Nat) _ := ⟨[
    .accept (.new .default), .gracefulShutdown, .takeConnection, .createSession 7, .onConnectReturn (.ok ()),
    .spawnCloser 0, .borrow 0, .takeShutdown, .changed 0, .takeIndicator 0, .borrow 0, .close 0], rfl⟩
  refine ⟨_, ?_, (shutdown_broadcast_exact h).1 ?_ 0 ?_ ?_⟩
  · rfl
  · rfl
  · rfl
  · simp only [ServerAct.watchers, List.forall_mem_cons]
    exact ⟨rfl, rfl, rfl, rfl, rfl, rfl, rfl, rfl, rfl, fun x hx => absurd hx List.not_mem_nil⟩

end Ezsockets
