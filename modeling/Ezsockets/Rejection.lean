import Ezsockets.Callers

/-!
# Connections that come around a shutdown

`Moved` says what one step can do to one connection. A connection that was
queued in time is lost when the actor leaves its loop with it still queued,
or when it is rejected after its sink has closed.
-/

namespace Ezsockets

variable {ID C SC : Type} {s t : Server ID C SC}

/-- The connection has been passed to `on_connect`. -/
def Stage.passed : Stage → Bool
  | .queued | .rejected _ | .discarded => false
  | _ => true

/-- An away `Close` has been sent to the sink of a connection that has no session. -/
def Body.away (b : Body ID SC) : Prop :=
  ∃ x, b = .socket x ∧ ∃ m ∈ x.toSink.hist, m.message = some (.close (some awayFrame))

inductive Moved (s : Server ID C SC) (a : ServerAct ID C SC) (j : Nat) (c d : Conn ID SC) : Prop
  | stay : d.stage = c.stage → (c.body.away → c.stage.passed = false → d.body.away) → Moved s a j c d
  | take : a = .takeConnection → c.stage = .queued → d.stage = .connecting → Moved s a j c d
  | reject {x} : a = .takeConnection → s.connections.queue.head? = some j → c.stage = .queued →
      s.shuttingDown = true → c.body = .socket x → d.stage = .rejected (!x.sink.isClosed) →
      (x.sink.isClosed = false → d.body.away) → Moved s a j c d
  | pass : c.stage.passed = true → d.stage.passed = true → Moved s a j c d
  | discard : a = .dropActor → c.stage = .queued → d.stage = .discarded → Moved s a j c d

theorem Body.away_step {x y : Socket} {a : SocketAct} (h : x.step a = some y) :
    (Body.socket x : Body ID SC).away → (Body.socket y : Body ID SC).away := by
  rintro ⟨z, hz, m, hm, hf⟩
  cases hz
  exact ⟨y, rfl, m, (Socket.step_hist h).subset hm, hf⟩

theorem Body.not_away {a : SessionActor ID SC} {b : Body ID SC} (h : b = .session a) : ¬ b.away := by
  rintro ⟨x, hx, -⟩; rw [h] at hx; cases hx

theorem reject_away {x : Socket} (h : x.sink.isClosed = false) :
    (Body.socket (x.send (.new (.close (some awayFrame)) .own)).1.drop : Body ID SC).away := by
  have hs := Socket.sendRaw_open (InMessage.toRaw (.new (.close (some awayFrame)) .own)) h
  refine ⟨_, rfl, InMessage.toRaw (.new (.close (some awayFrame)) .own), ?_, rfl⟩
  rw [show x.send _ = x.sendRaw _ from rfl, hs]
  simp [Socket.drop]

section
variable {i j : Nat} {c d e : Conn ID SC}

theorem Moved.refl (a : ServerAct ID C SC) (c : Conn ID SC) : Moved s a j c c := .stay rfl fun h _ => h

theorem Moved.set {a : ServerAct ID C SC} (hi : s.conns[i]? = some c) (ht : t.conns = s.conns.set i d)
    (he : d.early = c.early) (hm : Moved s a i c d) (hj : s.conns[j]? = some e) :
    ∃ d, t.conns[j]? = some d ∧ d.early = e.early ∧ Moved s a j e d := by
  rw [ht, List.getElem?_set_of hi]
  by_cases h : j = i
  · subst h
    rw [hi] at hj; cases hj
    exact ⟨d, if_pos rfl, he, hm⟩
  · rw [if_neg h]; exact ⟨e, hj, rfl, .refl a e⟩

theorem Moved.session {a : ServerAct ID C SC} {x : SessionActor ID SC} (h : Moved s a j c d)
    (hb : d.body = .session x) (b : Body ID SC) : Moved s a j c { d with body := b } := by
  have hn := Body.not_away hb
  cases h with
  | stay hs ha => exact .stay hs fun h hp => absurd (ha h hp) hn
  | take h1 h2 h3 => exact .take h1 h2 h3
  | reject h1 h2 h3 h4 h5 h6 h7 => exact .reject h1 h2 h3 h4 h5 h6 fun h => absurd (h7 h) hn
  | pass h1 h2 => exact .pass h1 h2
  | discard h1 h2 h3 => exact .discard h1 h2 h3

theorem respond_moved {a : ServerAct ID C SC} (o : Option Nat) (hj : t.conns[j]? = some d) (he : d.early = c.early)
    (hm : Moved s a j c d) : ∃ d, (t.respondOpt o).conns[j]? = some d ∧ d.early = c.early ∧ Moved s a j c d := by
  rcases Server.respond_cases t o with h | ⟨i, e, x, y, -, hi, hb, -, h⟩
  · rw [h]; exact ⟨d, hj, he, hm⟩
  · rw [h, Server.setConn, List.getElem?_set_of hi]
    by_cases hij : j = i
    · subst hij
      rw [hj] at hi; cases hi
      exact ⟨_, if_pos rfl, he, hm.session hb _⟩
    · rw [if_neg hij]; exact ⟨d, hj, he, hm⟩

theorem dropActor_moved (n : Accounting s) (hj : s.conns[j]? = some c) :
    ∃ d, s.dropActor.conns[j]? = some d ∧ d.early = c.early ∧ Moved s .dropActor j c d := by
  refine Server.foldl_respond_inv (I := fun u => ∃ d, u.conns[j]? = some d ∧ d.early = c.early ∧
    Moved s .dropActor j c d) (fun u o ⟨d, hd, he, hm⟩ => respond_moved o hd he hm) _ ?_
  refine ⟨s.discard j c, by simp [Server.dropFields, List.getElem?_mapIdx, hj], ?_⟩
  unfold Server.discard
  split
  · rename_i hmem
    exact ⟨rfl, .discard rfl ((n.queued_iff hj).mp hmem) rfl⟩
  · exact ⟨rfl, .refl _ c⟩

theorem takeConnection_moved (n : Accounting s) {q : Chan Nat} {x : Socket}
    (hp : s.connections.pop? = some (i, q)) (hi : s.conns[i]? = some c) (hb : c.body = .socket x)
    (hj : s.conns[j]? = some e) : ∃ d, ({ s with connections := q }.takeConnection i c x).conns[j]? = some d ∧
      d.early = e.early ∧ Moved s .takeConnection j e d := by
  obtain ⟨hq, -⟩ := Chan.pop?_some.mp hp
  have hst : c.stage = .queued := (n.queued_iff hi).mp (by rw [hq]; exact List.mem_cons_self)
  unfold Server.takeConnection
  split
  · rename_i hd
    have hok : (x.send (.new (.close (some awayFrame)) .own)).2 = !x.sink.isClosed := by
      rw [show x.send _ = x.sendRaw _ from rfl]
      unfold Socket.sendRaw
      split <;> simp_all
    have haway : x.sink.isClosed = false →
        (Body.socket (x.send (.new (.close (some awayFrame)) .own)).1.drop : Body ID SC).away := reject_away
    rcases hr : x.send (.new (.close (some awayFrame)) .own) with ⟨y, ok⟩
    rw [hr] at hok haway
    exact Moved.set hi rfl rfl (.reject rfl (by rw [hq]; rfl) hst hd hb (by rw [← hok]) haway) hj
  · exact Moved.set hi rfl rfl (.take rfl hst rfl) hj

theorem step_moved {a : ServerAct ID C SC} (n : Accounting s) (h : s.step a = some t) (hj : s.conns[j]? = some e) :
    ∃ d, t.conns[j]? = some d ∧ d.early = e.early ∧ Moved s a j e d := by
  have hk : ∃ d, s.conns[j]? = some d ∧ d.early = e.early ∧ Moved s a j e d := ⟨e, hj, rfl, .refl a e⟩
  cases Server.step_cases h with
  | accept socket =>
    unfold Server.accept
    split
    · exact hk
    · refine ⟨e, ?_, rfl, .refl _ e⟩
      simp only
      rw [List.getElem?_append_left (List.getElem?_eq_some_iff.mp hj).1]; exact hj
  | gracefulShutdown => unfold Server.gracefulShutdown; split <;> exact hk
  | takeShutdown => unfold Server.takeShutdown; split <;> exact hk
  | takeConnection hs hp hc hb => exact takeConnection_moved n hp hc hb hj
  | createSession id hp hc =>
    have hst := (n.connecting hp hc).1
    exact Moved.set hc rfl rfl (.pass (by rw [hst]; rfl) (by rw [show _ = _ from hst]; rfl)) hj
  | onConnectOk hp hc | onConnectErr _ hp hc =>
    have hst := (n.connecting hp hc).1
    exact Moved.set hc rfl rfl (.pass (by rw [hst]; rfl) rfl) hj
  | takeDisconnected hs hp hc =>
    obtain ⟨hq, -⟩ := Chan.pop?_some.mp hp
    exact Moved.set hc rfl rfl (.pass (by rw [(n.message hq hc).1]; rfl) rfl) hj
  | onDisconnectReturn res hp hc =>
    have hst := n.disconnecting hp hc
    exact Moved.set hc rfl rfl (.pass (by rw [hst]; rfl) rfl) hj
  | respond | onCallReturn => exact respond_moved _ hj rfl (.refl _ e)
  | dropActor => exact dropActor_moved n hj
  | session a hc hb => exact Moved.set hc rfl rfl (.stay rfl fun h => absurd h (Body.not_away hb)) hj
  | callWith call hc hb => exact Moved.set hc rfl rfl (.stay rfl fun h => absurd h (Body.not_away hb)) hj
  | socket a hc hb hs => exact Moved.set hc rfl rfl (.stay rfl fun h _ => Body.away_step hs (hb ▸ h)) hj
  | takeIndicator hc hb | close hc hb =>
    exact Moved.set hc rfl rfl (.stay rfl fun h => absurd h (Body.not_away hb)) hj
  | disconnected hc hb =>
    unfold Server.disconnected
    split <;> exact Moved.set hc rfl rfl (.stay rfl fun h _ => h) hj
  | spawnCloser hc | takeIndicatorPanic hc | awaitClose hc | abortCloser hc | borrow hc | changed hc
  | changedErr hc | cancel hc => exact Moved.set hc rfl rfl (.stay rfl fun h _ => h) hj
  | _ => exact hk

theorem foldl_respond_length (l : List (ServerCall C)) (s : Server ID C SC) :
    (l.foldl (fun s call => s.respondOpt call.respondTo) s).conns.length = s.conns.length :=
  Server.foldl_respond_inv (I := fun u => u.conns.length = s.conns.length) (fun u o hu => by
    rcases Server.respond_cases u o with h | ⟨i, c, x, y, -, -, -, -, h⟩
    · rw [h]; exact hu
    · rw [h]; simpa [Server.setConn] using hu) l rfl

theorem step_length {a : ServerAct ID C SC} (h : s.step a = some t) :
    t.conns.length = s.conns.length ∨ ∃ socket, a = .accept socket ∧ t = s.accept socket := by
  cases Server.step_cases h with
  | accept socket => exact .inr ⟨socket, rfl, rfl⟩
  | gracefulShutdown => unfold Server.gracefulShutdown; split <;> exact .inl rfl
  | takeShutdown => unfold Server.takeShutdown; split <;> exact .inl rfl
  | takeConnection => unfold Server.takeConnection; split <;> exact .inl List.length_set
  | respond | onCallReturn => exact .inl (foldl_respond_length [⟨_, _⟩] s)
  | dropActor =>
    refine .inl ((foldl_respond_length _ _).trans ?_)
    simp [Server.dropFields]
  | disconnected => unfold Server.disconnected; split <;> exact .inl List.length_set
  | call | callClosed | takeCall | leave | callWithClosed => exact .inl rfl
  | _ => exact .inl List.length_set

theorem step_new {a : ServerAct ID C SC} (h : s.step a = some t) (hj : t.conns[j]? = some d)
    (hn : s.conns[j]? = none) : d.stage = .queued ∧ d.early = s.inLoop ∧ t.inLoop = s.inLoop := by
  rw [List.getElem?_eq_none_iff] at hn
  have hlt := (List.getElem?_eq_some_iff.mp hj).1
  rcases step_length h with hl | ⟨socket, -, rfl⟩
  · omega
  · unfold Server.accept at hj hlt ⊢
    split at hj
    · rename_i hd; rw [if_pos hd] at hlt; omega
    · rename_i hd
      rw [if_neg hd] at hlt ⊢
      simp only [List.length_append, List.length_singleton] at hlt
      have : j = s.conns.length := by omega
      subst this
      simp only [List.getElem?_concat_length, Option.some.injEq] at hj
      subst hj
      exact ⟨rfl, rfl, rfl⟩

/-! ## Connections that came in time -/

/-- The away `Close` of a rejected connection is on its sink, and the actor in its loop has only seen connections
that came in time. -/
structure Rejections (s : Server ID C SC) : Prop where
  away : ∀ (i : Nat) c, s.conns[i]? = some c → c.stage = .rejected true → c.body.away
  early : s.inLoop = true → ∀ (i : Nat) c, s.conns[i]? = some c → c.early = true

theorem step_rejections {a : ServerAct ID C SC} (n : Accounting s) (g : Rejections s) (h : s.step a = some t) :
    Rejections t := by
  constructor
  · intro j d hd hs
    cases hj : s.conns[j]? with
    | none => rw [(step_new h hd hj).1] at hs; cases hs
    | some e =>
      obtain ⟨d', hd', -, hm⟩ := step_moved n h hj
      rw [hd] at hd'; cases hd'
      cases hm with
      | stay hst ha => rw [hst] at hs; exact ha (g.away j e hj hs) (by rw [hs]; rfl)
      | take _ _ h3 => rw [h3] at hs; cases hs
      | reject _ _ _ _ _ h6 h7 => rw [h6] at hs; exact h7 (by simpa using hs)
      | pass _ h2 => rw [hs] at h2; cases h2
      | discard _ _ h3 => rw [h3] at hs; cases hs
  · intro hl j d hd
    have hs : s.inLoop = true := by
      cases hs : s.inLoop with
      | true => rfl
      | false => rw [Server.step_inLoop hs h] at hl; cases hl
    cases hj : s.conns[j]? with
    | none => rw [(step_new h hd hj).2.1]; exact hs
    | some e =>
      obtain ⟨d', hd', he, -⟩ := step_moved n h hj
      rw [hd] at hd'; cases hd'
      rw [he]; exact g.early hs j e hj

theorem create_rejections : Rejections (.create : Server ID C SC) :=
  ⟨fun i c hc => by simp [Server.create] at hc, fun _ i c hc => by simp [Server.create] at hc⟩

theorem reach_rejections (h : Lts.Reach Server.step .create s) : Rejections s :=
  Lts.reach_inv create_rejections (fun _ _ _ hr g hs => step_rejections (reach_accounting hr) g hs) h

/-- Every connection that came while the actor was in its loop has been passed to `on_connect`, has an away `Close`
on its sink, or is queued for an actor that is still in its loop. -/
def Answered (s : Server ID C SC) : Prop :=
  ∀ (i : Nat) c, s.conns[i]? = some c → c.early = true → Callback.onConnect i ∈ s.log ∨
    (c.stage = .rejected true ∧ c.body.away) ∨ (i ∈ s.connections.queue ∧ s.inLoop = true)

/-- The actor leaves nothing queued behind, and finds the sinks it rejects open. -/
def Drains (s : Server ID C SC) (a : ServerAct ID C SC) : Prop :=
  (a = .leave → s.connections.queue = []) ∧ (a = .takeConnection → s.shuttingDown = true →
    ∀ i ∈ s.connections.queue.head?, ∀ c, s.conns[i]? = some c → ∀ x, c.body = .socket x → x.sink.isClosed = false)

def Stage.answered (inLoop : Bool) : Stage → Bool
  | .queued => inLoop
  | .rejected ok => ok
  | .discarded => false
  | _ => true

theorem Stage.answered_of_passed {st : Stage} {l : Bool} (h : st.passed = true) : st.answered l = true := by
  cases st <;> first | rfl | cases h

theorem Accounting.passed_iff (n : Accounting s) (hc : s.conns[i]? = some c) :
    Callback.onConnect i ∈ s.log ↔ c.stage.passed = true := by
  obtain ⟨r, hev, -⟩ := (n.tracked i c hc).trace
  have hev' : Callback.of i s.log = c.stage.callbacks i c.body.id r := hev
  have hmem : Callback.onConnect i ∈ s.log ↔ Callback.onConnect i ∈ Callback.of i s.log := by
    simp [Callback.of, Callback.conn]
  rw [hmem, hev']
  cases c.stage <;> simp [Stage.callbacks, Stage.passed]

theorem answered_iff (n : Accounting s) (g : Rejections s) : Answered s ↔
    ∀ (i : Nat) c, s.conns[i]? = some c → c.early = true → c.stage.answered s.inLoop = true := by
  refine forall_congr' fun i => forall_congr' fun c => imp_congr_right fun hc => imp_congr_right fun _ => ?_
  have ha := g.away i c hc
  rw [n.passed_iff hc, n.queued_iff hc]
  cases hs : c.stage with
  | rejected ok => cases ok <;> simp [Stage.passed, Stage.answered, hs] at ha ⊢; exact ha
  | _ => simp [Stage.passed, Stage.answered]

theorem Server.step_stays {a : ServerAct ID C SC} (hl : s.inLoop = true) (ha : a ≠ .leave) (h : s.step a = some t) :
    t.inLoop = true := by
  rcases Server.step_calls h with ⟨-, h⟩ | ⟨-, rfl⟩ | ⟨h, -⟩ | ⟨-, hp, -⟩
  · rw [h]; exact hl
  · rw [gracefulShutdown_inLoop]; exact hl
  · exact absurd h ha
  · simp [inLoop, hp] at hl

theorem Server.takeConnection_inLoop (h : s.step .takeConnection = some t) : s.inLoop = true := by
  cases step_cases h with
  | takeConnection hs => simp [inLoop, (selecting_iff.mp hs).1]

theorem Server.dropActor_inLoop (h : s.step .dropActor = some t) : s.inLoop = false := by
  cases step_cases h with
  | dropActor hp => simp [inLoop, hp]

theorem step_answered {a : ServerAct ID C SC} (n : Accounting s) (g : Rejections s) (hi : Answered s)
    (hc : Drains s a) (h : s.step a = some t) : Answered t := by
  rw [answered_iff (step_accounting n h) (step_rejections n g h)]
  rw [answered_iff n g] at hi
  intro j d hd he
  cases hj : s.conns[j]? with
  | none =>
    obtain ⟨hs, hl, ht⟩ := step_new h hd hj
    rw [hs, Stage.answered, ht, ← hl]; exact he
  | some e =>
    obtain ⟨d', hd', hee, hm⟩ := step_moved n h hj
    rw [hd] at hd'; cases hd'
    have hie := hi j e hj (by rw [← hee]; exact he)
    cases hm with
    | stay hst _ =>
      rw [hst]
      cases hs : e.stage with
      | queued =>
        have hl : s.inLoop = true := by rw [hs] at hie; exact hie
        refine Server.step_stays hl (fun ha => ?_) h
        have hq := (n.queued_iff hj).mpr hs
        rw [hc.1 ha] at hq; cases hq
      | _ => rw [hs] at hie; exact hie
    | take _ _ h3 => rw [h3]; rfl
    | reject h1 h2 _ h4 h5 h6 _ =>
      rw [h6, Stage.answered, hc.2 h1 h4 j h2 e hj _ h5]; rfl
    | pass _ h2 => exact Stage.answered_of_passed h2
    | discard h1 h2 _ =>
      subst h1
      rw [h2, Stage.answered, Server.dropActor_inLoop h] at hie; cases hie

/-- A connection that was left behind is never answered. -/
theorem step_left_behind {a : ServerAct ID C SC} (n : Accounting s) (g : Rejections s) (hi : ¬ Answered s)
    (h : s.step a = some t) : ¬ Answered t := by
  rw [answered_iff (step_accounting n h) (step_rejections n g h)]
  rw [answered_iff n g] at hi
  push Not at hi ⊢
  obtain ⟨j, e, hj, he, hn⟩ := hi
  obtain ⟨d, hd, hee, hm⟩ := step_moved n h hj
  refine ⟨j, d, hd, by rw [hee]; exact he, ?_⟩
  -- the actor takes no connection once it has left one queued
  have hq : e.stage = .queued → s.inLoop = false := fun hs => by rw [hs] at hn; simpa [Stage.answered] using hn
  cases hm with
  | stay hst _ =>
    rw [hst]
    cases hs : e.stage with
    | queued => rw [Stage.answered, Server.step_inLoop (hq hs) h]; decide
    | _ => rw [hs] at hn; exact hn
  | take h1 h2 | reject h1 _ h2 =>
    subst h1
    have hl := hq h2
    rw [Server.takeConnection_inLoop h] at hl; cases hl
  | pass h1 _ => exact absurd (Stage.answered_of_passed h1) hn
  | discard _ _ h3 => rw [h3]; exact Bool.false_ne_true

theorem leave_left_behind (n : Accounting s) (g : Rejections s) (hq : s.connections.queue ≠ [])
    (h : s.step .leave = some t) : ¬ Answered t := by
  rw [answered_iff (step_accounting n h) (step_rejections n g h)]
  obtain ⟨i, hi⟩ := List.exists_mem_of_ne_nil _ hq
  have hl : s.inLoop = true := by
    cases Server.step_cases h with
    | leave hp => simp [Server.inLoop, hp]
  obtain ⟨c, hc⟩ : ∃ c, s.conns[i]? = some c := by
    apply Option.ne_none_iff_exists'.mp
    intro hn
    have hz : s.connections.queue.count i = 0 := congrArg View.queued (n.fresh i (List.getElem?_eq_none_iff.mp hn))
    exact absurd (List.count_pos_iff.mpr hi) (by omega)
  cases Server.step_cases h with
  | leave hp hd =>
    intro hx
    have hs := hx i c hc (g.early hl i c hc)
    rw [(n.queued_iff hc).mp hi] at hs
    cases hs

theorem takeConnection_left_behind (n : Accounting s) (g : Rejections s) {x : Socket} (hd : s.shuttingDown = true)
    (hi : s.connections.queue.head? = some i) (hc : s.conns[i]? = some c) (hb : c.body = .socket x)
    (hx : x.sink.isClosed = true) (h : s.step .takeConnection = some t) : ¬ Answered t := by
  have hl := Server.takeConnection_inLoop h
  rw [answered_iff (step_accounting n h) (step_rejections n g h)]
  cases Server.step_cases h with
  | @takeConnection j q c' y hs hp hc' hb' =>
    obtain ⟨hq, -⟩ := Chan.pop?_some.mp hp
    rw [hq] at hi; cases hi
    rw [hc] at hc'; cases hc'
    rw [hb] at hb'; cases hb'
    have hsend := Socket.sendRaw_closed (InMessage.toRaw (.new (.close (some awayFrame)) .own)) hx
    have ht : ∃ d, ({ s with connections := q }.takeConnection i c x).conns[i]? = some d ∧ d.early = c.early ∧
        d.stage = .rejected false := by
      unfold Server.takeConnection
      rw [if_pos hd, show x.send _ = x.sendRaw _ from rfl, hsend]
      simp only [Server.setConn]
      rw [List.getElem?_set_of hc, if_pos rfl]
      exact ⟨_, rfl, rfl, rfl⟩
    obtain ⟨d, hdj, he, hst⟩ := ht
    intro hall
    have hbad := hall i d hdj (by rw [he]; exact g.early hl i c hc)
    rw [hst] at hbad
    cases hbad

/-- The connections of a run are answered exactly when the actor leaves with none queued and finds the sinks it
rejects open. -/
theorem answered_iff_drains (as : List (ServerAct ID C SC)) (h : Lts.exec Server.step .create as = some s) :
    Answered s ↔ Lts.Along Server.step Drains .create as := by
  constructor
  · refine fun hi => Lts.along_of_inv (I := Answered)
      (fun s a t hr hi h => step_left_behind (reach_accounting hr) (reach_rejections hr) hi h)
      (fun s a t hr hC h => ?_) h hi
    have n := reach_accounting hr
    have g := reach_rejections hr
    by_cases hl : a = .leave → s.connections.queue = []
    · unfold Drains at hC
      push Not at hC
      obtain ⟨rfl, hd, i, hi, c, hc, x, hb, hx⟩ := hC hl
      exact takeConnection_left_behind n g hd hi hc hb (by simpa using hx) h
    · push Not at hl
      obtain ⟨rfl, hq⟩ := hl
      exact leave_left_behind n g hq h
  · refine fun hc => Lts.along_inv (I := Answered) (fun i c hc => by simp [Server.create] at hc)
      (fun s a t hr hi hC h => step_answered (reach_accounting hr) (reach_rejections hr) hi hC h) hc h

end

/-- A connection is queued, the shutdown is taken first, and with no session the loop ends. -/
theorem connection_left_behind : ∃ (as : List (ServerAct Nat Nat Nat)) (s : Server Nat Nat Nat),
    Lts.exec Server.step .create as = some s ∧ (∃ c, s.conns[0]? = some c ∧ c.early = true ∧ c.stage = .discarded) ∧
      ¬ Answered s := by
  have h : Lts.exec Server.step (.create : Server Nat Nat Nat) [
    .accept (.new .default), .gracefulShutdown, .takeShutdown, .leave, .dropActor] = some _ := rfl
  refine ⟨_, _, h, ⟨_, rfl, rfl, rfl⟩, fun hs => ?_⟩
  rcases hs 0 _ rfl rfl with hm | ⟨hr, -⟩ | ⟨-, hl⟩
  · cases hm
  · cases hr
  · cases hl

/-- A connection is queued while a session drains, and is rejected before the actor leaves. -/
theorem answered_iff_drains_two : ∃ (as : List (ServerAct Nat Nat Nat)) (s : Server Nat Nat Nat),
    Lts.exec Server.step .create as = some s ∧ s.conns.length = 2 ∧ Lts.Along Server.step Drains .create as := by
  have h : Lts.exec Server.step (.create : Server Nat Nat Nat) [
    .accept (.new .default), .takeConnection, .createSession 7, .onConnectReturn (.ok ()), .gracefulShutdown,
    .takeShutdown, .accept (.new .default), .takeConnection, .spawnCloser 0, .takeIndicator 0, .borrow 0, .close 0,
    .session 0 .outgoing, .session 0 .notify, .awaitClose 0, .abortCloser 0, .disconnected 0, .takeDisconnected,
    .onDisconnectReturn (.ok ()), .leave, .dropActor] = some _ := rfl
  refine ⟨_, _, h, rfl, (answered_iff_drains _ h).mp fun i c hc _ => ?_⟩
  rcases i with _ | _ | i
  · exact .inl List.mem_cons_self
  · cases hc
    exact .inr (.inl ⟨rfl, (reach_rejections ⟨_, h⟩).away 1 _ rfl rfl⟩)
  · cases hc

end Ezsockets
