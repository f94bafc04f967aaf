import Ezsockets.ClientStep
import Ezsockets.Lts
import Ezsockets.SessionLemmas

/-!
# What an owner does with its socket

The client and the session send into their socket, receive from it, wait for
the sink's result and drop it (`Used`). Nothing of that touches what the
stream has yielded or the sink has taken.
-/

namespace Ezsockets

variable {ID C : Type}

namespace Socket

inductive Used : Socket → Socket → Prop
  | refl (x : Socket) : Used x x
  | send (x : Socket) (m : InMessage) : Used x (x.send m).1
  | recv {x y : Socket} {item : Option (Except WSError Message)} : x.recv = some (item, y) → Used x y
  | awaitSinkClose {x y : Socket} {res : Except WSError Unit} : x.awaitSinkClose = some (res, y) → Used x y
  | drop (x : Socket) : Used x x.drop
  | trans {x y z : Socket} : Used x y → Used y z → Used x z

theorem Used.handed {x : Socket} (m : InMessage) (h : x.sink.isClosed = false) :
    x.Used { x with toSink := x.toSink.push m.toRaw } := by
  have hu := Used.send x m
  rw [Socket.send, sendRaw_open _ h] at hu
  exact hu

theorem Used.refused {x : Socket} (m : InMessage) (h : x.sink.isClosed = true) :
    x.Used { x with writes := x.writes ++ m.drop } := by
  have hu := Used.send x m
  rw [Socket.send, sendRaw_closed _ h] at hu
  exact hu

theorem Used.frame {x y : Socket} (h : Used x y) : y = { x with
    toSink := y.toSink, toOwner := y.toOwner, resultTaken := y.resultTaken, sinkResult := y.sinkResult,
    owned := y.owned, freed := y.freed, writes := y.writes } := by
  induction h with
  | refl => rfl
  | send x m =>
    have hs : x.send m = x.sendRaw m.toRaw := rfl
    rw [hs, sendRaw_frame]
  | recv hr => rw [recv_frame hr]
  | awaitSinkClose hr => rw [awaitSinkClose_frame hr]
  | drop x => rw [Socket.drop, free_eq]
  | trans _ _ ih ih' => rw [ih', ih]

theorem Used.owned {x y : Socket} (h : Used x y) (ho : y.owned = true) : x.owned = true := by
  induction h with
  | refl => exact ho
  | send x m => rw [← send_owned m]; exact ho
  | recv hr => rw [recv_frame hr] at ho; exact ho
  | awaitSinkClose hr => rw [awaitSinkClose_frame hr] at ho; exact ho
  | drop x => rw [drop_owned] at ho; cases ho
  | trans _ _ ih ih' => exact ih (ih' ho)

structure Kept (x y : Socket) : Prop where
  config : y.config = x.config
  yielded : y.yielded = x.yielded
  streaming : y.streaming = x.streaming
  taken : y.toSink.got = x.toSink.got
  forwarded : y.toOwner.hist = x.toOwner.hist

theorem sendRaw_kept (x : Socket) (m : InRawMessage) : Kept x (x.sendRaw m).1 := by
  cases h : x.sink.isClosed with
  | true => rw [sendRaw_closed m h]; exact ⟨rfl, rfl, rfl, rfl, rfl⟩
  | false => rw [sendRaw_open m h]; exact ⟨rfl, rfl, rfl, rfl, rfl⟩

theorem recv_hist {x y : Socket} {item : Option (Except WSError Message)} (h : x.recv = some (item, y)) :
    y.toOwner.hist = x.toOwner.hist := by
  obtain ⟨l, rfl, hq⟩ := recv_queue h
  simp only [Chan.hist, recv_got h, hq, List.append_assoc]

theorem Used.kept {x y : Socket} (h : Used x y) : Kept x y := by
  induction h with
  | refl => exact ⟨rfl, rfl, rfl, rfl, rfl⟩
  | send x m => exact sendRaw_kept x m.toRaw
  | recv h =>
    have hh := recv_hist h
    rw [recv_frame h] at hh ⊢
    exact ⟨rfl, rfl, rfl, rfl, hh⟩
  | awaitSinkClose h => rw [awaitSinkClose_frame h]; exact ⟨rfl, rfl, rfl, rfl, rfl⟩
  | drop x => exact ⟨by simp [Socket.drop], by simp [Socket.drop], by simp [Socket.drop], by simp [Socket.drop],
      by simp [Socket.drop]⟩
  | trans _ _ h h' =>
    exact ⟨h'.config.trans h.config, h'.yielded.trans h.yielded, h'.streaming.trans h.streaming,
      h'.taken.trans h.taken, h'.forwarded.trans h.forwarded⟩

end Socket

namespace ClientActor

variable {s t u : ClientActor C}

/-- Each socket of `t` is one of `s` that its owner has used. -/
def Uses (s t : ClientActor C) : Prop :=
  ∀ (k : Nat) (y : Socket), t.socks[k]? = some y → ∃ x, s.socks[k]? = some x ∧ x.Used y

theorem Uses.of_socks (h : t.socks = s.socks) : Uses s t := by
  intro k y hy
  rw [h] at hy
  exact ⟨y, hy, .refl y⟩

theorem Uses.trans (h : Uses s u) (h' : Uses u t) : Uses s t := by
  intro k y hy
  obtain ⟨z, hz, hzy⟩ := h' k y hy
  obtain ⟨x, hx, hxz⟩ := h k z hz
  exact ⟨x, hx, hxz.trans hzy⟩

theorem setSocket_uses {x y : Socket} (hu : u.socks = s.socks) (hx : s.socks[s.conn]? = some x) (h : x.Used y) :
    Uses s (u.setSocket y) := by
  have hs : (u.setSocket y).socks = s.socks.set s.conn y := by unfold setSocket conn; rw [hu]
  intro k z hz
  rw [hs, List.getElem?_set_of hx] at hz
  split at hz
  · rename_i hk
    cases hz
    exact ⟨x, by rw [hk]; exact hx, h⟩
  · exact ⟨z, hz, .refl z⟩

theorem dropSocket_uses (s : ClientActor C) : Uses s s.dropSocket := by
  intro k y hy
  rw [dropSocket, List.getElem?_modify] at hy
  obtain ⟨x, hx, rfl⟩ := Option.map_eq_some_iff.mp hy
  refine ⟨x, hx, ?_⟩
  by_cases hk : s.conn = k
  · rw [if_pos hk]; exact .drop x
  · rw [if_neg hk]; exact .refl x

theorem finish_uses (s : ClientActor C) (res : Except Error Unit) : Uses s (s.finish res) :=
  (dropSocket_uses s).trans (.of_socks finish_socks)

/-- A step uses the sockets, adds one, or is a step of the tasks of one. -/
theorem step_uses {a : ClientAct C} (h : s.step a = some t) :
    ((∀ k b, a ≠ .socket k b) ∧ (Uses s t ∨ t.socks = s.socks ++ [.new s.config.socket])) ∨
      ∃ k b x y, a = .socket k b ∧ s.socks[k]? = some x ∧ x.step b = some y ∧ t.socks = s.socks.set k y := by
  have use : Uses s t → (∀ k b, a ≠ .socket k b) → ((∀ k b, a ≠ .socket k b) ∧ (Uses s t ∨
      t.socks = s.socks ++ [.new s.config.socket])) ∨ ∃ k b x y, a = .socket k b ∧ s.socks[k]? = some x ∧
      x.step b = some y ∧ t.socks = s.socks.set k y := fun h ha => .inl ⟨ha, .inl h⟩
  cases step_cases h with
  | text m | binary m | close m => exact use (.of_socks (send_socks _)) (by simp)
  | call c => exact use (.of_socks (call_socks c)) (by simp)
  | dropClients keep => exact use (.of_socks (by simp)) (by simp)
  | dropCallSenders | drainMessage | drainEmpty | connected | connectFailed | retry | slept | closeSlept | takeCall
  | handlerOk => exact use (.of_socks rfl) (by simp)
  | drainDead | onConnectErr | exhausted | connectFailClose | connectFailErr | outgoingClosed | callsClosed
  | handlerErr | onCloseClose | onCloseErr | onDisconnectClose | onDisconnectErr | panic =>
    exact use (finish_uses s _) (by simp)
  | drainClose =>
    refine use (Uses.trans ?_ (finish_uses _ _)) (by simp)
    exact .of_socks rfl
  | onConnectOk => exact .inl ⟨by simp, .inr rfl⟩
  | handOver hp hq hx hc => exact use (setSocket_uses rfl hx (.handed _ hc)) (by simp)
  | handOverClose hp hq hx hc =>
    exact use ((setSocket_uses rfl hx (.handed _ hc)).trans (finish_uses _ _)) (by simp)
  | sendFailed hp hq hx hc => exact use ((setSocket_uses rfl hx (.refused _ hc)).trans (.of_socks rfl)) (by simp)
  | incoming hp hx hr =>
    rw [handleIncomingMsg_frame] at *
    exact use ((setSocket_uses rfl hx (.recv hr)).trans (.of_socks rfl)) (by simp)
  | @sinkClosed x y res closedSelf hp hx hr =>
    have hu : Uses s (s.setSocket y) := setSocket_uses rfl hx (.awaitSinkClose hr)
    refine use (hu.trans ?_) (by simp)
    rcases sinkClosed_cases (s.setSocket y) closedSelf res with ⟨r, he⟩ | ⟨-, -, he⟩ | he
    · rw [he]; exact finish_uses _ r
    · rw [he]; exact .of_socks rfl
    · rw [he]; exact .of_socks rfl
  | onCloseReconnect | onDisconnectReconnect => exact use ((dropSocket_uses s).trans (.of_socks rfl)) (by simp)
  | @socket k x y b hx hs => exact .inr ⟨k, b, x, y, rfl, hx, hs, rfl⟩

theorem step_config {a : ClientAct C} (h : s.step a = some t) : t.config = s.config := by
  cases step_cases h with
  | text m | binary m | close m => rw [send_config]
  | call c => rw [call_config]
  | dropClients => rw [free_config]
  | incoming => rw [handleIncomingMsg_frame]; rfl
  | @sinkClosed x y res closedSelf =>
    rcases sinkClosed_cases (s.setSocket y) closedSelf res with ⟨r, he⟩ | ⟨-, -, he⟩ | he
    · rw [he, finish_config]; rfl
    · rw [he]; rfl
    · rw [he]; rfl
  | drainClose | drainDead | onConnectErr | exhausted | connectFailClose | connectFailErr | outgoingClosed
  | callsClosed | handlerErr | onCloseClose | onCloseErr | onDisconnectClose | onDisconnectErr | panic
  | handOverClose => exact finish_config
  | _ => rfl

theorem reach_config {config : ClientConfig} (h : Lts.Reach step (create config : ClientActor C) s) :
    s.config = config :=
  Lts.reach_inv (I := fun s => s.config = config) rfl (fun _ _ _ _ hc h => (step_config h).trans hc) h

/-- What holds of a new socket and is kept by its tasks and its owner holds of every socket of the client. -/
theorem socks_inv {P : Socket → Prop} {config : ClientConfig} (hn : P (.new config.socket))
    (hu : ∀ x y, Socket.Used x y → P x → P y) (hs : ∀ x a y, P x → Socket.step x a = some y → P y)
    (h : Lts.Reach step (create config : ClientActor C) s) :
    ∀ (k : Nat) (x : Socket), s.socks[k]? = some x → P x := by
  refine Lts.reach_inv (I := fun s => ∀ (k : Nat) (x : Socket), s.socks[k]? = some x → P x)
    (fun k x h => by simp [create] at h) (fun s a t hr g h => ?_) h
  rcases step_uses h with ⟨-, hst | hst⟩ | ⟨k, b, x, y, -, hx, hy, hst⟩
  · intro k y hy
    obtain ⟨x, hx, hxy⟩ := hst k y hy
    exact hu x y hxy (g k x hx)
  · rw [hst, reach_config hr]
    exact List.forall_append_one (P := fun _ x => P x) hn g
  · rw [hst]
    exact List.forall_set (P := fun _ x => P x) hx (hs x b y (g k x hx) hy) (fun j z _ hz => g j z hz)

end ClientActor

namespace SessionActor

variable {s t : SessionActor ID C}

theorem step_uses {a : SessionAct C} (h : s.step a = some t) :
    ((∀ b, a ≠ .socket b) ∧ s.socket.Used t.socket) ∨ ∃ b, a = .socket b ∧ s.socket.step b = some t.socket := by
  cases step_cases h with
  | socket b hy => exact .inr ⟨b, rfl, hy⟩
  | text m | binary m | close m => exact .inl ⟨by simp, by rw [send_socket]; exact .refl _⟩
  | call c => exact .inl ⟨by simp, by rw [call_socket]; exact .refl _⟩
  | handOver => exact .inl ⟨by simp, .send s.socket _⟩
  | @handOverClose m => exact .inl ⟨by simp, (Socket.Used.send s.socket m).trans (.drop _)⟩
  | @sendFailed m => exact .inl ⟨by simp, (Socket.Used.send s.socket m).trans (.drop _)⟩
  | @incoming item y _ _ _ hr =>
    refine .inl ⟨by simp, (Socket.Used.recv hr).trans ?_⟩
    rcases incoming_cases { s with socket := y } item with ⟨hd, he⟩ | ⟨frame, he⟩ | he
    · rw [he]; exact .refl _
    · rw [he]; exact .drop _
    · rw [he]; exact .refl _
  | takeCall | callWith | resume | handlerOk | notify => exact .inl ⟨by simp, .refl _⟩
  | handlerErr | handlerPanic => exact .inl ⟨by simp, .drop _⟩

end SessionActor

end Ezsockets
