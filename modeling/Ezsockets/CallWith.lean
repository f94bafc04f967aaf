import Ezsockets.Requests
import Ezsockets.Shutdown
import Ezsockets.LastHandle

/-!
# `call_with`

`call_with` puts the sender of a reply into the call and waits for its
receiver. `Ticketed` is a call with the number of the caller whose sender it
carries. A session and the server drop what is queued with their actor; the
queue of a client is an `async_channel`, whose messages stay until the last
sender is gone, and a caller that waits holds a `Client`.
-/

namespace Ezsockets

structure Ticketed (C : Type) where
  call : C
  ticket : Option Nat

def Ticketed.tickets {C : Type} (calls : List (Ticketed C)) : List Nat := calls.filterMap (·.ticket)

variable {ID C SC R : Type}

theorem Ticketed.tickets_append (l l' : List (Ticketed C)) :
    Ticketed.tickets (l ++ l') = Ticketed.tickets l ++ Ticketed.tickets l' := List.filterMap_append ..

theorem Ticketed.tickets_cons (c : Ticketed C) (l : List (Ticketed C)) :
    Ticketed.tickets (c :: l) = c.ticket.toList ++ Ticketed.tickets l := by
  cases hc : c.ticket with
  | none => exact List.filterMap_cons_none hc
  | some n => exact List.filterMap_cons_some hc

theorem Ticketed.tickets_snoc (l : List (Ticketed C)) (c : Ticketed C) :
    Ticketed.tickets (l ++ [c]) = Ticketed.tickets l ++ c.ticket.toList := by
  rw [tickets_append, tickets_cons]
  simp [tickets]

/-! ## Sessions -/

def Handler.call : Handler C → Option C
  | .onCall c => some c
  | _ => none

namespace SessionActor

def inbox : Inbox (SessionActor ID (Ticketed C)) (SessionAct (Ticketed C)) C where
  step := step
  call c n := .call ⟨c, some n⟩
  tickets s := if s.live then Ticketed.tickets s.calls.queue else []
  called s := Ticketed.tickets (s.handled.filterMap (·.call))
  closed s := !s.live
  takes
    | .takeCall => true
    | _ => false
  plain
    | .call c => c.ticket.isNone
    | _ => true
  reachable _ := true
  lastHandle _ := false

/-- What a step does to the calls: one comes in, one is handed to its handler, or they stay while the actor
lives. -/
inductive Calls (s : SessionActor ID C) : SessionAct C → SessionActor ID C → Prop
  | call (c : C) : Calls s (.call c) (s.call c)
  | take {c q} : s.live = true → s.calls.pop? = some (c, q) →
      Calls s .takeCall ({ s with calls := q }.start (.onCall c))
  | other {a t} : (∀ c, a ≠ .call c) → a ≠ .takeCall → (t.live = true → s.live = true ∧ t.calls = s.calls) →
      t.handled.filterMap (·.call) = s.handled.filterMap (·.call) → Calls s a t

theorem step_calls {s t : SessionActor ID C} {a : SessionAct C} (h : s.step a = some t) : Calls s a t := by
  have idle : s.phase = .select → s.live = true := fun hp => by simp [live, hp]
  cases step_cases h with
  | text m | binary m | close m =>
    refine .other (by simp) (by simp) (fun hl => ⟨?_, ?_⟩) (by rw [send_handled])
    · unfold live at hl ⊢
      rw [send_phase] at hl; exact hl
    · unfold send; split <;> rfl
  | call c => exact .call c
  | takeCall hp _ hq => exact .take (idle hp) hq
  | @incoming item y hp =>
    refine .other (by simp) (by simp) (fun _ => ⟨idle hp, ?_⟩) ?_
    · rcases item with _ | (_ | (_ | _ | _)) <;> rfl
    · rcases item with _ | (_ | (_ | _ | _)) <;> simp [SessionActor.incoming, start, finish, Handler.call]
  | handOver hp => exact .other (by simp) (by simp) (fun _ => ⟨idle hp, rfl⟩) rfl
  | handOverClose hp | sendFailed hp => exact .other (by simp) (by simp) (fun h => by cases h) rfl
  | callWith hp | resume hp | handlerOk hp =>
    exact .other (by simp) (by simp) (fun _ => ⟨by simp [live, hp], rfl⟩) rfl
  | handlerErr | handlerPanic | notify => exact .other (by simp) (by simp) (fun h => by cases h) rfl
  | socket => exact .other (by simp) (by simp) (fun h => ⟨h, rfl⟩) rfl

theorem step_live {s t : SessionActor ID C} {a : SessionAct C} (hl : s.live = false) (h : s.step a = some t) :
    t.live = false := by
  cases step_calls h with
  | call c => unfold live at hl ⊢; rw [call_phase]; exact hl
  | take hs => rw [hl] at hs; cases hs
  | other _ _ hq =>
    cases ht : t.live with
    | false => rfl
    | true => rw [(hq ht).1] at hl; cases hl

theorem call_live (s : SessionActor ID C) (c : C) : (s.call c).live = s.live := by
  unfold live
  rw [call_phase]

theorem call_queue (s : SessionActor ID (Ticketed C)) (c : Ticketed C) : Ticketed.tickets (s.call c).calls.queue =
    Ticketed.tickets s.calls.queue ++ if s.live then c.ticket.toList else [] := by
  unfold call
  by_cases hl : s.live = true
  · rw [if_pos hl, if_pos hl, Chan.push_queue, Ticketed.tickets_snoc]
  · rw [if_neg hl, if_neg hl, List.append_nil]

theorem inbox_takes {a : SessionAct (Ticketed C)} :
    (inbox : Inbox (SessionActor ID (Ticketed C)) _ C).takes a = true ↔ a = .takeCall := by
  cases a <;> simp [inbox]

theorem inbox_laws (id : ID) (socket : Socket) :
    (inbox : Inbox (SessionActor ID (Ticketed C)) _ C).Laws (create id socket) where
  start := rfl
  accepted {s t c n} _ _ h := by
    cases h
    simp only [inbox, call_live, call_queue]
    by_cases hl : s.live = true <;> simp [hl]
  takes {s t a} _ _ ha h := by
    rw [inbox_takes] at ha
    cases step_calls h with
    | call => cases ha
    | other _ hn => exact absurd ha hn
    | @take c q hl hq =>
      refine ⟨c.ticket.toList, ?_, ?_⟩
      · have hs : ({ s with calls := q }.start (.onCall c)).live = true := rfl
        simp only [inbox, hs, hl, if_true, (Chan.pop?_some.mp hq).1, Ticketed.tickets_cons]
        rfl
      · simp [inbox, start, Handler.call, Ticketed.tickets_snoc]
  drops {s t a} _ hp ha h := by
    cases step_calls h with
    | call c =>
      have hc : c.ticket = none := by simpa [inbox] using hp
      simp [inbox, call_live, call_queue, hc]
    | take => cases ha
    | other _ _ hq =>
      by_cases hl : t.live = true
      · simp [inbox, hl, hq]
      · simp [inbox, hl]
  keeps {s t a} _ ha h := by
    cases step_calls h with
    | call c => simp only [inbox, call_handled]
    | take => cases ha
    | other _ _ _ hh => simp only [inbox, hh]
  stays {s t a} _ hc h := by
    simp only [inbox, Bool.not_eq_true'] at hc ⊢
    exact step_live hc h
  untaken _ _ := rfl

/-- The callers of a session are served in the order of their calls. Once its actor is over, only a caller whose
sender was kept by a handler still waits. -/
theorem session_calls_served {id : ID} {socket : Socket} {s : Requests (SessionActor ID (Ticketed C)) R}
    (h : Lts.Reach (Requests.step inbox) (.start (create id socket)) s) :
    Requests.Served inbox s ∧
      (s.system.live = false → ∀ n, s.callers[n]? = some .waiting → n ∈ s.held) := by
  have p := Requests.reach_sound (inbox_laws id socket) h
  refine ⟨p.served, fun hl n hn => ?_⟩
  rcases (p.waiting_iff hn (by simp)).mp rfl with hh | hq
  · exact hh
  · simp [inbox, hl] at hq

/-- One caller is answered, and the next is told that its session is over. -/
theorem session_calls_served_two : ∃ s : Requests (SessionActor Nat (Ticketed Nat)) Nat,
    Lts.Reach (Requests.step inbox) (.start (create 7 (.new .default))) s ∧
      s.callers = [.answered (some 9), .answered none] ∧ s.system.live = false ∧ Requests.Served inbox s ∧
      ∀ n, s.callers[n]? = some .waiting → n ∈ s.held := by
  have h : Lts.Reach (Requests.step inbox)
      (.start (create 7 (.new .default)) : Requests (SessionActor Nat (Ticketed Nat)) Nat) _ :=
    ⟨[.call 5, .act .takeCall, .answer 0 9, .act (.handlerReturn (.ok ())), .call 6, .act (.close none),
      .act .outgoing], rfl⟩
  obtain ⟨hs, hw⟩ := session_calls_served h
  exact ⟨_, h, rfl, rfl, hs, hw rfl⟩

end SessionActor

/-! ## The server -/

def Callback.call : Callback ID C → Option C
  | .onCall c => some c
  | _ => none

namespace Server

def inbox : Inbox (Server ID (Ticketed C) SC) (ServerAct ID (Ticketed C) SC) C where
  step := step
  call c n := .call ⟨c, some n⟩
  tickets s := Ticketed.tickets (s.calls.queue.map (·.call))
  called s := Ticketed.tickets (s.log.filterMap (·.call))
  closed s := s.isDropped
  takes
    | .takeCall => true
    | _ => false
  plain
    | .call c | .callWith _ c => c.ticket.isNone
    | _ => true
  reachable _ := true
  lastHandle _ := false

inductive Calls (s : Server ID C SC) : ServerAct ID C SC → Server ID C SC → Prop
  | call {a} (c : C) (respondTo : Option Nat) {t} : a = .call c ∨ (∃ i, a = .callWith i c) → s.isDropped = false →
      t.calls = s.calls.push ⟨c, respondTo⟩ → t.log.filterMap (·.call) = s.log.filterMap (·.call) →
      t.isDropped = false → Calls s a t
  | take {c q t} : s.isDropped = false → s.calls.pop? = some (c, q) → t.calls = q →
      t.log = s.log ++ [.onCall c.call] → t.isDropped = false → Calls s .takeCall t
  | drop {t} : t.isDropped = true → t.calls.queue = [] → t.log = s.log → Calls s .dropActor t
  | other {a t} : a ≠ .takeCall → (∀ c, a = .call c → s.isDropped = true) → t.calls = s.calls →
      t.isDropped = s.isDropped → t.log.filterMap (·.call) = s.log.filterMap (·.call) → Calls s a t

theorem step_inbox {s t : Server ID C SC} {a : ServerAct ID C SC} (h : s.step a = some t) : Calls s a t := by
  have select : s.selecting = true → s.isDropped = false := by
    intro hs
    simp [isDropped, (selecting_iff.mp hs).1]
  cases step_cases h with
  | accept socket => refine .other (by simp) (by simp) ?_ ?_ ?_ <;> unfold accept <;> split <;> rfl
  | call c hd => exact .call c none (.inl rfl) hd rfl rfl hd
  | callClosed c hd => exact .other (by simp) (fun _ _ => hd) rfl rfl rfl
  | gracefulShutdown => refine .other (by simp) (by simp) ?_ ?_ ?_ <;> unfold gracefulShutdown <;> split <;> rfl
  | takeShutdown => refine .other (by simp) (by simp) ?_ ?_ ?_ <;> unfold takeShutdown <;> split <;> rfl
  | takeConnection hs =>
    have hp := (selecting_iff.mp hs).1
    refine .other (by simp) (by simp) ?_ ?_ ?_ <;> unfold takeConnection <;> split <;>
      simp [setConn, isDropped, hp, Callback.call]
  | onConnectOk hp | onConnectErr _ hp | onDisconnectReturn _ hp =>
    refine .other (by simp) (by simp) ?_ ?_ ?_ <;>
      simp [onConnectOk, onConnectErr, setConn, isDropped, hp, Callback.call]
  | takeDisconnected hs =>
    have hp := (selecting_iff.mp hs).1
    refine .other (by simp) (by simp) ?_ ?_ ?_ <;> simp [takeDisconnected, setConn, isDropped, hp, Callback.call]
  | takeCall hs _ hq => exact .take (select hs) hq rfl rfl rfl
  | respond hp | onCallReturn _ hp =>
    rw [respondOpt_eq]
    exact .other (by simp) (by simp) rfl (by simp [isDropped, hp]) rfl
  | leave hp => exact .other (by simp) (by simp) rfl (by simp [isDropped, hp, leave]) rfl
  | dropActor hp => rw [dropActor_eq]; exact .drop rfl rfl rfl
  | callWith c hc hb hs hd => exact .call c _ (.inr ⟨_, rfl⟩) hd rfl rfl hd
  | callWithClosed c hd => exact .other (by simp) (by simp) rfl rfl rfl
  | disconnected => refine .other (by simp) (by simp) ?_ ?_ ?_ <;> unfold disconnected <;> split <;> rfl
  | _ => exact .other (by simp) (by simp) rfl rfl rfl

theorem inbox_takes {a : ServerAct ID (Ticketed C) SC} :
    (inbox : Inbox (Server ID (Ticketed C) SC) _ C).takes a = true ↔ a = .takeCall := by
  cases a <;> simp [inbox]

theorem inbox_laws : (inbox : Inbox (Server ID (Ticketed C) SC) _ C).Laws .create where
  start := rfl
  accepted {s t c n} _ _ h := by
    cases h
    simp only [inbox]
    by_cases hd : s.isDropped = true
    · simp [hd]
    · simp [hd, Server.call, Ticketed.tickets_snoc]
  takes {s t a} _ _ ha h := by
    rw [inbox_takes] at ha
    cases step_inbox h with
    | call _ _ hc => rcases hc with rfl | ⟨i, rfl⟩ <;> cases ha
    | drop => cases ha
    | other hn => exact absurd ha hn
    | @take c q _ _ hq ht hl =>
      refine ⟨c.call.ticket.toList, ?_, ?_⟩
      · simp only [inbox, ht, (Chan.pop?_some.mp hq).1, List.map_cons, Ticketed.tickets_cons]
      · simp [inbox, hl, Callback.call, Ticketed.tickets_snoc]
  drops {s t a} _ hp ha h := by
    cases step_inbox h with
    | call c _ hc _ hq =>
      have hc : c.ticket = none := by rcases hc with rfl | ⟨i, rfl⟩ <;> simpa [inbox] using hp
      simp [inbox, hq, Ticketed.tickets_snoc, hc]
    | take => cases ha
    | drop hd hq => exact .inr ⟨by simp [inbox, hq, Ticketed.tickets], hd⟩
    | other _ _ hq => simp [inbox, hq]
  keeps {s t a} _ ha h := by
    cases step_inbox h with
    | call _ _ _ _ _ hl | other _ _ _ _ hl => simp only [inbox, hl]
    | take => cases ha
    | drop _ _ hl => simp only [inbox, hl]
  stays {s t a} _ hc h := by
    simp only [inbox] at hc ⊢
    cases step_inbox h with
    | call _ _ _ hd | take hd => rw [hc] at hd; cases hd
    | drop hd => exact hd
    | other _ _ _ hd => rw [hd]; exact hc
  untaken _ _ := rfl

theorem reach_queue {s : Server ID C SC} (h : Lts.Reach step .create s) (hd : s.isDropped = true) :
    s.calls.queue = [] := by
  refine Lts.reach_inv (I := fun s : Server ID C SC => s.isDropped = true → s.calls.queue = [])
    (fun _ => rfl) ?_ h hd
  intro s a t _ e hs ht
  cases step_inbox hs with
  | call _ _ _ _ _ _ hn => rw [ht] at hn; cases hn
  | take _ _ _ _ hn => rw [ht] at hn; cases hn
  | drop _ hq => exact hq
  | other _ _ hq hn => rw [hq]; exact e (hn.symm.trans ht)

/-- The callers of the server are served in the order of their calls, and none after shutdown has begun. Once the
actor is dropped, only a caller whose sender was kept by a handler still waits. -/
theorem server_calls_served {s : Requests (Server ID (Ticketed C) SC) R}
    (h : Lts.Reach (Requests.step inbox) (.start .create) s) :
    Requests.Served inbox s ∧
      (s.system.isDropped = true → ∀ n, s.callers[n]? = some .waiting → n ∈ s.held) ∧
      (s.system.shuttingDown = true → ∀ t, Lts.Reach (Requests.step inbox) s t →
        inbox.called t.system = inbox.called s.system) := by
  have p := Requests.reach_sound inbox_laws h
  refine ⟨p.served, fun hd n hn => ?_, fun hd t ht => ?_⟩
  · rcases (p.waiting_iff hn (by simp)).mp rfl with hh | hq
    · exact hh
    · have hq' : n ∈ Ticketed.tickets (s.system.calls.queue.map (·.call)) := hq
      rw [reach_queue p.reach hd] at hq'
      cases hq'
  · have hs := (reach_draining p.reach hd (Requests.reach_system ht)).starts
    have hcall : ∀ l : List (Callback ID (Ticketed C)),
        l.filterMap (·.call) = (l.filter (·.isStart)).filterMap (·.call) := by
      intro l
      rw [List.filterMap_filter]
      congr 1
      funext e
      cases e <;> rfl
    have hl : t.system.log.filterMap (·.call) = s.system.log.filterMap (·.call) := by rw [hcall, hs, ← hcall]
    simp only [inbox, hl]

/-- The call that was queued when the shutdown began is not answered. -/
theorem server_calls_served_two : ∃ s : Requests (Server Nat (Ticketed Nat) Nat) Nat,
    Lts.Reach (Requests.step inbox) (.start .create) s ∧ s.callers = [.answered (some 9), .answered none] ∧
      s.system.isDropped = true ∧ Requests.Served inbox s ∧
      (∀ n, s.callers[n]? = some .waiting → n ∈ s.held) ∧
      ∀ t, Lts.Reach (Requests.step inbox) s t → inbox.called t.system = [0] := by
  have h : Lts.Reach (Requests.step inbox) (.start .create : Requests (Server Nat (Ticketed Nat) Nat) Nat) _ :=
    ⟨[.call 5, .act .takeCall, .answer 0 9, .act (.onCallReturn (.ok ())), .call 6, .act .gracefulShutdown,
      .act .takeShutdown, .act .leave, .act .dropActor], rfl⟩
  obtain ⟨hs, hw, hf⟩ := server_calls_served h
  exact ⟨_, h, rfl, rfl, hs, hw rfl, fun t ht => hf rfl t ht⟩

end Server

/-! ## The client

The reply channel of a client's call is an `async_channel` too: a ticket
stands for all clones of its sender, and the first reply is the one received.
-/

namespace ClientActor

-- nobody is left at either end of the channel of calls
def callsGone (s : ClientActor C) : Bool := s.isDone && !s.clients && !s.callSenders

def inbox : Inbox (ClientActor (Ticketed C)) (ClientAct (Ticketed C)) C where
  step := step
  call c n := .call ⟨c, some n⟩
  tickets s := if s.callsGone then [] else Ticketed.tickets s.calls.queue
  called s := Ticketed.tickets s.called
  closed s := s.isDone
  takes
    | .takeCall => true
    | _ => false
  plain
    | .call c => c.ticket.isNone
    | _ => true
  reachable s := s.clients
  lastHandle
    | .dropClients _ => true
    | _ => false

/-- What a step does to the calls and to the handles of the client. -/
inductive Calls (s : ClientActor C) : ClientAct C → ClientActor C → Prop
  | call (c : C) : Calls s (.call c) (s.call c)
  | take {c q} : s.isDone = false → s.calls.pop? = some (c, q) →
      Calls s .takeCall { { s with calls := q }.event (.onCall c) with phase := .handler }
  | dropClients {t} (keep : Bool) : s.clients = true → t.clients = false → t.callSenders = keep →
      t.calls = s.calls → t.called = s.called → t.isDone = s.isDone → Calls s (.dropClients keep) t
  | dropCallSenders : Calls s .dropCallSenders { s with callSenders := false }
  | other {a t} : (∀ c, a ≠ .call c) → a ≠ .takeCall → t.clients = s.clients → t.callSenders = s.callSenders →
      t.calls = s.calls → t.called = s.called → (s.isDone = true → t.isDone = true) → Calls s a t

theorem free_senders (s : ClientActor C) : s.free.clients = s.clients ∧ s.free.callSenders = s.callSenders := by
  unfold free; split <;> exact ⟨rfl, rfl⟩

theorem finish_senders (s : ClientActor C) (res : Except Error Unit) :
    (s.finish res).clients = s.clients ∧ (s.finish res).callSenders = s.callSenders := free_senders _

theorem step_inbox {s t : ClientActor C} {a : ClientAct C} (h : s.step a = some t) : Calls s a t := by
  have running : ∀ {p : ClientPhase}, s.phase = p → (∀ res, p ≠ .done res) → s.isDone = true → t.isDone = true :=
    fun hp hn hd => absurd (hd.symm.trans (isDone_of_phase hp hn)) (by simp)
  have ended : ∀ (u : ClientActor C) (res : Except Error Unit), t = u.finish res → (∀ c, a ≠ .call c) →
      a ≠ .takeCall → u.clients = s.clients → u.callSenders = s.callSenders → u.calls = s.calls → u.log = s.log →
      Calls s a t := by
    rintro u res rfl hn hn' h₁ h₂ h₃ h₄
    refine .other hn hn' ((finish_senders u res).1.trans h₁) ((finish_senders u res).2.trans h₂) ?_ ?_ ?_
    · rw [finish_calls, h₃]
    · unfold called; rw [finish_log, h₄]
    · intro _; simp [isDone]
  have quiet : ∀ (u : ClientActor C) (e : ClientEvent C) (p : ClientPhase), t = { u.event e with phase := p } →
      e.call = none → (∀ c, a ≠ .call c) → a ≠ .takeCall → u.clients = s.clients → u.callSenders = s.callSenders →
      u.calls = s.calls → u.log = s.log → (s.isDone = true → t.isDone = true) → Calls s a t := by
    rintro u e p rfl he hn hn' h₁ h₂ h₃ h₄ h₅
    refine .other hn hn' h₁ h₂ h₃ ?_ h₅
    simp [called, event, h₄, he]
  cases step_cases h with
  | text m | binary m | close m =>
    refine .other (by simp) (by simp) ?_ ?_ (by rw [send_calls]) (by unfold called; rw [send_log]) ?_
    · unfold send; split <;> rfl
    · unfold send; split <;> rfl
    · unfold isDone; rw [send_phase]; exact id
  | call c => exact .call c
  | dropClients keep hc =>
    refine .dropClients keep hc (free_senders _).1 (free_senders _).2 (by rw [free_calls]) ?_ ?_
    · unfold called; rw [free_log]
    · unfold isDone; rw [free_phase]
  | dropCallSenders => exact .dropCallSenders
  | takeCall hp hq => exact .take (isDone_of_phase hp (by simp)) hq
  | drainClose | drainDead | onConnectErr | exhausted | connectFailClose | connectFailErr | handOverClose
  | outgoingClosed | callsClosed | handlerErr | onCloseClose | onCloseErr | onDisconnectClose | onDisconnectErr
  | panic => exact ended _ _ rfl (by simp) (by simp) rfl rfl rfl rfl
  | drainMessage hp | onConnectOk hp | slept hp | closeSlept hp | handOver hp | sendFailed hp | handlerOk hp
  | onDisconnectReconnect hp => exact .other (by simp) (by simp) rfl rfl rfl rfl (running hp (by simp))
  | socket => exact .other (by simp) (by simp) rfl rfl rfl rfl id
  | drainEmpty hp | connected hp | connectFailed _ hp | retry hp =>
    exact quiet s _ _ rfl rfl (by simp) (by simp) rfl rfl rfl rfl (running hp (by simp))
  | onCloseReconnect hp =>
    exact quiet s.dropSocket _ _ rfl rfl (by simp) (by simp) rfl rfl rfl rfl (running hp (by simp))
  | @incoming x y item hp =>
    rcases item with _ | (_ | (_ | _ | _)) <;>
      exact quiet (s.setSocket y) _ _ rfl rfl (by simp) (by simp) rfl rfl rfl rfl (running hp (by simp))
  | @sinkClosed x y res closedSelf hp =>
    rcases sinkClosed_cases (s.setSocket y) closedSelf res with ⟨r, he⟩ | ⟨-, -, he⟩ | he
    · exact ended (s.setSocket y) r he (by simp) (by simp) rfl rfl rfl rfl
    · exact quiet (s.setSocket y) _ _ he rfl (by simp) (by simp) rfl rfl rfl rfl (running hp (by simp))
    · refine .other (by simp) (by simp) ?_ ?_ ?_ ?_ (running hp (by simp)) <;> rw [he] <;> rfl

theorem inbox_takes {a : ClientAct (Ticketed C)} : (inbox : Inbox (ClientActor (Ticketed C)) _ C).takes a = true ↔
    a = .takeCall := by
  cases a <;> simp [inbox]

theorem call_flags (s : ClientActor C) (c : C) : (s.call c).clients = s.clients ∧
    (s.call c).callSenders = s.callSenders ∧ (s.call c).isDone = s.isDone ∧ (s.call c).called = s.called := by
  refine ⟨?_, ?_, ?_, ?_⟩
  · unfold call; split <;> rfl
  · unfold call; split <;> rfl
  · unfold isDone; rw [call_phase]
  · unfold called; rw [call_log]

theorem tickets_left {s : ClientActor (Ticketed C)} (hg : s.callsGone = false) :
    inbox.tickets s = Ticketed.tickets s.calls.queue := if_neg (by rw [hg]; exact Bool.false_ne_true)

theorem call_tickets (s : ClientActor (Ticketed C)) (c : Ticketed C) : inbox.tickets (s.call c) =
    inbox.tickets s ++ if (s.clients || s.callSenders) && !s.isDone then c.ticket.toList else [] := by
  by_cases hc : ((s.clients || s.callSenders) && !s.isDone) = true
  · have hd : s.isDone = false := by simp at hc; exact hc.2
    have hg : s.callsGone = false := by simp [callsGone, hd]
    have hg' : (s.call c).callsGone = false := by simp [callsGone, (call_flags s c).2.2.1, hd]
    rw [tickets_left hg, tickets_left hg', if_pos hc]
    unfold call
    rw [if_pos hc, Chan.push_queue, Ticketed.tickets_snoc]
  · rw [if_neg hc, List.append_nil]
    unfold call
    rw [if_neg hc]

theorem inbox_drops {s t : ClientActor (Ticketed C)} (hq : t.calls = s.calls)
    (hg : s.callsGone = true → t.callsGone = true) :
    inbox.tickets t = inbox.tickets s ∨ inbox.tickets t = [] ∧ inbox.closed t = true := by
  by_cases ht : t.callsGone = true
  · refine .inr ⟨if_pos ht, ?_⟩
    simp only [callsGone, Bool.and_eq_true] at ht
    exact ht.1.1
  · have hs : s.callsGone = false := by simpa using fun hs => ht (hg hs)
    rw [tickets_left (by simpa using ht), tickets_left hs, hq]
    exact .inl rfl

theorem inbox_laws (config : ClientConfig) :
    (inbox : Inbox (ClientActor (Ticketed C)) _ C).Laws (create config) where
  start := rfl
  accepted {s t c n} _ hr h := by
    cases h
    have hr : s.clients = true := hr
    rw [call_tickets]
    by_cases hd : s.isDone = true
    · simp [hr, hd, inbox]
    · simp [hr, hd, inbox]
  takes {s t a} _ _ ha h := by
    rw [inbox_takes] at ha
    cases step_inbox h with
    | call | dropClients | dropCallSenders => cases ha
    | other _ hn => exact absurd ha hn
    | @take c q hd hq =>
      refine ⟨c.ticket.toList, ?_, ?_⟩
      · have hs : s.callsGone = false := by simp [callsGone, hd]
        rw [tickets_left hs, (Chan.pop?_some.mp hq).1, Ticketed.tickets_cons]
        rfl
      · simp [inbox, called, event, ClientEvent.call, Ticketed.tickets_snoc]
  drops {s t a} _ hp ha h := by
    cases step_inbox h with
    | call c =>
      have hc : c.ticket = none := by simpa [inbox] using hp
      exact .inl (by rw [call_tickets, hc]; simp)
    | take => cases ha
    | dropClients keep hc _ _ hq =>
      exact inbox_drops hq fun hs => by simp [callsGone, hc] at hs
    | dropCallSenders =>
      refine inbox_drops rfl fun hs => ?_
      simp only [callsGone, Bool.and_eq_true] at hs ⊢
      exact ⟨hs.1, rfl⟩
    | other _ _ hc hk hq _ hd =>
      refine inbox_drops hq fun hs => ?_
      simp only [callsGone, Bool.and_eq_true, hc, hk] at hs ⊢
      exact ⟨⟨hd hs.1.1, hs.1.2⟩, hs.2⟩
  keeps {s t a} _ ha h := by
    cases step_inbox h with
    | call c => simp only [inbox, (call_flags s c).2.2.2]
    | take => cases ha
    | dropClients _ _ _ _ _ hl | other _ _ _ _ _ hl => simp only [inbox, hl]
    | dropCallSenders => rfl
  stays {s t a} _ hc h := by
    simp only [inbox] at hc ⊢
    cases step_inbox h with
    | call c => rw [(call_flags s c).2.2.1]; exact hc
    | take hd => rw [hc] at hd; cases hd
    | dropClients _ _ _ _ _ _ hd => rw [hd]; exact hc
    | dropCallSenders => exact hc
    | other _ _ _ _ _ _ hd => exact hd hc
  untaken _ _ := rfl

theorem inbox_calls {s t : ClientActor (Ticketed C)} {a : ClientAct (Ticketed C)}
    (h : (inbox : Inbox _ _ C).step s a = some t) : Calls s a t := step_inbox h

/-- Whoever waits holds a `Client`. -/
def Attended (s : Requests (ClientActor (Ticketed C)) R) : Prop :=
  ∀ (n : Nat) (c : Answer R), s.callers[n]? = some c → c.isWaiting = true → s.system.clients = true

theorem step_attended {s t : Requests (ClientActor (Ticketed C)) R} {a : RequestAct (ClientAct (Ticketed C)) C R}
    (g : Attended s) (h : Requests.Step inbox s a t) : Attended t := by
  cases h with
  | call hc hu =>
    cases hu
    exact fun _ _ _ _ => (call_flags _ _).1.trans hc
  | take _ ha hu =>
    rw [inbox_takes.mp ha] at hu
    cases inbox_calls hu with
    | take => exact g
    | other _ hn => exact absurd rfl hn
  | @drop a u left _ _ hu _ _ hlast =>
    have kept : u.clients = s.system.clients ∨ ∀ c ∈ s.callers, c.isWaiting = false := by
      cases inbox_calls hu with
      | call c => exact .inl (call_flags _ _).1
      | take => exact .inl rfl
      | dropClients keep => exact .inr (hlast rfl)
      | dropCallSenders => exact .inl rfl
      | other _ _ hc => exact .inl hc
    refine Requests.forall_settle nofun fun n c hn _ hw => ?_
    rcases kept with hk | hk
    · exact hk.trans (g n c hn hw)
    · exact absurd (hk c (List.mem_of_getElem? hn)) (by simp [hw])
  | answer r hn | forget hn => exact Requests.forall_settle nofun fun n c hn _ => g n c hn
  | cancel hn => exact List.forall_set hn nofun fun n c _ hn => g n c hn

theorem reach_attended {config : ClientConfig} {s : Requests (ClientActor (Ticketed C)) R}
    (h : Lts.Reach (Requests.step inbox) (.start (create config)) s) : Attended s := by
  have L := inbox_laws (C := C) config
  refine Lts.reach_inv (I := Attended) (by simp [Attended, Requests.start]) (fun s a t hr g hs => ?_) h
  exact step_attended g (Requests.step_cases L (Requests.reach_sound L hr).reach hs)

/-- The actor is over with a request still queued, and its caller waits unless it has gone away. -/
structure Lost (n : Nat) (s : Requests (ClientActor (Ticketed C)) R) : Prop where
  done : s.system.isDone = true
  queued : s.callers[n]? = some .waiting ∧ n ∈ inbox.tickets s.system ∨ s.callers[n]? = some .cancelled

theorem step_lost {s₀ : ClientActor (Ticketed C)} {s t : Requests (ClientActor (Ticketed C)) R} {n : Nat}
    {a : RequestAct (ClientAct (Ticketed C)) C R} (L : inbox.Laws s₀) (p : Requests.Sound inbox s₀ s)
    (g : Attended s) (l : Lost n s) (h : Requests.Step inbox s a t) : Lost n t := by
  -- a sender that a handler holds is not the one that is queued
  have used : ∀ m ∈ s.held, ∀ (res : Option R) {t : Requests (ClientActor (Ticketed C)) R}, t.system = s.system →
      t.callers = Requests.settle s.callers [m] res → Lost n t := by
    intro m hm res t hs hc
    refine ⟨by rw [hs]; exact l.done, ?_⟩
    rw [hs, hc]
    rcases l.queued with ⟨hw, hq⟩ | hw
    · refine .inl ⟨(Requests.settle_other fun hn => ?_).trans hw, hq⟩
      cases List.mem_singleton.mp hn
      exact p.disjoint (p.spent.subset (List.mem_append_right _ hm)) hq
    · exact .inr (Requests.settle_cancelled hw)
  cases h with
  | @call q u hc hu =>
    have hcl : inbox.closed s.system = true := l.done
    have ht := L.accepted p.reach hc hu
    rw [hcl, if_pos rfl, List.append_nil] at ht
    have old : n < s.callers.length := by
      rcases l.queued with ⟨h, -⟩ | h <;> exact (List.getElem?_eq_some_iff.mp h).1
    refine ⟨L.stays p.reach hcl hu, ?_⟩
    rw [List.getElem?_append_left old, ht]
    exact l.queued
  | take _ ha hu =>
    rw [inbox_takes.mp ha] at hu
    cases inbox_calls hu with
    | take hd => rw [l.done] at hd; cases hd
    | other _ hn => exact absurd rfl hn
  | @drop a u left _ ha hu hl _ hlast =>
    refine ⟨L.stays p.reach l.done hu, ?_⟩
    rcases l.queued with ⟨hw, hq⟩ | hw
    · have hc := g n .waiting hw rfl
      have same : u.clients = true → u.calls = s.system.calls → inbox.tickets u = inbox.tickets s.system := by
        intro h₁ h₂
        rw [tickets_left (by simp [callsGone, h₁]), tickets_left (by simp [callsGone, hc]), h₂]
      have ht : inbox.tickets u = inbox.tickets s.system := by
        cases inbox_calls hu with
        | call c => rw [call_tickets, l.done]; simp
        | take => cases ha
        | dropClients keep => exact absurd (hlast rfl _ (List.mem_of_getElem? hw)) (by simp [Answer.isWaiting])
        | dropCallSenders => exact same hc rfl
        | other _ _ h₁ _ h₂ => exact same (h₁.trans hc) h₂
      rw [ht, List.self_eq_append_left] at hl
      subst hl
      exact .inl ⟨(Requests.settle_other List.not_mem_nil).trans hw, by rw [ht]; exact hq⟩
    · exact .inr (Requests.settle_cancelled hw)
  | @answer m r hm => exact used m hm (some r) rfl rfl
  | @forget m hm => exact used m hm none rfl rfl
  | @cancel m hm =>
    refine ⟨l.done, ?_⟩
    rw [List.getElem?_set_of hm]
    by_cases hn : n = m
    · rw [if_pos hn]; exact .inr rfl
    · rw [if_neg hn]; exact l.queued

/-- The callers of a client are served in the order of their calls. A call that is still queued when the actor ends
is never given up: its caller waits for as long as it wants to. -/
theorem client_calls_served {config : ClientConfig} {s : Requests (ClientActor (Ticketed C)) R}
    (h : Lts.Reach (Requests.step inbox) (.start (create config)) s) :
    Requests.Served inbox s ∧
      ∀ n, s.system.isDone = true → n ∈ inbox.tickets s.system → s.callers[n]? = some .waiting →
        ∀ t, Lts.Reach (Requests.step inbox) s t →
          t.callers[n]? = some .waiting ∨ t.callers[n]? = some .cancelled := by
  have L := inbox_laws (C := C) config
  refine ⟨(Requests.reach_sound L h).served, fun n hd hq hn t ht => ?_⟩
  have l : Lost n t := by
    refine Lts.reach_inv (I := Lost n) ⟨hd, .inl ⟨hn, hq⟩⟩ (fun u a v hu l hs => ?_) ht
    have p := Requests.reach_sound L (h.trans hu)
    exact step_lost L p (reach_attended (h.trans hu)) l (Requests.step_cases L p.reach hs)
  exact l.queued.imp_left And.left

theorem client_calls_served_one : ∃ s : Requests (ClientActor (Ticketed Nat)) Nat,
    Lts.Reach (Requests.step inbox) (.start (create ⟨1, 1, none⟩)) s ∧ s.system.isDone = true ∧
      s.callers = [.waiting] ∧ Requests.Served inbox s ∧ ∀ t, Lts.Reach (Requests.step inbox) s t →
        t.callers[0]? = some .waiting ∨ t.callers[0]? = some .cancelled := by
  have h : Lts.Reach (Requests.step inbox)
      (.start (create ⟨1, 1, none⟩) : Requests (ClientActor (Ticketed Nat)) Nat) _ :=
    ⟨[.call 5, .act (.close none), .act .tryRecv], rfl⟩
  obtain ⟨hs, hl⟩ := client_calls_served h
  exact ⟨_, h, rfl, rfl, hs, hl 0 rfl (by decide) rfl⟩

end ClientActor

end Ezsockets
