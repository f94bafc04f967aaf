import Ezsockets.Lts
import Ezsockets.SessionLemmas

/-!
# A session that closes itself

The select looks at the outgoing queue first, so nothing is started while a
message waits there. A `Close` in the queue is reached before anything else
the session could do, and ends it with its own frame (`own_close`).
-/

namespace Ezsockets.SessionActor

variable {ID C : Type} {s t : SessionActor ID C}

def enqueues (s : SessionActor ID C) (a : SessionAct C) : Option InMessage :=
  let accept (message : Message) : Option InMessage :=
    if s.live then some (.new message (.handle s.toSocket.hist.length)) else none
  match a with
  | .text t => accept (.text t)
  | .binary b => accept (.binary b)
  | .close frame => accept (.close frame)
  | _ => none

/-- The message that `run` hands to the socket. -/
def hands (s : SessionActor ID C) : SessionAct C → Option InMessage
  | .outgoing => s.toSocket.queue.head?
  | _ => none

def enqueued (id : ID) (socket : Socket) (as : List (SessionAct C)) : List InMessage :=
  Lts.collect step enqueues (create id socket) as

def handed (id : ID) (socket : Socket) (as : List (SessionAct C)) : List InMessage :=
  Lts.collect step hands (create id socket) as

/-- The run ends by consuming a `Close` with this frame, its own or the client's. -/
def Consumes (s : SessionActor ID C) (a : SessionAct C) (frame : Option CloseFrame) : Prop :=
  (a = .outgoing ∧ ∃ m c, s.toSocket.pop? = some (m, c) ∧ m.closeFrame = some frame) ∨
    (a = .incoming ∧ ∃ y, s.socket.recv = some (some (.ok (.close frame)), y))

def Returned (s : SessionActor ID C) (res : SessionResult) : Prop :=
  s.phase = .finished (some res) ∨ s.result = some (some res)

/-! ## The queue -/

theorem send_enqueued (s : SessionActor ID C) (message : Message) :
    (s.send message).toSocket.hist = s.toSocket.hist ++
    (if s.live then some (InMessage.new message (.handle s.toSocket.hist.length)) else none).toList := by
  unfold send
  by_cases hl : s.live = true
  · rw [if_pos hl, if_pos hl, Chan.push_hist, Option.toList_some]
  · rw [if_neg hl, if_neg hl, Option.toList_none, List.append_nil]

theorem send_taken (s : SessionActor ID C) (message : Message) :
    (s.send message).toSocket.got = s.toSocket.got := by
  unfold send
  split <;> rfl

/-- What has been enqueued is what the channel has seen, and what has been handed over is what was taken from it. -/
structure Queued (enqueued handed : List InMessage) (s : SessionActor ID C) : Prop where
  hist : s.toSocket.hist = enqueued
  got : s.toSocket.got = handed
  last : ∀ m ∈ handed.dropLast, m.closeFrame = none

theorem step_queued {es hs : List InMessage} {a : SessionAct C} (hg : s.Good) (g : Queued es hs s)
    (h : s.step a = some t) : Queued (es ++ (s.enqueues a).toList) (hs ++ (s.hands a).toList) t := by
  have keep : ∀ {u : SessionActor ID C}, u.toSocket = s.toSocket → Queued (es ++ []) (hs ++ []) u := by
    intro u hu
    rw [List.append_nil, List.append_nil]
    exact ⟨hu ▸ g.hist, hu ▸ g.got, g.last⟩
  have sent : ∀ message : Message, Queued (es ++ (if s.live then
      some (InMessage.new message (.handle s.toSocket.hist.length)) else none).toList) (hs ++ [])
      (s.send message) := by
    intro message
    refine ⟨?_, ?_, ?_⟩
    · rw [send_enqueued, g.hist]
    · rw [send_taken, g.got, List.append_nil]
    · rw [List.append_nil]; exact g.last
  have taken : ∀ {m : InMessage} {c : Chan InMessage} {u : SessionActor ID C}, s.phase = .select →
      s.toSocket.pop? = some (m, c) → u.toSocket = c →
      Queued (es ++ []) (hs ++ s.toSocket.queue.head?.toList) u := by
    rintro m c u hp hq rfl
    obtain ⟨hqueue, hgot⟩ := Chan.pop?_some.mp hq
    rw [hqueue, List.head?_cons, Option.toList_some, List.append_nil]
    refine ⟨(Chan.pop?_hist hq).trans g.hist, by rw [hgot, g.got], fun m hm => ?_⟩
    -- a live session has taken no `Close` so far
    rw [List.dropLast_concat, ← g.got] at hm
    exact hg.noClose (by rw [live, hp]) m hm
  cases step_cases h with
  | text | binary | close => exact sent _
  | call c => exact keep (call_toSocket c)
  | handOver hp hq | handOverClose hp hq | sendFailed hp hq => exact taken hp hq rfl
  | @incoming item y =>
    rcases incoming_cases { s with socket := y } item with ⟨hd, he⟩ | ⟨frame, he⟩ | he
    · rw [he]; exact keep rfl
    · rw [he]; exact keep rfl
    · rw [he]; exact keep rfl
  | takeCall | callWith | resume | handlerOk | handlerErr | handlerPanic | notify | socket => exact keep rfl

theorem run_queued (id : ID) (socket : Socket) {as : List (SessionAct C)}
    (h : Lts.exec step (create id socket) as = some s) :
    s.Good ∧ Queued (enqueued id socket as) (handed id socket as) s := by
  refine Lts.run_inv (I := fun as (s : SessionActor ID C) =>
    s.Good ∧ Queued (enqueued id socket as) (handed id socket as) s)
    ⟨create_good id socket, rfl, rfl, fun m hm => by cases hm⟩ ?_ h
  rintro as u a v hu ⟨hg, hq⟩ huv
  refine ⟨(step_later hg huv).1, ?_⟩
  have he : enqueued id socket (as ++ [a]) = enqueued id socket as ++ (u.enqueues a).toList :=
    Lts.collect_snoc hu huv
  have hh : handed id socket (as ++ [a]) = handed id socket as ++ (u.hands a).toList := Lts.collect_snoc hu huv
  rw [he, hh]
  exact step_queued hg hq huv

/-! ## What is started -/

/-- Until the message is taken nothing else is. -/
theorem step_untaken {a : SessionAct C} (hp : s.phase = .select) (hq : s.toSocket.queue ≠ []) (ha : a ≠ .outgoing)
    (h : s.step a = some t) : t.phase = .select ∧ t.toSocket.queue ≠ [] ∧ t.handled = s.handled := by
  have sent : ∀ message : Message, (s.send message).phase = .select ∧ (s.send message).toSocket.queue ≠ [] ∧
      (s.send message).handled = s.handled := by
    intro message
    refine ⟨by rw [send_phase, hp], ?_, send_handled message⟩
    rw [send_toSocket s message (by rw [live, hp]), Chan.push_queue]
    simp
  cases step_cases h with
  | text | binary | close => exact sent _
  | call c => exact ⟨by rw [call_phase, hp], by rw [call_toSocket]; exact hq, call_handled c⟩
  | socket => exact ⟨hp, hq, rfl⟩
  | handOver | handOverClose | sendFailed => exact absurd rfl ha
  | takeCall _ he | incoming _ he => exact absurd he hq
  | callWith hp' | resume hp' | handlerOk hp' | handlerErr _ hp' | handlerPanic hp' | notify hp' =>
    cases hp.symm.trans hp'

theorem run_untaken {as : List (SessionAct C)} (hp : s.phase = .select) (hq : s.toSocket.queue ≠ [])
    (ha : .outgoing ∉ as) (h : Lts.exec step s as = some t) : t.handled = s.handled := by
  have hinv : t.phase = .select ∧ t.toSocket.queue ≠ [] ∧ t.handled = s.handled := by
    refine Lts.along_inv (I := fun t : SessionActor ID C => t.phase = .select ∧ t.toSocket.queue ≠ [] ∧
      t.handled = s.handled) (C := fun _ a => a ≠ .outgoing) ⟨hp, hq, rfl⟩ ?_ ?_ h
    · rintro u a v - ⟨hpu, hqu, hhu⟩ hau huv
      obtain ⟨hpv, hqv, hhv⟩ := step_untaken hpu hqu hau huv
      exact ⟨hpv, hqv, hhv.trans hhu⟩
    · refine Lts.along_of_forall (fun a hm _ he => ?_) s
      exact ha (he ▸ hm)
  exact hinv.2.2

/-- The session is over, or a `Close` waits in its queue. -/
def Closing (s : SessionActor ID C) : Prop := s.live = true → ∃ m ∈ s.toSocket.queue, m.closeFrame ≠ none

theorem close_closing (s : SessionActor ID C) (frame : Option CloseFrame) : (s.close frame).Closing := by
  intro hl
  have hl : s.live = true := by simpa [close, live] using hl
  refine ⟨.new (.close frame) (.handle s.toSocket.hist.length), ?_, by simp [InMessage.closeFrame, InMessage.new]⟩
  rw [close, send_toSocket s _ hl, Chan.push_queue]
  exact List.mem_append_right _ List.mem_cons_self

theorem step_closing {a : SessionAct C} (g : s.Closing) (h : s.step a = some t) :
    t.Closing ∧ t.handled = s.handled := by
  have sent : ∀ message : Message, (s.send message).Closing := by
    intro message hl
    have hl : s.live = true := by simpa [live] using hl
    obtain ⟨m, hm, hc⟩ := g hl
    refine ⟨m, ?_, hc⟩
    rw [send_toSocket s _ hl, Chan.push_queue]
    exact List.mem_append_left _ hm
  have ended : ∀ {u : SessionActor ID C} {res : Option SessionResult}, (u.finish res).Closing :=
    fun hl => by cases hl
  have keep : ∀ {u : SessionActor ID C}, s.live = true → u.toSocket = s.toSocket → u.Closing := by
    intro u hl hu _
    rw [hu]
    exact g hl
  cases step_cases h with
  | text | binary | close => exact ⟨sent _, send_handled _⟩
  | call c =>
    refine ⟨fun hl => ?_, call_handled c⟩
    rw [call_toSocket]
    exact g (by simpa [live] using hl)
  | @handOver m c hp hq hm =>
    refine ⟨fun _ => ?_, rfl⟩
    obtain ⟨m', hm', hc⟩ := g (by rw [live, hp])
    rw [(Chan.pop?_some.mp hq).1] at hm'
    rcases List.mem_cons.mp hm' with rfl | hm'
    · exact absurd hm hc
    · exact ⟨m', hm', hc⟩
  | handOverClose | sendFailed | handlerErr | handlerPanic => exact ⟨ended, rfl⟩
  | takeCall hp he | incoming hp he =>
    obtain ⟨m, hm, -⟩ := g (by rw [live, hp])
    rw [he] at hm
    cases hm
  | callWith hp | resume hp | handlerOk hp => exact ⟨keep (by rw [live, hp]) rfl, rfl⟩
  | notify => exact ⟨fun hl => (by cases hl), rfl⟩
  | socket => exact ⟨g, rfl⟩

theorem reach_closing (g : s.Closing) (h : Lts.Reach step s t) : t.handled = s.handled := by
  have hinv : t.Closing ∧ t.handled = s.handled := by
    refine Lts.reach_inv (I := fun t : SessionActor ID C => t.Closing ∧ t.handled = s.handled) ⟨g, rfl⟩ ?_ h
    rintro u a v - ⟨gu, hu⟩ huv
    obtain ⟨gv, hv⟩ := step_closing gu huv
    exact ⟨gv, hv.trans hu⟩
  exact hinv.2

/-! ## What is returned -/

theorem Consumes.returns {a : SessionAct C} {frame : Option CloseFrame} (hc : s.Consumes a frame)
    (h : s.step a = some t) : t.phase = .finished (some (.ok frame)) := by
  rcases hc with ⟨rfl, m, c, hq, hm⟩ | ⟨rfl, y, hr⟩
  · cases step_cases h with
    | handOver _ hq' hm' | sendFailed _ hq' hm' =>
      cases hq.symm.trans hq'
      cases hm.symm.trans hm'
    | handOverClose _ hq' hm' =>
      cases hq.symm.trans hq'
      cases hm.symm.trans hm'
      rfl
  · cases step_cases h with
    | incoming _ _ _ hr' =>
      cases hr.symm.trans hr'
      rfl

theorem reach_returned {res : SessionResult} (hg : s.Good) (hr : s.Returned res) (h : Lts.Reach step s t) :
    t.Returned res := by
  have hinv : t.Good ∧ t.Returned res := by
    refine Lts.reach_inv (I := fun t : SessionActor ID C => t.Good ∧ t.Returned res) ⟨hg, hr⟩ ?_ h
    rintro u a v - ⟨gu, hu⟩ huv
    obtain ⟨gv, hl⟩ := step_later gu huv
    refine ⟨gv, ?_⟩
    rcases hu with hp | hres
    · have hd : ∀ {hd w}, u.phase ≠ .handler hd w := fun he => by cases hp.symm.trans he
      cases step_cases huv with
      | text | binary | close => exact .inl (by rw [send_phase, hp])
      | call c => exact .inl (by rw [call_phase, hp])
      | notify hp' => cases hp.symm.trans hp'; exact .inr rfl
      | socket => exact .inl hp
      | handOver hp' | handOverClose hp' | sendFailed hp' | takeCall hp' | incoming hp' => cases hp.symm.trans hp'
      | callWith hp' | resume hp' | handlerOk hp' | handlerErr _ hp' | handlerPanic hp' => exact absurd hp' hd
    · exact .inr (hl.result _ hres)
  exact hinv.2

/-- What is handed to the socket is a prefix of what was enqueued, and a `Close` ends it. While a message waits
nothing is started before it is taken, and after a `Close` has been enqueued nothing is started at all. A run that
consumes a `Close` returns its frame. -/
theorem own_close (id : ID) (socket : Socket) {as : List (SessionAct C)} {s : SessionActor ID C}
    (h : Lts.exec step (create id socket) as = some s) :
    (handed id socket as <+: enqueued id socket as ∧ ∀ m ∈ (handed id socket as).dropLast, m.closeFrame = none) ∧
    (s.phase = .select → s.toSocket.queue ≠ [] → ∀ bs t, .outgoing ∉ bs → Lts.exec step s bs = some t →
      t.handled = s.handled) ∧
    (∀ frame t u, s.step (.close frame) = some t → Lts.Reach step t u → u.handled = s.handled) ∧
    (∀ a frame t u, s.Consumes a frame → s.step a = some t → Lts.Reach step t u → u.Returned (.ok frame)) := by
  obtain ⟨hg, hq⟩ := run_queued id socket h
  refine ⟨⟨?_, hq.last⟩, ?_, ?_, ?_⟩
  · rw [← hq.hist, ← hq.got]
    exact s.toSocket.got_hist
  · intro hp hne bs t hbs hs
    exact run_untaken hp hne hbs hs
  · intro frame t u ht hu
    cases ht
    exact (reach_closing (close_closing s frame) hu).trans (send_handled _)
  · intro a frame t u hc ht hu
    exact reach_returned (step_later hg ht).1 (.inl (hc.returns ht)) hu

/-- A handler sends a text and closes its session while a call waits: the call is never taken. -/
theorem own_close_call : ∃ (as : List (SessionAct Nat)) (s : SessionActor Nat Nat),
    Lts.exec step (create 7 (.new .default)) as = some s ∧ s.handled.length = 1 ∧ s.calls.queue = [3] ∧
      (∀ t u, s.step (.close none) = some t → Lts.Reach step t u → u.handled = s.handled) := by
  have h : Lts.exec step (create 7 (.new .default) : SessionActor Nat Nat) [
    .socket (.streamNext (.ok (.text "hi"))), .incoming, .text "bye", .call 3] = some _ := rfl
  exact ⟨_, _, h, rfl, rfl, (own_close 7 (.new .default) h).2.2.1 none⟩

end Ezsockets.SessionActor
