import Ezsockets.Lts
import Ezsockets.SessionLemmas

/-!
# What a session reads

The handlers are given what the session takes off its stream, in order
(`Consumed`). A session whose send fails stops there: it loses nothing
exactly when all that is left in the stream queue is errors and a `Close`
without a frame.
-/

namespace Ezsockets

variable {ID C : Type}

def Handler.payload : Handler C → Option Payload
  | .onText t => some (.text t)
  | .onBinary b => some (.binary b)
  | .onCall _ => none

def itemPayload : Except WSError Message → Option Payload
  | .ok message => message.payload
  | .error _ => none

namespace SessionActor

variable {s t : SessionActor ID C}

def Consumed (s : SessionActor ID C) : Prop :=
  s.handled.filterMap Handler.payload = s.socket.toOwner.got.filterMap itemPayload

theorem create_consumed (id : ID) {socket : Socket} (h : socket.toOwner.got = []) :
    (create id socket : SessionActor ID C).Consumed := by
  simp [Consumed, create, h]

theorem incoming_consumed {socket : Socket} {item : Option (Except WSError Message)} (g : s.Consumed)
    (h : s.socket.recv = some (item, socket)) : ({ s with socket := socket }.incoming item).Consumed := by
  have hg := Socket.recv_got h
  unfold Consumed at *
  rcases item with _ | (e | (x | x | x))
  all_goals
    simp [incoming, start, finish, hg, g, Handler.payload, itemPayload, Message.payload]

theorem step_consumed {a : SessionAct C} (g : s.Consumed) (h : s.step a = some t) : t.Consumed := by
  cases step_cases h with
  | text m | binary m | close m => simpa [Consumed] using g
  | call c => simpa [Consumed] using g
  | handOver | handOverClose | sendFailed | handlerErr | handlerPanic => simpa [Consumed, finish] using g
  | @takeCall c q =>
    have hc : [Handler.onCall c].filterMap Handler.payload = [] := rfl
    simpa [Consumed, start, hc] using g
  | incoming _ _ _ hr => exact incoming_consumed g hr
  | callWith | resume | handlerOk | notify => exact g
  | socket x hs => simpa [Consumed, (Socket.step_owner hs).2.2.1] using g

theorem reach_consumed {id : ID} {socket : Socket} (ho : socket.toOwner.got = [])
    (h : Lts.Reach step (create id socket : SessionActor ID C) s) : s.Consumed :=
  Lts.reach_inv (create_consumed id ho) (fun _ _ _ _ g hs => step_consumed g hs) h

/-! ## A send that fails -/

/-- The step takes a message other than a `Close`, whose send fails. -/
def Stops (s : SessionActor ID C) (a : SessionAct C) : Prop :=
  a = .outgoing ∧ s.phase = .select ∧ ∃ m c, s.toSocket.pop? = some (m, c) ∧ m.closeFrame = none ∧
    s.socket.sink.isClosed = true

/-- A session that stops there has passed on every payload of its stream, and ends with the frame of a `Close` that
is left in the queue. -/
def Lossless (s : SessionActor ID C) (a : SessionAct C) : Prop :=
  s.Stops a → ∀ t, s.step a = some t →
    t.handled.filterMap Handler.payload = t.socket.toOwner.hist.filterMap itemPayload ∧
      ∀ frame, .ok (.close frame) ∈ t.socket.toOwner.queue → t.phase = .finished (some (.ok frame))

/-- A session that stops there has nothing left to read but errors and a `Close` without a frame. -/
def Quiet (s : SessionActor ID C) (a : SessionAct C) : Prop :=
  s.Stops a → ∀ item ∈ s.socket.toOwner.queue, item = .ok (.close none) ∨ ∃ err, item = .error err

theorem stops_step {a : SessionAct C} (hs : s.Stops a) : ∃ t, s.step a = some t ∧
    t.phase = .finished (some (.ok none)) ∧ t.handled = s.handled ∧ t.socket.toOwner = s.socket.toOwner := by
  obtain ⟨rfl, hp, m, c, hq, hm, hc⟩ := hs
  refine ⟨{ s with toSocket := c }.outgoing m, by simp [step, hp, hq], ?_⟩
  have hsend := Socket.sendRaw_closed m.toRaw hc
  rcases outgoing_cases { s with toSocket := c } m with ⟨frame, hf, -⟩ | ⟨-, -, he⟩ | ⟨-, hok, -⟩
  · rw [hm] at hf; cases hf
  · rw [he]; simp [finish]
  · have : (s.socket.sendRaw m.toRaw).2 = true := hok
    rw [hsend] at this; cases this

theorem lossless_iff_quiet (g : s.Consumed) (a : SessionAct C) : s.Lossless a ↔ s.Quiet a := by
  apply imp_congr_right
  intro hs
  obtain ⟨t, ht, hp, hh, ho⟩ := stops_step hs
  -- what was taken was passed on, so only the queue counts
  have hrest : t.handled.filterMap Handler.payload = t.socket.toOwner.hist.filterMap itemPayload ↔
      ∀ item ∈ s.socket.toOwner.queue, itemPayload item = none := by
    rw [hh, ho, g, Chan.hist, List.filterMap_append, List.self_eq_append_right, List.filterMap_eq_nil_iff]
  constructor
  · intro h item hi
    obtain ⟨hall, hclose⟩ := h t ht
    have hn := hrest.mp hall item hi
    rw [ho] at hclose
    rcases item with err | (x | x | frame)
    · exact .inr ⟨err, rfl⟩
    · cases hn
    · cases hn
    · have hf := hclose frame hi
      rw [hp] at hf
      cases hf; exact .inl rfl
  · intro h u hu
    rw [ht] at hu; cases hu
    refine ⟨hrest.mpr fun item hi => ?_, fun frame hf => ?_⟩
    · rcases h item hi with rfl | ⟨err, rfl⟩ <;> rfl
    · rw [ho] at hf
      rcases h _ hf with he | ⟨err, he⟩
      · cases he; exact hp
      · cases he

/-- The runs of a session that lose nothing to a failed send are those that stop with nothing left to read. -/
theorem run_lossless_iff (id : ID) {config : SocketConfig} {socket : Socket}
    (hn : Lts.Reach Socket.step (.new config) socket) (as : List (SessionAct C)) :
    Lts.Along step Lossless (create id socket) as ↔ Lts.Along step Quiet (create id socket) as := by
  have ho : socket.toOwner.got = [] :=
    Lts.reach_inv (I := fun u => u.toOwner.got = []) rfl
      (fun _ _ _ _ hu h => (Socket.step_owner h).2.2.1.trans hu) hn
  exact Lts.along_congr (fun s a hr => lossless_iff_quiet (reach_consumed ho hr) a) as

/-- A text and a `Close` of the client are queued when the supervisor has stopped the sink and a text of the session
is sent: neither is read, and the result has no frame. -/
theorem close_frame_lost : ∃ (as : List (SessionAct Nat)) (s t : SessionActor Nat Nat) (frame : CloseFrame),
    Lts.exec step (create 7 (.new .default)) as = some s ∧ s.Stops .outgoing ∧ s.step .outgoing = some t ∧
      t.handled.length = 0 ∧ .ok (.text "hi") ∈ t.socket.toOwner.queue ∧
      .ok (.close (some frame)) ∈ t.socket.toOwner.queue ∧ t.phase = .finished (some (.ok none)) ∧
      ¬ s.Lossless .outgoing := by
  have h : Lts.exec step (create 7 (.new .default) : SessionActor Nat Nat) [
    .socket (.streamNext (.ok (.text "hi"))), .socket (.streamNext (.ok (.close (some ⟨.restart, "bye"⟩)))),
    .socket .streamEnd, .socket .supervise, .socket .supervise, .socket .sinkAborted, .text "x"] = some _ := rfl
  refine ⟨_, _, _, ⟨.restart, "bye"⟩, h, ⟨rfl, rfl, _, _, rfl, rfl, rfl⟩, rfl, rfl, List.mem_cons_self,
    List.mem_cons_of_mem _ List.mem_cons_self, rfl, fun hl => ?_⟩
  have hr := (hl ⟨rfl, rfl, _, _, rfl, rfl, rfl⟩ _ rfl).2 (some ⟨.restart, "bye"⟩)
    (List.mem_cons_of_mem _ List.mem_cons_self)
  cases hr

/-- The client's last text is handled before the session's send fails. -/
theorem run_lossless_iff_one : ∃ (as : List (SessionAct Nat)) (s : SessionActor Nat Nat),
    Lts.exec step (create 7 (.new .default)) as = some s ∧ s.phase = .finished (some (.ok none)) ∧
      Lts.Along step Lossless (create 7 (.new .default) : SessionActor Nat Nat) as := by
  have other : ∀ {u : SessionActor Nat Nat} {a : SessionAct Nat}, a ≠ .outgoing → Quiet u a :=
    fun h hs => absurd hs.1 h
  refine ⟨[.socket (.streamNext (.ok (.text "hi"))), .socket .streamEnd, .socket .supervise, .socket .supervise,
    .socket .sinkAborted, .incoming, .handlerReturn (.ok ()), .text "x", .outgoing], _, rfl, rfl,
    (run_lossless_iff 7 (Lts.Reach.refl (Socket.new .default)) _).mpr ?_⟩
  refine Lts.along_cons (other (by simp)) rfl (Lts.along_cons (other (by simp)) rfl (Lts.along_cons
    (other (by simp)) rfl (Lts.along_cons (other (by simp)) rfl (Lts.along_cons (other (by simp)) rfl
    (Lts.along_cons (other (by simp)) rfl (Lts.along_cons (other (by simp)) rfl (Lts.along_cons
    (other (by simp)) rfl (Lts.along_cons (fun _ item hi => ?_) rfl trivial))))))))
  cases hi

end SessionActor

end Ezsockets
