import Ezsockets.Session
import Ezsockets.SocketLemmas

/-!
# What a step of a session can do

`SessionActor.Step` lists the branches of `SessionActor.step`, each with its
guard. `step_later` is all that the tasks around a session rely on: a session
never comes back to life, its result stays, and a live actor has consumed no
`Close`.
-/

namespace Ezsockets.SessionActor

variable {ID C : Type} {s t : SessionActor ID C}

/-- The session closed itself, its sink is closed, or the message was handed to the sink. -/
theorem outgoing_cases (s : SessionActor ID C) (m : InMessage) :
    (∃ frame, m.closeFrame = some frame ∧
      s.outgoing m = { s with socket := (s.socket.send m).1 }.finish (some (.ok frame))) ∨
    (m.closeFrame = none ∧ (s.socket.send m).2 = false ∧
      s.outgoing m = { s with socket := (s.socket.send m).1 }.finish (some (.ok none))) ∨
    (m.closeFrame = none ∧ (s.socket.send m).2 = true ∧
      s.outgoing m = { s with socket := (s.socket.send m).1 }) := by
  unfold outgoing
  rcases s.socket.send m with ⟨socket, ok⟩
  cases hm : m.closeFrame with
  | some frame => exact .inl ⟨frame, rfl, by simp⟩
  | none =>
    cases ok with
    | false => exact .inr (.inl ⟨rfl, rfl, by simp⟩)
    | true => exact .inr (.inr ⟨rfl, rfl, by simp⟩)

theorem incoming_cases (s : SessionActor ID C) (item : Option (Except WSError Message)) :
    (∃ h, s.incoming item = s.start h) ∨ (∃ frame, s.incoming item = s.finish (some (.ok frame))) ∨
      s.incoming item = s := by
  rcases item with _ | (_ | (_ | _ | frame))
  · exact .inr (.inl ⟨none, rfl⟩)
  · exact .inr (.inr rfl)
  · exact .inl ⟨_, rfl⟩
  · exact .inl ⟨_, rfl⟩
  · exact .inr (.inl ⟨frame, rfl⟩)

inductive Step (s : SessionActor ID C) : SessionAct C → SessionActor ID C → Prop
  | text (m : Utf8Bytes) : Step s (.text m) (s.send (.text m))
  | binary (m : Bytes) : Step s (.binary m) (s.send (.binary m))
  | close (frame : Option CloseFrame) : Step s (.close frame) (s.send (.close frame))
  | call (c : C) : Step s (.call c) (s.call c)
  | handOver {m c} : s.phase = .select → s.toSocket.pop? = some (m, c) → m.closeFrame = none →
      (s.socket.send m).2 = true → Step s .outgoing { s with toSocket := c, socket := (s.socket.send m).1 }
  | handOverClose {m c frame} : s.phase = .select → s.toSocket.pop? = some (m, c) → m.closeFrame = some frame →
      Step s .outgoing ({ s with toSocket := c, socket := (s.socket.send m).1 }.finish (some (.ok frame)))
  | sendFailed {m c} : s.phase = .select → s.toSocket.pop? = some (m, c) → m.closeFrame = none →
      (s.socket.send m).2 = false →
      Step s .outgoing ({ s with toSocket := c, socket := (s.socket.send m).1 }.finish (some (.ok none)))
  | takeCall {c q} : s.phase = .select → s.toSocket.queue = [] → s.calls.pop? = some (c, q) →
      Step s .takeCall ({ s with calls := q }.start (.onCall c))
  | incoming {item y} : s.phase = .select → s.toSocket.queue = [] → s.calls.queue = [] →
      s.socket.recv = some (item, y) → Step s .incoming ({ s with socket := y }.incoming item)
  | callWith {hd} : s.phase = .handler hd false → Step s .callWith { s with phase := .handler hd true }
  | resume {hd} : s.phase = .handler hd true → Step s .resume { s with phase := .handler hd false }
  | handlerOk {hd} : s.phase = .handler hd false → Step s (.handlerReturn (.ok ())) { s with phase := .select }
  | handlerErr {hd} (err : Error) : s.phase = .handler hd false →
      Step s (.handlerReturn (.error err)) (s.finish (some (.error err)))
  | handlerPanic {hd} : s.phase = .handler hd false → Step s .handlerPanic (s.finish none)
  | notify {res} : s.phase = .finished res → Step s .notify { s with phase := .ended, result := some res }
  | socket {y} (a : SocketAct) : s.socket.step a = some y → Step s (.socket a) { s with socket := y }

theorem step_cases {a : SessionAct C} (h : s.step a = some t) : Step s a t := by
  cases a with
  | text m => cases h; exact .text m
  | binary m => cases h; exact .binary m
  | close frame => cases h; exact .close frame
  | call c => cases h; exact .call c
  | outgoing =>
    simp only [step] at h
    split at h
    · rename_i m c hp hq
      cases h
      rcases outgoing_cases { s with toSocket := c } m with ⟨frame, hm, he⟩ | ⟨hm, hs, he⟩ | ⟨hm, hs, he⟩
      · rw [he]; exact .handOverClose hp hq hm
      · rw [he]; exact .sendFailed hp hq hm hs
      · rw [he]; exact .handOver hp hq hm hs
    · cases h
  | takeCall =>
    simp only [step] at h
    split at h
    · rename_i hp hq hc; cases h; exact .takeCall hp hq hc
    · cases h
  | incoming =>
    simp only [step] at h
    split at h
    · rename_i hp hq hc hr; cases h; exact .incoming hp hq hc hr
    · cases h
  | callWith =>
    simp only [step] at h
    split at h
    · rename_i hp; cases h; exact .callWith hp
    · cases h
  | resume =>
    simp only [step] at h
    split at h
    · rename_i hp; cases h; exact .resume hp
    · cases h
  | handlerReturn res =>
    simp only [step] at h
    split at h
    · rename_i hp; cases h; exact .handlerOk hp
    · rename_i hp; cases h; exact .handlerErr _ hp
    · cases h
  | handlerPanic =>
    simp only [step] at h
    split at h
    · rename_i hp; cases h; exact .handlerPanic hp
    · cases h
  | notify =>
    simp only [step] at h
    split at h
    · rename_i hp; cases h; exact .notify hp
    · cases h
  | socket a =>
    obtain ⟨y, hy, rfl⟩ := Option.map_eq_some_iff.mp h
    exact .socket a hy

/-! ## What a step leaves as it was -/

@[simp] theorem send_socket (m : Message) : (s.send m).socket = s.socket := by unfold send; split <;> rfl
@[simp] theorem send_phase (m : Message) : (s.send m).phase = s.phase := by unfold send; split <;> rfl
@[simp] theorem send_handled (m : Message) : (s.send m).handled = s.handled := by unfold send; split <;> rfl

@[simp] theorem call_toSocket (c : C) : (s.call c).toSocket = s.toSocket := by unfold call; split <;> rfl
@[simp] theorem call_socket (c : C) : (s.call c).socket = s.socket := by unfold call; split <;> rfl
@[simp] theorem call_phase (c : C) : (s.call c).phase = s.phase := by unfold call; split <;> rfl
@[simp] theorem call_handled (c : C) : (s.call c).handled = s.handled := by unfold call; split <;> rfl

/-- How a session relates to what it was before. -/
structure Later (s t : SessionActor ID C) : Prop where
  id : t.id = s.id
  indicator : t.indicator = s.indicator
  hist : s.toSocket.hist <+: t.toSocket.hist
  live : t.live = true → s.live = true
  result : ∀ r, s.result = some r → t.result = some r

theorem Later.refl (s : SessionActor ID C) : Later s s := ⟨rfl, rfl, List.prefix_rfl, fun h => h, fun _ h => h⟩

structure Good (s : SessionActor ID C) : Prop where
  ended : s.phase = .ended ↔ s.result ≠ none
  noClose : s.live = true → ∀ m ∈ s.toSocket.got, m.closeFrame = none
  dropped : s.live = false → s.socket.owned = false

theorem create_good (id : ID) (socket : Socket) : (create id socket : SessionActor ID C).Good :=
  ⟨by simp [create], fun _ _ hm => absurd hm List.not_mem_nil, fun h => by simp [create, live] at h⟩

theorem send_toSocket (s : SessionActor ID C) (m : Message) (h : s.live = true) :
    (s.send m).toSocket = s.toSocket.push (.new m (.handle s.toSocket.hist.length)) := by
  simp [send, h]

theorem send_step (g : s.Good) (m : Message) : (s.send m).Good ∧ Later s (s.send m) := by
  unfold send
  split
  · exact ⟨⟨g.ended, g.noClose, g.dropped⟩, ⟨rfl, rfl, by simp, fun h => h, fun _ h => h⟩⟩
  · exact ⟨g, .refl s⟩

theorem Good.no_result (g : s.Good) (h : s.live = true) : s.result = none := by
  apply Classical.byContradiction
  intro hr
  simp [live, g.ended.mpr hr] at h

theorem Good.keep (g : s.Good) (hl : s.live = true) (hid : t.id = s.id) (hi : t.indicator = s.indicator)
    (hq : t.toSocket = s.toSocket) (hr : t.result = s.result)
    (hd : t.live = false → t.socket.owned = false) (hp : t.phase ≠ .ended) : t.Good ∧ Later s t := by
  have hn : t.result = none := hr.trans (g.no_result hl)
  refine ⟨⟨iff_of_false hp (not_not.mpr hn), fun _ => ?_, hd⟩, ⟨hid, hi, ?_, fun _ => hl, fun r h => ?_⟩⟩
  · rw [hq]; exact g.noClose hl
  · rw [hq]
  · rw [hr]; exact h

theorem outgoing_later {m : InMessage} {c : Chan InMessage} {y : Socket} (g : s.Good) (hl : s.live = true)
    (h : s.toSocket.pop? = some (m, c)) (hm : m.closeFrame = none) :
    ({ s with toSocket := c, socket := y } : SessionActor ID C).Good ∧
      Later s { s with toSocket := c, socket := y } := by
  refine ⟨⟨g.ended, fun _ m' hm' => ?_, fun h => absurd (hl.symm.trans h) (by decide)⟩,
    ⟨rfl, rfl, by rw [Chan.pop?_hist h], fun _ => hl, fun _ h => h⟩⟩
  have hm' : m' ∈ c.got := hm'
  rw [(Chan.pop?_some.mp h).2] at hm'
  rcases List.mem_append.mp hm' with h' | h'
  · exact g.noClose hl m' h'
  · rw [List.mem_singleton.mp h']; exact hm

theorem outgoing_finished {m : InMessage} {c : Chan InMessage} {y : Socket}
    {res : Option SessionResult} (g : s.Good) (hl : s.live = true) (h : s.toSocket.pop? = some (m, c)) :
    ({ s with toSocket := c, socket := y }.finish res).Good ∧
      Later s ({ s with toSocket := c, socket := y }.finish res) := by
  have hn := g.no_result hl
  refine ⟨⟨iff_of_false (by simp [finish]) (not_not.mpr hn), fun h => by simp [finish, live] at h,
    fun _ => by simp [finish]⟩, ⟨rfl, rfl, ?_, fun _ => hl, fun _ h => h⟩⟩
  show s.toSocket.hist <+: c.hist
  rw [Chan.pop?_hist h]

theorem step_later {a : SessionAct C} (g : s.Good) (h : s.step a = some t) : t.Good ∧ Later s t := by
  cases step_cases h with
  | text m | binary m | close m => exact send_step g _
  | call c =>
    unfold call
    split
    · exact ⟨⟨g.ended, g.noClose, g.dropped⟩, ⟨rfl, rfl, List.prefix_rfl, fun h => h, fun _ h => h⟩⟩
    · exact ⟨g, .refl s⟩
  | handOver hp hq hm => exact outgoing_later g (by simp [live, hp]) hq hm
  | handOverClose hp hq | sendFailed hp hq => exact outgoing_finished g (by simp [live, hp]) hq
  | takeCall hp => exact g.keep (by simp [live, hp]) rfl rfl rfl rfl (fun h => by cases h) (by simp [start])
  | @incoming item y hp =>
    have hl : s.live = true := by simp [live, hp]
    rcases incoming_cases { s with socket := y } item with ⟨hd, he⟩ | ⟨frame, he⟩ | he
    · rw [he]; exact g.keep hl rfl rfl rfl rfl (fun h => by cases h) (by simp [start])
    · rw [he]; exact g.keep hl rfl rfl rfl rfl (fun _ => by simp [finish]) (by simp [finish])
    · rw [he]; exact g.keep hl rfl rfl rfl rfl (fun h => by cases hl.symm.trans h) (by simp [hp])
  | callWith hp | resume hp | handlerOk hp =>
    exact g.keep (by simp [live, hp]) rfl rfl rfl rfl (by simp [live]) (by simp)
  | handlerErr _ hp | handlerPanic hp =>
    exact g.keep (by simp [live, hp]) rfl rfl rfl rfl (by simp [finish]) (by simp [finish])
  | notify hp =>
    have hn : s.result = none := by
      apply Classical.byContradiction
      intro hr
      rw [g.ended.mpr hr] at hp; cases hp
    refine ⟨⟨by simp, fun h => by simp [live] at h, fun _ => g.dropped (by simp [live, hp])⟩,
      ⟨rfl, rfl, List.prefix_rfl, fun h => by simp [live] at h, fun r h => ?_⟩⟩
    rw [hn] at h; cases h
  | socket a hs =>
    exact ⟨⟨g.ended, g.noClose, fun hl => (Socket.step_owner hs).1.trans (g.dropped hl)⟩,
      ⟨rfl, rfl, List.prefix_rfl, fun h => h, fun _ h => h⟩⟩

end Ezsockets.SessionActor
