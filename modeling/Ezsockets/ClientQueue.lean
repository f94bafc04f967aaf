import Ezsockets.Blocks
import Ezsockets.ClientStep
import Ezsockets.Lts

/-!
# What a client hands over

The messages that a client's handle accepts are numbered, and the client
takes them in order. `Moved` lists what a step can do with them: each one is
put into the sink of the current connection or dropped. What a sink is given
is therefore a block of the handle's messages, and the blocks of the
connections follow each other (`Handing`).
-/

namespace Ezsockets

variable {C : Type}

/-- The number of a message that came from a handle. -/
def InRawMessage.number (inmessage : InRawMessage) : Option Nat :=
  match inmessage.signal with
  | some (.handle n) => some n
  | _ => none

/-- The numbers of the handle's messages that have been put into the sink. -/
def Socket.handed (s : Socket) : List Nat := s.toSink.hist.filterMap InRawMessage.number

theorem Socket.Beat.number {x : Socket} {m : InRawMessage} (h : x.Beat m) : m.number = none := by
  rcases h with rfl | ⟨timestamp, rfl⟩ <;> rfl

/-- The client may put a message into the sink of the current connection. -/
def ClientPhase.sending : ClientPhase → Bool
  | .select | .awaitSink _ | .handler => true
  | _ => false

namespace ClientActor

variable {s t : ClientActor C}

def sinks (s : ClientActor C) : List (List InRawMessage) := s.socks.map (·.toSink.hist)

def handed (s : ClientActor C) : List (List Nat) := s.socks.map Socket.handed

def SinkOpen (s : ClientActor C) : Prop :=
  s.phase.sending = true ∧ ∃ x, s.socks[s.conn]? = some x ∧ x.sink.isClosed = false

theorem handed_sinks (s : ClientActor C) : s.handed = s.sinks.map (·.filterMap InRawMessage.number) := by
  rw [sinks, List.map_map]; rfl

theorem sinks_get {k : Nat} {x : Socket} (h : s.socks[k]? = some x) : s.sinks[k]? = some x.toSink.hist := by
  rw [sinks, List.getElem?_map, h]; rfl

theorem drop_hist (x : Socket) : x.drop.toSink.hist = x.toSink.hist := by simp [Socket.drop]

/-- What a step does with the messages of the handle. -/
inductive Moved (s t : ClientActor C) : Prop
  | same (hq : t.toSocket = s.toSocket) (hs : t.sinks = s.sinks) (ho : t.SinkOpen → s.SinkOpen)
  | accepted (m : Message) (hq : t.toSocket = s.toSocket.push (.new m (.handle s.toSocket.hist.length)))
      (hs : t.sinks = s.sinks) (ho : t.SinkOpen → s.SinkOpen)
  | dropped {m c} (hp : s.toSocket.pop? = some (m, c)) (hq : t.toSocket = c) (hs : t.sinks = s.sinks)
      (ho : ¬ t.SinkOpen)
  | handedOver {m c l} (hp : s.toSocket.pop? = some (m, c)) (hq : t.toSocket = c) (ho : s.SinkOpen)
      (hl : s.sinks[s.conn]? = some l) (hs : t.sinks = s.sinks.set s.conn (l ++ [m.toRaw]))
  | connected (hq : t.toSocket = s.toSocket) (hs : t.sinks = s.sinks ++ [[]])
  | beat {k x l} (hq : t.toSocket = s.toSocket) (hx : s.socks[k]? = some x)
      (hs : t.sinks = s.sinks.set k (x.toSink.hist ++ l)) (hb : ∀ m ∈ l, x.Beat m) (ho : t.SinkOpen → s.SinkOpen)

theorem SinkOpen.of_socks (hp : t.phase.sending = true → s.phase.sending = true) (hs : t.socks = s.socks) :
    t.SinkOpen → s.SinkOpen := by
  rintro ⟨ht, x, hx, hc⟩
  rw [conn, hs] at hx
  exact ⟨hp ht, x, hx, hc⟩

theorem finish_closed (s : ClientActor C) (res : Except Error Unit) : ¬ (s.finish res).SinkOpen := by
  rintro ⟨h, -⟩
  rw [finish_phase] at h; cases h

theorem finish_sinks (s : ClientActor C) (res : Except Error Unit) : (s.finish res).sinks = s.sinks :=
  finish_map s res drop_hist

theorem Moved.finish (s : ClientActor C) (res : Except Error Unit) : Moved s (s.finish res) :=
  .same finish_toSocket (finish_sinks s res) fun h => absurd h (finish_closed s res)

theorem send_moved (s : ClientActor C) (m : Message) : Moved s (s.send m) := by
  unfold send
  split
  · exact .accepted m rfl rfl (SinkOpen.of_socks (fun h => h) rfl)
  · exact .same rfl rfl fun h => h

theorem SinkOpen.of_conn {x y : Socket} (hp : s.phase.sending = true) (hx : s.socks[s.conn]? = some x)
    (hy : y.sink = x.sink) (ht : t.socks[t.conn]? = some y) : t.SinkOpen → s.SinkOpen := by
  rintro ⟨-, z, hz, hc⟩
  cases ht.symm.trans hz
  rw [hy] at hc
  exact ⟨hp, x, hx, hc⟩

theorem incoming_moved {x y : Socket} {item : Option (Except WSError Message)} (hp : s.phase = .select)
    (hx : s.socks[s.conn]? = some x) (hr : x.recv = some (item, y)) :
    Moved s ((s.setSocket y).handleIncomingMsg item) := by
  have hf := Socket.recv_frame hr
  have hsinks : (s.setSocket y).sinks = s.sinks := setSocket_map rfl hx (by rw [hf])
  rw [handleIncomingMsg_frame]
  exact .same rfl hsinks (SinkOpen.of_conn (by rw [hp]; rfl) hx (by rw [hf]) (setSocket_conn hx))

theorem sinkClosed_moved {x y : Socket} {closedSelf : Bool} {res : Except WSError Unit}
    (hp : s.phase = .awaitSink closedSelf) (hx : s.socks[s.conn]? = some x)
    (hr : x.awaitSinkClose = some (res, y)) : Moved s ((s.setSocket y).sinkClosed closedSelf res) := by
  have hf := Socket.awaitSinkClose_frame hr
  have hsinks : (s.setSocket y).sinks = s.sinks := setSocket_map rfl hx (by rw [hf])
  rcases sinkClosed_cases (s.setSocket y) closedSelf res with ⟨r, he⟩ | ⟨-, -, he⟩ | he
  · rw [he]
    refine .same (by simp [setSocket]) ((finish_sinks _ r).trans hsinks) fun h => absurd h (finish_closed _ r)
  · rw [he]
    refine .same rfl hsinks ?_
    rintro ⟨h, -⟩
    cases h
  · rw [he]
    exact .same rfl hsinks (SinkOpen.of_conn (by rw [hp]; rfl) hx (by rw [hf]) (setSocket_conn hx))

theorem step_moved {a : ClientAct C} (h : s.step a = some t) : Moved s t := by
  have same : ∀ {u : ClientActor C}, u.toSocket = s.toSocket → u.socks = s.socks →
      (u.phase.sending = true → s.phase.sending = true) → Moved s u := by
    intro u hq hs hp
    exact .same hq (by rw [sinks, hs]; rfl) (SinkOpen.of_socks hp hs)
  cases step_cases h with
  | text m | binary m | close m => exact send_moved s _
  | call c => unfold call; split <;> exact same rfl rfl fun h => h
  | dropClients keep => exact same (by simp) (by simp) (by simp)
  | dropCallSenders => exact same rfl rfl fun h => h
  | @drainClose _ _ m c frame hp hq =>
    refine .dropped hq finish_toSocket ?_ (finish_closed _ _)
    exact (finish_sinks _ _).trans rfl
  | drainMessage hp hq =>
    refine .dropped hq rfl rfl ?_
    rintro ⟨h, -⟩
    rw [hp] at h; cases h
  | drainEmpty | connected | connectFailed | retry | slept | closeSlept => exact same rfl rfl fun h => by cases h
  | drainDead | onConnectErr | exhausted | connectFailClose | connectFailErr | outgoingClosed | callsClosed
  | handlerErr | onCloseClose | onCloseErr | onDisconnectClose | onDisconnectErr | panic => exact .finish s _
  | onConnectOk hp => exact .connected rfl (by simp [sinks, Socket.new])
  | @handOver m c x hp hq hx hc =>
    refine .handedOver hq rfl ⟨by rw [hp]; rfl, x, hx, hc⟩ (sinks_get hx) ?_
    simp [sinks, setSocket, conn, List.map_set]
  | @handOverClose m c x frame hp hq hx hc =>
    refine .handedOver hq finish_toSocket ⟨by rw [hp]; rfl, x, hx, hc⟩ (sinks_get hx) ?_
    rw [finish_sinks]
    simp [sinks, setSocket, conn, List.map_set]
  | @sendFailed m c x hp hq hx hc =>
    refine .dropped hq rfl (setSocket_map (x := x) rfl hx rfl) ?_
    rintro ⟨-, z, hz, ho⟩
    cases (setSocket_conn hx).symm.trans hz
    rw [hc] at ho; cases ho
  | takeCall hp | handlerOk hp => exact same rfl rfl fun _ => by rw [hp]; rfl
  | incoming hp hx hr => exact incoming_moved hp hx hr
  | sinkClosed hp hx hr => exact sinkClosed_moved hp hx hr
  | onCloseReconnect | onDisconnectReconnect =>
    refine .same rfl (dropSocket_map s drop_hist) ?_
    rintro ⟨h, -⟩
    cases h
  | @socket k x y a hx hs =>
    obtain ⟨l, hl, hb⟩ := Socket.step_adds hs
    refine .beat rfl hx (by simp [sinks, List.map_set, hl]) hb ?_
    rintro ⟨hp, z, hz, ho⟩
    have hc : ({ s with socks := s.socks.set k y } : ClientActor C).conn = s.conn := by simp [conn]
    rw [hc, List.getElem?_set_of hx] at hz
    split at hz
    · rename_i he
      cases hz
      refine ⟨hp, x, by rw [he]; exact hx, ?_⟩
      apply Bool.eq_false_iff.mpr
      intro hx
      rw [Socket.step_isClosed hs hx] at ho; cases ho
    · exact ⟨hp, z, hz, ho⟩

theorem sinks_length (s : ClientActor C) : s.sinks.length = s.socks.length := List.length_map _

theorem Moved.later (h : Moved s t) : s.toSocket.hist.length ≤ t.toSocket.hist.length ∧
    s.toSocket.got.length ≤ t.toSocket.got.length ∧ s.socks.length ≤ t.socks.length := by
  rw [← sinks_length, ← sinks_length]
  cases h with
  | same hq hs => rw [hq, hs]; exact ⟨Nat.le_refl _, Nat.le_refl _, Nat.le_refl _⟩
  | accepted m hq hs => rw [hq, hs]; simp
  | dropped hp hq hs => rw [hq, hs, Chan.pop?_hist hp, Chan.pop?_length hp]; simp
  | handedOver hp hq _ _ hs => rw [hq, hs, Chan.pop?_hist hp, Chan.pop?_length hp]; simp
  | connected hq hs => rw [hq, hs]; simp
  | beat hq _ hs => rw [hq, hs]; simp

theorem Moved.hist (h : Moved s t) : s.toSocket.hist <+: t.toSocket.hist := by
  cases h with
  | same hq | connected hq | beat hq => rw [hq]
  | accepted m hq => rw [hq, Chan.push_hist]; exact List.prefix_append ..
  | dropped hp hq | handedOver hp hq => rw [hq, Chan.pop?_hist hp]

/-! ## The blocks of the connections -/

structure Numbered (s : ClientActor C) : Prop where
  numbers : ∀ (n : Nat) (m : InMessage), s.toSocket.hist[n]? = some m → m.signal = some (.handle n)
  sources : ∀ (k : Nat) (l : List InRawMessage), s.sinks[k]? = some l → ∀ r ∈ l, ∀ n, r.number = some n →
    ∃ m, s.toSocket.hist[n]? = some m ∧ r = m.toRaw

theorem toRaw_number {m : InMessage} {n : Nat} (h : m.signal = some (.handle n)) : m.toRaw.number = some n := by
  simp only [InRawMessage.number, InMessage.toRaw, h]

theorem create_numbered (config : ClientConfig) : Numbered (create config : ClientActor C) :=
  ⟨fun n m h => by simp [create] at h, fun k l h => by simp [sinks, create] at h⟩

theorem Numbered.keep (g : Numbered s) (hq : t.toSocket.hist = s.toSocket.hist)
    (hs : ∀ (k : Nat) (l : List InRawMessage), t.sinks[k]? = some l → ∀ r ∈ l, ∀ n, r.number = some n →
      ∃ m, s.toSocket.hist[n]? = some m ∧ r = m.toRaw) : Numbered t := by
  refine ⟨?_, ?_⟩
  · rw [hq]; exact g.numbers
  · rw [hq]; exact hs

theorem Numbered.step (g : Numbered s) (h : Moved s t) : Numbered t := by
  cases h with
  | same hq hs => exact g.keep (by rw [hq]) (by rw [hs]; exact g.sources)
  | accepted m hq hs =>
    refine ⟨?_, ?_⟩
    · rw [hq, Chan.push_hist]
      exact List.forall_append_one (P := fun n (m : InMessage) => m.signal = some (.handle n)) rfl g.numbers
    · rw [hs, hq, Chan.push_hist]
      intro k l hl r hr n hn
      obtain ⟨m, hm, he⟩ := g.sources k l hl r hr n hn
      refine ⟨m, ?_, he⟩
      rw [List.getElem?_append_left (List.getElem?_eq_some_iff.mp hm).1]; exact hm
  | dropped hp hq hs => exact g.keep (by rw [hq, Chan.pop?_hist hp]) (by rw [hs]; exact g.sources)
  | @handedOver m c l hp hq ho hl hs =>
    have hm := Chan.pop?_getElem hp
    refine g.keep (by rw [hq, Chan.pop?_hist hp]) ?_
    rw [hs]
    refine List.forall_set hl ?_ (fun k l _ hl => g.sources k l hl)
    intro r hr n hn
    rcases List.mem_append.mp hr with hr | hr
    · exact g.sources _ l hl r hr n hn
    · rw [List.mem_singleton.mp hr] at hn ⊢
      rw [toRaw_number (g.numbers _ m hm)] at hn
      cases hn
      exact ⟨m, hm, rfl⟩
  | connected hq hs =>
    apply g.keep (by rw [hq])
    rw [hs]
    exact List.forall_append_one (fun r hr => by cases hr) g.sources
  | @beat k x l hq hx hs hb =>
    apply g.keep (by rw [hq])
    rw [hs]
    refine List.forall_set (sinks_get hx) ?_ (fun k l _ hl => g.sources k l hl)
    intro r hr n hn
    rcases List.mem_append.mp hr with hr | hr
    · exact g.sources k _ (sinks_get hx) r hr n hn
    · rw [(hb r hr).number] at hn; cases hn

structure Handing (s : ClientActor C) (b : Blocks) : Prop where
  cursor : b.cursor = s.toSocket.got.length
  handed : s.handed = b.cuts.map Block.indices
  last : s.SinkOpen → ∃ cs a, b.Last cs a

theorem create_handing (config : ClientConfig) : Handing (create config : ClientActor C) .empty :=
  ⟨rfl, rfl, fun h => by cases h.1⟩

theorem handedOver_handed {m : InMessage} {l : List InRawMessage} {n : Nat} {cs : List Block} {a : Nat}
    (hs : s.handed = (cs ++ [Block.mk a n]).map Block.indices) (ha : a ≤ n) (hm : m.toRaw.number = some n)
    (hl : s.sinks[s.conn]? = some l) (ht : t.sinks = s.sinks.set s.conn (l ++ [m.toRaw])) :
    t.handed = (cs ++ [Block.mk a (n + 1)]).map Block.indices := by
  have hlen : s.conn = cs.length := by
    have := congrArg List.length hs
    simp only [handed, List.length_map, List.length_append, List.length_singleton] at this
    unfold conn; omega
  have hold : l.filterMap InRawMessage.number = (Block.mk a n).indices := by
    have h : s.handed[cs.length]? = some (l.filterMap InRawMessage.number) := by
      rw [handed_sinks, List.getElem?_map, ← hlen, hl]; rfl
    rw [hs] at h
    simpa using h.symm
  have hnew : (l ++ [m.toRaw]).filterMap InRawMessage.number = (Block.mk a (n + 1)).indices := by
    rw [List.filterMap_append, hold, Block.indices_succ ha]
    simp [hm]
  rw [handed_sinks, ht, List.map_set, ← handed_sinks, hs, hlen, hnew]
  simp

theorem Handing.step {b : Blocks} (g : Handing s b) (hn : Numbered s) (h : Moved s t) : ∃ b', Handing t b' := by
  cases h with
  | same hq hs ho => exact ⟨b, by rw [hq]; exact g.cursor, by rw [handed_sinks, hs, ← handed_sinks]; exact g.handed,
      fun h => g.last (ho h)⟩
  | accepted m hq hs ho => exact ⟨b, by rw [hq]; exact g.cursor,
      by rw [handed_sinks, hs, ← handed_sinks]; exact g.handed, fun h => g.last (ho h)⟩
  | dropped hp hq hs ho =>
    refine ⟨b.skip, ?_, by rw [handed_sinks, hs, ← handed_sinks]; exact g.handed, fun h => absurd h ho⟩
    rw [hq, Chan.pop?_length hp, ← g.cursor]; rfl
  | @handedOver m c l hp hq ho hl hs =>
    obtain ⟨cs, a, hb⟩ := g.last ho
    have hm := toRaw_number (hn.numbers _ m (Chan.pop?_getElem hp))
    rw [← g.cursor] at hm
    refine ⟨b.extend hb, ?_, ?_, fun _ => ⟨cs, a, b.extend_last hb⟩⟩
    · rw [hq, Chan.pop?_length hp, ← g.cursor]; rfl
    · have hh := g.handed
      rw [hb] at hh
      exact handedOver_handed hh hb.start_le hm hl hs
  | connected hq hs =>
    refine ⟨b.append, by rw [hq]; exact g.cursor, ?_, fun _ => ⟨_, _, b.append_last⟩⟩
    rw [handed_sinks, hs, List.map_append, ← handed_sinks, g.handed, Blocks.append, List.map_append]
    simp [Block.indices_empty]
  | @beat k x l hq hx hs hb ho =>
    refine ⟨b, by rw [hq]; exact g.cursor, ?_, fun h => g.last (ho h)⟩
    have hnone : l.filterMap InRawMessage.number = [] := List.filterMap_eq_nil_iff.mpr fun m hm => (hb m hm).number
    rw [handed_sinks, hs, List.map_set_of (sinks_get hx), ← handed_sinks]
    · exact g.handed
    · rw [List.filterMap_append, hnone, List.append_nil]

/-- The client's connections are handed consecutive blocks of the handle's messages. -/
theorem reach_handing {config : ClientConfig} (h : Lts.Reach step (create config : ClientActor C) s) :
    Numbered s ∧ ∃ b, Handing s b :=
  Lts.reach_inv (I := fun s => Numbered s ∧ ∃ b, Handing s b)
    ⟨create_numbered config, .empty, create_handing config⟩
    (fun _ _ _ _ ⟨hn, _, hb⟩ hs => ⟨hn.step (step_moved hs), hb.step hn (step_moved hs)⟩) h

end ClientActor

end Ezsockets
