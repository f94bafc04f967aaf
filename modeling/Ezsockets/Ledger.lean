import Ezsockets.ListLemmas
import Ezsockets.Signals
import Mathlib.Logic.Relation

/-!
# The signals of a handle

`Ledger` is what a client and a session have in common as far as signals go:
the queue of the handle, what has been written beside the sockets, and the
sockets. `Ledger.Step` lists the ways in which it changes. A message is in
one place at a time (`Good.once`), so its signal is written once at most.
-/

namespace Ezsockets

/-- `dropped` says that what is queued has been dropped. -/
structure Ledger where
  queue : Chan InMessage
  dropped : Bool
  writes : Writes
  socks : List Socket

/-- The status of a signal that starts as `sending`. -/
def Writes.status (w : Writes) (signal : Signal) : MessageStatus := (w.lookup signal).getD .sending

theorem Writes.status_eq {w : Writes} {signal : Signal} {state : MessageStatus}
    (h : (w.map Prod.fst).count signal ≤ 1) (hm : (signal, state) ∈ w) : w.status signal = state := by
  induction w with
  | nil => cases hm
  | cons x w ih =>
    obtain ⟨sg, st⟩ := x
    unfold status at *
    by_cases hs : signal = sg
    · subst hs
      simp only [List.map_cons, List.count_cons_self] at h
      rcases List.mem_cons.mp hm with he | hm
      · cases he; simp
      · have := List.count_pos_iff.mpr (List.mem_map_of_mem (f := Prod.fst) hm)
        simp only at this
        omega
    · have hne : (signal == sg) = false := by simpa using hs
      rw [List.lookup_cons, hne]
      simp only [List.map_cons] at h
      rw [List.count_cons_of_ne (Ne.symm hs)] at h
      rcases List.mem_cons.mp hm with he | hm
      · cases he; exact absurd rfl hs
      · exact ih h hm

/-- A signal that nothing has been written to is still `sending`. -/
theorem Writes.status_none {w : Writes} {signal : Signal} (h : signal ∉ w.map Prod.fst) :
    w.status signal = .sending := by
  have hl : w.lookup signal = none := by
    rw [List.lookup_eq_none_iff]
    intro x hx
    have : signal ≠ x.1 := fun he => h (by rw [he]; exact List.mem_map_of_mem hx)
    simpa using this
  rw [status, hl]; rfl

namespace Socket

/-- What an owner does with its socket beside sending. -/
inductive Handled : Socket → Socket → Prop
  | recv {x y : Socket} {item : Option (Except WSError Message)} : x.recv = some (item, y) → Handled x y
  | awaitSinkClose {x y : Socket} {res : Except WSError Unit} : x.awaitSinkClose = some (res, y) → Handled x y
  | drop (x : Socket) : Handled x x.drop

theorem Handled.used {x y : Socket} (h : Handled x y) : x.Used y := by
  cases h with
  | recv h => exact .recv h
  | awaitSinkClose h => exact .awaitSinkClose h
  | drop => exact .drop x

theorem Handled.toSink {x y : Socket} (h : Handled x y) : y.toSink = x.toSink := by
  cases h with
  | recv h => rw [recv_frame h]
  | awaitSinkClose h => rw [awaitSinkClose_frame h]
  | drop => simp [Socket.drop]

theorem Handled.holds {x y : Socket} (h : Handled x y) (n : Nat) : y.holds n = x.holds n := by
  cases h with
  | recv h => rw [recv_frame h]; rfl
  | awaitSinkClose h => rw [awaitSinkClose_frame h]; rfl
  | drop => exact free_holds { x with owned := false } n

end Socket

namespace Ledger

variable {l r : Ledger}

inductive Step (l : Ledger) : Ledger → Prop
  | accept (m : Message) : l.dropped = false →
      Step l { l with queue := l.queue.push (.new m (.handle l.queue.hist.length)) }
  | discard {m c} : l.dropped = false → l.queue.pop? = some (m, c) →
      Step l { l with queue := c, writes := l.writes ++ m.drop }
  | hand {m c k x} : l.dropped = false → l.queue.pop? = some (m, c) → l.socks[k]? = some x →
      Step l { l with queue := c, socks := l.socks.set k (x.send m).1 }
  | handle {k x y} : l.socks[k]? = some x → x.Handled y → Step l { l with socks := l.socks.set k y }
  | task {k x y} (a : SocketAct) : l.socks[k]? = some x → x.step a = some y →
      Step l { l with socks := l.socks.set k y }
  | connect (config : SocketConfig) : Step l { l with socks := l.socks ++ [.new config] }
  | drop : l.dropped = false →
      Step l { l with dropped := true, writes := l.writes ++ l.queue.queue.flatMap InMessage.drop }

def written (l : Ledger) : Writes := l.writes ++ l.socks.flatMap (·.writes)

def status (l : Ledger) (n : Nat) : MessageStatus := l.written.status (.handle n)

/-- The signals of what is queued and has not been dropped. -/
def pending (l : Ledger) : List Signal := if l.dropped then [] else l.queue.queue.filterMap (·.signal)

/-- How often the signal of the `n`th message is in the queue, in a socket or written. -/
def holds (l : Ledger) (n : Nat) : Nat :=
  l.pending.count (.handle n) + (l.writes.map Prod.fst).count (.handle n) + (l.socks.map (·.holds n)).sum

/-- What a socket has of a handle's messages. -/
structure Has (queue : Chan InMessage) (x : Socket) : Prop where
  freed : x.Freed
  settled : ∀ w ∈ x.writes, w.2 ≠ .sending
  sources : ∀ m ∈ x.toSink.hist, m.message.isSome = true ∧
    ∀ n, m.signal = some (.handle n) → ∃ inmessage, queue.hist[n]? = some inmessage ∧ m = inmessage.toRaw

structure Good (l : Ledger) : Prop where
  numbers : ∀ (n : Nat) (m : InMessage), l.queue.hist[n]? = some m →
    m.signal = some (.handle n) ∧ m.message.isSome = true
  failed : ∀ w ∈ l.writes, w.2 = .failed
  socks : ∀ (k : Nat) (x : Socket), l.socks[k]? = some x → Has l.queue x
  once : ∀ n, l.holds n = if n < l.queue.hist.length then 1 else 0

/-! ## What the steps do with the signals -/

@[simp] theorem drop_fst (m : InMessage) : m.drop.map Prod.fst = m.signal.toList :=
  InRawMessage.setSignal_fst m.toRaw .failed

theorem drop_failed {m : InMessage} {w : Signal × MessageStatus} (h : w ∈ m.drop) : w.2 = .failed :=
  (InRawMessage.setSignal_snd h).1

theorem flatMap_drop_fst (q : List InMessage) :
    (q.flatMap InMessage.drop).map Prod.fst = q.filterMap (·.signal) := by
  induction q with
  | nil => rfl
  | cons m q ih =>
    rw [List.flatMap_cons, List.map_append, ih, drop_fst]
    cases h : m.signal <;> simp [h]

theorem pending_pop {m : InMessage} {c : Chan InMessage} (hd : l.dropped = false)
    (hp : l.queue.pop? = some (m, c)) : l.pending = m.signal.toList ++ c.queue.filterMap (·.signal) := by
  rw [pending, hd, (Chan.pop?_some.mp hp).1]
  cases h : m.signal <;> simp [h]

theorem set_holds {k : Nat} {x y : Socket} (hx : l.socks[k]? = some x) (n : Nat) :
    ((l.socks.set k y).map (·.holds n)).sum + x.holds n = (l.socks.map (·.holds n)).sum + y.holds n :=
  List.sum_map_set_of hx y (·.holds n)

theorem Good.freed (g : l.Good) {k : Nat} {x : Socket} (hx : l.socks[k]? = some x) : x.Freed :=
  (g.socks k x hx).freed

/-- The signals stay, and that of a message that is accepted is added. -/
theorem Step.holds (g : l.Good) (h : l.Step r) (n : Nat) :
    r.holds n + (if n < l.queue.hist.length then 1 else 0) =
      l.holds n + (if n < r.queue.hist.length then 1 else 0) := by
  cases h with
  | accept m hd =>
    have hpush : ({ l with queue := l.queue.push (.new m (.handle l.queue.hist.length)) } : Ledger).pending =
        l.pending ++ [.handle l.queue.hist.length] := by
      simp [pending, hd, InMessage.new]
    simp only [Ledger.holds, hpush, List.count_append, List.count_singleton, Chan.push_hist, List.length_append,
      List.length_singleton]
    by_cases hn : n = l.queue.hist.length
    · subst hn; simp; omega
    · have hne : (Signal.handle l.queue.hist.length == Signal.handle n) = false := by
        simpa using fun he => hn he.symm
      simp only [hne, Bool.false_eq_true, if_false]
      split <;> split <;> omega
  | @discard m c hd hp =>
    have hpend := pending_pop hd hp
    simp only [Ledger.holds, hpend, Chan.pop?_hist hp, List.map_append, List.count_append, drop_fst]
    simp only [pending, hd, Bool.false_eq_true, if_false]
    omega
  | @hand m c k x hd hp hx =>
    have hpend := pending_pop hd hp
    have hsum := set_holds (y := (x.send m).1) hx n
    have hsend : (x.send m).1.holds n = x.holds n + m.signal.toList.count (.handle n) :=
      Socket.sendRaw_holds (g.freed hx) m.toRaw n
    simp only [Ledger.holds, hpend, Chan.pop?_hist hp, List.count_append]
    simp only [pending, hd, Bool.false_eq_true, if_false]
    omega
  | @handle k x y hx hu =>
    have hsum := set_holds (y := y) hx n
    have hy := hu.holds n
    simp only [Ledger.holds, pending] at *
    omega
  | @task k x y a hx hs =>
    have hsum := set_holds (y := y) hx n
    have hy := Socket.step_holds (g.freed hx) hs n
    simp only [Ledger.holds, pending] at *
    omega
  | connect config =>
    have hnew : (Socket.new config).holds n = 0 := by
      simp [Socket.holds_eq, Socket.new, Socket.inFlight, signals]
    simp only [Ledger.holds, pending, List.map_append, List.sum_append, List.map_cons, List.map_nil, List.sum_cons,
      List.sum_nil, hnew]
    omega
  | drop hd =>
    simp only [Ledger.holds, pending, hd, List.map_append, List.count_append, flatMap_drop_fst, if_true,
      Bool.false_eq_true, if_false, List.count_nil]
    omega

theorem Step.hist (h : l.Step r) : l.queue.hist <+: r.queue.hist := by
  cases h with
  | accept m => rw [Chan.push_hist]; exact List.prefix_append ..
  | discard _ hp | hand _ hp => rw [Chan.pop?_hist hp]
  | _ => exact List.prefix_rfl

/-! ## What holds in every run -/

theorem Has.mono {q q' : Chan InMessage} {x : Socket} (g : Has q x) (h : q.hist <+: q'.hist) : Has q' x := by
  refine ⟨g.freed, g.settled, fun m hm => ?_⟩
  obtain ⟨hs, hn⟩ := g.sources m hm
  refine ⟨hs, fun n hsig => ?_⟩
  obtain ⟨i, hi, he⟩ := hn n hsig
  obtain ⟨l, hl⟩ := h
  refine ⟨i, ?_, he⟩
  rw [← hl, List.getElem?_append_left (List.getElem?_eq_some_iff.mp hi).1]; exact hi

theorem failing_settled {x y : Socket} (h : Writes.Failing x.writes y.writes) (g : ∀ w ∈ x.writes, w.2 ≠ .sending) :
    ∀ w ∈ y.writes, w.2 ≠ .sending := by
  obtain ⟨l, hl, hf⟩ := h
  intro w hw
  rw [hl] at hw
  rcases List.mem_append.mp hw with hw | hw
  · exact g w hw
  · rw [hf w hw]; decide

theorem Has.send {q : Chan InMessage} {x : Socket} (g : Has q x) {m : InMessage} {n : Nat}
    (hm : q.hist[n]? = some m) (hn : m.signal = some (.handle n)) (hs : m.message.isSome = true) :
    Has q (x.send m).1 := by
  refine ⟨(Socket.Used.send x m).freed g.freed, failing_settled (Socket.Used.send x m).failing g.settled, ?_⟩
  have hx : x.send m = x.sendRaw m.toRaw := rfl
  rw [hx]
  cases hc : x.sink.isClosed with
  | true => rw [Socket.sendRaw_closed _ hc]; exact g.sources
  | false =>
    rw [Socket.sendRaw_open _ hc]
    intro r hr
    rw [Chan.push_hist] at hr
    rcases List.mem_append.mp hr with hr | hr
    · exact g.sources r hr
    · rw [List.mem_singleton.mp hr]
      refine ⟨by simpa [InMessage.toRaw] using hs, fun k hk => ⟨m, ?_, rfl⟩⟩
      have hk : m.signal = some (.handle k) := hk
      rw [hn] at hk
      cases hk
      exact hm

theorem Has.handled {q : Chan InMessage} {x y : Socket} (g : Has q x) (h : x.Handled y) : Has q y := by
  refine ⟨h.used.freed g.freed, failing_settled h.used.failing g.settled, ?_⟩
  rw [h.toSink]; exact g.sources

theorem Has.task {q : Chan InMessage} {x y : Socket} {a : SocketAct} (g : Has q x) (h : x.step a = some y) :
    Has q y := by
  refine ⟨Socket.step_freed g.freed h, ?_, ?_⟩
  · rcases Socket.step_writes h with hf | ⟨raw, signal, -, -, hw⟩
    · exact failing_settled hf g.settled
    · intro w hmem
      rw [hw] at hmem
      rcases List.mem_append.mp hmem with hmem | hmem
      · exact g.settled w hmem
      · rw [(InRawMessage.setSignal_snd hmem).1]; decide
  · obtain ⟨l, hl, hb⟩ := Socket.step_adds h
    intro m hm
    rw [hl] at hm
    rcases List.mem_append.mp hm with hm | hm
    · exact g.sources m hm
    · rcases hb m hm with rfl | ⟨timestamp, rfl⟩
      · exact ⟨rfl, fun n hn => by cases hn⟩
      · exact ⟨rfl, fun n hn => by cases hn⟩

theorem Has.new (q : Chan InMessage) (config : SocketConfig) : Has q (.new config) :=
  ⟨Socket.new_freed config, fun _ hw => (by cases hw), fun _ hm => by cases hm⟩

theorem Step.good (g : l.Good) (h : l.Step r) : r.Good := by
  have hhist := h.hist
  have honce : ∀ n, r.holds n = if n < r.queue.hist.length then 1 else 0 := by
    intro n
    have := h.holds g n
    rw [g.once n] at this
    omega
  have old : ∀ (k : Nat) (x : Socket), l.socks[k]? = some x → Has r.queue x :=
    fun k x hx => (g.socks k x hx).mono hhist
  have updated : ∀ {k : Nat} {x y : Socket}, l.socks[k]? = some x → Has r.queue y →
      ∀ (j : Nat) (z : Socket), (l.socks.set k y)[j]? = some z → Has r.queue z := fun hx hy =>
    List.forall_set (P := fun _ z => Has r.queue z) hx hy fun j z _ hz => old j z hz
  cases h with
  | accept m =>
    refine ⟨?_, g.failed, old, honce⟩
    rw [Chan.push_hist]
    exact List.forall_append_one
      (P := fun n (m : InMessage) => m.signal = some (.handle n) ∧ m.message.isSome = true)
      ⟨rfl, rfl⟩ g.numbers
  | discard _ hp =>
    refine ⟨by rw [Chan.pop?_hist hp]; exact g.numbers, ?_, old, honce⟩
    intro w hw
    rcases List.mem_append.mp hw with hw | hw
    · exact g.failed w hw
    · exact drop_failed hw
  | hand _ hp hx =>
    refine ⟨by rw [Chan.pop?_hist hp]; exact g.numbers, g.failed, updated hx ?_, honce⟩
    have hm := Chan.pop?_getElem hp
    obtain ⟨hsig, hsome⟩ := g.numbers _ _ hm
    exact (old _ _ hx).send (by rw [Chan.pop?_hist hp]; exact hm) hsig hsome
  | handle hx hu => exact ⟨g.numbers, g.failed, updated hx ((old _ _ hx).handled hu), honce⟩
  | task a hx hs => exact ⟨g.numbers, g.failed, updated hx ((old _ _ hx).task hs), honce⟩
  | connect config =>
    exact ⟨g.numbers, g.failed, List.forall_append_one (P := fun _ z => Has l.queue z) (.new _ _) old, honce⟩
  | drop =>
    refine ⟨g.numbers, ?_, old, honce⟩
    intro w hw
    rcases List.mem_append.mp hw with hw | hw
    · exact g.failed w hw
    · obtain ⟨m, -, hm⟩ := List.mem_flatMap.mp hw
      exact drop_failed hm

/-! ## The status of a signal -/

theorem mem_written {w : Signal × MessageStatus} :
    w ∈ l.written ↔ w ∈ l.writes ∨ ∃ (k : Nat) (x : Socket), l.socks[k]? = some x ∧ w ∈ x.writes := by
  rw [written, List.mem_append, List.mem_flatMap]
  apply or_congr_right
  constructor
  · rintro ⟨x, hx, hw⟩
    obtain ⟨k, hk⟩ := List.getElem?_of_mem hx
    exact ⟨k, x, hk, hw⟩
  · rintro ⟨k, x, hk, hw⟩
    exact ⟨x, List.mem_of_getElem? hk, hw⟩

theorem Step.written (h : l.Step r) {w : Signal × MessageStatus} (hw : w ∈ l.written) : w ∈ r.written := by
  rw [mem_written] at *
  have updated : ∀ {k : Nat} {x y : Socket}, l.socks[k]? = some x → (∀ v ∈ x.writes, v ∈ y.writes) →
      (∃ (k : Nat) (x : Socket), l.socks[k]? = some x ∧ w ∈ x.writes) →
        ∃ (j : Nat) (z : Socket), (l.socks.set k y)[j]? = some z ∧ w ∈ z.writes := by
    rintro k x y hx hxy ⟨j, z, hz, hwz⟩
    by_cases hj : j = k
    · subst hj
      cases hx.symm.trans hz
      exact ⟨j, y, by rw [List.getElem?_set_of hx, if_pos rfl], hxy w hwz⟩
    · exact ⟨j, z, by rw [List.getElem?_set_of hx, if_neg hj]; exact hz, hwz⟩
  have failing : ∀ {x y : Socket}, Writes.Failing x.writes y.writes → ∀ v ∈ x.writes, v ∈ y.writes := by
    rintro x y ⟨l, hl, -⟩ v hv
    rw [hl]; exact List.mem_append_left _ hv
  cases h with
  | accept => exact hw
  | discard => exact hw.imp_left (List.mem_append_left _)
  | @hand m c k x _ _ hx => exact hw.imp_right (updated hx (failing (Socket.Used.send x m).failing))
  | handle hx hu => exact hw.imp_right (updated hx (failing hu.used.failing))
  | task a hx hs =>
    apply hw.imp_right (updated hx _)
    intro v hv
    rcases Socket.step_writes hs with hf | ⟨_, _, -, -, he⟩
    · exact failing hf v hv
    · rw [he]; exact List.mem_append_left _ hv
  | connect config =>
    apply hw.imp_right
    rintro ⟨k, x, hx, hwx⟩
    refine ⟨k, x, ?_, hwx⟩
    rw [List.getElem?_append_left (List.getElem?_eq_some_iff.mp hx).1]; exact hx
  | drop => exact hw.imp_left (List.mem_append_left _)

abbrev Steps : Ledger → Ledger → Prop := Relation.ReflTransGen Step

theorem Steps.good (h : Steps l r) (g : l.Good) : r.Good := by
  induction h with
  | refl => exact g
  | tail _ h ih => exact h.good ih

theorem Steps.written (h : Steps l r) {w : Signal × MessageStatus} (hw : w ∈ l.written) : w ∈ r.written := by
  induction h with
  | refl => exact hw
  | tail _ h ih => exact h.written ih

theorem written_le (l : Ledger) (n : Nat) : (l.written.map Prod.fst).count (.handle n) ≤ l.holds n := by
  have hsum : ∀ socks : List Socket, ((socks.flatMap (·.writes)).map Prod.fst).count (.handle n) ≤
      (socks.map (·.holds n)).sum := by
    intro socks
    induction socks with
    | nil => simp
    | cons x socks ih =>
      simp only [List.flatMap_cons, List.map_append, List.count_append, List.map_cons, List.sum_cons]
      have := x.holds_eq n
      omega
  have := hsum l.socks
  simp only [written, holds, List.map_append, List.count_append]
  omega

theorem Good.written_once (g : l.Good) (n : Nat) : (l.written.map Prod.fst).count (.handle n) ≤ 1 := by
  have := written_le l n
  rw [g.once n] at this
  split at this <;> omega

theorem Good.settled (g : l.Good) {w : Signal × MessageStatus} (h : w ∈ l.written) : w.2 ≠ .sending := by
  rcases mem_written.mp h with hw | ⟨k, x, hx, hw⟩
  · rw [g.failed w hw]; decide
  · exact (g.socks k x hx).settled w hw

/-- The status of a signal is what has been written to it, if anything has. -/
theorem Good.status_iff (g : l.Good) {n : Nat} {state : MessageStatus} (hs : state ≠ .sending) :
    l.status n = state ↔ (.handle n, state) ∈ l.written := by
  constructor
  · intro h
    by_cases hn : Signal.handle n ∈ l.written.map Prod.fst
    · obtain ⟨⟨sg, st⟩, hw, rfl⟩ := List.mem_map.mp hn
      have := Writes.status_eq (g.written_once n) hw
      rw [status, this] at h
      rw [← h]; exact hw
    · rw [status, Writes.status_none hn] at h
      exact absurd h.symm hs
  · intro h
    exact Writes.status_eq (g.written_once n) h

theorem Steps.status (h : Steps l r) (g : l.Good) {n : Nat} (hs : l.status n ≠ .sending) :
    r.status n = l.status n :=
  ((h.good g).status_iff hs).mpr (h.written ((g.status_iff hs).mp rfl))

/-- Only a sink reports a message as sent. -/
theorem Good.sent_iff (g : l.Good) (n : Nat) :
    l.status n = .sent ↔ ∃ (k : Nat) (x : Socket), l.socks[k]? = some x ∧ (.handle n, .sent) ∈ x.writes := by
  rw [g.status_iff (by decide), mem_written]
  apply or_iff_right
  intro h
  cases g.failed _ h

end Ledger

end Ezsockets
