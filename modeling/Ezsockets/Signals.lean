import Ezsockets.Owner
import Ezsockets.Supervision

/-!
# The signals in a socket

A signal moves with its message: from the queue to the message that is being
sent, and from there into `writes` when it is set. `custody` lists the
signals that a socket has, wherever they are, and nothing a task or the owner
does makes one of them come or go (`step_custody`, `Used.custody`), but for
those of the messages that are put in. `Told` ties what has been written to
what the sink's sends have returned.
-/

namespace Ezsockets

@[simp] theorem InRawMessage.setSignal_fst (m : InRawMessage) (state : MessageStatus) :
    (m.setSignal state).map Prod.fst = m.signal.toList := by
  unfold setSignal
  cases m.signal <;> rfl

theorem InRawMessage.setSignal_snd {m : InRawMessage} {state : MessageStatus} {w : Signal × MessageStatus}
    (h : w ∈ m.setSignal state) : w.2 = state ∧ m.signal = some w.1 := by
  unfold setSignal at h
  cases hs : m.signal with
  | none => simp [hs] at h
  | some signal =>
    simp only [hs, Option.toList, List.map_cons, List.map_nil, List.mem_singleton] at h
    rw [h]; simp

def signals (queue : List InRawMessage) : List Signal := queue.filterMap (·.signal)

theorem signals_cons (m : InRawMessage) (q : List InRawMessage) :
    signals (m :: q) = m.signal.toList ++ signals q := by
  unfold signals
  cases h : m.signal <;> simp [h]

theorem signals_append (q : List InRawMessage) (m : InRawMessage) :
    signals (q ++ [m]) = signals q ++ m.signal.toList := by
  unfold signals
  cases h : m.signal <;> simp [h]

theorem flatMap_setSignal_fst (q : List InRawMessage) (state : MessageStatus) :
    (q.flatMap (·.setSignal state)).map Prod.fst = signals q := by
  induction q with
  | nil => rfl
  | cons m q ih => rw [List.flatMap_cons, List.map_append, ih, InRawMessage.setSignal_fst, signals_cons]

/-- To what has been written, `w` adds only failures. -/
def Writes.Failing (v w : Writes) : Prop := ∃ l, w = v ++ l ∧ ∀ x ∈ l, x.2 = .failed

theorem Writes.Failing.refl (v : Writes) : Failing v v := ⟨[], by simp, by simp⟩

theorem Writes.Failing.trans {u v w : Writes} (h : Failing u v) (h' : Failing v w) : Failing u w := by
  obtain ⟨l, rfl, hl⟩ := h
  obtain ⟨k, rfl, hk⟩ := h'
  refine ⟨l ++ k, by rw [List.append_assoc], ?_⟩
  intro x hx
  rcases List.mem_append.mp hx with hx | hx
  · exact hl x hx
  · exact hk x hx

theorem Writes.Failing.sent {v w : Writes} (h : Failing v w) (signal : Signal) :
    (signal, .sent) ∈ w ↔ (signal, .sent) ∈ v := by
  obtain ⟨l, rfl, hl⟩ := h
  rw [List.mem_append]
  apply or_iff_left
  intro hs
  cases hl _ hs

theorem Writes.Failing.append (v : Writes) (m : InRawMessage) : Failing v (v ++ m.setSignal .failed) :=
  ⟨_, rfl, fun _ hx => (InRawMessage.setSignal_snd hx).1⟩

namespace Socket

variable {s t : Socket}

def inFlight (s : Socket) : List Signal :=
  match s.sink with
  | .sending _ signal => signal.toList
  | _ => []

def custody (s : Socket) : List Signal :=
  (if s.freed then [] else signals s.toSink.queue) ++ s.inFlight ++ s.writes.map Prod.fst

/-- How often the socket has the signal of the handle's `n`th message. -/
def holds (s : Socket) (n : Nat) : Nat := s.custody.count (.handle n)

/-- The queue of a sink that has ended goes with the last sender. -/
def Freed (s : Socket) : Prop := s.freed = true ↔ s.sink.isClosed = true ∧ s.sinkSenders = 0

theorem new_freed (config : SocketConfig) : Freed (new config) := by simp [Freed, new, SinkTask.isClosed]

theorem free_freed (h : s.freed = true → s.sink.isClosed = true ∧ s.sinkSenders = 0) : Freed s.free := by
  unfold Freed free
  split
  · rename_i hc
    simp only [Bool.and_eq_true, beq_iff_eq] at hc
    exact iff_of_true rfl hc.1
  · rename_i hc
    simp only [Bool.and_eq_true, beq_iff_eq, Bool.not_eq_true', not_and, Bool.not_eq_false] at hc
    exact ⟨h, fun hn => hc hn⟩

theorem Freed.open (g : Freed s) (h : s.sink.isClosed = false) : s.freed = false := by
  apply Bool.eq_false_iff.mpr
  intro hf
  cases h.symm.trans (g.mp hf).1

theorem Freed.keep (g : Freed s) (hf : t.freed = s.freed) (hc : t.sink.isClosed = s.sink.isClosed)
    (hn : t.sinkSenders = s.sinkSenders) : Freed t := by
  unfold Freed
  rw [hf, hc, hn]; exact g

theorem step_freed {a : SocketAct} (g : Freed s) (h : s.step a = some t) : Freed t := by
  cases step_cases h with
  | sinkRecvNone hs | sinkRecv hs | sinkSent hs => exact g.keep rfl (by simp [hs, SinkTask.isClosed]) rfl
  | sinkRecvClosed hs | sinkFailed _ hs | sinkAborted hs | sinkPanic hs =>
    apply free_freed
    intro hf
    cases (g.open (by rw [hs]; rfl)).symm.trans hf
  | streamNext item _ => rw [forward_frame]; exact g.keep rfl rfl rfl
  | streamEnd | streamPanic => exact g.keep rfl rfl rfl
  | heartbeat _ he => rw [handleHeartbeat_frame he]; exact g.keep rfl rfl rfl
  | heartbeatEnd hb he =>
    apply free_freed
    rw [handleHeartbeat_frame he]
    intro hf
    have hn := (g.mp hf).2
    simp [sinkSenders, hb] at hn
  | heartbeatAborted hb =>
    apply free_freed
    intro hf
    have hn := (g.mp hf).2
    simp [sinkSenders, hb] at hn
  | supervise h => rw [supervise_frame h]; exact g.keep rfl rfl rfl

theorem Used.freed (h : s.Used t) (g : Freed s) : Freed t := by
  induction h with
  | refl => exact g
  | send x m =>
    have hs : x.send m = x.sendRaw m.toRaw := rfl
    rw [hs, sendRaw_frame]; exact g.keep rfl rfl rfl
  | recv hr => rw [recv_frame hr]; exact g.keep rfl rfl rfl
  | awaitSinkClose hr => rw [awaitSinkClose_frame hr]; exact g.keep rfl rfl rfl
  | drop x =>
    apply free_freed
    intro hf
    obtain ⟨hc, hn⟩ := g.mp hf
    refine ⟨hc, ?_⟩
    simp only [sinkSenders] at *
    split at hn <;> simp_all
  | trans _ _ ih ih' => exact ih' (ih g)

/-! ## Nothing comes or goes -/

theorem holds_eq (s : Socket) (n : Nat) : s.holds n =
    (if s.freed then [] else signals s.toSink.queue).count (.handle n) + s.inFlight.count (.handle n) +
      (s.writes.map Prod.fst).count (.handle n) := by
  simp only [holds, custody, List.count_append]

theorem free_holds (s : Socket) (n : Nat) : s.free.holds n = s.holds n := by
  unfold free
  split
  · rename_i hc
    simp only [Bool.and_eq_true, Bool.not_eq_true'] at hc
    simp only [holds_eq, hc.2, inFlight, List.map_append, List.count_append, flatMap_setSignal_fst, if_true,
      Bool.false_eq_true, if_false, List.count_nil]
    omega
  · rfl

theorem sendRaw_holds (g : Freed s) (m : InRawMessage) (n : Nat) :
    (s.sendRaw m).1.holds n = s.holds n + m.signal.toList.count (.handle n) := by
  cases hc : s.sink.isClosed with
  | true =>
    rw [sendRaw_closed m hc]
    simp only [holds_eq, inFlight, List.map_append, List.count_append, InRawMessage.setSignal_fst]
    omega
  | false =>
    rw [sendRaw_open m hc]
    simp only [holds_eq, inFlight, g.open hc, Chan.push_queue, signals_append, Bool.false_eq_true, if_false,
      List.count_append]
    omega

theorem Beat.holds {m : InRawMessage} (h : s.Beat m) (n : Nat) : m.signal.toList.count (.handle n) = 0 := by
  rcases h with rfl | ⟨timestamp, rfl⟩ <;> rfl

theorem handleHeartbeat_holds {elapsed timestamp : Nat} {u : Socket} {o : Option Nat} (g : Freed s)
    (h : s.handleHeartbeatSleepElapsed elapsed timestamp = (u, o)) (n : Nat) : u.holds n = s.holds n := by
  rcases handleHeartbeat_cases h with rfl | ⟨m, hm, rfl⟩
  · rfl
  · rw [sendRaw_holds g, hm.holds, Nat.add_zero]

theorem set_holds {raw : RawMessage} {signal : Option Signal} {sink : SinkTask} (hs : s.sink = .sending raw signal)
    (h : ∀ m o, sink ≠ .sending m o) (state : MessageStatus) (n : Nat) :
    ({ s with sink := sink, writes := s.writes ++ InRawMessage.setSignal ⟨none, signal⟩ state } : Socket).holds n =
      s.holds n := by
  have hin : ({ s with sink := sink } : Socket).inFlight = [] := by
    unfold inFlight
    cases sink with
    | sending m o => exact absurd rfl (h m o)
    | _ => rfl
  have hout : s.inFlight = signal.toList := by
    unfold inFlight
    rw [hs]
  simp only [holds_eq, hout, List.map_append, List.count_append, InRawMessage.setSignal_fst]
  rw [show ({ s with
    sink := sink, writes := s.writes ++ InRawMessage.setSignal ⟨none, signal⟩ state } : Socket).inFlight =
    [] from hin]
  simp only [List.count_nil]
  omega

theorem step_holds {a : SocketAct} (g : Freed s) (h : s.step a = some t) (n : Nat) : t.holds n = s.holds n := by
  have idle : s.sink = .running → s.inFlight = [] := by
    intro hs
    unfold inFlight
    rw [hs]
  cases step_cases h with
  | sinkRecvNone hs hp hm =>
    have hf : s.freed = false := g.open (by rw [hs]; rfl)
    simp only [holds_eq, hf, (Chan.pop?_some.mp hp).1, signals_cons, List.map_append, InRawMessage.setSignal_fst,
      Bool.false_eq_true, if_false, List.count_append, inFlight]
    omega
  | sinkRecv hs hp hm =>
    have hf : s.freed = false := g.open (by rw [hs]; rfl)
    rw [holds_eq, holds_eq, idle hs]
    simp only [hf, (Chan.pop?_some.mp hp).1, signals_cons, Bool.false_eq_true, if_false,
      List.count_append, inFlight,
      List.count_nil]
    omega
  | sinkRecvClosed hs =>
    rw [free_holds]
    simp only [holds_eq, idle hs]; rfl
  | sinkSent hs => exact set_holds hs (by simp) .sent n
  | sinkFailed err hs =>
    rw [free_holds]
    exact set_holds hs (by simp) .failed n
  | sinkAborted hs =>
    rw [free_holds]
    simp only [holds_eq, idle hs]; rfl
  | sinkPanic hs =>
    rw [free_holds]
    exact set_holds hs (by simp) .failed n
  | streamNext item _ => rw [forward_frame]; rfl
  | streamEnd | streamPanic => rfl
  | heartbeat _ he => exact handleHeartbeat_holds g he n
  | heartbeatEnd _ he =>
    rw [free_holds]
    exact handleHeartbeat_holds g he n
  | heartbeatAborted => rw [free_holds]; rfl
  | supervise h => rw [supervise_frame h]; rfl

/-! ## What is written -/

theorem free_failing (s : Socket) : Writes.Failing s.writes s.free.writes := by
  unfold free
  split
  · refine ⟨_, rfl, ?_⟩
    intro x hx
    obtain ⟨m, -, hm⟩ := List.mem_flatMap.mp hx
    exact (InRawMessage.setSignal_snd hm).1
  · exact .refl _

theorem sendRaw_failing (s : Socket) (m : InRawMessage) : Writes.Failing s.writes (s.sendRaw m).1.writes := by
  cases hc : s.sink.isClosed with
  | true => rw [sendRaw_closed m hc]; exact .append _ m
  | false => rw [sendRaw_open m hc]; exact .refl _

theorem handleHeartbeat_failing {elapsed timestamp : Nat} {u : Socket} {o : Option Nat}
    (h : s.handleHeartbeatSleepElapsed elapsed timestamp = (u, o)) : Writes.Failing s.writes u.writes := by
  rcases handleHeartbeat_cases h with rfl | ⟨m, -, rfl⟩
  · exact .refl _
  · exact sendRaw_failing s m

theorem Used.failing (h : s.Used t) : Writes.Failing s.writes t.writes := by
  induction h with
  | refl x => exact .refl _
  | send x m => exact sendRaw_failing x m.toRaw
  | recv hr => rw [recv_frame hr]; exact .refl _
  | awaitSinkClose hr => rw [awaitSinkClose_frame hr]; exact .refl _
  | drop x => exact free_failing { x with owned := false }
  | trans _ _ ih ih' => exact ih.trans ih'

/-- A step writes failures, but where the sink's send has returned `Ok`. -/
theorem step_writes {a : SocketAct} (h : s.step a = some t) : Writes.Failing s.writes t.writes ∨
    ∃ raw signal, a = .sinkSend (.ok ()) ∧ s.sink = .sending raw signal ∧
      t.writes = s.writes ++ InRawMessage.setSignal ⟨none, signal⟩ .sent := by
  cases step_cases h with
  | sinkRecvNone _ _ _ => exact .inl (.append _ _)
  | sinkSent hs => exact .inr ⟨_, _, rfl, hs, rfl⟩
  | sinkFailed _ _ | sinkPanic _ => exact .inl ((Writes.Failing.append _ _).trans (free_failing _))
  | sinkRecvClosed | sinkAborted | heartbeatAborted => exact .inl (free_failing _)
  | streamNext item _ => rw [forward_frame]; exact .inl (.refl _)
  | heartbeat _ he =>
    left
    have hf := handleHeartbeat_failing he
    exact hf
  | heartbeatEnd _ he => exact .inl ((handleHeartbeat_failing he).trans (free_failing _))
  | supervise h => rw [supervise_frame h]; exact .inl (.refl _)
  | _ => exact .inl (.refl _)

/-! ## What the sink is given and what it answers -/

/-- The message that `SinkActor` gives to its sink in a step. -/
def passes (s : Socket) : SocketAct → Option InRawMessage
  | .sinkRecv =>
    match s.sink, s.toSink.queue with
    | .running, m :: _ => if m.message.isSome then some m else none
    | _, _ => none
  | _ => none

/-- The message for which the sink's send returns in a step, and what it returns. -/
def returns (s : Socket) : SocketAct → Option (InRawMessage × Except WSError Unit)
  | .sinkSend res =>
    match s.sink with
    | .sending message signal => some (⟨some message, signal⟩, res)
    | _ => none
  | _ => none

/-- The sends of `q` have all returned `Ok`. -/
def oks (q : List InRawMessage) : List (InRawMessage × Except WSError Unit) := q.map (·, .ok ())

/-- What the state of `SinkActor` says of the messages it has passed on and of the results. -/
def Passing (s : Socket) (p : List InRawMessage) (r : List (InRawMessage × Except WSError Unit)) : Prop :=
  match s.sink with
  | .running => r = oks p
  | .sending message signal => ∃ q, p = q ++ [⟨some message, signal⟩] ∧ r = oks q
  | .ended (.ok ()) => r = oks p ∧ (s.streaming = false ∨ s.toSink.queue = [])
  | .ended (.error err) => ∃ q m, p = q ++ [m] ∧ r = oks q ++ [(m, .error err)]
  | .crashed => ∃ q m, p = q ++ [m] ∧ r = oks q

structure Told (s : Socket) (p : List InRawMessage) (r : List (InRawMessage × Except WSError Unit)) : Prop where
  taken : p = s.toSink.got
  sent : ∀ signal, (signal, .sent) ∈ s.writes ↔ ∃ m, m.signal = some signal ∧ (m, .ok ()) ∈ r
  passing : s.Passing p r

/-- All messages that are queued have something to send. -/
def Whole (s : Socket) : Prop := ∀ m ∈ s.toSink.queue, m.message.isSome = true

theorem new_told (config : SocketConfig) : Told (new config) [] [] :=
  ⟨rfl, fun signal => by simp [new], rfl⟩

theorem oks_append (q : List InRawMessage) (m : InRawMessage) : oks (q ++ [m]) = oks q ++ [(m, .ok ())] := by
  simp [oks]

theorem Told.keep {p : List InRawMessage} {r : List (InRawMessage × Except WSError Unit)} (g : Told s p r)
    (ht : t.toSink.got = s.toSink.got) (hw : Writes.Failing s.writes t.writes) (hk : t.sink = s.sink)
    (hs : s.streaming = false → t.streaming = false)
    (hq : s.sink.isClosed = true → s.toSink.queue = [] → t.toSink.queue = []) : Told t p r := by
  refine ⟨g.taken.trans ht.symm, fun signal => (hw.sent signal).trans (g.sent signal), ?_⟩
  have hp := g.passing
  unfold Passing at *
  rw [hk]
  cases h : s.sink with
  | ended res =>
    cases res with
    | error err => simpa only [h] using hp
    | ok =>
      simp only [h] at hp
      exact ⟨hp.1, hp.2.imp hs (hq (by rw [h]; rfl))⟩
  | _ => simpa only [h] using hp

theorem sendRaw_told {p : List InRawMessage} {r : List (InRawMessage × Except WSError Unit)} (g : Told s p r)
    (m : InRawMessage) : Told (s.sendRaw m).1 p r := by
  apply g.keep (sendRaw_got s m) (sendRaw_failing s m)
  · rw [sendRaw_frame]
  · rw [sendRaw_frame]; exact fun h => h
  · intro hc hq
    rw [sendRaw_closed m hc]; exact hq

theorem handleHeartbeat_told {elapsed timestamp : Nat} {u : Socket} {o : Option Nat} {p : List InRawMessage}
    {r : List (InRawMessage × Except WSError Unit)} (g : Told s p r)
    (h : s.handleHeartbeatSleepElapsed elapsed timestamp = (u, o)) : Told u p r := by
  rcases handleHeartbeat_cases h with rfl | ⟨m, -, rfl⟩
  · exact g
  · exact sendRaw_told g m

theorem Used.told {p : List InRawMessage} {r : List (InRawMessage × Except WSError Unit)} (h : s.Used t)
    (g : Told s p r) : Told t p r := by
  induction h with
  | refl => exact g
  | send x m => exact sendRaw_told g m.toRaw
  | recv hr => rw [recv_frame hr]; exact g.keep rfl (.refl _) rfl (fun h => h) fun _ h => h
  | awaitSinkClose hr => rw [awaitSinkClose_frame hr]; exact g.keep rfl (.refl _) rfl (fun h => h) fun _ h => h
  | drop x => apply g.keep _ (Used.drop x).failing <;> simp [Socket.drop]
  | trans _ _ ih ih' => exact ih' (ih g)

/-- A message that has something to send is passed to the sink when it is taken. -/
theorem sinkRecv_told {m : InRawMessage} {c : Chan InRawMessage} {raw : RawMessage} {p : List InRawMessage}
    {r : List (InRawMessage × Except WSError Unit)} (g : Told s p r) (hs : s.sink = .running)
    (hp : s.toSink.pop? = some (m, c)) (hm : m.message = some raw) :
    s.passes .sinkRecv = some m ∧ Told { s with toSink := c, sink := .sending raw m.signal } (p ++ [m]) r := by
  obtain ⟨hq, hg⟩ := Chan.pop?_some.mp hp
  have heq : (⟨some raw, m.signal⟩ : InRawMessage) = m := by rw [← hm]
  have hr : r = oks p := by
    have hpass := g.passing
    unfold Passing at hpass
    simpa only [hs] using hpass
  refine ⟨by simp only [passes, hs, hq, hm]; rfl, ?_, g.sent, ?_⟩
  · rw [g.taken]; exact hg.symm
  · exact ⟨p, by rw [heq], hr⟩

theorem sinkSend_told {raw : RawMessage} {signal : Option Signal} {p : List InRawMessage}
    {r : List (InRawMessage × Except WSError Unit)} (g : Told s p r) (hs : s.sink = .sending raw signal)
    (res : Except WSError Unit) (h : s.step (.sinkSend res) = some t) :
    s.returns (.sinkSend res) = some (⟨some raw, signal⟩, res) ∧ Told t p (r ++ [(⟨some raw, signal⟩, res)]) := by
  refine ⟨by simp only [returns, hs], ?_⟩
  have hpass := g.passing
  unfold Passing at hpass
  simp only [hs] at hpass
  obtain ⟨q, rfl, rfl⟩ := hpass
  cases step_cases h with
  | sinkSent hs' =>
    cases hs.symm.trans hs'
    refine ⟨g.taken, ?_, (oks_append q _).symm⟩
    intro sg
    rw [List.mem_append, g.sent sg]
    constructor
    · rintro (⟨m, hm, hr⟩ | hw)
      · exact ⟨m, hm, List.mem_append_left _ hr⟩
      · exact ⟨⟨some raw, signal⟩, (InRawMessage.setSignal_snd hw).2, by simp⟩
    · rintro ⟨m, hm, hr⟩
      rcases List.mem_append.mp hr with hr | hr
      · exact .inl ⟨m, hm, hr⟩
      · right
        cases List.mem_singleton.mp hr
        have hm : signal = some sg := hm
        simp [InRawMessage.setSignal, hm]
  | sinkFailed err hs' =>
    cases hs.symm.trans hs'
    refine ⟨by simpa using g.taken, ?_, ?_⟩
    · intro sg
      rw [((Writes.Failing.append _ _).trans (free_failing _)).sent sg, g.sent sg]
      constructor
      · rintro ⟨m, hm, hr⟩
        exact ⟨m, hm, List.mem_append_left _ hr⟩
      · rintro ⟨m, hm, hr⟩
        rcases List.mem_append.mp hr with hr | hr
        · exact ⟨m, hm, hr⟩
        · cases List.mem_singleton.mp hr
    · unfold Passing
      rw [free_sink]
      exact ⟨q, _, rfl, rfl⟩

/-- `SinkActor` ends when its channel is closed and empty, or when it is told to. -/
theorem sinkEnd_told {p : List InRawMessage} {r : List (InRawMessage × Except WSError Unit)} (g : Told s p r)
    (hs : s.sink = .running) (he : s.streaming = false ∨ s.toSink.queue = []) :
    Told (free { s with sink := .ended (.ok ()) }) p r := by
  refine ⟨by simpa using g.taken, fun sg => ((free_failing _).sent sg).trans (g.sent sg), ?_⟩
  have hpass := g.passing
  unfold Passing at *
  simp only [hs] at hpass
  rw [free_sink]
  refine ⟨hpass, ?_⟩
  rw [free_streaming, free_toSink]
  exact he

theorem step_told {a : SocketAct} {p : List InRawMessage} {r : List (InRawMessage × Except WSError Unit)}
    (hw : Whole s) (hv : Supervised s) (g : Told s p r) (h : s.step a = some t) :
    Told t (p ++ (s.passes a).toList) (r ++ (s.returns a).toList) := by
  have other : Told t p r → s.passes a = none → s.returns a = none →
      Told t (p ++ (s.passes a).toList) (r ++ (s.returns a).toList) := by
    intro ht hp hr
    rw [hp, hr]
    simpa using ht
  have hfail := step_writes h
  cases step_cases h with
  | sinkRecvNone hs hp hm =>
    have := hw _ (by rw [(Chan.pop?_some.mp hp).1]; exact List.mem_cons_self)
    rw [hm] at this; cases this
  | sinkRecv hs hp hm =>
    obtain ⟨hpass, ht⟩ := sinkRecv_told g hs hp hm
    rw [hpass]
    simpa [returns] using ht
  | sinkSent hs | sinkFailed _ hs =>
    obtain ⟨hret, ht⟩ := sinkSend_told g hs _ h
    rw [hret]
    simpa [passes] using ht
  | sinkRecvClosed hs hq => exact other (sinkEnd_told g hs (.inr hq)) rfl rfl
  | sinkAborted hs ha => exact other (sinkEnd_told g hs (.inl (hv.aborted ha))) rfl rfl
  | sinkPanic hs =>
    apply other _ rfl rfl
    refine ⟨by simpa using g.taken, fun sg => ?_, ?_⟩
    · rw [((Writes.Failing.append _ _).trans (free_failing _)).sent sg, g.sent sg]
    · have hpass := g.passing
      unfold Passing at *
      simp only [hs] at hpass
      obtain ⟨q, hq, hr⟩ := hpass
      rw [free_sink]
      exact ⟨q, _, hq, hr⟩
  | streamNext item hs =>
    apply other _ rfl rfl
    rw [forward_frame]
    refine g.keep rfl (.refl _) rfl (fun hn => ?_) fun _ h => h
    cases hs.symm.trans hn
  | streamEnd hs | streamPanic hs => exact other (g.keep rfl (.refl _) rfl (fun _ => rfl) fun _ h => h) rfl rfl
  | heartbeat _ he =>
    have ht := handleHeartbeat_told g he
    exact other ⟨ht.taken, ht.sent, ht.passing⟩ rfl rfl
  | heartbeatEnd _ he =>
    apply other _ rfl rfl
    exact (handleHeartbeat_told g he).keep (by simp) (free_failing _) (by simp) (by simp) (by simp)
  | heartbeatAborted =>
    apply other _ rfl rfl
    exact g.keep (by simp) (free_failing _) (by simp) (by simp) (by simp)
  | supervise hsup =>
    apply other _ rfl rfl
    rw [supervise_frame hsup]; exact g.keep rfl (.refl _) rfl (fun h => h) fun _ h => h

/-! ## What follows for one connection -/

theorem oks_getElem {q : List InRawMessage} {i : Nat} {m : InRawMessage} (h : q[i]? = some m) :
    (oks q)[i]? = some (m, .ok ()) := by
  rw [oks, List.getElem?_map, h]; rfl

/-- The messages are passed on in the order in which they were enqueued. -/
theorem Told.in_order {p : List InRawMessage} {r : List (InRawMessage × Except WSError Unit)} (g : Told s p r) :
    p <+: s.toSink.hist := by
  rw [g.taken]
  exact s.toSink.got_hist

theorem Told.results {p : List InRawMessage} {r : List (InRawMessage × Except WSError Unit)} (g : Told s p r) :
    r.map Prod.fst <+: p := by
  have hmap : ∀ q : List InRawMessage, (oks q).map Prod.fst = q := by
    intro q
    rw [oks, List.map_map]; exact List.map_id q
  have hpass := g.passing
  unfold Passing at hpass
  split at hpass
  · rw [hpass, hmap]
  · obtain ⟨q, rfl, rfl⟩ := hpass
    rw [hmap]; exact List.prefix_append ..
  · rw [hpass.1, hmap]
  · obtain ⟨q, m, rfl, rfl⟩ := hpass
    rw [List.map_append, hmap]; exact List.prefix_rfl
  · obtain ⟨q, m, rfl, rfl⟩ := hpass
    rw [hmap]; exact List.prefix_append ..

theorem oks_no_error {q : List InRawMessage} {i : Nat} {m : InRawMessage} {err : WSError} :
    (oks q)[i]? ≠ some (m, .error err) := by
  intro h
  rw [oks, List.getElem?_map] at h
  obtain ⟨_, _, he⟩ := Option.map_eq_some_iff.mp h
  cases he

theorem Told.last_failed {p : List InRawMessage} {r : List (InRawMessage × Except WSError Unit)} (g : Told s p r)
    {i : Nat} {m : InRawMessage} {err : WSError} (h : r[i]? = some (m, .error err)) : p.length = i + 1 := by
  have hpass := g.passing
  unfold Passing at hpass
  split at hpass
  · rw [hpass] at h; exact absurd h oks_no_error
  · obtain ⟨q, rfl, rfl⟩ := hpass
    exact absurd h oks_no_error
  · rw [hpass.1] at h; exact absurd h oks_no_error
  · obtain ⟨q, n, rfl, rfl⟩ := hpass
    have hlen : (oks q).length = q.length := List.length_map _
    by_cases hi : i < q.length
    · rw [List.getElem?_append_left (by omega)] at h
      exact absurd h oks_no_error
    · have hlt := (List.getElem?_eq_some_iff.mp h).1
      simp only [List.length_append, List.length_singleton] at *
      omega
  · obtain ⟨q, n, rfl, rfl⟩ := hpass
    exact absurd h oks_no_error

/-- A message for which no send has returned `Ok` when the sink is over: its own send or an earlier one has failed,
or the stream has ended, or the sink has panicked. -/
theorem Told.discarded {p : List InRawMessage} {r : List (InRawMessage × Except WSError Unit)} (g : Told s p r)
    (hc : s.sink.isClosed = true) {i : Nat} {m : InRawMessage} (hm : s.toSink.hist[i]? = some m)
    (hr : r[i]? ≠ some (m, .ok ())) :
    (∃ j n err, j ≤ i ∧ r[j]? = some (n, .error err)) ∨ s.streaming = false ∨ s.sink = .crashed := by
  obtain ⟨l, hl⟩ := g.in_order
  have hp : i < p.length → p[i]? = some m := by
    intro hi
    rw [← hl, List.getElem?_append_left hi] at hm; exact hm
  have hpass := g.passing
  unfold Passing at hpass
  cases hs : s.sink with
  | running | sending => rw [hs] at hc; cases hc
  | crashed => exact .inr (.inr rfl)
  | ended res =>
    simp only [hs] at hpass
    cases res with
    | ok =>
      obtain ⟨rfl, hstream | hq⟩ := hpass
      · exact .inr (.inl hstream)
      · exfalso
        apply hr
        apply oks_getElem
        rw [g.taken, ← Chan.hist_eq_got hq]; exact hm
    | error err =>
      obtain ⟨q, n, rfl, rfl⟩ := hpass
      have hlen : (oks q).length = q.length := List.length_map _
      refine .inl ⟨q.length, n, err, ?_, ?_⟩
      · by_cases hi : i < q.length
        · exfalso
          apply hr
          rw [List.getElem?_append_left (by omega)]
          apply oks_getElem
          have := hp (by simp; omega)
          rwa [List.getElem?_append_left hi] at this
        · omega
      · rw [List.getElem?_append_right (by omega), hlen, Nat.sub_self]; rfl

end Socket

end Ezsockets
