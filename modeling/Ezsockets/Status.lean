import Ezsockets.Ledger
import Ezsockets.Relay

/-!
# The status of a message

The client and the session are read as ledgers; what their runs pass to the
sinks and what these answer is collected from the steps.
-/

namespace Ezsockets

variable {ID C : Type}

theorem Socket.Used.supervised {x y : Socket} (h : x.Used y) (g : x.Supervised) : y.Supervised := by
  induction h with
  | refl => exact g
  | send x m => exact (sendRaw_held x m.toRaw).supervised g
  | recv hr => exact (recv_held hr).supervised g
  | awaitSinkClose hr => exact awaitSinkClose_supervised g hr
  | drop x => exact (drop_held x).supervised g
  | trans _ _ ih ih' => exact ih' (ih g)

theorem Ledger.Has.whole {queue : Chan InMessage} {x : Socket} (g : Has queue x) : x.Whole := fun m hm =>
  (g.sources m (List.mem_append_right _ hm)).1

/-! ## A client -/

namespace ClientActor

variable {s t u : ClientActor C}

def ledger (s : ClientActor C) : Ledger := ⟨s.toSocket, s.freed, s.writes, s.socks⟩

/-- What was queued is dropped only when the actor is over and no `Client` is left. -/
def Spent (s : ClientActor C) : Prop := s.freed = true → s.isDone = true ∧ s.clients = false

theorem Spent.unfreed (g : s.Spent) (h : s.isDone = false) : s.freed = false := by
  apply Bool.eq_false_iff.mpr
  intro hf
  cases h.symm.trans (g hf).1

theorem free_ledger (u : ClientActor C) : Ledger.Steps u.ledger u.free.ledger := by
  unfold free
  split
  · rename_i hc
    simp only [Bool.and_eq_true, Bool.not_eq_true'] at hc
    exact .single (.drop hc.2)
  · exact .refl

theorem dropSocket_ledger (u : ClientActor C) : Ledger.Steps u.ledger u.dropSocket.ledger := by
  cases hx : u.socks[u.conn]? with
  | none =>
    have : u.dropSocket = u := by
      unfold dropSocket
      rw [List.modify_eq_self (List.getElem?_eq_none_iff.mp hx)]
    rw [this]
  | some x =>
    have : u.dropSocket.ledger = { u.ledger with socks := u.socks.set u.conn x.drop } := by
      unfold dropSocket ledger
      simp only [Ledger.mk.injEq, true_and]
      rw [List.modify_eq_set_getElem?, hx]; rfl
    rw [this]
    exact .single (.handle hx (.drop x))

theorem finish_ledger (u : ClientActor C) (res : Except Error Unit) : Ledger.Steps u.ledger (u.finish res).ledger :=
  (dropSocket_ledger u).trans (free_ledger { u.dropSocket with phase := .done res })

theorem free_spent (h : u.Spent) : u.free.Spent := by
  unfold free
  split
  · rename_i hc
    simp only [Bool.and_eq_true, Bool.not_eq_true'] at hc
    exact fun _ => hc.1
  · exact h

theorem finish_spent (res : Except Error Unit) (h : u.freed = false) : (u.finish res).Spent := by
  apply free_spent
  intro hf
  cases h.symm.trans hf

/-- A message of the queue is put into the sink of the current connection, or refused. -/
theorem hand_ledger {m : InMessage} {c : Chan InMessage} {x : Socket} (hf : s.freed = false)
    (hq : s.toSocket.pop? = some (m, c)) (hx : s.socks[s.conn]? = some x) :
    Ledger.Steps s.ledger ({ s with toSocket := c }.setSocket (x.send m).1).ledger := .single (.hand hf hq hx)

theorem handle_ledger {x y : Socket} (hx : s.socks[s.conn]? = some x) (h : x.Handled y) :
    Ledger.Steps s.ledger (s.setSocket y).ledger := .single (.handle hx h)

theorem send_ledger (g : s.Spent) (m : Message) : Ledger.Steps s.ledger (s.send m).ledger := by
  unfold send
  split
  · rename_i hc
    simp only [Bool.and_eq_true, Bool.not_eq_true'] at hc
    exact .single (.accept m (g.unfreed hc.2))
  · exact .refl

theorem step_ledger {a : ClientAct C} (g : s.Spent) (h : s.step a = some t) : Ledger.Steps s.ledger t.ledger := by
  have live : ∀ {p : ClientPhase}, s.phase = p → (∀ res, p ≠ .done res) → s.freed = false := fun hp hn =>
    g.unfreed (isDone_of_phase hp hn)
  cases step_cases h with
  | text m | binary m | close m => exact send_ledger g _
  | call c => unfold call; split <;> exact .refl
  | dropClients keep => exact free_ledger { s with clients := false, callSenders := keep }
  | dropCallSenders | drainEmpty | connected | connectFailed | retry | slept | closeSlept | takeCall | handlerOk =>
    exact .refl
  | @drainClose _ _ m c _ hp hq =>
    have hd : Ledger.Steps s.ledger
      ({ s with toSocket := c, writes := s.writes ++ m.drop } : ClientActor C).ledger :=
      .single (.discard (live hp (by simp)) hq)
    exact hd.trans (finish_ledger _ _)
  | drainMessage hp hq => exact .single (.discard (live hp (by simp)) hq)
  | drainDead | onConnectErr | exhausted | connectFailClose | connectFailErr | outgoingClosed | callsClosed
  | handlerErr | onCloseClose | onCloseErr | onDisconnectClose | onDisconnectErr | panic => exact finish_ledger s _
  | onConnectOk => exact .single (.connect _)
  | @handOver m c x hp hq hx hc =>
    have hs := hand_ledger (live hp (by simp)) hq hx
    rw [show x.send m = x.sendRaw m.toRaw from rfl, Socket.sendRaw_open _ hc] at hs
    exact hs
  | @handOverClose m c x frame hp hq hx hc =>
    have hs := hand_ledger (live hp (by simp)) hq hx
    rw [show x.send m = x.sendRaw m.toRaw from rfl, Socket.sendRaw_open _ hc] at hs
    exact hs.trans (finish_ledger _ _)
  | @sendFailed m c x hp hq hx hc =>
    have hs := hand_ledger (live hp (by simp)) hq hx
    rw [show x.send m = x.sendRaw m.toRaw from rfl, Socket.sendRaw_closed _ hc] at hs
    exact hs
  | incoming hp hx hr =>
    rw [handleIncomingMsg_frame]
    exact handle_ledger hx (.recv hr)
  | @sinkClosed x y res closedSelf hp hx hr =>
    have hs := handle_ledger hx (.awaitSinkClose hr)
    rcases sinkClosed_cases (s.setSocket y) closedSelf res with ⟨r, he⟩ | ⟨-, -, he⟩ | he
    · rw [he]; exact hs.trans (finish_ledger _ _)
    · rw [he]; exact hs
    · rw [he]; exact hs
  | onCloseReconnect | onDisconnectReconnect => exact dropSocket_ledger s
  | socket a hx hs => exact .single (.task a hx hs)

theorem step_spent {a : ClientAct C} (g : s.Spent) (h : s.step a = some t) : t.Spent := by
  have live : ∀ {p : ClientPhase}, s.phase = p → (∀ res, p ≠ .done res) → s.freed = false := fun hp hn =>
    g.unfreed (isDone_of_phase hp hn)
  have unfreed : ∀ {u : ClientActor C}, u.freed = false → u.Spent := by
    intro u hu hf
    cases hu.symm.trans hf
  cases step_cases h with
  | text m | binary m | close m => unfold send; split <;> exact g
  | call c => unfold call; split <;> exact g
  | dropClients keep hc =>
    apply free_spent
    intro hf
    exact ⟨(g hf).1, rfl⟩
  | dropCallSenders | socket => exact g
  | drainMessage hp | drainEmpty hp | connected hp | connectFailed _ hp | onConnectOk hp | retry hp | slept hp
  | closeSlept hp | handOver hp | sendFailed hp | takeCall hp | handlerOk hp | onCloseReconnect hp
  | onDisconnectReconnect hp => exact unfreed (live hp (by simp))
  | incoming hp =>
    rw [handleIncomingMsg_frame]
    exact unfreed (live hp (by simp))
  | drainClose hp | drainDead hp | onConnectErr _ hp | exhausted hp | connectFailClose hp | connectFailErr _ hp
  | handOverClose hp | outgoingClosed hp | callsClosed hp | handlerErr _ hp | onCloseClose hp | onCloseErr _ hp
  | onDisconnectClose hp | onDisconnectErr _ hp => exact finish_spent _ (live hp (by simp))
  | panic hp =>
    apply finish_spent
    apply g.unfreed
    unfold isDone
    cases hs : s.phase <;> first | rfl | (rw [hs] at hp; cases hp)
  | @sinkClosed x y res closedSelf hp =>
    have hf : (s.setSocket y).freed = false := live hp (by simp)
    rcases sinkClosed_cases (s.setSocket y) closedSelf res with ⟨r, he⟩ | ⟨-, -, he⟩ | he
    · rw [he]; exact finish_spent _ hf
    · rw [he]; exact unfreed hf
    · rw [he]; exact unfreed hf

theorem create_ledger (config : ClientConfig) : (create config : ClientActor C).ledger.Good := by
  refine ⟨?_, ?_, ?_, ?_⟩
  · intro n m h; simp [ledger, create] at h
  · intro w hw; cases hw
  · intro k x h; simp [ledger, create] at h
  · intro n; simp [Ledger.holds, Ledger.pending, ledger, create]

theorem steps_ledger {as : List (ClientAct C)} (g : s.Spent) (h : Lts.exec step s as = some t) :
    Ledger.Steps s.ledger t.ledger ∧ t.Spent :=
  Lts.reach_inv (I := fun t => Ledger.Steps s.ledger t.ledger ∧ t.Spent) ⟨.refl, g⟩
    (fun _ _ _ _ ⟨hl, hg⟩ h => ⟨hl.trans (step_ledger hg h), step_spent hg h⟩) ⟨as, h⟩

theorem create_spent (config : ClientConfig) : (create config : ClientActor C).Spent := fun h => by cases h

theorem run_ledger {config : ClientConfig} {as : List (ClientAct C)}
    (h : Lts.exec step (create config) as = some s) :
    s.ledger.Good ∧ s.Spent := by
  obtain ⟨hl, hs⟩ := steps_ledger (create_spent config) h
  exact ⟨hl.good (create_ledger config), hs⟩

/-! What the sink of connection `k` is given, and what it answers. -/

def passes (k : Nat) (s : ClientActor C) : ClientAct C → Option InRawMessage
  | .socket j a => if j = k then s.socks[k]?.bind (·.passes a) else none
  | _ => none

def returns (k : Nat) (s : ClientActor C) : ClientAct C → Option (InRawMessage × Except WSError Unit)
  | .socket j a => if j = k then s.socks[k]?.bind (·.returns a) else none
  | _ => none

/-- The messages that `SinkActor` has passed to the sink of connection `k`. -/
def given (k : Nat) (s : ClientActor C) (as : List (ClientAct C)) : List InRawMessage :=
  Lts.collect step (passes k) s as

/-- What the sends of connection `k` have returned. -/
def results (k : Nat) (s : ClientActor C) (as : List (ClientAct C)) : List (InRawMessage × Except WSError Unit) :=
  Lts.collect step (returns k) s as

theorem socks_supervised {config : ClientConfig} (h : Lts.Reach step (create config) s) {k : Nat} {x : Socket}
    (hx : s.socks[k]? = some x) : x.Supervised :=
  socks_inv (Socket.new_supervised _) (fun _ _ hu => hu.supervised) (fun _ _ _ => Socket.step_supervised) h k x hx

theorem run_told {config : ClientConfig} {as : List (ClientAct C)} (h : Lts.exec step (create config) as = some s) :
    ∀ (k : Nat), (s.socks[k]? = none → given k (create config) as = [] ∧ results k (create config) as = []) ∧
      ∀ x, s.socks[k]? = some x → x.Told (given k (create config) as) (results k (create config) as) := by
  intro k
  refine Lts.run_inv (I := fun as (s : ClientActor C) =>
    (s.socks[k]? = none → given k (create config) as = [] ∧ results k (create config) as = []) ∧
      ∀ x, s.socks[k]? = some x → x.Told (given k (create config) as) (results k (create config) as)) ?_ ?_ h
  · exact ⟨fun _ => ⟨rfl, rfl⟩, fun x hx => by simp [create] at hx⟩
  · rintro as s a t hs ⟨hnone, hsome⟩ hst
    have hg : given k (create config) (as ++ [a]) = given k (create config) as ++ (s.passes k a).toList :=
      Lts.collect_snoc hs hst
    have hr : results k (create config) (as ++ [a]) = results k (create config) as ++ (s.returns k a).toList :=
      Lts.collect_snoc hs hst
    rw [hg, hr]
    by_cases ha : ∃ b, a = .socket k b
    · obtain ⟨b, rfl⟩ := ha
      cases step_cases hst with
      | @socket _ x y _ hx hxy =>
        have hy : (s.socks.set k y)[k]? = some y := by rw [List.getElem?_set_of hx, if_pos rfl]
        refine ⟨fun hn => (by cases hy.symm.trans hn), fun z hz => ?_⟩
        cases hy.symm.trans hz
        have hw := Ledger.Has.whole ((run_ledger hs).1.socks k x hx)
        have ht := Socket.step_told hw (socks_supervised ⟨as, hs⟩ hx) (hsome x hx) hxy
        simpa [passes, returns, hx] using ht
    · have hp : s.passes k a = none ∧ s.returns k a = none := by
        cases a with
        | socket j b =>
          have hj : j ≠ k := fun he => ha ⟨b, by rw [he]⟩
          simp [passes, returns, hj]
        | _ => exact ⟨rfl, rfl⟩
      simp only [hp, Option.toList_none, List.append_nil]
      cases hx : s.socks[k]? with
      | none =>
        refine ⟨fun _ => hnone hx, fun y hy => ?_⟩
        obtain ⟨h₁, h₂⟩ := hnone hx
        rw [h₁, h₂, step_new hst hx hy]
        exact Socket.new_told _
      | some x =>
        obtain ⟨y, hy, hu⟩ := step_socket hst hx
        refine ⟨fun hn => (by cases hy.symm.trans hn), fun z hz => ?_⟩
        cases hy.symm.trans hz
        rcases hu with hu | ⟨b, hb, -⟩
        · exact hu.told (hsome x hx)
        · exact absurd ⟨b, hb⟩ ha

end ClientActor

/-! ## A session -/

namespace SessionActor

variable {s t u : SessionActor ID C}

def ledger (s : SessionActor ID C) : Ledger := ⟨s.toSocket, !s.live, s.writes, [s.socket]⟩

theorem finish_ledger (u : SessionActor ID C) (res : Option SessionResult) (h : u.live = true) :
    Ledger.Steps u.ledger (u.finish res).ledger := by
  have hdrop : Ledger.Step u.ledger { u.ledger with socks := [u.socket.drop] } :=
    .handle (k := 0) (x := u.socket) rfl (.drop u.socket)
  have hend : Ledger.Step { u.ledger with socks := [u.socket.drop] } (u.finish res).ledger := by
    have hd : ({ u.ledger with socks := [u.socket.drop] } : Ledger).dropped = false := by simp [ledger, h]
    exact .drop hd
  exact .tail (.single hdrop) hend

theorem step_ledger {a : SessionAct C} (h : s.step a = some t) : Ledger.Steps s.ledger t.ledger := by
  have same : ∀ {u : SessionActor ID C}, u.toSocket = s.toSocket → u.live = s.live → u.writes = s.writes →
      u.socket = s.socket → Ledger.Steps s.ledger u.ledger := by
    intro u hq hl hw hs
    unfold ledger
    rw [hq, hl, hw, hs]
  have handed : ∀ {m : InMessage} {c : Chan InMessage}, s.phase = .select → s.toSocket.pop? = some (m, c) →
      Ledger.Steps s.ledger
      ({ s with toSocket := c, socket := (s.socket.send m).1 } : SessionActor ID C).ledger := by
    intro m c hp hq
    exact .single (.hand (k := 0) (x := s.socket) (by simp [ledger, live, hp]) hq rfl)
  cases step_cases h with
  | text m | binary m | close m =>
    unfold send
    split
    · rename_i hl
      exact .single (.accept _ (by simp [ledger, hl]))
    · exact .refl
  | call c =>
    unfold call
    split <;> exact .refl
  | handOver hp hq => exact handed hp hq
  | handOverClose hp hq | sendFailed hp hq => exact (handed hp hq).trans (finish_ledger _ _ (by simp [live, hp]))
  | @incoming item y hp _ _ hr =>
    have hs : Ledger.Steps s.ledger ({ s with socket := y }).ledger :=
      .single (.handle (k := 0) (x := s.socket) rfl (.recv hr))
    refine hs.trans ?_
    rcases incoming_cases { s with socket := y } item with ⟨hd, he⟩ | ⟨frame, he⟩ | he
    · have hl : ({ s with socket := y }.start hd).ledger = ({ s with socket := y }).ledger := by
        simp [ledger, start, live, hp]
      rw [he, hl]
    · rw [he]; exact finish_ledger _ _ (by simp [live, hp])
    · rw [he]
  | takeCall hp | callWith hp | resume hp | handlerOk hp => exact same rfl (by simp [live, start, hp]) rfl rfl
  | notify hp => exact same rfl (by simp [live, hp]) rfl rfl
  | handlerErr _ hp | handlerPanic hp => exact finish_ledger s _ (by simp [live, hp])
  | socket a hy => exact .single (.task (k := 0) (x := s.socket) a rfl hy)

def passes (s : SessionActor ID C) : SessionAct C → Option InRawMessage
  | .socket a => s.socket.passes a
  | _ => none

def returns (s : SessionActor ID C) : SessionAct C → Option (InRawMessage × Except WSError Unit)
  | .socket a => s.socket.returns a
  | _ => none

/-- The messages that `SinkActor` has passed to the sink. -/
def given (s : SessionActor ID C) (as : List (SessionAct C)) : List InRawMessage := Lts.collect step passes s as

def results (s : SessionActor ID C) (as : List (SessionAct C)) : List (InRawMessage × Except WSError Unit) :=
  Lts.collect step returns s as

theorem create_ledger (id : ID) (config : SocketConfig) :
    (create id (.new config) : SessionActor ID C).ledger.Good := by
  refine ⟨?_, ?_, ?_, ?_⟩
  · intro n m h; simp [ledger, create] at h
  · intro w hw; cases hw
  · intro k x h
    cases k with
    | zero => cases h; exact .new _ config
    | succ => cases h
  · intro n
    simp [Ledger.holds, Ledger.pending, ledger, create, Socket.holds_eq, Socket.new, Socket.inFlight, signals]

theorem steps_ledger {as : List (SessionAct C)} (h : Lts.exec step s as = some t) :
    Ledger.Steps s.ledger t.ledger :=
  Lts.reach_inv (I := fun t => Ledger.Steps s.ledger t.ledger) .refl (fun _ _ _ _ hl h => hl.trans (step_ledger h))
    ⟨as, h⟩

theorem run_told {id : ID} {config : SocketConfig} {as : List (SessionAct C)}
    (h : Lts.exec step (create id (.new config)) as = some s) : s.socket.Supervised ∧
      s.socket.Told (given (create id (.new config)) as) (results (create id (.new config)) as) := by
  refine Lts.run_inv (I := fun as (s : SessionActor ID C) => s.socket.Supervised ∧
    s.socket.Told (given (create id (.new config)) as) (results (create id (.new config)) as))
    ⟨Socket.new_supervised config, Socket.new_told config⟩ ?_ h
  rintro as s a t hs ⟨hv, ht⟩ hst
  have hg : given (create id (.new config)) (as ++ [a]) = given (create id (.new config)) as ++
    (s.passes a).toList :=
    Lts.collect_snoc hs hst
  have hr : results (create id (.new config)) (as ++ [a]) =
      results (create id (.new config)) as ++ (s.returns a).toList := Lts.collect_snoc hs hst
  rw [hg, hr]
  rcases step_uses hst with ⟨ha, hu⟩ | ⟨b, rfl, hb⟩
  · have hp : s.passes a = none ∧ s.returns a = none := by
      cases a with
      | socket b => exact absurd rfl (ha b)
      | _ => exact ⟨rfl, rfl⟩
    simp only [hp, Option.toList_none, List.append_nil]
    exact ⟨hu.supervised hv, hu.told ht⟩
  · have hw := Ledger.Has.whole (((steps_ledger hs).good (create_ledger id config)).socks 0 s.socket rfl)
    exact ⟨Socket.step_supervised hv hb, Socket.step_told hw hv ht hb⟩

end SessionActor

/-! ## The signals tell the truth -/

/-- `given k` is what the sink of connection `k` has been given and `results k` what its sends have returned. -/
structure Ledger.Truthful (l : Ledger) (given : Nat → List InRawMessage)
    (results : Nat → List (InRawMessage × Except WSError Unit)) : Prop where
  once : ∀ n, (l.written.map Prod.fst).count (.handle n) ≤ 1
  sent : ∀ n, l.status n = .sent ↔
    ∃ k inmessage, l.queue.hist[n]? = some inmessage ∧ (inmessage.toRaw, .ok ()) ∈ results k
  order : ∀ (k : Nat) (x : Socket), l.socks[k]? = some x → given k <+: x.toSink.hist
  answers : ∀ k, (results k).map Prod.fst <+: given k
  last : ∀ (k i : Nat) (m : InRawMessage) (err : WSError), (results k)[i]? = some (m, .error err) →
    (given k).length = i + 1
  discarded : ∀ (k : Nat) (x : Socket), l.socks[k]? = some x → x.sink.isClosed = true →
    ∀ (i : Nat) (m : InRawMessage), x.toSink.hist[i]? = some m → (results k)[i]? ≠ some (m, .ok ()) →
      (∃ j n err, j ≤ i ∧ (results k)[j]? = some (n, .error err)) ∨ x.streaming = false ∨ x.sink = .crashed

theorem Ledger.Good.truthful {l : Ledger} (g : l.Good) {given : Nat → List InRawMessage}
    {results : Nat → List (InRawMessage × Except WSError Unit)}
    (hk : ∀ (k : Nat), (l.socks[k]? = none → given k = [] ∧ results k = []) ∧
      ∀ x, l.socks[k]? = some x → x.Told (given k) (results k)) : l.Truthful given results := by
  have answers : ∀ k, (results k).map Prod.fst <+: given k := by
    intro k
    cases hx : l.socks[k]? with
    | none => rw [((hk k).1 hx).2]; exact List.nil_prefix
    | some x => exact ((hk k).2 x hx).results
  refine ⟨g.written_once, fun n => ?_, fun k x hx => ((hk k).2 x hx).in_order, answers, fun k i m err h => ?_,
    fun k x hx hc i m hm hr => ((hk k).2 x hx).discarded hc hm hr⟩
  · rw [g.sent_iff]
    constructor
    · rintro ⟨k, x, hx, hw⟩
      have ht := (hk k).2 x hx
      obtain ⟨m, hm, hr⟩ := (ht.sent _).mp hw
      have hmem := ((answers k).trans ht.in_order).subset (List.mem_map_of_mem (f := Prod.fst) hr)
      obtain ⟨inmessage, hi, rfl⟩ := ((g.socks k x hx).sources m hmem).2 n hm
      exact ⟨k, inmessage, hi, hr⟩
    · rintro ⟨k, inmessage, hi, hr⟩
      cases hx : l.socks[k]? with
      | none => rw [((hk k).1 hx).2] at hr; cases hr
      | some x => exact ⟨k, x, hx, (((hk k).2 x hx).sent _).mpr ⟨_, (g.numbers n inmessage hi).1, hr⟩⟩
  · cases hx : l.socks[k]? with
    | none => rw [((hk k).1 hx).2] at h; cases h
    | some x => exact ((hk k).2 x hx).last_failed h

/-- A signal is written once at most and then keeps its status; it is `sent` if and only if the sink's send of its
message has returned `Ok`. The sink is given what was enqueued in that order and nothing after a failed send, and
what it is not given is lost to a failed send, to the end of the stream or to a panic of the sink. -/
theorem signals_tell_the_truth :
    (∀ (config : ClientConfig) (as bs : List (ClientAct C)) (s t : ClientActor C),
      Lts.exec ClientActor.step (.create config) as = some s → Lts.exec ClientActor.step s bs = some t →
        s.ledger.Truthful (ClientActor.given · (.create config) as) (ClientActor.results · (.create config) as) ∧
          ∀ n, s.ledger.status n ≠ .sending → t.ledger.status n = s.ledger.status n) ∧
    (∀ (id : ID) (config : SocketConfig) (as bs : List (SessionAct C)) (s t : SessionActor ID C),
      Lts.exec SessionActor.step (.create id (.new config)) as = some s → Lts.exec SessionActor.step s bs = some t →
        s.ledger.Truthful (fun k => if k = 0 then SessionActor.given (.create id (.new config)) as else [])
            (fun k => if k = 0 then SessionActor.results (.create id (.new config)) as else []) ∧
          ∀ n, s.ledger.status n ≠ .sending → t.ledger.status n = s.ledger.status n) := by
  constructor
  · intro config as bs s t hs ht
    obtain ⟨g, hspent⟩ := ClientActor.run_ledger hs
    exact ⟨g.truthful (ClientActor.run_told hs), fun n hn => (ClientActor.steps_ledger hspent ht).1.status g hn⟩
  · intro id config as bs s t hs ht
    have g := (SessionActor.steps_ledger hs).good (SessionActor.create_ledger id config)
    refine ⟨g.truthful fun k => ?_, fun n hn => (SessionActor.steps_ledger ht).status g hn⟩
    cases k with
    | zero =>
      refine ⟨fun h => (by cases h), fun x hx => ?_⟩
      cases hx
      exact (SessionActor.run_told hs).2
    | succ k => exact ⟨fun _ => ⟨rfl, rfl⟩, fun x hx => by cases hx⟩

/-- The first message is discarded while the client connects, the second is sent, and the third is queued when the
send of the second returns. -/
theorem signals_tell_the_truth_three : ∃ (as : List (ClientAct Nat)) (s : ClientActor Nat),
    Lts.exec ClientActor.step (.create ⟨1, 1, none⟩) as = some s ∧ s.ledger.status 0 = .failed ∧
      s.ledger.status 1 = .sent ∧ s.ledger.status 2 = .sending ∧
      s.ledger.Truthful (ClientActor.given · (.create ⟨1, 1, none⟩) as)
        (ClientActor.results · (.create ⟨1, 1, none⟩) as) := by
  have h : Lts.exec ClientActor.step (.create ⟨1, 1, none⟩ : ClientActor Nat) [
    .text "a", .tryRecv, .tryRecv, .connected, .onConnectReturn (.ok ()), .text "b", .outgoing, .socket 0 .sinkRecv,
    .text "c", .outgoing, .socket 0 (.sinkSend (.ok ()))] = some _ := rfl
  exact ⟨_, _, h, rfl, rfl, rfl, ((@signals_tell_the_truth Nat Nat).1 _ _ [] _ _ h rfl).1⟩

end Ezsockets
