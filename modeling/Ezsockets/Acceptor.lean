import Ezsockets.Http
import Ezsockets.Lts

/-!
# The accept loop

`run_acceptor` takes one connection from the listener and runs its handshakes
before it takes the next. Any number of peers connect, send and close around
it. A peer that has sent all that its handshakes need is served unless the
loop waits for the bytes of another one (`accept_loop_advances`).
-/

namespace Ezsockets

inductive Acceptor where
  | plain
  | nativeTls
  | rustls
  deriving DecidableEq

/-- What a handshake makes of the bytes that have arrived. -/
inductive Outcome (α : Type) where
  | more
  | failed
  | done (a : α)

def Outcome.andThen {α β : Type} (o : Outcome α) (f : α → Outcome β) : Outcome β :=
  match o with
  | more => more
  | failed => failed
  | done a => f a

/-- The handshakes of other crates. Each reads the bytes of a connection from
the start, and what it has settled no later byte changes. -/
structure Handshakes where
  tls : Acceptor → Nat → List UInt8 → Outcome Unit
  websocket : Acceptor → Nat → List UInt8 → Outcome Request
  tls_append : ∀ a k bytes more, tls a k bytes ≠ .more → tls a k (bytes ++ more) = tls a k bytes
  websocket_append : ∀ a k bytes more, websocket a k bytes ≠ .more →
    websocket a k (bytes ++ more) = websocket a k bytes

structure TcpStream where
  address : SocketAddr
  sent : List UInt8
  closed : Bool

/-- A connection that has ended gives no more bytes. -/
def TcpStream.read {α : Type} (p : TcpStream) (o : Outcome α) : Outcome α :=
  match o with
  | .more => if p.closed then .failed else .more
  | o => o

/-- What `accept` asks of a request's head: its copy. -/
def callback (http : HttpCrate) (req : Request) : Outcome Request :=
  match Request.rebuild http req.method req.uri req.version req.headers with
  | some body => .done body
  | none => .failed

namespace Acceptor

variable (http : HttpCrate) (hs : Handshakes)

def tlsOutcome (a : Acceptor) (k : Nat) (p : TcpStream) : Outcome Unit :=
  match a with
  | .plain => .done ()
  | .nativeTls | .rustls => p.read (hs.tls a k p.sent)

def websocketOutcome (a : Acceptor) (k : Nat) (p : TcpStream) : Outcome Request :=
  (p.read (hs.websocket a k p.sent)).andThen (callback http)

def accept (a : Acceptor) (k : Nat) (p : TcpStream) : Outcome Request :=
  (a.tlsOutcome hs k p).andThen fun _ => a.websocketOutcome http hs k p

end Acceptor

inductive AcceptPhase where
  | listening
  | tls (k : Nat)
  | websocket (k : Nat)
  deriving DecidableEq

namespace AcceptPhase

def peer : AcceptPhase → Option Nat
  | listening => none
  | tls k | websocket k => some k

/-- The steps until the loop listens again, if every handshake goes on. -/
def rest : AcceptPhase → Nat
  | listening => 0
  | websocket _ => 1
  | tls _ => 2

end AcceptPhase

structure Accepted where
  peer : Nat
  request : Request
  address : SocketAddr

structure AcceptLoop where
  acceptor : Acceptor
  peers : List TcpStream
  backlog : List Nat
  phase : AcceptPhase
  accepted : List Accepted

inductive AcceptAct where
  | connect (address : SocketAddr)
  | send (k : Nat) (bytes : List UInt8)
  | close (k : Nat)
  | acceptErr
  | accept
  | handshake
  | ioErr

/-- The steps of the loop that no error of the system is needed for. -/
def AcceptAct.isLoop : AcceptAct → Bool
  | accept | handshake => true
  | _ => false

namespace AcceptLoop

def start (acceptor : Acceptor) : AcceptLoop := ⟨acceptor, [], [], .listening, []⟩

def setPeer (s : AcceptLoop) (k : Nat) (p : TcpStream) : AcceptLoop := { s with peers := s.peers.set k p }

variable (http : HttpCrate) (hs : Handshakes)

def handshake (s : AcceptLoop) : Option AcceptLoop :=
  match s.phase with
  | .listening => none
  | .tls k => match s.peers[k]? with
    | none => none
    | some p => match s.acceptor.tlsOutcome hs k p with
      | .more => none
      | .failed => some { s with phase := .listening }
      | .done _ => some { s with phase := .websocket k }
  | .websocket k => match s.peers[k]? with
    | none => none
    | some p => match s.acceptor.websocketOutcome http hs k p with
      | .more => none
      | .failed => some { s with phase := .listening }
      | .done request => some { s with phase := .listening, accepted := s.accepted ++ [⟨k, request, p.address⟩] }

def step (s : AcceptLoop) : AcceptAct → Option AcceptLoop
  | .connect address =>
    some { s with peers := s.peers ++ [⟨address, [], false⟩], backlog := s.backlog ++ [s.peers.length] }
  | .send k bytes => match s.peers[k]? with
    | none => none
    | some p => if p.closed then none else some (s.setPeer k { p with sent := p.sent ++ bytes })
  | .close k => match s.peers[k]? with
    | none => none
    | some p => some (s.setPeer k { p with closed := true })
  -- `listener.accept()` may fail, and the loop continues
  | .acceptErr => if s.phase = .listening then some s else none
  | .accept => match s.phase, s.backlog with
    | .listening, k :: backlog =>
      some { s with backlog := backlog, phase := if s.acceptor = .plain then .websocket k else .tls k }
    | _, _ => none
  | .handshake => s.handshake http hs
  -- a read or a write may fail once the peer has gone
  | .ioErr => match s.phase.peer.bind (s.peers[·]?) with
    | some p => if p.closed then some { s with phase := .listening } else none
    | none => none

end AcceptLoop

/-! ## What has been settled stays -/

namespace TcpStream

/-- `q` is a stream that `p` may have become. -/
structure Later (p q : TcpStream) : Prop where
  address : q.address = p.address
  sent : ∃ bytes, q.sent = p.sent ++ bytes
  closed : p.closed → q = p

theorem read_of_ne {α : Type} (p : TcpStream) {o : Outcome α} (h : o ≠ .more) : p.read o = o := by
  cases o with
  | more => exact absurd rfl h
  | failed => rfl
  | done a => rfl

theorem read_later {α : Type} {f : List UInt8 → Outcome α}
    (hf : ∀ bytes more, f bytes ≠ .more → f (bytes ++ more) = f bytes) {p q : TcpStream} (hl : p.Later q)
    (h : p.read (f p.sent) ≠ .more) : q.read (f q.sent) = p.read (f p.sent) := by
  by_cases hc : p.closed
  · rw [hl.closed hc]
  · have hp : f p.sent ≠ .more := by
      intro hm
      simp [hm, read, hc] at h
    obtain ⟨bytes, hb⟩ := hl.sent
    have hq : f q.sent = f p.sent := by rw [hb, hf _ _ hp]
    rw [hq, read_of_ne q hp, read_of_ne p hp]

end TcpStream

theorem Outcome.andThen_ne {α β : Type} {o : Outcome α} {f : α → Outcome β} (h : o.andThen f ≠ .more) :
    o ≠ .more := by
  intro ho
  simp [ho, andThen] at h

namespace Acceptor

variable {http : HttpCrate} {hs : Handshakes} {a : Acceptor} {k : Nat} {p q : TcpStream}

theorem tlsOutcome_later (hl : p.Later q) (h : a.tlsOutcome hs k p ≠ .more) :
    a.tlsOutcome hs k q = a.tlsOutcome hs k p := by
  cases a with
  | plain => rfl
  | nativeTls => exact TcpStream.read_later (hs.tls_append _ k) hl h
  | rustls => exact TcpStream.read_later (hs.tls_append _ k) hl h

theorem websocketOutcome_later (hl : p.Later q) (h : a.websocketOutcome http hs k p ≠ .more) :
    a.websocketOutcome http hs k q = a.websocketOutcome http hs k p := by
  unfold websocketOutcome
  rw [TcpStream.read_later (hs.websocket_append a k) hl (Outcome.andThen_ne h)]

theorem accept_later (hl : p.Later q) (h : a.accept http hs k p ≠ .more) :
    a.accept http hs k q = a.accept http hs k p := by
  unfold accept at h ⊢
  rw [tlsOutcome_later hl (Outcome.andThen_ne h)]
  cases ht : a.tlsOutcome hs k p with
  | more => rfl
  | failed => rfl
  | done u =>
    simp only [ht, Outcome.andThen] at h ⊢
    exact websocketOutcome_later hl h

end Acceptor

/-- The copy that is handed on is the head that the handshake has read. -/
theorem callback_done {http : HttpCrate} {req body : Request} (h : callback http req = .done body) :
    body = req := by
  unfold callback at h
  cases hr : Request.rebuild http req.method req.uri req.version req.headers with
  | none => simp [hr] at h
  | some r =>
    simp only [hr, Outcome.done.injEq] at h
    rw [← h]
    exact Request.rebuild_eq http hr

theorem Acceptor.accept_done {http : HttpCrate} {hs : Handshakes} {a : Acceptor} {k : Nat} {p : TcpStream}
    {request : Request} (h : a.accept http hs k p = .done request) : hs.websocket a k p.sent = .done request := by
  unfold Acceptor.accept at h
  cases ht : a.tlsOutcome hs k p with
  | more => simp [ht, Outcome.andThen] at h
  | failed => simp [ht, Outcome.andThen] at h
  | done u =>
    simp only [ht, Outcome.andThen, websocketOutcome] at h
    cases hw : hs.websocket a k p.sent with
    | more => by_cases hc : p.closed <;> simp [hw, TcpStream.read, hc] at h
    | failed => simp [hw, TcpStream.read] at h
    | done req =>
      simp only [hw, TcpStream.read] at h
      rw [callback_done h]

namespace AcceptLoop

variable (http : HttpCrate) (hs : Handshakes)

/-! ## Steps -/

inductive Step (s : AcceptLoop) : AcceptAct → AcceptLoop → Prop where
  | connect (address : SocketAddr) : Step s (.connect address)
      { s with peers := s.peers ++ [⟨address, [], false⟩], backlog := s.backlog ++ [s.peers.length] }
  | peer {a : AcceptAct} {k : Nat} {p q : TcpStream} : a.isLoop = false → s.peers[k]? = some p → p.Later q →
      Step s a (s.setPeer k q)
  | acceptErr : s.phase = .listening → Step s .acceptErr s
  | accept {k : Nat} {backlog : List Nat} : s.phase = .listening → s.backlog = k :: backlog → Step s .accept
      { s with backlog := backlog, phase := if s.acceptor = .plain then .websocket k else .tls k }
  | tlsDone {k : Nat} {p : TcpStream} : s.phase = .tls k → s.peers[k]? = some p →
      s.acceptor.tlsOutcome hs k p = .done () → Step s .handshake { s with phase := .websocket k }
  | tlsFailed {k : Nat} {p : TcpStream} : s.phase = .tls k → s.peers[k]? = some p →
      s.acceptor.tlsOutcome hs k p = .failed → Step s .handshake { s with phase := .listening }
  | failed {k : Nat} {p : TcpStream} : s.phase = .websocket k → s.peers[k]? = some p →
      s.acceptor.websocketOutcome http hs k p = .failed → Step s .handshake { s with phase := .listening }
  | done {k : Nat} {p : TcpStream} {request : Request} : s.phase = .websocket k → s.peers[k]? = some p →
      s.acceptor.websocketOutcome http hs k p = .done request →
      Step s .handshake { s with phase := .listening, accepted := s.accepted ++ [⟨k, request, p.address⟩] }
  | ioErr : s.phase ≠ .listening → Step s .ioErr { s with phase := .listening }

variable {http hs} {s t : AcceptLoop} {a : AcceptAct} {j k : Nat}

theorem handshake_cases (h : s.handshake http hs = some t) : Step http hs s .handshake t := by
  unfold handshake at h
  cases hp : s.phase with
  | listening => simp [hp] at h
  | tls k =>
    simp only [hp] at h
    cases hk : s.peers[k]? with
    | none => simp [hk] at h
    | some p =>
      simp only [hk] at h
      cases ho : s.acceptor.tlsOutcome hs k p with
      | more => simp [ho] at h
      | failed =>
        simp only [ho, Option.some.injEq] at h
        rw [← h]
        exact .tlsFailed hp hk ho
      | done u =>
        simp only [ho, Option.some.injEq] at h
        rw [← h]
        exact .tlsDone hp hk ho
  | websocket k =>
    simp only [hp] at h
    cases hk : s.peers[k]? with
    | none => simp [hk] at h
    | some p =>
      simp only [hk] at h
      cases ho : s.acceptor.websocketOutcome http hs k p with
      | more => simp [ho] at h
      | failed =>
        simp only [ho, Option.some.injEq] at h
        rw [← h]
        exact .failed hp hk ho
      | done request =>
        simp only [ho, Option.some.injEq] at h
        rw [← h]
        exact .done hp hk ho

theorem step_cases (h : s.step http hs a = some t) : Step http hs s a t := by
  cases a with
  | connect address => cases h; exact .connect address
  | send k bytes =>
    simp only [step] at h
    cases hk : s.peers[k]? with
    | none => simp [hk] at h
    | some p =>
      by_cases hc : p.closed
      · simp [hk, hc] at h
      · simp only [hk, hc, Bool.false_eq_true, ite_false, Option.some.injEq] at h
        rw [← h]
        exact .peer rfl hk ⟨rfl, ⟨bytes, rfl⟩, fun hp => absurd hp hc⟩
  | close k =>
    simp only [step] at h
    cases hk : s.peers[k]? with
    | none => simp [hk] at h
    | some p =>
      simp only [hk, Option.some.injEq] at h
      rw [← h]
      refine .peer rfl hk ⟨rfl, ⟨[], by simp⟩, ?_⟩
      intro hp
      cases p
      simp at hp
      simp [hp]
  | acceptErr =>
    simp only [step] at h
    by_cases hp : s.phase = .listening
    · simp only [hp, ite_true, Option.some.injEq] at h
      rw [← h]
      exact .acceptErr hp
    · simp [hp] at h
  | accept =>
    simp only [step] at h
    cases hp : s.phase with
    | listening =>
      cases hb : s.backlog with
      | nil => simp [hp, hb] at h
      | cons k backlog =>
        simp only [hp, hb, Option.some.injEq] at h
        rw [← h]
        exact .accept hp hb
    | tls k => simp [hp] at h
    | websocket k => simp [hp] at h
  | handshake => exact handshake_cases h
  | ioErr =>
    simp only [step] at h
    cases hp : s.phase.peer.bind (s.peers[·]?) with
    | none => simp [hp] at h
    | some p =>
      by_cases hc : p.closed
      · simp only [hp, hc, ite_true, Option.some.injEq] at h
        rw [← h]
        apply Step.ioErr
        intro hl
        simp [hl, AcceptPhase.peer] at hp
      · simp [hp, hc] at h

/-! ## Peers -/

variable (http hs)

/-- The peer's connection is established and not yet served. -/
def Pending (s : AcceptLoop) (k : Nat) : Prop := k ∈ s.backlog ∨ s.phase.peer = some k

/-- The peer has sent all that its handshakes need. -/
def Complete (s : AcceptLoop) (k : Nat) : Prop :=
  ∃ p request, s.peers[k]? = some p ∧ s.acceptor.accept http hs k p = .done request

/-- Nothing more of the peer is needed to serve it or to give it up. -/
def Settled (s : AcceptLoop) (k : Nat) : Prop := ∃ p, s.peers[k]? = some p ∧ s.acceptor.accept http hs k p ≠ .more

/-- The loop is in a handshake with the peer and needs more bytes of it. -/
def Waits (s : AcceptLoop) (k : Nat) : Prop :=
  ∃ p, s.peers[k]? = some p ∧
    (s.phase = .tls k ∧ s.acceptor.tlsOutcome hs k p = .more ∨
      s.phase = .websocket k ∧ s.acceptor.websocketOutcome http hs k p = .more)

/-- At most so many steps of the loop lie before the peer's end of the handshakes. -/
def distance (s : AcceptLoop) (k : Nat) : Nat :=
  s.phase.rest + if k ∈ s.backlog then 3 * (s.backlog.idxOf k + 1) else 0

def Advances (s : AcceptLoop) (k : Nat) : Prop :=
  ∃ a t, a.isLoop = true ∧ s.step http hs a = some t ∧ t.distance k < s.distance k

structure Sound (s : AcceptLoop) : Prop where
  nodup : s.backlog.Nodup
  lt : ∀ k, s.Pending k → k < s.peers.length
  notMem : ∀ k, s.phase.peer = some k → k ∉ s.backlog
  tls : ∀ k p, s.phase = .websocket k → s.peers[k]? = some p → s.acceptor.tlsOutcome hs k p = .done ()

variable {http hs}

theorem Complete.settled (h : s.Complete http hs k) : s.Settled http hs k := by
  obtain ⟨p, request, hp, ha⟩ := h
  exact ⟨p, hp, by simp [ha]⟩

theorem start_sound (acceptor : Acceptor) : (start acceptor).Sound hs := by
  constructor
  · simp [start]
  · simp [start, Pending, AcceptPhase.peer]
  · simp [start]
  · simp [start]

theorem getElem?_setPeer {p : TcpStream} (hk : k < s.peers.length) :
    (s.setPeer k p).peers[j]? = if j = k then some p else s.peers[j]? := by
  by_cases hj : j = k
  · simp [setPeer, hj, hk]
  · simp [setPeer, hj, Ne.symm hj]

theorem lt_of_getElem? {p : TcpStream} (h : s.peers[k]? = some p) : k < s.peers.length :=
  (List.getElem?_eq_some_iff.mp h).1

theorem Sound.step (g : s.Sound hs) (h : s.step http hs a = some t) : t.Sound hs := by
  cases step_cases h with
  | connect address =>
    have hlt : ∀ k, s.Pending k → k < s.peers.length := g.lt
    constructor
    · apply g.nodup.append (List.nodup_singleton _)
      simp only [List.disjoint_singleton]
      intro hm
      exact Nat.lt_irrefl _ (hlt _ (.inl hm))
    · intro k hk
      simp only [Pending, List.mem_append, List.mem_singleton, List.length_append, List.length_singleton] at hk ⊢
      by_cases he : k = s.peers.length
      · omega
      · have := hlt k (by simpa [Pending, he] using hk)
        omega
    · intro k hk
      simp only [List.mem_append, List.mem_singleton, not_or]
      refine ⟨g.notMem k hk, ?_⟩
      have := hlt k (.inr hk)
      omega
    · intro k p hp hk
      have hlt := hlt k (.inr (by simp only at hp; simp [hp, AcceptPhase.peer]))
      rw [List.getElem?_append_left hlt] at hk
      exact g.tls k p hp hk
  | peer _ hk hl =>
    refine ⟨g.nodup, ?_, g.notMem, ?_⟩
    · intro j hj
      simpa [setPeer] using g.lt j hj
    · intro j q hp hj
      rw [getElem?_setPeer (lt_of_getElem? hk)] at hj
      split at hj
      · rename_i he
        subst he
        cases hj
        have ht := g.tls _ _ hp hk
        have hn : s.acceptor.tlsOutcome hs j _ ≠ .more := ne_of_eq_of_ne ht (by simp)
        exact (Acceptor.tlsOutcome_later hl hn).trans ht
      · exact g.tls j q hp hj
  | acceptErr _ => exact g
  | @accept k backlog hp hb =>
    have hn := g.nodup
    rw [hb, List.nodup_cons] at hn
    have hpeer : (if s.acceptor = .plain then AcceptPhase.websocket k else .tls k).peer = some k := by
      by_cases ha : s.acceptor = .plain <;> simp [ha, AcceptPhase.peer]
    refine ⟨hn.2, ?_, ?_, ?_⟩
    · intro j hj
      apply g.lt j
      left
      rw [hb]
      rcases hj with hj | hj
      · exact List.mem_cons_of_mem _ hj
      · have hjk : k = j := by simpa using hpeer.symm.trans hj
        simp [hjk]
    · intro j hj
      have hjk : k = j := by simpa using hpeer.symm.trans hj
      rw [← hjk]
      exact hn.1
    · intro j p hj _
      by_cases ha : s.acceptor = .plain
      · simp [ha, Acceptor.tlsOutcome]
      · simp [ha] at hj
  | tlsDone hp hk ho =>
    refine ⟨g.nodup, ?_, ?_, ?_⟩
    · intro j hj
      apply g.lt j
      simpa [Pending, hp, AcceptPhase.peer] using hj
    · intro j hj
      apply g.notMem j
      simpa [hp, AcceptPhase.peer] using hj
    · intro j q hj hq
      cases hj
      cases hk.symm.trans hq
      exact ho
  | tlsFailed _ _ _ | failed _ _ _ | done _ _ _ | ioErr _ =>
    refine ⟨g.nodup, ?_, by simp [AcceptPhase.peer], by simp⟩
    intro j hj
    apply g.lt j
    left
    simpa [Pending, AcceptPhase.peer] using hj

theorem reach_sound {acceptor : Acceptor} (h : Lts.Reach (step http hs) (start acceptor) s) : s.Sound hs :=
  Lts.reach_inv (start_sound acceptor) (fun _ _ _ _ g h => g.step h) h

/-! ## Advancing -/

theorem distance_of_notMem (h : k ∉ s.backlog) : s.distance k = s.phase.rest := by
  simp [distance, h]

theorem distance_of_mem (h : k ∈ s.backlog) : s.distance k = s.phase.rest + 3 * (s.backlog.idxOf k + 1) := by
  simp [distance, h]

theorem accept_advances (hp : s.phase = .listening) (hk : k ∈ s.backlog) (hn : s.backlog.Nodup) :
    s.Advances http hs k := by
  cases hb : s.backlog with
  | nil => simp [hb] at hk
  | cons j backlog =>
    have hstep : s.step http hs .accept = some
        { s with backlog := backlog, phase := if s.acceptor = .plain then .websocket j else .tls j } := by
      simp only [step, hp, hb]
    refine ⟨.accept, _, rfl, hstep, ?_⟩
    have hrest : (if s.acceptor = .plain then AcceptPhase.websocket j else .tls j).rest ≤ 2 := by
      by_cases ha : s.acceptor = .plain <;> simp [ha, AcceptPhase.rest]
    have hlistening : AcceptPhase.listening.rest = 0 := rfl
    rw [distance_of_mem hk, hb, hp, hlistening]
    rw [hb, List.nodup_cons] at hn
    by_cases hjk : j = k
    · subst hjk
      rw [distance_of_notMem hn.1]
      simp only [List.idxOf_cons_self]
      omega
    · have hm : k ∈ backlog := by simpa [hb, Ne.symm hjk] using hk
      rw [distance_of_mem (s := { s with backlog := backlog, phase := _ }) hm, List.idxOf_cons_ne _ hjk]
      simp only
      omega

theorem handshake_runs (g : s.Sound hs) (hj : s.phase.peer = some j) (hw : ¬ s.Waits http hs j) :
    ∃ t, s.step http hs .handshake = some t ∧ t.backlog = s.backlog ∧ t.phase.rest < s.phase.rest := by
  have hlt := g.lt j (.inr hj)
  have hp : s.peers[j]? = some s.peers[j] := List.getElem?_eq_getElem hlt
  cases hph : s.phase with
  | listening => simp [hph, AcceptPhase.peer] at hj
  | tls k =>
    have hkj : k = j := by simpa [hph, AcceptPhase.peer] using hj
    subst hkj
    cases ho : s.acceptor.tlsOutcome hs k s.peers[k] with
    | more => exact absurd ⟨_, hp, .inl ⟨hph, ho⟩⟩ hw
    | failed =>
      have hstep : s.step http hs .handshake = some { s with phase := .listening } := by
        simp only [step, handshake, hph, hp, ho]
      exact ⟨_, hstep, rfl, by simp [AcceptPhase.rest]⟩
    | done u =>
      have hstep : s.step http hs .handshake = some { s with phase := .websocket k } := by
        simp only [step, handshake, hph, hp, ho]
      exact ⟨_, hstep, rfl, by simp [AcceptPhase.rest]⟩
  | websocket k =>
    have hkj : k = j := by simpa [hph, AcceptPhase.peer] using hj
    subst hkj
    cases ho : s.acceptor.websocketOutcome http hs k s.peers[k] with
    | more => exact absurd ⟨_, hp, .inr ⟨hph, ho⟩⟩ hw
    | failed =>
      have hstep : s.step http hs .handshake = some { s with phase := .listening } := by
        simp only [step, handshake, hph, hp, ho]
      exact ⟨_, hstep, rfl, by simp [AcceptPhase.rest]⟩
    | done request =>
      have hstep : s.step http hs .handshake = some
          { s with phase := .listening, accepted := s.accepted ++ [⟨k, request, s.peers[k].address⟩] } := by
        simp only [step, handshake, hph, hp, ho]
      exact ⟨_, hstep, rfl, by simp [AcceptPhase.rest]⟩

theorem handshake_advances (g : s.Sound hs) (hj : s.phase.peer = some j) (hw : ¬ s.Waits http hs j) (k : Nat) :
    s.Advances http hs k := by
  obtain ⟨t, ht, hb, hr⟩ := handshake_runs g hj hw
  refine ⟨.handshake, t, rfl, ht, ?_⟩
  unfold distance
  rw [hb]
  omega

theorem Waits.phase_peer (h : s.Waits http hs j) : s.phase.peer = some j := by
  obtain ⟨p, _, ⟨hp, _⟩ | ⟨hp, _⟩⟩ := h <;> simp [hp, AcceptPhase.peer]

theorem Waits.stuck (h : s.Waits http hs j) (hl : a.isLoop = true) : s.step http hs a = none := by
  obtain ⟨p, hp, hw⟩ := h
  cases a with
  | connect address | send i bytes | close i | acceptErr | ioErr => simp [AcceptAct.isLoop] at hl
  | accept => rcases hw with ⟨hph, _⟩ | ⟨hph, _⟩ <;> simp [step, hph]
  | handshake => rcases hw with ⟨hph, ho⟩ | ⟨hph, ho⟩ <;> simp only [step, handshake, hph, hp, ho]

theorem Settled.not_waits (g : s.Sound hs) (h : s.Settled http hs j) : ¬ s.Waits http hs j := by
  intro ⟨p, hp, hw⟩
  obtain ⟨q, hq, hn⟩ := h
  cases hp.symm.trans hq
  apply hn
  unfold Acceptor.accept
  rcases hw with ⟨_, ho⟩ | ⟨hph, ho⟩
  · simp [ho, Outcome.andThen]
  · simp [g.tls j p hph hp, Outcome.andThen, ho]

theorem advances_iff (g : s.Sound hs) (hk : s.Pending k) (hc : s.Complete http hs k) :
    s.Advances http hs k ↔ ¬ ∃ j, j ≠ k ∧ s.Waits http hs j := by
  constructor
  · intro ⟨a, t, hl, ht, _⟩ ⟨j, _, hw⟩
    rw [hw.stuck hl] at ht
    cases ht
  · intro hw
    cases hp : s.phase.peer with
    | none =>
      have hph : s.phase = .listening := by
        cases hph : s.phase with
        | listening => rfl
        | tls j => simp [hph, AcceptPhase.peer] at hp
        | websocket j => simp [hph, AcceptPhase.peer] at hp
      have hm : k ∈ s.backlog := by
        rcases hk with hk | hk
        · exact hk
        · simp [hp] at hk
      exact accept_advances hph hm g.nodup
    | some j =>
      by_cases hjk : j = k
      · subst hjk
        exact handshake_advances g hp (hc.settled.not_waits g) j
      · apply handshake_advances g hp
        intro hj
        exact hw ⟨j, hjk, hj⟩

/-! ## Runs -/

theorem acceptor_step (ht : s.step http hs a = some t) : t.acceptor = s.acceptor := by
  cases step_cases ht <;> rfl

theorem peers_later {p : TcpStream} (ht : s.step http hs a = some t) (hp : s.peers[k]? = some p) :
    ∃ q, t.peers[k]? = some q ∧ p.Later q := by
  have same : p.Later p := ⟨rfl, ⟨[], by simp⟩, fun _ => rfl⟩
  cases step_cases ht with
  | connect address =>
    refine ⟨p, ?_, same⟩
    simp only
    rw [List.getElem?_append_left (lt_of_getElem? hp), hp]
  | @peer _ j q r _ hj hl =>
    by_cases hkj : k = j
    · subst hkj
      cases hj.symm.trans hp
      exact ⟨r, by rw [getElem?_setPeer (lt_of_getElem? hj), if_pos rfl], hl⟩
    · exact ⟨p, by rw [getElem?_setPeer (lt_of_getElem? hj), if_neg hkj, hp], same⟩
  | acceptErr _ => exact ⟨p, hp, same⟩
  | accept _ _ => exact ⟨p, hp, same⟩
  | tlsDone _ _ _ => exact ⟨p, hp, same⟩
  | tlsFailed _ _ _ => exact ⟨p, hp, same⟩
  | failed _ _ _ => exact ⟨p, hp, same⟩
  | done _ _ _ => exact ⟨p, hp, same⟩
  | ioErr _ => exact ⟨p, hp, same⟩

theorem Settled.step (h : s.Settled http hs k) (ht : s.step http hs a = some t) : t.Settled http hs k := by
  obtain ⟨p, hp, hn⟩ := h
  obtain ⟨q, hq, hl⟩ := peers_later ht hp
  refine ⟨q, hq, ?_⟩
  rw [acceptor_step ht, Acceptor.accept_later hl hn]
  exact hn

/-- A connection is taken from the listener only once its peer is settled. -/
def Prompt (http : HttpCrate) (hs : Handshakes) (s : AcceptLoop) (a : AcceptAct) : Prop :=
  a = .accept → ∀ k, s.backlog.head? = some k → s.Settled http hs k

theorem served_settled (h : ∀ j, s.phase.peer = some j → s.Settled http hs j) (hp : Prompt http hs s a)
    (ht : s.step http hs a = some t) : ∀ j, t.phase.peer = some j → t.Settled http hs j := by
  intro j hj
  have keep : s.phase.peer = some j → t.Settled http hs j := fun hs => (h j hs).step ht
  cases step_cases ht with
  | connect address => exact keep hj
  | peer _ _ _ => exact keep hj
  | acceptErr _ => exact keep hj
  | @accept k backlog hph hb =>
    have hkj : k = j := by
      by_cases ha : s.acceptor = .plain <;> simpa [ha, AcceptPhase.peer] using hj
    rw [← hkj]
    exact (hp rfl k (by simp [hb])).step ht
  | tlsDone hph _ _ => exact keep (by simpa [hph, AcceptPhase.peer] using hj)
  | tlsFailed _ _ _ | failed _ _ _ | done _ _ _ | ioErr _ => simp [AcceptPhase.peer] at hj

theorem prompt_settled {acceptor : Acceptor} {as : List AcceptAct}
    (hc : Lts.Along (step http hs) (Prompt http hs) (start acceptor) as)
    (h : Lts.exec (step http hs) (start acceptor) as = some s) (hj : s.phase.peer = some j) :
    s.Settled http hs j := by
  have hinv := Lts.along_inv (I := fun s => ∀ j, s.phase.peer = some j → s.Settled http hs j)
    (by simp [start, AcceptPhase.peer]) (fun s a t _ hi hp ht => served_settled hi hp ht) hc h
  exact hinv j hj

/-- In every reachable state a peer that has sent everything advances if and
only if the loop waits for no other peer, and that is so throughout a run that
takes only settled peers from the listener. -/
theorem accept_loop_advances (http : HttpCrate) (hs : Handshakes) (acceptor : Acceptor) (as : List AcceptAct)
    (s : AcceptLoop) (h : Lts.exec (step http hs) (start acceptor) as = some s) :
    (∀ k, s.Pending k → s.Complete http hs k →
      (s.Advances http hs k ↔ ¬ ∃ j, j ≠ k ∧ s.Waits http hs j)) ∧
    (Lts.Along (step http hs) (Prompt http hs) (start acceptor) as →
      ∀ k, s.Pending k → s.Complete http hs k → s.Advances http hs k) := by
  have g : s.Sound hs := reach_sound ⟨as, h⟩
  constructor
  · intro k hk hc
    exact advances_iff g hk hc
  · intro hp k hk hc
    rw [advances_iff g hk hc]
    intro ⟨j, _, hw⟩
    exact (prompt_settled hp h hw.phase_peer).not_waits g hw

/-! ## The end of the wait -/

theorem Complete.step (h : s.Complete http hs k) (ht : s.step http hs a = some t) : t.Complete http hs k := by
  obtain ⟨p, request, hp, ha⟩ := h
  have hn : s.acceptor.accept http hs k p ≠ .more := by simp [ha]
  obtain ⟨q, hq, hl⟩ := peers_later ht hp
  exact ⟨q, request, hq, by rw [acceptor_step ht, Acceptor.accept_later hl hn, ha]⟩

theorem Pending.of_step (hl : a.isLoop = true) (ht : s.step http hs a = some t) (hk : t.Pending k) :
    s.Pending k := by
  cases step_cases ht with
  | connect address => simp [AcceptAct.isLoop] at hl
  | peer ha _ _ => simp [ha] at hl
  | acceptErr _ | ioErr _ => simp [AcceptAct.isLoop] at hl
  | @accept j backlog hp hb =>
    left
    rw [hb]
    rcases hk with hk | hk
    · exact List.mem_cons_of_mem _ hk
    · have hjk : j = k := by
        by_cases ha : s.acceptor = .plain <;> simpa [ha, AcceptPhase.peer] using hk
      simp [hjk]
  | tlsDone hp _ _ => simpa [Pending, hp, AcceptPhase.peer] using hk
  | tlsFailed _ _ _ | failed _ _ _ | done _ _ _ =>
    left
    simpa [Pending, AcceptPhase.peer] using hk

theorem Complete.leaves (g : s.Sound hs) (hk : s.Pending k) (hc : s.Complete http hs k) (hl : a.isLoop = true)
    (ht : s.step http hs a = some t) (hn : ¬ t.Pending k) : ∃ c ∈ t.accepted, c.peer = k := by
  obtain ⟨p, request, hp, ha⟩ := hc
  have stays : ∀ {u : AcceptLoop}, u.backlog = s.backlog → (∀ j, s.phase.peer = some j → j ≠ k) → u.Pending k := by
    intro u hb hj
    left
    rw [hb]
    rcases hk with hk | hk
    · exact hk
    · exact absurd rfl (hj k hk)
  cases step_cases ht with
  | connect address => simp [AcceptAct.isLoop] at hl
  | peer hpeer _ _ => simp [hpeer] at hl
  | acceptErr _ | ioErr _ => simp [AcceptAct.isLoop] at hl
  | @accept j backlog hph hb =>
    refine absurd ?_ hn
    have hm : k = j ∨ k ∈ backlog := by simpa [Pending, hph, AcceptPhase.peer, hb] using hk
    rcases hm with hm | hm
    · right
      by_cases hplain : s.acceptor = .plain <;> simp [hplain, AcceptPhase.peer, hm]
    · exact .inl hm
  | tlsDone hph _ _ =>
    refine absurd ?_ hn
    simpa [Pending, hph, AcceptPhase.peer] using hk
  | @tlsFailed j q hph hq ho =>
    refine absurd ?_ hn
    apply stays (by rfl)
    intro i hi hik
    have hji : j = i := by simpa [hph, AcceptPhase.peer] using hi
    subst hji hik
    cases hp.symm.trans hq
    simp [Acceptor.accept, ho, Outcome.andThen] at ha
  | @failed j q hph hq ho =>
    refine absurd ?_ hn
    apply stays (by rfl)
    intro i hi hik
    have hji : j = i := by simpa [hph, AcceptPhase.peer] using hi
    subst hji hik
    cases hp.symm.trans hq
    simp [Acceptor.accept, g.tls j p hph hp, ho, Outcome.andThen] at ha
  | @done j q r hph hq ho =>
    by_cases hjk : j = k
    · exact ⟨⟨j, r, q.address⟩, by simp, hjk⟩
    · refine absurd ?_ hn
      apply stays (by rfl)
      intro i hi
      have hji : j = i := by simpa [hph, AcceptPhase.peer] using hi
      rw [← hji]
      exact hjk

/-- Where every pending peer is settled, the loop alone serves each complete
one, in as many steps as its distance. -/
theorem served (n : Nat) : ∀ {s : AcceptLoop}, s.distance k ≤ n → s.Sound hs →
    (∀ j, s.Pending j → s.Settled http hs j) → s.Pending k → s.Complete http hs k →
    ∃ as t, (∀ a ∈ as, a.isLoop = true) ∧ as.length ≤ n ∧ Lts.exec (step http hs) s as = some t ∧
      ∃ c ∈ t.accepted, c.peer = k := by
  induction n with
  | zero =>
    intro s hd g hall hk hc
    obtain ⟨a, t, _, _, hlt⟩ := (advances_iff g hk hc).mpr
      fun ⟨j, _, hw⟩ => (hall j (.inr hw.phase_peer)).not_waits g hw
    omega
  | succ n ih =>
    intro s hd g hall hk hc
    obtain ⟨a, t, hl, ht, hlt⟩ := (advances_iff g hk hc).mpr
      fun ⟨j, _, hw⟩ => (hall j (.inr hw.phase_peer)).not_waits g hw
    by_cases hkt : t.Pending k
    · obtain ⟨as, u, hloop, hlen, hu, hacc⟩ := ih (by omega) (g.step ht)
        (fun j hj => (hall j (hj.of_step hl ht)).step ht) hkt (hc.step ht)
      refine ⟨a :: as, u, ?_, by simpa using hlen, Lts.exec_cons ht hu, hacc⟩
      simpa [hl] using hloop
    · refine ⟨[a], t, by simpa using hl, by simp, Lts.exec_cons ht rfl, hc.leaves g hk hl ht hkt⟩

/-! ## What is accepted -/

/-- `server.accept` is called once for a peer, which has finished its handshakes. -/
structure Faithful (http : HttpCrate) (hs : Handshakes) (s : AcceptLoop) : Prop where
  nodup : (s.accepted.map Accepted.peer).Nodup
  served : ∀ c ∈ s.accepted, ¬ s.Pending c.peer
  sent : ∀ c ∈ s.accepted, ∃ p, s.peers[c.peer]? = some p ∧ p.address = c.address ∧
    s.acceptor.accept http hs c.peer p = .done c.request

theorem Faithful.sent_step (g : s.Faithful http hs) (ht : s.step http hs a = some t) : ∀ c ∈ s.accepted,
    ∃ p, t.peers[c.peer]? = some p ∧ p.address = c.address ∧
    t.acceptor.accept http hs c.peer p = .done c.request := by
  intro c hc
  obtain ⟨p, hp, ha, hd⟩ := g.sent c hc
  obtain ⟨q, hq, hl⟩ := peers_later ht hp
  refine ⟨q, hq, hl.address.trans ha, ?_⟩
  rw [acceptor_step ht, Acceptor.accept_later hl (by simp [hd]), hd]

theorem Faithful.step (g : s.Faithful http hs) (hg : s.Sound hs) (ht : s.step http hs a = some t) :
    t.Faithful http hs := by
  have hsent := g.sent_step ht
  have hlt : ∀ c ∈ s.accepted, c.peer < s.peers.length := by
    intro c hc
    obtain ⟨p, hp, _⟩ := g.sent c hc
    exact lt_of_getElem? hp
  cases step_cases ht with
  | connect address =>
    refine ⟨g.nodup, ?_, hsent⟩
    intro c hc hk
    have := hlt c hc
    simp only [Pending, List.mem_append, List.mem_singleton] at hk
    by_cases he : c.peer = s.peers.length
    · omega
    · exact g.served c hc (by simpa [Pending, he] using hk)
  | peer _ _ _ | acceptErr _ => exact ⟨g.nodup, g.served, hsent⟩
  | accept _ _ | tlsDone _ _ _ | tlsFailed _ _ _ | failed _ _ _ =>
    exact ⟨g.nodup, fun c hc hk => g.served c hc (hk.of_step rfl ht), hsent⟩
  | ioErr _ =>
    refine ⟨g.nodup, ?_, hsent⟩
    intro c hc hk
    apply g.served c hc
    left
    simpa [Pending, AcceptPhase.peer] using hk
  | @done k p request hp hk ho =>
    have hpk : s.phase.peer = some k := by simp [hp, AcceptPhase.peer]
    refine ⟨?_, ?_, ?_⟩
    · rw [List.map_append]
      apply g.nodup.append (List.nodup_singleton _)
      simp only [List.disjoint_singleton, List.mem_map, not_exists, not_and]
      intro c hc hck
      exact g.served c hc (.inr (by rw [hpk, hck]))
    · intro c hc hpend
      have hm : c.peer ∈ s.backlog := by simpa [Pending, AcceptPhase.peer] using hpend
      rcases List.mem_append.mp hc with hc | hc
      · exact g.served c hc (.inl hm)
      · simp only [List.mem_singleton] at hc
        subst hc
        exact hg.notMem k hpk hm
    · intro c hc
      rcases List.mem_append.mp hc with hc | hc
      · exact hsent c hc
      · simp only [List.mem_singleton] at hc
        subst hc
        refine ⟨p, hk, rfl, ?_⟩
        simp [Acceptor.accept, hg.tls k p hp hk, Outcome.andThen, ho]

/-- Each peer is accepted once at most, when its handshakes are done, with its
own address and with the head of the request that it has sent. -/
theorem accepted_faithful {acceptor : Acceptor} (h : Lts.Reach (step http hs) (start acceptor) s) :
    (s.accepted.map Accepted.peer).Nodup ∧ ∀ c ∈ s.accepted, ∃ p, s.peers[c.peer]? = some p ∧
      p.address = c.address ∧ s.acceptor.accept http hs c.peer p = .done c.request ∧
        hs.websocket s.acceptor c.peer p.sent = .done c.request := by
  have hf : s.Faithful http hs := by
    apply Lts.reach_inv (I := fun s => s.Faithful http hs) _ _ h
    · constructor <;> simp [start]
    · intro u a v hr g hv
      exact g.step (reach_sound hr) hv
  refine ⟨hf.nodup, ?_⟩
  intro c hc
  obtain ⟨p, hp, ha, hd⟩ := hf.sent c hc
  exact ⟨p, hp, ha, hd, Acceptor.accept_done hd⟩

/-! ## A peer that stays silent -/

def requestBytes : List UInt8 :=
  asBytes "GET / HTTP/1.1\r\n" ++ asBytes "Host: localhost\r\n" ++ asBytes "Connection: upgrade\r\n" ++
    asBytes "Upgrade: websocket\r\n" ++ asBytes "Sec-WebSocket-Version: 13\r\n" ++
    asBytes "Sec-WebSocket-Key: dGhlIHNhbXBsZSBub25jZQ==\r\n" ++ asBytes "\r\n"

theorem requestBytes_ne : requestBytes ≠ [] := by
  have hend : asBytes "\r\n" ≠ [] := by decide
  simp [requestBytes, hend]

def requestHead : Request where
  method := .GET
  uri := ⟨"/"⟩
  version := .http11
  headers := MultiMap.empty.appendAll [(.host, .literal "localhost" (by decide)),
    (.connection, .upgrade), (.upgrade, .websocket), (.secWebsocketVersion, .version13),
    (.secWebsocketKey, .sampleKey)]

def knownRequest : Handshakes where
  tls _ _ _ := .failed
  websocket _ _ bytes :=
    if requestBytes <+: bytes then .done requestHead else if bytes <+: requestBytes then .more else .failed
  tls_append _ _ _ _ _ := rfl
  websocket_append _ _ bytes more h := by
    by_cases hp : requestBytes <+: bytes
    · simp [hp, hp.trans (List.prefix_append bytes more)]
    · by_cases hq : bytes <+: requestBytes
      · simp [hp, hq] at h
      · have hp' : ¬ requestBytes <+: bytes ++ more := by
          intro hm
          rcases List.prefix_or_prefix_of_prefix hm (List.prefix_append bytes more) with h | h
          · exact hp h
          · exact hq h
        have hq' : ¬ bytes ++ more <+: requestBytes := fun hm => hq ((List.prefix_append bytes more).trans hm)
        simp [hp, hq, hp', hq']

theorem plain_accept (k : Nat) (address : SocketAddr) (closed : Bool) :
    Acceptor.plain.accept .standard knownRequest k ⟨address, requestBytes, closed⟩ = .done requestHead := by
  have hb : callback .standard requestHead = .done requestHead := by
    unfold callback
    rw [Request.rebuild_room .standard (fun _ => rfl)]
  simp only [Acceptor.accept, Acceptor.tlsOutcome, Outcome.andThen, Acceptor.websocketOutcome, knownRequest,
    List.prefix_rfl, ite_true, TcpStream.read, hb]

/-- Two plain connections, of which the loop has taken the first. -/
def twoPeers (first second : List UInt8) : AcceptLoop where
  acceptor := .plain
  peers := [⟨⟨"a"⟩, first, false⟩, ⟨⟨"b"⟩, second, false⟩]
  backlog := [1]
  phase := .websocket 0
  accepted := []

def promptRun (bytes : List UInt8) : List AcceptAct :=
  [.connect ⟨"a"⟩, .connect ⟨"b"⟩, .send 0 bytes, .send 1 bytes, .accept]

def silentRun (bytes : List UInt8) : List AcceptAct := [.connect ⟨"a"⟩, .connect ⟨"b"⟩, .accept, .send 1 bytes]

theorem exec_promptRun (bytes : List UInt8) :
    Lts.exec (step .standard knownRequest) (start .plain) (promptRun bytes) = some (twoPeers bytes bytes) := rfl

theorem exec_silentRun (bytes : List UInt8) :
    Lts.exec (step .standard knownRequest) (start .plain) (silentRun bytes) = some (twoPeers [] bytes) := rfl

theorem along_promptRun (bytes : List UInt8)
    (h : ∀ s : AcceptLoop, s.acceptor = .plain → s.peers[0]? = some ⟨⟨"a"⟩, bytes, false⟩ →
      s.Settled .standard knownRequest 0) :
    Lts.Along (step .standard knownRequest) (Prompt .standard knownRequest) (start .plain) (promptRun bytes) := by
  refine Lts.along_cons (by intro h; cases h) rfl (Lts.along_cons (by intro h; cases h) rfl
    (Lts.along_cons (by intro h; cases h) rfl (Lts.along_cons (by intro h; cases h) rfl
      (Lts.along_cons ?_ rfl trivial))))
  intro _ k hk
  cases hk
  exact h _ rfl rfl

theorem complete_known {s : AcceptLoop} {address : SocketAddr} {closed : Bool} (ha : s.acceptor = .plain)
    (hp : s.peers[k]? = some ⟨address, requestBytes, closed⟩) : s.Complete .standard knownRequest k :=
  ⟨_, requestHead, hp, by rw [ha]; exact plain_accept k _ _⟩

theorem accept_loop_advances_second : (twoPeers requestBytes requestBytes).Advances .standard knownRequest 1 :=
  (accept_loop_advances .standard knownRequest .plain (promptRun requestBytes) _ (exec_promptRun requestBytes)).2
    (along_promptRun requestBytes fun _ ha hp => (complete_known ha hp).settled) 1 (.inl List.mem_cons_self)
    (complete_known rfl rfl)

/-- The first peer never sends a byte, the second has sent its whole request. -/
theorem silent_peer_blocks :
    Lts.exec (step .standard knownRequest) (start .plain) (silentRun requestBytes) =
    some (twoPeers [] requestBytes) ∧
    (twoPeers [] requestBytes).Pending 1 ∧ (twoPeers [] requestBytes).Complete .standard knownRequest 1 ∧
    ¬ (twoPeers [] requestBytes).Advances .standard knownRequest 1 := by
  refine ⟨exec_silentRun requestBytes, .inl List.mem_cons_self, complete_known rfl rfl, ?_⟩
  have hw : (twoPeers [] requestBytes).Waits .standard knownRequest 0 := by
    refine ⟨_, rfl, .inr ⟨rfl, ?_⟩⟩
    simp [Acceptor.websocketOutcome, knownRequest, requestBytes_ne, TcpStream.read, Outcome.andThen]
  intro ⟨a, t, hl, ht, _⟩
  have hstuck := hw.stuck hl
  cases hstuck.symm.trans ht

end AcceptLoop

end Ezsockets
