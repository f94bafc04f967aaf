import Ezsockets.ClientStep
import Mathlib.Data.List.Chain

/-!
# One call of `client_connect`

`ClientActor` counts its attempts with a number. Here the counter is the
`usize` of `for i in 1..`: the range computes the successor of each value it
yields, and that overflows with `usize::MAX` (`next`). The limit is compared
only after an attempt has failed. So a call of `client_connect` keeps to its
limit as long as its range does not come to `usize::MAX` and a limit of zero
is not put to the test (`Within`, `connect_respects_iff`).
-/

namespace Ezsockets

inductive ConnectEvent where
  | attempt (i : Nat)
  | failed (error : WSError)
  | onConnect
  | onConnectFail (error : WSError)
  | answered (res : Except Error ClientCloseMode)
  | sleep

def ConnectEvent.isAttempt : ConnectEvent → Bool
  | .attempt _ => true
  | _ => false

def ConnectEvent.isReconnect : ConnectEvent → Bool
  | .answered (.ok .reconnect) => true
  | _ => false

def ConnectEvent.isSleep : ConnectEvent → Bool
  | .sleep => true
  | _ => false

/-- Where the call returns, in the order of the source. -/
inductive ConnectExit where
  | closedItself
  | clientDied
  | onConnectErr (err : Error)
  | connected (socket : Socket)
  | onConnectFailErr (err : Error)
  | onConnectFailClose
  | exhausted (i : Nat)
  | afterLoop

def ConnectExit.result : ConnectExit → Except Error (Option Socket)
  | .closedItself | .onConnectFailClose => .ok none
  | .clientDied => .error ClientActor.clientDied
  | .onConnectErr err | .onConnectFailErr err => .error err
  | .connected socket => .ok (some socket)
  | .exhausted i => .error (ClientActor.attemptsExhausted i)
  | .afterLoop => .error "client failed to connect"

inductive ConnectPhase where
  | next
  | drain (i : Nat)
  | connecting (i : Nat)
  | onConnect
  | onConnectFail (i : Nat)
  | sleeping
  | returned (exit : ConnectExit)
  | panicked

/-- `range` is the value that the loop's counter yields next. -/
structure Connect where
  config : ClientConfig
  toSocket : Chan InMessage
  clients : Bool
  range : Nat
  overflowed : Bool
  phase : ConnectPhase
  log : List ConnectEvent

inductive ConnectAct where
  | send (inmessage : InMessage)
  | dropClients
  | next
  | tryRecv
  | connect (res : Except WSError Unit)
  | onConnectReturn (res : Except Error Unit)
  | onConnectFailReturn (res : Except Error ClientCloseMode)
  | slept
  | panic

namespace Connect

def start (config : ClientConfig) (toSocket : Chan InMessage) (clients : Bool) : Connect where
  config := config
  toSocket := toSocket
  clients := clients
  range := 1
  overflowed := false
  phase := .next
  log := []

def event (s : Connect) (e : ConnectEvent) : Connect := { s with log := s.log ++ [e] }

def exit (s : Connect) (e : ConnectExit) : Connect := { s with phase := .returned e }

-- `RangeFrom::next`: the value, and the start of what is left of the range
def rangeNext (usizeMax range : Nat) : Option (Nat × Nat) := some (range, (range + 1) % (usizeMax + 1))

-- with overflow checks the addition panics, without them it wraps
def next (usizeMax : Nat) (checks : Bool) (s : Connect) : Connect :=
  match rangeNext usizeMax s.range with
  | none => s.exit .afterLoop
  | some (i, range) =>
    if s.range + 1 ≤ usizeMax then { s with phase := .drain i, range := range }
    else if checks then { s with phase := .panicked, overflowed := true }
    else { s with phase := .drain i, range := range, overflowed := true }

def tryRecv (s : Connect) (i : Nat) : Connect :=
  match s.toSocket.pop? with
  | some (inmessage, c) =>
    match inmessage.closeFrame with
    | some _ => { s with toSocket := c }.exit .closedItself
    | none => { s with toSocket := c }
  | none => if s.clients then { s.event (.attempt i) with phase := .connecting i } else s.exit .clientDied

def onConnectFailReturn (maxAttempts : Nat) (s : Connect) (i : Nat) (res : Except Error ClientCloseMode) :
    Connect :=
  let s := s.event (.answered res)
  match res with
  | .error err => s.exit (.onConnectFailErr err)
  | .ok .close => s.exit .onConnectFailClose
  | .ok .reconnect => if i ≥ maxAttempts then s.exit (.exhausted i) else { s.event .sleep with phase := .sleeping }

def step (usizeMax : Nat) (checks : Bool) (maxAttempts : Nat) (s : Connect) : ConnectAct → Option Connect
  | .send inmessage => if s.clients then some { s with toSocket := s.toSocket.push inmessage } else none
  | .dropClients => some { s with clients := false }
  | .next =>
    match s.phase with
    | .next => some (s.next usizeMax checks)
    | _ => none
  | .tryRecv =>
    match s.phase with
    | .drain i => some (s.tryRecv i)
    | _ => none
  | .connect res =>
    match s.phase, res with
    | .connecting _, .ok () => some { s.event .onConnect with phase := .onConnect }
    | .connecting i, .error err =>
      some { (s.event (.failed err)).event (.onConnectFail err) with phase := .onConnectFail i }
    | _, _ => none
  | .onConnectReturn res =>
    match s.phase, res with
    | .onConnect, .ok () => some (s.exit (.connected (.new s.config.socket)))
    | .onConnect, .error err => some (s.exit (.onConnectErr err))
    | _, _ => none
  | .onConnectFailReturn res =>
    match s.phase with
    | .onConnectFail i => some (s.onConnectFailReturn maxAttempts i res)
    | _ => none
  | .slept =>
    match s.phase with
    | .sleeping => some { s with phase := .next }
    | _ => none
  | .panic =>
    match s.phase with
    | .onConnect | .onConnectFail _ => some { s with phase := .panicked }
    | _ => none

/-! ## What a step can do -/

variable {usizeMax n : Nat} {checks : Bool} {s t : Connect}

inductive Step (usizeMax : Nat) (checks : Bool) (n : Nat) (s : Connect) : ConnectAct → Connect → Prop
  | send (m : InMessage) : Step usizeMax checks n s (.send m) { s with toSocket := s.toSocket.push m }
  | dropClients : Step usizeMax checks n s .dropClients { s with clients := false }
  | next : s.phase = .next → s.range + 1 ≤ usizeMax →
      Step usizeMax checks n s .next { s with phase := .drain s.range, range := s.range + 1 }
  | overflow {u} : s.phase = .next → usizeMax < s.range + 1 → u.overflowed = true → Step usizeMax checks n s .next u
  | drainMessage {i m c} : s.phase = .drain i → s.toSocket.pop? = some (m, c) → m.closeFrame = none →
      Step usizeMax checks n s .tryRecv { s with toSocket := c }
  | drainClose {i m c frame} : s.phase = .drain i → s.toSocket.pop? = some (m, c) → m.closeFrame = some frame →
      Step usizeMax checks n s .tryRecv ({ s with toSocket := c }.exit .closedItself)
  | drainEmpty {i} : s.phase = .drain i → s.toSocket.queue = [] → s.clients = true →
      Step usizeMax checks n s .tryRecv { s.event (.attempt i) with phase := .connecting i }
  | drainDead {i} : s.phase = .drain i → s.toSocket.queue = [] → s.clients = false →
      Step usizeMax checks n s .tryRecv (s.exit .clientDied)
  | connected {i} : s.phase = .connecting i →
      Step usizeMax checks n s (.connect (.ok ())) { s.event .onConnect with phase := .onConnect }
  | connectFailed {i} (err : WSError) : s.phase = .connecting i → Step usizeMax checks n s (.connect (.error err))
      { (s.event (.failed err)).event (.onConnectFail err) with phase := .onConnectFail i }
  | onConnectOk : s.phase = .onConnect →
      Step usizeMax checks n s (.onConnectReturn (.ok ())) (s.exit (.connected (.new s.config.socket)))
  | onConnectErr (err : Error) : s.phase = .onConnect →
      Step usizeMax checks n s (.onConnectReturn (.error err)) (s.exit (.onConnectErr err))
  | exhausted {i} : s.phase = .onConnectFail i → n ≤ i →
      Step usizeMax checks n s (.onConnectFailReturn (.ok .reconnect))
        ((s.event (.answered (.ok .reconnect))).exit (.exhausted i))
  | retry {i} : s.phase = .onConnectFail i → i < n →
      Step usizeMax checks n s (.onConnectFailReturn (.ok .reconnect))
        { (s.event (.answered (.ok .reconnect))).event .sleep with phase := .sleeping }
  | refused {i e} {res : Except Error ClientCloseMode} : s.phase = .onConnectFail i → res ≠ .ok .reconnect →
      (e = .onConnectFailClose ∨ ∃ err, e = .onConnectFailErr err) →
      Step usizeMax checks n s (.onConnectFailReturn res) ((s.event (.answered res)).exit e)
  | slept : s.phase = .sleeping → Step usizeMax checks n s .slept { s with phase := .next }
  | panic : (s.phase = .onConnect ∨ ∃ i, s.phase = .onConnectFail i) →
      Step usizeMax checks n s .panic { s with phase := .panicked }

theorem next_of_le (hle : s.range + 1 ≤ usizeMax) :
    s.next usizeMax checks = { s with phase := .drain s.range, range := s.range + 1 } := by
  simp only [next, rangeNext, if_pos hle, Nat.mod_eq_of_lt (Nat.lt_succ_of_le hle)]

theorem next_overflow (hlt : usizeMax < s.range + 1) : (s.next usizeMax checks).overflowed = true := by
  simp only [next, rangeNext, if_neg (Nat.not_le.mpr hlt)]
  split <;> rfl

theorem tryRecv_message {i : Nat} {m : InMessage} {c : Chan InMessage} (hq : s.toSocket.pop? = some (m, c))
    (hm : m.closeFrame = none) : s.tryRecv i = { s with toSocket := c } := by
  simp only [tryRecv, hq, hm]

theorem tryRecv_close {i : Nat} {m : InMessage} {c : Chan InMessage} {frame : Option CloseFrame}
    (hq : s.toSocket.pop? = some (m, c)) (hm : m.closeFrame = some frame) :
    s.tryRecv i = { s with toSocket := c }.exit .closedItself := by
  simp only [tryRecv, hq, hm]

theorem tryRecv_empty {i : Nat} (hq : s.toSocket.queue = []) (hc : s.clients = true) :
    s.tryRecv i = { s.event (.attempt i) with phase := .connecting i } := by
  simp only [tryRecv, Chan.pop?_none.mpr hq, if_pos hc]

theorem tryRecv_dead {i : Nat} (hq : s.toSocket.queue = []) (hc : s.clients = false) :
    s.tryRecv i = s.exit .clientDied := by
  simp only [tryRecv, Chan.pop?_none.mpr hq, hc, Bool.false_eq_true, if_false]

theorem retry_of_lt {i : Nat} (hlt : i < n) : s.onConnectFailReturn n i (.ok .reconnect) =
    { (s.event (.answered (.ok .reconnect))).event .sleep with phase := .sleeping } := by
  simp only [onConnectFailReturn, if_neg (Nat.not_le.mpr hlt)]

theorem exhausted_of_le {i : Nat} (hle : n ≤ i) : s.onConnectFailReturn n i (.ok .reconnect) =
    (s.event (.answered (.ok .reconnect))).exit (.exhausted i) := by
  simp only [onConnectFailReturn, if_pos hle]

theorem step_cases {a : ConnectAct} (h : s.step usizeMax checks n a = some t) : Step usizeMax checks n s a t := by
  cases a with
  | send m =>
    obtain ⟨-, h⟩ := Option.ite_none_right_eq_some.mp h
    cases h; exact .send m
  | dropClients => cases h; exact .dropClients
  | next =>
    simp only [step] at h
    split at h
    · rename_i hp
      cases h
      by_cases hle : s.range + 1 ≤ usizeMax
      · rw [next_of_le hle]
        exact .next hp hle
      · exact .overflow hp (Nat.not_le.mp hle) (next_overflow (Nat.not_le.mp hle))
    · cases h
  | tryRecv =>
    simp only [step] at h
    split at h
    · rename_i i hp
      cases h
      cases hq : s.toSocket.pop? with
      | some r =>
        obtain ⟨m, c⟩ := r
        cases hm : m.closeFrame with
        | some frame => rw [tryRecv_close hq hm]; exact .drainClose hp hq hm
        | none => rw [tryRecv_message hq hm]; exact .drainMessage hp hq hm
      | none =>
        have hq := Chan.pop?_none.mp hq
        cases hc : s.clients with
        | true => rw [tryRecv_empty hq hc]; exact .drainEmpty hp hq hc
        | false => rw [tryRecv_dead hq hc]; exact .drainDead hp hq hc
    · cases h
  | connect res =>
    simp only [step] at h
    split at h
    · rename_i hp; cases h; exact .connected hp
    · rename_i hp; cases h; exact .connectFailed _ hp
    · cases h
  | onConnectReturn res =>
    simp only [step] at h
    split at h
    · rename_i hp; cases h; exact .onConnectOk hp
    · rename_i hp; cases h; exact .onConnectErr _ hp
    · cases h
  | onConnectFailReturn res =>
    simp only [step] at h
    split at h
    · rename_i i hp
      cases h
      rcases res with err | (_ | _)
      · exact .refused hp (by simp) (.inr ⟨err, rfl⟩)
      · by_cases hn : n ≤ i
        · rw [exhausted_of_le hn]; exact .exhausted hp hn
        · rw [retry_of_lt (Nat.not_le.mp hn)]; exact .retry hp (Nat.not_le.mp hn)
      · exact .refused hp (by simp) (.inl rfl)
    · cases h
  | slept =>
    simp only [step] at h
    split at h
    · rename_i hp; cases h; exact .slept hp
    · cases h
  | panic =>
    simp only [step] at h
    split at h
    · rename_i hp; cases h; exact .panic (.inl hp)
    · rename_i i hp; cases h; exact .panic (.inr ⟨i, hp⟩)
    · cases h

/-! ## What is promised -/

/-- The state of a call that is allowed `n` attempts. -/
structure Respects (n : Nat) (s : Connect) : Prop where
  attempts : s.log.countP ConnectEvent.isAttempt ≤ n
  failed : ∀ l err r, s.log = l ++ .failed err :: r → ∃ r', r = .onConnectFail err :: r'
  called : ∀ l err r, s.log = l ++ .onConnectFail err :: r → ∃ l', l = l' ++ [.failed err]
  refused : ∀ l res r, s.log = l ++ .answered res :: r → res ≠ .ok .reconnect → r = []
  sleeps : ∀ l i m j r, s.log = l ++ .attempt i :: m ++ .attempt j :: r →
    m.countP ConnectEvent.isAttempt = 0 → m.countP ConnectEvent.isSleep = 1
  exhausted : ∀ e, s.phase = .returned e → ((∃ i, e = .exhausted i) ↔ s.log.countP ConnectEvent.isReconnect = n)
  counter : s.overflowed = false
  loop : s.phase ≠ .returned .afterLoop

/-- Before a step: the range does not yield its last value, and with a limit of zero no attempt begins and nothing
returns. -/
def Within (usizeMax n : Nat) (s : Connect) : ConnectAct → Prop
  | .next => s.range < usizeMax
  | .tryRecv => n = 0 → ∃ m c, s.toSocket.pop? = some (m, c) ∧ m.closeFrame = none
  | _ => True

/-! ## The order of events -/

/-- The events that follow an event. -/
inductive Follows : ConnectEvent → ConnectEvent → Prop
  | failed (i err) : Follows (.attempt i) (.failed err)
  | onConnect (i) : Follows (.attempt i) .onConnect
  | onConnectFail (err) : Follows (.failed err) (.onConnectFail err)
  | answered (err res) : Follows (.onConnectFail err) (.answered res)
  | sleep : Follows (.answered (.ok .reconnect)) .sleep
  | attempt (i) : Follows .sleep (.attempt i)

def After : ConnectPhase → Option ConnectEvent → Prop
  | .next, e | .drain _, e | .sleeping, e => e = some .sleep
  | .connecting i, e => e = some (.attempt i)
  | .onConnect, e => e = some .onConnect
  | .onConnectFail _, e => ∃ err, e = some (.onConnectFail err)
  | .returned _, e | .panicked, e => ∀ err, e ≠ some (.failed err)

/-- How the counter, the attempts and the answers to reconnect go together. Even a limit of zero leaves room for the
first attempt until it begins. -/
def Counts (n range attempts reconnects : Nat) : ConnectPhase → Prop
  | .next | .sleeping => range = attempts + 1 ∧ reconnects = attempts ∧ attempts < max n 1
  | .drain i => i = attempts + 1 ∧ range = i + 1 ∧ reconnects = attempts ∧ attempts < max n 1
  | .connecting i | .onConnectFail i => i = attempts ∧ range = i + 1 ∧ reconnects + 1 = attempts ∧ attempts ≤ n
  | .onConnect | .panicked => attempts ≤ n ∧ reconnects < n
  | .returned (.exhausted i) => attempts ≤ n ∧ reconnects = n ∧ i = n
  | .returned .afterLoop => False
  | .returned _ => attempts ≤ n ∧ reconnects < n

-- the first attempt comes as if after a sleep
def trace (s : Connect) : List ConnectEvent := .sleep :: s.log

structure Tracks (n : Nat) (s : Connect) : Prop where
  chain : s.trace.IsChain Follows
  after : After s.phase s.trace.getLast?
  counts : Counts n s.range (s.log.countP ConnectEvent.isAttempt) (s.log.countP ConnectEvent.isReconnect) s.phase
  counter : s.overflowed = false

theorem start_tracks {config : ClientConfig} {toSocket : Chan InMessage} {clients : Bool} :
    Tracks n (start config toSocket clients) :=
  ⟨.singleton _, rfl, ⟨rfl, rfl, Nat.le_max_right n 1⟩, rfl⟩

theorem event_chain {e : ConnectEvent} (g : s.trace.IsChain Follows)
    (h : ∀ x, s.trace.getLast? = some x → Follows x e) : (s.event e).trace.IsChain Follows := by
  refine List.isChain_append.mpr ⟨g, .singleton _, fun x hx y hy => ?_⟩
  cases hy
  exact h x hx

theorem event_last (s : Connect) (e : ConnectEvent) : (s.event e).trace.getLast? = some e :=
  List.getLast?_concat (l := s.trace)

theorem event_countP (s : Connect) (e : ConnectEvent) (f : ConnectEvent → Bool) :
    (s.event e).log.countP f = s.log.countP f + if f e = true then 1 else 0 := by
  rw [event, List.countP_append, List.countP_singleton]

theorem Tracks.of_event {e : ConnectEvent} {p : ConnectPhase} (hc : (s.event e).trace.IsChain Follows)
    (ha : After p (some e))
    (hn : Counts n s.range (s.log.countP ConnectEvent.isAttempt + if e.isAttempt then 1 else 0)
      (s.log.countP ConnectEvent.isReconnect + if e.isReconnect then 1 else 0) p) (ho : s.overflowed = false) :
    Tracks n { s.event e with phase := p } := by
  refine ⟨hc, ?_, ?_, ho⟩
  · show After p (s.event e).trace.getLast?
    rw [event_last]
    exact ha
  · show Counts n s.range ((s.event e).log.countP _) ((s.event e).log.countP _) p
    rw [event_countP, event_countP]
    exact hn

theorem step_tracks {a : ConnectAct} (hw : Within usizeMax n s a) (g : Tracks n s)
    (h : s.step usizeMax checks n a = some t) : Tracks n t := by
  have hafter := g.after
  have hcounts := g.counts
  -- an empty queue or a `Close` is met only where an attempt is allowed
  have pos {attempts : Nat} (hlt : attempts < max n 1)
      (hq : ¬ ∃ m c, s.toSocket.pop? = some (m, c) ∧ m.closeFrame = none) (ha : a = .tryRecv) : attempts < n := by
    have hn : n ≠ 0 := by
      intro hn
      rw [ha] at hw
      exact hq (hw hn)
    omega
  cases step_cases h with
  | send | dropClients | drainMessage => exact ⟨g.chain, g.after, g.counts, g.counter⟩
  | next hp =>
    rw [hp] at hafter hcounts
    exact ⟨g.chain, hafter, ⟨hcounts.1, rfl, hcounts.2⟩, g.counter⟩
  | overflow hp hlt => exact absurd hw (Nat.not_lt.mpr (Nat.lt_succ_iff.mp hlt))
  | drainClose hp hq hm =>
    rw [hp] at hafter hcounts
    obtain ⟨-, -, hr, hlt⟩ := hcounts
    have hlt := pos hlt (by rw [hq]; rintro ⟨m, c, he, hn⟩; cases he; cases hm.symm.trans hn) rfl
    exact ⟨g.chain, fun err he => (by cases hafter.symm.trans he), ⟨Nat.le_of_lt hlt, hr ▸ hlt⟩, g.counter⟩
  | drainDead hp hq =>
    rw [hp] at hafter hcounts
    obtain ⟨-, -, hr, hlt⟩ := hcounts
    have hlt := pos hlt (by rw [Chan.pop?_none.mpr hq]; rintro ⟨m, c, he, -⟩; cases he) rfl
    exact ⟨g.chain, fun err he => (by cases hafter.symm.trans he), ⟨Nat.le_of_lt hlt, hr ▸ hlt⟩, g.counter⟩
  | drainEmpty hp hq =>
    rw [hp] at hafter hcounts
    obtain ⟨hi, hr, hc, hlt⟩ := hcounts
    have hlt := pos hlt (by rw [Chan.pop?_none.mpr hq]; rintro ⟨m, c, he, -⟩; cases he) rfl
    refine .of_event (event_chain g.chain fun x hx => ?_) rfl ⟨hi, hr, congrArg (· + 1) hc, hlt⟩ g.counter
    cases hafter.symm.trans hx
    exact .attempt _
  | connected hp =>
    rw [hp] at hafter hcounts
    obtain ⟨-, -, hc, hle⟩ := hcounts
    refine .of_event (event_chain g.chain fun x hx => ?_) rfl ⟨hle, by show _ + 0 < n; omega⟩ g.counter
    cases hafter.symm.trans hx
    exact .onConnect _
  | connectFailed err hp =>
    rw [hp] at hafter hcounts
    have hchain : (s.event (.failed err)).trace.IsChain Follows := by
      refine event_chain g.chain fun x hx => ?_
      cases hafter.symm.trans hx
      exact .failed _ _
    refine .of_event (event_chain hchain fun x hx => ?_) ⟨err, rfl⟩ ?_ g.counter
    · cases (event_last _ _).symm.trans hx
      exact .onConnectFail _
    · rw [event_countP, event_countP]
      exact hcounts
  | onConnectOk hp | onConnectErr _ hp =>
    rw [hp] at hafter hcounts
    exact ⟨g.chain, fun err he => (by cases hafter.symm.trans he), hcounts, g.counter⟩
  | exhausted hp hle =>
    rw [hp] at hafter hcounts
    obtain ⟨err, hafter⟩ := hafter
    obtain ⟨hi, -, hc, hle'⟩ := hcounts
    refine .of_event (event_chain g.chain fun x hx => ?_) (fun _ he => by cases he)
      ⟨hle', by show _ + 1 = n; omega, by omega⟩ g.counter
    cases hafter.symm.trans hx
    exact .answered _ _
  | retry hp hlt =>
    rw [hp] at hafter hcounts
    obtain ⟨err, hafter⟩ := hafter
    obtain ⟨hi, hr, hc, -⟩ := hcounts
    have hchain : (s.event (.answered (.ok .reconnect))).trace.IsChain Follows := by
      refine event_chain g.chain fun x hx => ?_
      cases hafter.symm.trans hx
      exact .answered _ _
    refine .of_event (event_chain hchain fun x hx => ?_) rfl ?_ g.counter
    · cases (event_last _ _).symm.trans hx
      exact .sleep
    · rw [event_countP, event_countP, ← hi]
      exact ⟨hr, hc.trans hi.symm, Nat.lt_of_lt_of_le hlt (Nat.le_max_left n 1)⟩
  | @refused i e res hp hres he =>
    rw [hp] at hafter hcounts
    obtain ⟨err, hafter⟩ := hafter
    obtain ⟨-, -, hc, hle⟩ := hcounts
    have hr : (ConnectEvent.answered res).isReconnect = false := by
      rcases res with _ | (_ | _)
      · rfl
      · exact absurd rfl hres
      · rfl
    have hlt : s.log.countP ConnectEvent.isReconnect < n := by omega
    refine .of_event (event_chain g.chain fun x hx => ?_) (fun _ he => by cases he) ?_ g.counter
    · cases hafter.symm.trans hx
      exact .answered _ _
    · rw [hr]
      rcases he with rfl | ⟨err, rfl⟩
      · exact ⟨hle, hlt⟩
      · exact ⟨hle, hlt⟩
  | slept hp =>
    rw [hp] at hafter hcounts
    exact ⟨g.chain, hafter, hcounts, g.counter⟩
  | panic hp =>
    rcases hp with hp | ⟨i, hp⟩
    · rw [hp] at hafter hcounts
      exact ⟨g.chain, fun err he => (by cases hafter.symm.trans he), hcounts, g.counter⟩
    · rw [hp] at hafter hcounts
      obtain ⟨err, hafter⟩ := hafter
      obtain ⟨-, -, hc, hle⟩ := hcounts
      have hlt : s.log.countP ConnectEvent.isReconnect < n := by omega
      exact ⟨g.chain, fun err he => (by cases hafter.symm.trans he), ⟨hle, hlt⟩, g.counter⟩

theorem Counts.attempts_le {p : ConnectPhase} {range attempts reconnects : Nat}
    (g : Counts n range attempts reconnects p) : attempts ≤ n := by
  cases p with
  | next | sleeping =>
    have hlt := g.2.2
    omega
  | drain =>
    have hlt := g.2.2.2
    omega
  | connecting | onConnectFail => exact g.2.2.2
  | onConnect | panicked => exact g.1
  | returned e =>
    cases e with
    | afterLoop => exact g.elim
    | _ => exact g.1

theorem Counts.exhausted_iff {e : ConnectExit} {range attempts reconnects : Nat}
    (g : Counts n range attempts reconnects (.returned e)) : (∃ i, e = .exhausted i) ↔ reconnects = n := by
  cases e with
  | exhausted i => exact iff_of_true ⟨i, rfl⟩ g.2.1
  | afterLoop => exact g.elim
  | _ => exact iff_of_false (fun ⟨i, hi⟩ => by cases hi) (Nat.ne_of_lt g.2)

theorem After.not_failed {p : ConnectPhase} {err : WSError} (g : After p (some (.failed err))) : False := by
  cases p with
  | returned | panicked => exact g err rfl
  | onConnectFail => obtain ⟨_, he⟩ := g; cases he
  | _ => cases g

/-- After an attempt that failed there is one sleep before the next. -/
theorem between {i j : Nat} {m r : List ConnectEvent} (h : (.attempt i :: (m ++ .attempt j :: r)).IsChain Follows)
    (hm : m.countP ConnectEvent.isAttempt = 0) : m.countP ConnectEvent.isSleep = 1 := by
  -- what follows the first of two events, if neither ends the list
  have next : ∀ {a : ConnectEvent} {m : List ConnectEvent}, (a :: (m ++ .attempt j :: r)).IsChain Follows →
      Follows a (.attempt j) ∧ m = [] ∨
        ∃ b m', m = b :: m' ∧ Follows a b ∧ (b :: (m' ++ .attempt j :: r)).IsChain Follows := by
    intro a m h
    cases m with
    | nil => exact .inl ⟨(List.isChain_cons_cons.mp h).1, rfl⟩
    | cons b m => exact .inr ⟨b, m, rfl, List.isChain_cons_cons.mp h⟩
  rcases next h with ⟨hf, -⟩ | ⟨_, m₁, rfl, hf, h₁⟩
  · cases hf
  cases hf with
  | onConnect => rcases next h₁ with ⟨hf, -⟩ | ⟨_, _, _, hf, -⟩ <;> cases hf
  | failed _ err =>
    rcases next h₁ with ⟨hf, -⟩ | ⟨_, m₂, rfl, hf, h₂⟩
    · cases hf
    cases hf
    rcases next h₂ with ⟨hf, -⟩ | ⟨_, m₃, rfl, hf, h₃⟩
    · cases hf
    cases hf with
    | answered _ res =>
      rcases next h₃ with ⟨hf, -⟩ | ⟨_, m₄, rfl, hf, h₄⟩
      · cases hf
      cases hf
      rcases next h₄ with ⟨-, rfl⟩ | ⟨_, m₅, rfl, hf, -⟩
      · rfl
      · cases hf
        simp [ConnectEvent.isAttempt] at hm

theorem Tracks.respects (g : Tracks n s) : Respects n s := by
  obtain ⟨hchain, hafter, hcounts, hover⟩ := g
  have next : ∀ {l a b r}, s.log = l ++ a :: b :: r → Follows a b := by
    intro l a b r he
    rw [trace, he, ← List.cons_append] at hchain
    exact (List.isChain_append_cons_cons.mp hchain).2.1
  refine ⟨hcounts.attempts_le, ?_, ?_, ?_, ?_, fun e he => (he ▸ hcounts).exhausted_iff, hover, ?_⟩
  · intro l err r he
    cases r with
    | nil =>
      rw [trace, he, ← List.cons_append, List.getLast?_concat] at hafter
      exact hafter.not_failed.elim
    | cons x r =>
      cases next he
      exact ⟨r, rfl⟩
  · intro l err r he
    rcases List.eq_nil_or_concat l with rfl | ⟨l, x, rfl⟩
    · rw [trace, he] at hchain
      cases (List.isChain_cons_cons.mp hchain).1
    · rw [List.concat_eq_append, List.append_assoc] at he
      cases next he
      exact ⟨l, List.concat_eq_append⟩
  · intro l res r he hres
    cases r with
    | nil => rfl
    | cons x r =>
      cases next he
      exact absurd rfl hres
  · intro l i m j r he hm
    rw [List.append_assoc] at he
    rw [trace, he, ← List.cons_append] at hchain
    exact between (List.isChain_append.mp hchain).2.1 hm
  · intro hp
    rw [hp] at hcounts
    exact hcounts

/-! ## The limits of the limit -/

variable {config : ClientConfig} {toSocket : Chan InMessage} {clients : Bool}

theorem run_tracks {as : List ConnectAct}
    (hw : Lts.Along (step usizeMax checks n) (Within usizeMax n) (start config toSocket clients) as)
    (h : Lts.exec (step usizeMax checks n) (start config toSocket clients) as = some s) : Tracks n s :=
  Lts.along_inv start_tracks (fun _ _ _ _ g hw h => step_tracks hw g h) hw h

/-- What a step outside `Within` breaks. -/
structure Limited (n : Nat) (s : Connect) : Prop where
  attempts : s.log.countP ConnectEvent.isAttempt ≤ n
  exhausted : ∀ e, s.phase = .returned e → ((∃ i, e = .exhausted i) ↔ s.log.countP ConnectEvent.isReconnect = n)
  counter : s.overflowed = false

theorem Respects.limited (g : Respects n s) : Limited n s := ⟨g.attempts, g.exhausted, g.counter⟩

theorem Limited.before {e : ConnectEvent} {p : ConnectPhase} (g : Limited n { s.event e with phase := p })
    (hp : ∀ e, s.phase ≠ .returned e) : Limited n s := by
  refine ⟨?_, fun e he => absurd he (hp e), g.counter⟩
  have hle := g.attempts
  have he : ({ s.event e with phase := p } : Connect).log = (s.event e).log := rfl
  rw [he, event_countP] at hle
  exact Nat.le_of_add_right_le hle

/-- It is broken for good. -/
theorem limited_of_step {a : ConnectAct} (h : s.step usizeMax checks n a = some t) (g : Limited n t) :
    Limited n s := by
  have off {p : ConnectPhase} (hp : s.phase = p) (hn : ∀ e, p ≠ .returned e) (e : ConnectExit) :
      s.phase ≠ .returned e := by
    rw [hp]
    exact hn e
  cases step_cases h with
  | send | dropClients | drainMessage => exact ⟨g.attempts, g.exhausted, g.counter⟩
  | overflow hp hlt ho => cases ho.symm.trans g.counter
  | next hp | drainClose hp | drainDead hp | onConnectOk hp | onConnectErr _ hp | slept hp =>
    exact ⟨g.attempts, fun e he => absurd he (off hp (fun _ => by simp) e), g.counter⟩
  | drainEmpty hp | connected hp | exhausted hp | refused hp => exact g.before (off hp fun _ => by simp)
  | connectFailed err hp =>
    have hf : Limited n (s.event (.failed err)) := Limited.before g (off hp fun _ => by simp)
    exact Limited.before (p := s.phase) hf (off hp fun _ => by simp)
  | retry hp =>
    have hr : Limited n (s.event (.answered (.ok .reconnect))) := Limited.before g (off hp fun _ => by simp)
    exact Limited.before (p := s.phase) hr (off hp fun _ => by simp)
  | panic hp =>
    refine ⟨g.attempts, fun e he => ?_, g.counter⟩
    rcases hp with hp | ⟨i, hp⟩ <;> rw [hp] at he <;> cases he

theorem within_of_limited {a : ConnectAct} (gs : Tracks n s) (h : s.step usizeMax checks n a = some t)
    (g : Limited n t) : Within usizeMax n s a := by
  have hcounts := gs.counts
  -- with a limit of zero nothing may return
  have never {e : ConnectExit} (hn : n = 0) (hr : s.log.countP ConnectEvent.isReconnect = s.log.countP
      ConnectEvent.isAttempt) (hlt : s.log.countP ConnectEvent.isAttempt < max n 1) (ht : t.phase = .returned e)
      (hl : t.log = s.log) (he : ∀ i, e ≠ .exhausted i) : False := by
    have hz : t.log.countP ConnectEvent.isReconnect = n := by
      rw [hl]
      omega
    obtain ⟨i, hi⟩ := (g.exhausted e ht).mpr hz
    exact he i hi
  cases step_cases h with
  | next hp hle => exact hle
  | overflow hp hlt ho => cases ho.symm.trans g.counter
  | drainMessage hp hq hm => exact fun _ => ⟨_, _, hq, hm⟩
  | drainClose hp =>
    rw [hp] at hcounts
    exact fun hn => (never hn hcounts.2.2.1 hcounts.2.2.2 rfl rfl (by simp)).elim
  | drainDead hp =>
    rw [hp] at hcounts
    exact fun hn => (never hn hcounts.2.2.1 hcounts.2.2.2 rfl rfl (by simp)).elim
  | @drainEmpty i hp =>
    intro hn
    have hle := g.attempts
    have he : ({ s.event (.attempt i) with phase := .connecting i } : Connect).log =
      (s.event (.attempt i)).log := rfl
    rw [he, event_countP, hn] at hle
    cases hle
  | _ => trivial

theorem run_within {as : List ConnectAct}
    (h : Lts.exec (step usizeMax checks n) (start config toSocket clients) as = some s) (g : Limited n s) :
    Lts.Along (step usizeMax checks n) (Within usizeMax n) (start config toSocket clients) as := by
  refine Lts.run_inv (I := fun as s => Limited n s →
    Lts.Along (step usizeMax checks n) (Within usizeMax n) (start config toSocket clients) as)
    (fun _ => trivial) ?_ h g
  intro as s a t hs ih ht g
  have hw := ih (limited_of_step ht g)
  exact Lts.along_append hw hs (Lts.along_cons (within_of_limited (run_tracks hw hs) ht g) ht trivial)

/-- Between zero and `usize::MAX` every call stays within. -/
theorem run_within_of_lt (h₀ : 0 < n) (hn : n < usizeMax) {as : List ConnectAct}
    (h : Lts.exec (step usizeMax checks n) (start config toSocket clients) as = some s) :
    Lts.Along (step usizeMax checks n) (Within usizeMax n) (start config toSocket clients) as := by
  refine Lts.run_inv (I := fun as _ =>
    Lts.Along (step usizeMax checks n) (Within usizeMax n) (start config toSocket clients) as) trivial ?_ h
  intro as s a t hs hw ht
  refine Lts.along_append hw hs (Lts.along_cons ?_ ht trivial)
  have hcounts := (run_tracks hw hs).counts
  cases step_cases ht with
  | next hp hle => exact hle
  | overflow hp hlt =>
    rw [hp] at hcounts
    obtain ⟨hr, -, hlt'⟩ := hcounts
    omega
  | drainMessage | drainClose | drainEmpty | drainDead => exact fun hz => absurd hz (Nat.ne_of_gt h₀)
  | _ => trivial

theorem reach_tracks (h₀ : 0 < n) (hn : n < usizeMax)
    (h : Lts.Reach (step usizeMax checks n) (start config toSocket clients) s) : Tracks n s := by
  obtain ⟨as, h⟩ := h
  exact run_tracks (run_within_of_lt h₀ hn h) h

theorem fail_again (checks : Bool) (config : ClientConfig) {range : Nat} (log : List ConnectEvent)
    (h : range < n) (hr : range < usizeMax) :
    ∃ log', Lts.Reach (step usizeMax checks n) ⟨config, .empty, true, range, false, .next, log⟩
      ⟨config, .empty, true, range + 1, false, .next, log'⟩ := by
  let u₁ : Connect := ⟨config, .empty, true, range + 1, false, .drain range, log⟩
  let u₂ : Connect := { u₁.event (.attempt range) with phase := .connecting range }
  let u₃ : Connect := { (u₂.event (.failed .connectionClosed)).event (.onConnectFail .connectionClosed) with
    phase := .onConnectFail range }
  let u₄ : Connect := { (u₃.event (.answered (.ok .reconnect))).event .sleep with phase := .sleeping }
  have h₁ : step usizeMax checks n ⟨config, .empty, true, range, false, .next, log⟩ .next = some u₁ :=
    congrArg some (next_of_le hr)
  have h₂ : step usizeMax checks n u₁ .tryRecv = some u₂ := rfl
  have h₃ : step usizeMax checks n u₂ (.connect (.error .connectionClosed)) = some u₃ := rfl
  have h₄ : step usizeMax checks n u₃ (.onConnectFailReturn (.ok .reconnect)) = some u₄ :=
    congrArg some (retry_of_lt h)
  have h₅ : step usizeMax checks n u₄ .slept = some { u₄ with phase := .next } := rfl
  exact ⟨u₄.log, ((((Lts.Reach.single h₁).tail h₂).tail h₃).tail h₄).tail h₅⟩

theorem fail_until (checks : Bool) (config : ClientConfig) (hn : n = usizeMax) (k : Nat) (hk : k < n) :
    ∃ log, Lts.Reach (step usizeMax checks n) (start config .empty true)
      ⟨config, .empty, true, k + 1, false, .next, log⟩ := by
  induction k with
  | zero => exact ⟨[], .refl _⟩
  | succ k ih =>
    obtain ⟨log, hr⟩ := ih (Nat.lt_of_succ_lt hk)
    obtain ⟨log', hr'⟩ := fail_again checks config log hk (hn ▸ hk)
    exact ⟨log', hr.trans hr'⟩

/-- With no attempt allowed one is made, unless the counter overflows before it. -/
theorem none_allowed (usizeMax : Nat) (checks : Bool) (config : ClientConfig) :
    ∃ s, Lts.Reach (step usizeMax checks 0) (start config .empty true) s ∧ ¬ Respects 0 s := by
  by_cases hle : 2 ≤ usizeMax
  · let u : Connect := ⟨config, .empty, true, 2, false, .drain 1, []⟩
    have h₁ : step usizeMax checks 0 (start config .empty true) .next = some u := congrArg some (next_of_le hle)
    have h₂ : step usizeMax checks 0 u .tryRecv = some { u.event (.attempt 1) with phase := .connecting 1 } := rfl
    exact ⟨_, (Lts.Reach.single h₁).tail h₂, fun g => absurd g.attempts (Nat.not_succ_le_zero 0)⟩
  · have ho : ((start config .empty true).next usizeMax checks).overflowed = true :=
      next_overflow (Nat.not_le.mp hle)
    have h₁ : step usizeMax checks 0 (start config .empty true) .next = some _ := rfl
    exact ⟨_, .single h₁, fun g => by cases ho.symm.trans g.counter⟩

theorem all_allowed (checks : Bool) (config : ClientConfig) (hn : 0 < n) :
    ∃ s, Lts.Reach (step n checks n) (start config .empty true) s ∧ s.overflowed = true := by
  obtain ⟨log, hr⟩ := fail_until checks config rfl (n - 1) (Nat.sub_one_lt_of_lt hn)
  refine ⟨_, hr.tail (a := .next) rfl, next_overflow ?_⟩
  show n < n - 1 + 1 + 1
  omega

/-- A call of `client_connect` keeps to its limit if and only if it stays `Within`: a limit between zero and
`usize::MAX` is kept by every call, and by no other. -/
theorem connect_respects_iff (usizeMax : Nat) (checks : Bool) {n : Nat} (hn : n ≤ usizeMax) :
    (∀ config toSocket clients as s, Lts.exec (step usizeMax checks n) (start config toSocket clients) as = some s →
      (Respects n s ↔
        Lts.Along (step usizeMax checks n) (Within usizeMax n) (start config toSocket clients) as)) ∧
    ((∀ config toSocket clients s, Lts.Reach (step usizeMax checks n) (start config toSocket clients) s →
      Respects n s) ↔ 0 < n ∧ n < usizeMax) := by
  refine ⟨fun config toSocket clients as s h => ⟨fun g => run_within h g.limited, fun hw => ?_⟩, fun h => ?_, ?_⟩
  · exact (run_tracks hw h).respects
  · have h₀ : 0 < n := by
      rcases Nat.eq_zero_or_pos n with rfl | h₀
      · obtain ⟨s, hs, hbad⟩ := none_allowed usizeMax checks ⟨0, 0, none⟩
        exact absurd (h _ _ _ s hs) hbad
      · exact h₀
    refine ⟨h₀, ?_⟩
    rcases Nat.lt_or_eq_of_le hn with hlt | rfl
    · exact hlt
    · obtain ⟨s, hs, ho⟩ := all_allowed checks ⟨0, 0, none⟩ h₀
      cases ho.symm.trans (h _ _ _ s hs).counter
  · rintro ⟨h₀, hlt⟩ config toSocket clients s h
    exact (reach_tracks h₀ hlt h).respects

/-- By default no limit is set, and the first attempt succeeds. -/
theorem connect_respects_default : ∃ s, Lts.exec (step (2 ^ 64 - 1) true (2 ^ 64 - 1))
    (start ⟨2 ^ 64 - 1, 2 ^ 64 - 1, none⟩ .empty true)
    [.next, .tryRecv, .connect (.ok ()), .onConnectReturn (.ok ())] = some s ∧ Respects (2 ^ 64 - 1) s := by
  have h : Lts.exec (step (2 ^ 64 - 1) true (2 ^ 64 - 1)) (start ⟨2 ^ 64 - 1, 2 ^ 64 - 1, none⟩ .empty true)
      [.next, .tryRecv, .connect (.ok ()), .onConnectReturn (.ok ())] = some _ := rfl
  refine ⟨_, h, ((connect_respects_iff (2 ^ 64 - 1) true (Nat.le_refl _)).1 _ _ _ _ _ h).mpr ?_⟩
  refine Lts.along_cons (t := ⟨⟨2 ^ 64 - 1, 2 ^ 64 - 1, none⟩, .empty, true, 2, false, .drain 1, []⟩) ?_ rfl ?_
  · show 1 < 2 ^ 64 - 1
    decide
  · exact ⟨fun h => absurd h (by decide), fun t _ => ⟨trivial, fun u _ => ⟨trivial, fun _ _ => trivial⟩⟩⟩

/-- Zero attempts are allowed and one is made; by default no limit is set, and the counter overflows. -/
theorem connect_limits :
    (∃ s, Lts.Reach (step (2 ^ 64 - 1) true 0) (start ⟨0, 0, none⟩ .empty true) s ∧
      s.log.countP ConnectEvent.isAttempt = 1 ∧ ¬ Respects 0 s) ∧
    (∃ s, Lts.Reach (step (2 ^ 64 - 1) true (2 ^ 64 - 1)) (start ⟨0, 0, none⟩ .empty true) s ∧
      ¬ Respects (2 ^ 64 - 1) s) := by
  refine ⟨⟨_, ⟨[.next, .tryRecv], rfl⟩, rfl, fun g => absurd g.attempts (by decide)⟩, ?_⟩
  obtain ⟨s, hs, ho⟩ := all_allowed (n := 2 ^ 64 - 1) true ⟨0, 0, none⟩ (by decide)
  exact ⟨s, hs, fun g => by cases ho.symm.trans g.counter⟩

end Connect

end Ezsockets
