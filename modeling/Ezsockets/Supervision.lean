import Ezsockets.Lts
import Ezsockets.SocketLemmas

/-!
# The supervisor

`Socket.run` composes the tasks of one socket with everybody who holds a part
of it: the owner, and whoever has a `Sink`. `Supervised` says what the
supervisor has done at each of its stages, in every state of such a run.
-/

namespace Ezsockets

/-- The stage of the supervisor, counted from its start. -/
def Supervisor.stage : Supervisor → Nat
  | .awaitStream => 0
  | .abortSink => 1
  | .abortHeartbeat => 2
  | .awaitSink => 3
  | .sendResult _ => 4
  | .done => 5

/-- The supervisor is at one of its three `send_blocking`. -/
def Supervisor.isSending : Supervisor → Bool
  | .abortSink | .abortHeartbeat | .sendResult _ => true
  | _ => false

/-- A step that waits for the remote: all that `stream.next()` does. -/
def SocketAct.isRemote : SocketAct → Bool
  | .streamNext _ | .streamEnd | .streamPanic => true
  | _ => false

inductive SocketEvent where
  | task (a : SocketAct)
  | send (inmessage : InMessage)
  | sendRaw (inmessage : InRawMessage)
  | recv
  | awaitSinkClose
  | drop
  | cloneSink
  | dropSink

namespace Socket

variable {s t : Socket}

/-- What the supervisor is told by the sink's task: its result, or that it has crashed. -/
def result (s : Socket) : Option (Except WSError Unit) :=
  match s.sink with
  | .ended res => some res
  | .crashed => some (.error .alreadyClosed)
  | _ => none

def held (s : Socket) : Bool := s.owned || 0 < s.sinkClones

def run (s : Socket) : SocketEvent → Option Socket
  | .task a => s.step a
  | .send inmessage => if s.held then some (s.send inmessage).1 else none
  | .sendRaw inmessage => if s.held then some (s.sendRaw inmessage).1 else none
  | .recv => if s.owned then s.recv.map Prod.snd else none
  | .awaitSinkClose => if s.owned then s.awaitSinkClose.map Prod.snd else none
  | .drop => if s.owned then some s.drop else none
  | .cloneSink => if s.held then some s.cloneSink else none
  | .dropSink => if 0 < s.sinkClones then some s.dropSink else none

theorem result_isSome (s : Socket) : s.result.isSome = s.sink.isClosed := by
  unfold result SinkTask.isClosed
  cases s.sink <;> rfl

theorem result_of_sink (h : t.sink = s.sink) : t.result = s.result := by
  unfold result
  rw [h]

@[simp] theorem free_beating : s.free.beating = s.beating := by rw [free_eq]
@[simp] theorem free_sinkAbort : s.free.sinkAbort = s.sinkAbort := by rw [free_eq]
@[simp] theorem free_heartbeatAbort : s.free.heartbeatAbort = s.heartbeatAbort := by rw [free_eq]
@[simp] theorem free_sinkClones : s.free.sinkClones = s.sinkClones := by rw [free_eq]

theorem step_ended {a : SocketAct} (h : s.step a = some t) (hc : s.sink.isClosed = true) : t.sink = s.sink := by
  cases step_cases h with
  | sinkRecvNone hs | sinkRecv hs | sinkRecvClosed hs | sinkSent hs | sinkFailed _ hs | sinkAborted hs
  | sinkPanic hs => simp [hs, SinkTask.isClosed] at hc
  | streamNext item _ => rw [forward_frame]
  | heartbeat _ he => rw [handleHeartbeat_frame he]
  | heartbeatEnd _ he => rw [free_sink, handleHeartbeat_frame he]
  | heartbeatAborted => rw [free_sink]
  | streamEnd | streamPanic => rfl
  | supervise h => rw [supervise_frame h]

theorem step_streaming {a : SocketAct} (h : s.step a = some t) (hs : s.streaming = false) :
    t.streaming = false := by
  cases step_cases h with
  | streamNext _ hn | streamEnd hn | streamPanic hn => cases hs.symm.trans hn
  | heartbeat _ he => rw [handleHeartbeat_frame he]; exact hs
  | heartbeatEnd _ he => rw [free_streaming, handleHeartbeat_frame he]; exact hs
  | supervise h => rw [supervise_frame h]; exact hs
  | _ => simpa using hs

theorem step_beating {a : SocketAct} (h : s.step a = some t) (hs : s.beating = false) : t.beating = false := by
  cases step_cases h with
  | heartbeat hb | heartbeatEnd hb | heartbeatAborted hb => cases hs.symm.trans hb
  | streamNext item _ => rw [forward_frame]; exact hs
  | supervise h => rw [supervise_frame h]; exact hs
  | _ => simpa using hs

theorem step_sinkClones {a : SocketAct} (h : s.step a = some t) : t.sinkClones = s.sinkClones := by
  cases step_cases h with
  | streamNext item _ => rw [forward_frame]
  | heartbeat _ he => rw [handleHeartbeat_frame he]
  | heartbeatEnd _ he => rw [free_sinkClones, handleHeartbeat_frame he]
  | supervise h => rw [supervise_frame h]
  | _ => simp

/-! ## The stages -/

structure Supervised (s : Socket) : Prop where
  stream : 1 ≤ s.supervisor.stage → s.streaming = false
  sinkAbort : s.sinkAbort = true → 2 ≤ s.supervisor.stage
  sinkAborted : 2 ≤ s.supervisor.stage → s.sinkAbort = true ∨ s.sink.isClosed = true
  heartbeatAbort : s.heartbeatAbort = true → 3 ≤ s.supervisor.stage
  heartbeatAborted : 3 ≤ s.supervisor.stage → s.heartbeatAbort = true ∨ s.beating = false
  closed : 4 ≤ s.supervisor.stage → s.sink.isClosed = true
  result : ∀ res, s.supervisor = .sendResult res → s.result = some res
  done : s.sinkResult ≠ none → s.supervisor.stage = 5
  sent : ∀ res, s.sinkResult = some res → s.result = some res
  kept : s.supervisor.stage = 5 → s.owned = true → s.resultTaken = false → s.sinkResult ≠ none
  taken : s.resultTaken = true → s.supervisor.stage = 5

theorem new_supervised (config : SocketConfig) : Supervised (new config) := by
  constructor <;> simp [new, Supervisor.stage]

/-- Whatever leaves the supervisor and its channels alone, and starts nothing again that was over. -/
theorem Supervised.keep (g : Supervised s)
    (hc : t.supervisor = s.supervisor ∧ t.sinkAbort = s.sinkAbort ∧ t.heartbeatAbort = s.heartbeatAbort ∧
      t.sinkResult = s.sinkResult)
    (hs : s.streaming = false → t.streaming = false) (hb : s.beating = false → t.beating = false)
    (he : s.sink.isClosed = true → t.sink = s.sink) (ho : t.owned = true → s.owned = true)
    (ht : t.resultTaken = s.resultTaken) : Supervised t := by
  obtain ⟨hv, ha, hh, hr⟩ := hc
  have hclosed : s.sink.isClosed = true → t.sink.isClosed = true := by
    intro hc
    rw [he hc]; exact hc
  have hresult : ∀ res, s.result = some res → t.result = some res := by
    intro res h
    rw [result_of_sink (he (by rw [← result_isSome, h]; rfl)), h]
  constructor
  · rw [hv]; intro h; exact hs (g.stream h)
  · rw [hv, ha]; exact g.sinkAbort
  · rw [hv, ha]; intro h; exact (g.sinkAborted h).imp_right hclosed
  · rw [hv, hh]; exact g.heartbeatAbort
  · rw [hv, hh]; intro h; exact (g.heartbeatAborted h).imp_right hb
  · rw [hv]; intro h; exact hclosed (g.closed h)
  · rw [hv]; intro res h; exact hresult res (g.result res h)
  · rw [hv, hr]; exact g.done
  · rw [hr]; intro res h; exact hresult res (g.sent res h)
  · rw [hv, hr, ht]; intro h hown; exact g.kept h (ho hown)
  · rw [hv, ht]; exact g.taken

theorem Supervised.not_sent (g : Supervised s) (h : s.supervisor.stage < 5) : s.sinkResult = none := by
  by_cases hr : s.sinkResult = none
  · exact hr
  · have := g.done hr
    omega

/-- One stage further, each when what it waits for has happened. -/
inductive Supervise (s : Socket) : Socket → Prop
  | streamOver : s.supervisor = .awaitStream → s.streaming = false → Supervise s { s with supervisor := .abortSink }
  | sinkOver : s.supervisor = .abortSink → s.sink.isClosed = true →
      Supervise s { s with supervisor := .abortHeartbeat }
  | abortSink : s.supervisor = .abortSink → Supervise s { s with supervisor := .abortHeartbeat, sinkAbort := true }
  | heartbeatOver : s.supervisor = .abortHeartbeat → s.beating = false →
      Supervise s { s with supervisor := .awaitSink }
  | abortHeartbeat : s.supervisor = .abortHeartbeat →
      Supervise s { s with supervisor := .awaitSink, heartbeatAbort := true }
  | joined {res} : s.supervisor = .awaitSink → s.result = some res →
      Supervise s { s with supervisor := .sendResult res }
  | unsent {res} : s.supervisor = .sendResult res → (s.owned = true → s.resultTaken = true) →
      Supervise s { s with supervisor := .done }
  | sent {res} : s.supervisor = .sendResult res → Supervise s { s with supervisor := .done, sinkResult := some res }

theorem supervise_cases (h : s.supervise = some t) : Supervise s t := by
  unfold supervise at h
  split at h
  · rename_i hv
    split at h
    · cases h
    · rename_i hs
      cases h
      exact .streamOver hv (by simpa using hs)
  · rename_i hv
    split at h
    · rename_i hc
      cases h
      exact .sinkOver hv hc
    · split at h
      · cases h
      · cases h
        exact .abortSink hv
  · rename_i hv
    split at h
    · rename_i hb
      cases h
      exact .heartbeatOver hv (by simpa using hb)
    · split at h
      · cases h
      · cases h
        exact .abortHeartbeat hv
  · rename_i hv
    split at h
    · rename_i hk
      cases h
      exact .joined hv (by rw [result, hk])
    · rename_i hk
      cases h
      exact .joined hv (by rw [result, hk])
    · cases h
  · rename_i res hv
    split at h
    · rename_i hn
      cases h
      refine .unsent hv fun ho => ?_
      simpa [ho] using hn
    · split at h
      · cases h
      · cases h
        exact .sent hv
  · cases h

/-- A stage further what the earlier stages have done stays, and the new one has done its own part. -/
theorem Supervised.advance (g : Supervised s) {v : Supervisor} {a b : Bool} (hv : v.stage = s.supervisor.stage + 1)
    (hs : v.stage = 1 → s.streaming = false) (ha : a = s.sinkAbort ∨ a = true ∧ v.stage = 2)
    (hk : v.stage = 2 → a = true ∨ s.sink.isClosed = true) (hb : b = s.heartbeatAbort ∨ b = true ∧ v.stage = 3)
    (hh : v.stage = 3 → b = true ∨ s.beating = false) (hlt : v.stage < 5)
    (hr : ∀ res, v = .sendResult res → s.result = some res) (hc : v.stage = 4 → s.sink.isClosed = true) :
    Supervised { s with supervisor := v, sinkAbort := a, heartbeatAbort := b } := by
  constructor
  · intro (h : 1 ≤ v.stage)
    by_cases h₁ : v.stage = 1
    · exact hs h₁
    · exact g.stream (by omega)
  · intro (h : a = true)
    show 2 ≤ v.stage
    rcases ha with ha | ⟨-, ha⟩
    · have := g.sinkAbort (ha.symm.trans h)
      omega
    · omega
  · intro (h : 2 ≤ v.stage)
    show a = true ∨ s.sink.isClosed = true
    by_cases h₂ : v.stage = 2
    · exact hk h₂
    · rcases ha with ha | ⟨ha, -⟩
      · rw [ha]; exact g.sinkAborted (by omega)
      · exact .inl ha
  · intro (h : b = true)
    show 3 ≤ v.stage
    rcases hb with hb | ⟨-, hb⟩
    · have := g.heartbeatAbort (hb.symm.trans h)
      omega
    · omega
  · intro (h : 3 ≤ v.stage)
    show b = true ∨ s.beating = false
    by_cases h₃ : v.stage = 3
    · exact hh h₃
    · rcases hb with hb | ⟨hb, -⟩
      · rw [hb]; exact g.heartbeatAborted (by omega)
      · exact .inl hb
  · intro (h : 4 ≤ v.stage)
    exact hc (by omega)
  · exact hr
  · intro h
    have := g.done h
    omega
  · exact g.sent
  · intro (h : v.stage = 5)
    omega
  · intro h
    have := g.taken h
    omega

theorem Supervised.finish (g : Supervised s) {res : Except WSError Unit} {r : Option (Except WSError Unit)}
    (hv : s.supervisor = .sendResult res) (hr : ∀ x, r = some x → x = res)
    (hk : s.owned = true → s.resultTaken = false → r ≠ none) :
    Supervised { s with supervisor := .done, sinkResult := r } := by
  have hn : s.supervisor.stage = 4 := by rw [hv]; rfl
  have hd : ∀ k ≤ 5, k ≤ Supervisor.stage .done := fun _ h => h
  refine ⟨fun _ => g.stream (by omega), fun _ => hd 2 (by omega), fun _ => g.sinkAborted (by omega),
    fun _ => hd 3 (by omega), fun _ => g.heartbeatAborted (by omega), fun _ => g.closed (by omega), nofun,
    fun _ => rfl, fun x hx => ?_, fun _ => hk, fun _ => rfl⟩
  rw [hr x hx]
  exact g.result res hv

theorem supervise_supervised (g : Supervised s) (h : s.supervise = some t) : Supervised t := by
  cases supervise_cases h with
  | streamOver hv hs =>
    exact g.advance (by rw [hv]; rfl) (fun _ => hs) (.inl rfl) nofun (.inl rfl) nofun (by decide) nofun nofun
  | sinkOver hv hc =>
    exact g.advance (by rw [hv]; rfl) nofun (.inl rfl) (fun _ => .inr hc) (.inl rfl) nofun (by decide) nofun nofun
  | abortSink hv =>
    exact g.advance (by rw [hv]; rfl) nofun (.inr ⟨rfl, rfl⟩) (fun _ => .inl rfl) (.inl rfl) nofun (by decide) nofun
      nofun
  | heartbeatOver hv hb =>
    exact g.advance (by rw [hv]; rfl) nofun (.inl rfl) nofun (.inl rfl) (fun _ => .inr hb) (by decide) nofun nofun
  | abortHeartbeat hv =>
    exact g.advance (by rw [hv]; rfl) nofun (.inl rfl) nofun (.inr ⟨rfl, rfl⟩) (fun _ => .inl rfl) (by decide) nofun
      nofun
  | @joined res hv hr =>
    refine g.advance (by rw [hv]; rfl) nofun (.inl rfl) nofun (.inl rfl) nofun (Nat.lt_succ_self 4) ?_ fun _ => ?_
    · intro x hx
      cases hx; exact hr
    · rw [← result_isSome, hr]; rfl
  | unsent hv ho =>
    have hn : s.sinkResult = none := g.not_sent (by rw [hv]; exact Nat.lt_succ_self 4)
    refine g.finish hv (fun x hx => ?_) fun hown ht => ?_
    · rw [hn] at hx; cases hx
    · cases (ho hown).symm.trans ht
  | sent hv => exact g.finish hv (fun x hx => (Option.some.inj hx).symm) fun _ _ => nofun

theorem step_supervised {a : SocketAct} (g : Supervised s) (h : s.step a = some t) : Supervised t := by
  by_cases ha : a = .supervise
  · subst ha
    exact supervise_supervised g h
  · obtain ⟨ho, ht, -, -⟩ := step_owner h
    apply g.keep _ (step_streaming h) (step_beating h) (step_ended h) (fun hown => ho.symm.trans hown) ht
    cases step_cases h with
    | streamNext item _ => rw [forward_frame]; simp
    | heartbeat _ he => rw [handleHeartbeat_frame he]; simp
    | heartbeatEnd _ he =>
      simp only [free_supervisor, free_sinkAbort, free_heartbeatAbort, free_sinkResult]
      rw [handleHeartbeat_frame he]; simp
    | supervise => exact absurd rfl ha
    | _ => simp

theorem awaitSinkClose_supervised {res : Except WSError Unit} (g : Supervised s)
    (h : s.awaitSinkClose = some (res, t)) : Supervised t := by
  have hd : s.sinkResult ≠ none ∨ s.supervisor = .done → s.supervisor.stage = 5 := by
    rintro (hr | hv)
    · exact g.done hr
    · rw [hv]; rfl
  obtain ⟨h₁, h₂, h₃, h₄, h₅, h₆, h₇, h₈, h₉, h₀, ht⟩ := g
  unfold awaitSinkClose at h
  split at h
  · cases h
    exact ⟨h₁, h₂, h₃, h₄, h₅, h₆, h₇, h₈, h₉, h₀, ht⟩
  · split at h
    · rename_i hr
      cases h
      refine ⟨h₁, h₂, h₃, h₄, h₅, h₆, h₇, fun hn => absurd rfl hn, ?_, ?_, fun _ => hd (.inl (by simp [hr]))⟩
      · intro res hn; cases hn
      · intro _ _ hn; cases hn
    · rename_i hv
      cases h
      refine ⟨h₁, h₂, h₃, h₄, h₅, h₆, h₇, h₈, h₉, ?_, fun _ => hd (.inr hv)⟩
      intro _ _ hn; cases hn
    · cases h

/-- What everybody who holds a part of the socket can do to it, but for waiting for the sink's result. -/
structure Held (s t : Socket) : Prop where
  frame : t = { s with
    toSink := t.toSink, toOwner := t.toOwner, owned := t.owned, sinkClones := t.sinkClones, freed := t.freed,
    writes := t.writes }
  owned : t.owned = true → s.owned = true

theorem sendRaw_held (s : Socket) (m : InRawMessage) : Held s (s.sendRaw m).1 :=
  ⟨by rw [sendRaw_frame], by rw [sendRaw_frame]; exact fun h => h⟩

theorem recv_held {item : Option (Except WSError Message)} (h : s.recv = some (item, t)) : Held s t :=
  ⟨by rw [recv_frame h], by rw [recv_frame h]; exact fun h => h⟩

theorem drop_held (s : Socket) : Held s s.drop := by
  refine ⟨?_, by simp [drop]⟩
  rw [drop, free_eq]

theorem dropSink_held (s : Socket) : Held s s.dropSink := by
  refine ⟨?_, by simp [dropSink]⟩
  rw [dropSink, free_eq]

theorem Held.supervised (h : Held s t) (g : Supervised s) : Supervised t := by
  have ho := h.owned
  rw [h.frame] at ho ⊢
  exact g.keep ⟨rfl, rfl, rfl, rfl⟩ (fun h => h) (fun h => h) (fun _ => rfl) ho rfl

/-- Only a socket whose stream has ended aborts its tasks. -/
theorem Supervised.aborted (g : Supervised s) (h : s.sinkAbort = true ∨ s.supervised = false) :
    s.streaming = false := by
  apply g.stream
  rcases h with h | h
  · have := g.sinkAbort h
    omega
  · unfold supervised at h
    split at h
    · rename_i hd; rw [hd]; decide
    · cases h

/-! ## The runs of one socket -/

theorem run_cases {e : SocketEvent} (h : s.run e = some t) :
    (∃ a, e = .task a ∧ s.step a = some t) ∨ (∃ res, e = .awaitSinkClose ∧ s.awaitSinkClose = some (res, t)) ∨
      (e ≠ .awaitSinkClose ∧ Held s t) := by
  cases e with
  | task a => exact .inl ⟨a, rfl, h⟩
  | awaitSinkClose =>
    simp only [run] at h
    split at h
    · obtain ⟨⟨res, u⟩, hr, rfl⟩ := Option.map_eq_some_iff.mp h
      exact .inr (.inl ⟨res, rfl, hr⟩)
    · cases h
  | recv =>
    simp only [run] at h
    split at h
    · obtain ⟨⟨item, u⟩, hr, rfl⟩ := Option.map_eq_some_iff.mp h
      exact .inr (.inr ⟨by simp, recv_held hr⟩)
    · cases h
  | send m | sendRaw m =>
    simp only [run] at h
    split at h
    · cases h; exact .inr (.inr ⟨by simp, sendRaw_held s _⟩)
    · cases h
  | drop =>
    simp only [run] at h
    split at h
    · cases h; exact .inr (.inr ⟨by simp, drop_held s⟩)
    · cases h
  | dropSink =>
    simp only [run] at h
    split at h
    · cases h; exact .inr (.inr ⟨by simp, dropSink_held s⟩)
    · cases h
  | cloneSink =>
    simp only [run] at h
    split at h
    · cases h; exact .inr (.inr ⟨by simp, rfl, fun h => h⟩)
    · cases h

theorem run_config {e : SocketEvent} (h : s.run e = some t) : t.config = s.config := by
  rcases run_cases h with ⟨a, -, hs⟩ | ⟨res, -, hr⟩ | ⟨-, hh⟩
  · exact (step_owner hs).2.2.2
  · rw [awaitSinkClose_frame hr]
  · rw [hh.frame]

theorem reach_config {config : SocketConfig} (h : Lts.Reach run (new config) s) : s.config = config :=
  Lts.reach_inv (I := fun s => s.config = config) rfl (fun _ _ _ _ g h => (run_config h).trans g) h

theorem run_supervised {e : SocketEvent} (g : Supervised s) (h : s.run e = some t) : Supervised t := by
  rcases run_cases h with ⟨a, -, hs⟩ | ⟨res, -, hr⟩ | ⟨-, hh⟩
  · exact step_supervised g hs
  · exact awaitSinkClose_supervised g hr
  · exact hh.supervised g

theorem reach_supervised {config : SocketConfig} (h : Lts.Reach run (new config) s) : Supervised s :=
  Lts.reach_inv (I := Supervised) (new_supervised config) (fun _ _ _ _ g h => run_supervised g h) h

end Socket

end Ezsockets
