import Ezsockets.Rejection
import Mathlib.Data.List.Nodup

/-!
# The server as a registry of sessions

`Registry` is what the server actor is for, without channels, tasks and
sockets: it opens connections in the order they came, runs one callback of
its extension at a time, reports each session it accepted once, and stops
opening when it is closing. `Server.step` refines it
(`server_refines_registry`), so what holds of every run of a registry holds
of the server's callbacks.
-/

namespace Ezsockets

variable {ID C SC : Type}

inductive RegistryTask where
  | opening (i : Nat)
  | reporting (i : Nat)
  | calling
  deriving DecidableEq

structure Registry where
  arrived : Nat
  next : Nat
  asked : List Nat
  accepted : List Nat
  reported : List Nat
  busy : Option RegistryTask
  closing : Bool
  finished : Bool

inductive RegistryAct (ID C : Type) where
  | arrive
  | refuse
  | callback (cb : Callback ID C)
  | called
  | close
  | finish

namespace Registry

def start : Registry := ⟨0, 0, [], [], [], none, false, false⟩

def idle (r : Registry) : Bool := r.busy.isNone && !r.finished

def step (r : Registry) : RegistryAct ID C → Option Registry
  | .arrive => some { r with arrived := r.arrived + 1 }
  | .refuse => if r.idle ∧ r.closing ∧ r.next < r.arrived then some { r with next := r.next + 1 } else none
  | .callback (.onConnect i) =>
    if r.idle ∧ r.closing = false ∧ i = r.next ∧ r.next < r.arrived then
      some { r with next := r.next + 1, asked := r.asked ++ [i], busy := some (.opening i) }
    else none
  | .callback (.onConnectReturn i accepted) =>
    if r.busy = some (.opening i) then
      some { r with busy := none, accepted := if accepted then r.accepted ++ [i] else r.accepted }
    else none
  | .callback (.onDisconnect i _ _) =>
    if r.idle ∧ i ∈ r.accepted ∧ i ∉ r.reported then
      some { r with reported := r.reported ++ [i], busy := some (.reporting i) }
    else none
  | .callback (.onDisconnectReturn i) => if r.busy = some (.reporting i) then some { r with busy := none } else none
  | .callback (.onCall _) => if r.idle ∧ r.closing = false then some { r with busy := some .calling } else none
  | .called => if r.busy = some .calling then some { r with busy := none } else none
  | .close => if r.idle ∧ r.closing = false then some { r with closing := true } else none
  | .finish =>
    if r.idle ∧ r.closing ∧ ∀ i ∈ r.accepted, i ∈ r.reported then some { r with finished := true } else none

/-! ## What every run of a registry keeps -/

/-- Connections are opened in the order they came, and what was reported had been accepted. -/
structure Lawful (r : Registry) : Prop where
  asked : r.asked = List.range r.asked.length
  next : r.asked.length ≤ r.next ∧ r.next ≤ r.arrived
  all : r.closing = false → r.asked.length = r.next
  accepted : r.accepted.Sublist r.asked
  opening : ∀ i, r.busy = some (.opening i) → ∃ l, r.asked = l ++ [i] ∧ r.accepted.Sublist l
  reported : r.reported.Nodup ∧ ∀ i ∈ r.reported, i ∈ r.accepted
  finished : r.finished = true → r.closing = true ∧ r.busy = none ∧ ∀ i ∈ r.accepted, i ∈ r.reported

theorem start_lawful : Lawful start where
  asked := rfl
  next := ⟨Nat.le_refl _, Nat.le_refl _⟩
  all _ := rfl
  accepted := List.Sublist.refl _
  opening i h := by cases h
  reported := ⟨List.nodup_nil, fun i h => by cases h⟩
  finished h := by cases h

variable {r t : Registry}

theorem idle_iff : r.idle = true ↔ r.busy = none ∧ r.finished = false := by simp [idle]

theorem Lawful.busy_over (g : Lawful r) {k : RegistryTask} (hb : r.busy = some k) : r.finished = false := by
  cases ho : r.finished with
  | false => rfl
  | true => rw [(g.finished ho).2.1] at hb; cases hb

theorem step_lawful {b : RegistryAct ID C} (g : Lawful r) (h : r.step b = some t) : Lawful t := by
  cases b with
  | arrive => cases h; exact { g with next := ⟨g.next.1, Nat.le_succ_of_le g.next.2⟩ }
  | refuse =>
    simp only [step] at h
    split at h
    · rename_i hc
      cases h
      exact { g with
        next := ⟨Nat.le_succ_of_le g.next.1, hc.2.2⟩
        all := fun hn => absurd (hc.2.1.symm.trans hn) (by decide) }
    · cases h
  | called =>
    simp only [step] at h
    split at h
    · rename_i hb; cases h
      exact { g with opening := nofun, finished := fun ho => by rw [g.busy_over hb] at ho; cases ho }
    · cases h
  | close =>
    simp only [step] at h
    split at h
    · cases h
      exact { g with all := nofun, finished := fun ho => ⟨rfl, (g.finished ho).2⟩ }
    · cases h
  | finish =>
    simp only [step] at h
    split at h
    · rename_i hc; cases h
      exact { g with finished := fun _ => ⟨hc.2.1, (idle_iff.mp hc.1).1, hc.2.2⟩ }
    · cases h
  | callback cb =>
    cases cb with
    | onConnect i =>
      simp only [step] at h
      split at h
      · rename_i hc
        obtain ⟨hi, hcl, rfl, hlt⟩ := hc
        cases h
        have hlen := g.all hcl
        have hask : r.asked ++ [r.next] = List.range (r.asked ++ [r.next]).length := by
          rw [List.length_append, List.length_singleton, List.range_succ, ← g.asked, hlen]
        exact {
          asked := hask
          next := by simp [hlen]; exact hlt
          all := fun _ => by simp [hlen]
          accepted := g.accepted.trans (List.sublist_append_left ..)
          opening := fun j hj => by cases hj; exact ⟨r.asked, rfl, g.accepted⟩
          reported := g.reported
          finished := fun ho => by rw [(idle_iff.mp hi).2] at ho; cases ho }
      · cases h
    | onConnectReturn i accepted =>
      simp only [step] at h
      split at h
      · rename_i hb
        cases h
        obtain ⟨l, hl, hs⟩ := g.opening i hb
        exact { g with
          accepted := by
            rw [hl]
            split
            · exact hs.append_right [i]
            · exact hs.trans (List.sublist_append_left ..)
          opening := nofun
          reported := ⟨g.reported.1, fun j hj => by
            split
            · exact List.mem_append_left _ (g.reported.2 j hj)
            · exact g.reported.2 j hj⟩
          finished := fun ho => by rw [g.busy_over hb] at ho; cases ho }
      · cases h
    | onDisconnect i id res =>
      simp only [step] at h
      split at h
      · rename_i hc
        obtain ⟨hi, ha, hr⟩ := hc
        cases h
        exact { g with
          opening := nofun
          reported := ⟨by rw [← List.concat_eq_append]; exact List.Nodup.concat hr g.reported.1, fun j hj => by
            rcases List.mem_append.mp hj with h | h
            · exact g.reported.2 j h
            · rw [List.mem_singleton.mp h]; exact ha⟩
          finished := fun ho => by rw [(idle_iff.mp hi).2] at ho; cases ho }
      · cases h
    | onDisconnectReturn i =>
      simp only [step] at h
      split at h
      · rename_i hb; cases h
        exact { g with opening := nofun, finished := fun ho => by rw [g.busy_over hb] at ho; cases ho }
      · cases h
    | onCall call =>
      simp only [step] at h
      split at h
      · rename_i hc; cases h
        exact { g with opening := nofun, finished := fun ho => by rw [(idle_iff.mp hc.1).2] at ho; cases ho }
      · cases h

theorem reach_lawful (h : Lts.Reach (step : Registry → RegistryAct ID C → _) start r) : Lawful r :=
  Lts.reach_inv start_lawful (fun _ _ _ _ g hs => step_lawful g hs) h

theorem Lawful.over_silent (g : Lawful r) (ho : r.finished = true) (cb : Callback ID C) :
    r.step (.callback cb) = none := by
  cases cb <;> simp [step, idle, ho, (g.finished ho).2.1]

theorem Lawful.reported_perm (g : Lawful r) (ho : r.finished = true) : r.reported.Perm r.accepted := by
  have hn : r.accepted.Nodup := by
    refine g.accepted.nodup ?_
    rw [g.asked]
    exact List.nodup_range
  rw [List.perm_ext_iff_of_nodup g.reported.1 hn]
  exact fun i => ⟨g.reported.2 i, (g.finished ho).2.2 i⟩

end Registry

/-! ## The abstraction -/

def Callback.asked? : Callback ID C → Option Nat
  | .onConnect i => some i
  | _ => none

def Callback.accepted? : Callback ID C → Option Nat
  | .onConnectReturn i true => some i
  | _ => none

def Callback.reported? : Callback ID C → Option Nat
  | .onDisconnect i _ _ => some i
  | _ => none

def ServerPhase.task : ServerPhase C → Option RegistryTask
  | .onConnect i => some (.opening i)
  | .onDisconnect i => some (.reporting i)
  | .onCall _ => some .calling
  | .select | .left | .dropped => none

namespace Server

def registry (s : Server ID C SC) : Registry where
  arrived := s.conns.length
  next := s.connections.got.length
  asked := s.log.filterMap Callback.asked?
  accepted := s.log.filterMap Callback.accepted?
  reported := s.log.filterMap Callback.reported?
  busy := s.phase.task
  closing := s.shuttingDown
  finished := !s.inLoop

/-- What a step of the server means to the registry. -/
def label (s : Server ID C SC) : ServerAct ID C SC → Option (RegistryAct ID C)
  | .accept _ => if s.isDropped then none else some .arrive
  | .takeShutdown => if s.shuttingDown then none else some .close
  | .takeConnection =>
    match s.connections.queue with
    | i :: _ => if s.shuttingDown then some .refuse else some (.callback (.onConnect i))
    | [] => none
  | .onConnectReturn res =>
    match s.phase, res with
    | .onConnect i, .ok () => some (.callback (.onConnectReturn i true))
    | .onConnect i, .error _ => some (.callback (.onConnectReturn i false))
    | _, _ => none
  | .takeDisconnected =>
    match s.disconnections.queue with
    | d :: _ => some (.callback (.onDisconnect d.conn d.id d.result))
    | [] => none
  | .onDisconnectReturn _ =>
    match s.phase with
    | .onDisconnect i => some (.callback (.onDisconnectReturn i))
    | _ => none
  | .takeCall =>
    match s.calls.queue with
    | call :: _ => some (.callback (.onCall call.call))
    | [] => none
  | .onCallReturn _ => some .called
  | .leave => some .finish
  | _ => none

end Server

section
variable {s t : Server ID C SC}

/-- Until the actor is dropped, what was put into the channel of connections are all of them in their order. -/
def Arrivals (s : Server ID C SC) : Prop := s.isDropped = false → s.connections.hist = List.range s.conns.length

theorem step_arrivals {a : ServerAct ID C SC} (g : Arrivals s) (h : s.step a = some t) : Arrivals t := by
  have same : t.connections.hist = s.connections.hist → t.conns.length = s.conns.length →
      (t.isDropped = false → s.isDropped = false) → Arrivals t := by
    intro hq hn hd ht
    rw [hq, hn]
    exact g (hd ht)
  cases Server.step_cases h with
  | accept socket =>
    unfold Server.accept
    by_cases hd : s.isDropped = true
    · rw [if_pos hd]; exact g
    · rw [if_neg hd]
      intro _
      simp [g (by simpa using hd), List.range_succ]
  | gracefulShutdown => refine same ?_ ?_ ?_ <;> unfold Server.gracefulShutdown <;> split <;> first | rfl | exact id
  | takeShutdown => refine same ?_ ?_ ?_ <;> unfold Server.takeShutdown <;> split <;> first | rfl | exact id
  | takeConnection hs hp =>
    have hd : s.isDropped = false := by simp [Server.isDropped, (Server.selecting_iff.mp hs).1]
    refine same ?_ ?_ fun _ => hd <;> unfold Server.takeConnection <;> split
    · exact Chan.pop?_hist hp
    · exact Chan.pop?_hist hp
    · exact List.length_set
    · exact List.length_set
  | onConnectOk hp | onConnectErr _ hp | onDisconnectReturn _ hp =>
    exact same rfl List.length_set fun _ => by simp [Server.isDropped, hp]
  | takeDisconnected hs =>
    exact same rfl List.length_set fun _ => by simp [Server.isDropped, (Server.selecting_iff.mp hs).1]
  | takeCall hs => exact same rfl rfl fun _ => by simp [Server.isDropped, (Server.selecting_iff.mp hs).1]
  | @respond call hp | @onCallReturn call _ hp =>
    have hq : (s.respondOpt call.respondTo).connections = s.connections := by rw [Server.respondOpt_eq]
    exact same (congrArg Chan.hist hq) (foldl_respond_length [⟨call.call, call.respondTo⟩] s)
      fun _ => by simp [Server.isDropped, hp]
  | leave hp => exact same rfl rfl fun _ => by simp [Server.isDropped, hp]
  | dropActor => rw [Server.dropActor_eq]; exact fun hd => by cases hd
  | disconnected =>
    refine same ?_ ?_ ?_ <;> unfold Server.disconnected <;> split <;>
      first | rfl | exact id | exact List.length_set
  | call | callClosed | callWithClosed => exact same rfl rfl id
  | _ => exact same rfl List.length_set id

theorem reach_arrivals (h : Lts.Reach Server.step .create s) : Arrivals s :=
  Lts.reach_inv (I := Arrivals) (fun _ => rfl) (fun _ _ _ _ g hs => step_arrivals g hs) h

/-! ## The refinement -/

def RegistryAct.callback? : RegistryAct ID C → Option (Callback ID C)
  | .callback cb => some cb
  | _ => none

/-- The log records the callbacks among the labels. -/
theorem step_log {a : ServerAct ID C SC} (h : s.step a = some t) :
    t.log = s.log ++ ((s.label a).bind RegistryAct.callback?).toList := by
  have silent : t.log = s.log → (s.label a).bind RegistryAct.callback? = none →
      t.log = s.log ++ ((s.label a).bind RegistryAct.callback?).toList := by
    intro hl hn
    rw [hn, Option.toList_none, List.append_nil, hl]
  cases Server.step_cases h with
  | accept socket =>
    refine silent ?_ ?_
    · unfold Server.accept; split <;> rfl
    · simp only [Server.label]; split <;> rfl
  | gracefulShutdown => exact silent (by unfold Server.gracefulShutdown; split <;> rfl) rfl
  | takeShutdown =>
    refine silent ?_ ?_
    · unfold Server.takeShutdown; split <;> rfl
    · simp only [Server.label]; split <;> rfl
  | takeConnection hs hp =>
    simp only [Server.label, (Chan.pop?_some.mp hp).1]
    unfold Server.takeConnection
    by_cases hd : s.shuttingDown = true
    · simp [hd, RegistryAct.callback?, Server.setConn]
    · simp [hd, RegistryAct.callback?]
  | onConnectOk hp | onConnectErr _ hp | onDisconnectReturn _ hp => simp only [Server.label, hp]; rfl
  | takeDisconnected hs hp | takeCall hs _ hp => simp only [Server.label, (Chan.pop?_some.mp hp).1]; rfl
  | respond | onCallReturn => exact silent (by rw [Server.respondOpt_eq]) rfl
  | dropActor => exact silent (by rw [Server.dropActor_eq]) rfl
  | disconnected => exact silent (by unfold Server.disconnected; split <;> rfl) rfl
  | _ => exact silent rfl rfl

theorem registry_eq (hn : t.conns.length = s.conns.length) (hc : t.connections.got = s.connections.got)
    (hl : t.log = s.log) (hp : t.phase.task = s.phase.task) (hd : t.shuttingDown = s.shuttingDown)
    (hi : t.inLoop = s.inLoop) : t.registry = s.registry := by
  simp only [Server.registry, hn, hc, hl, hp, hd, hi]

theorem selecting_idle (h : s.selecting = true) : s.registry.idle = true := by
  have hp := (Server.selecting_iff.mp h).1
  simp [Registry.idle, Server.registry, Server.inLoop, hp, ServerPhase.task]

theorem mem_accepted {i : Nat} : i ∈ s.registry.accepted ↔ s.accepted i = true := by
  simp only [Server.registry, List.mem_filterMap, Server.accepted, List.any_eq_true]
  refine exists_congr fun cb => and_congr_right fun _ => ?_
  rcases cb with _ | ⟨j, _ | _⟩ | _ | _ | _ <;> simp [Callback.accepted?, Callback.isAccept]

theorem mem_reported {i : Nat} (d : Delivered s) : i ∈ s.registry.reported ↔ s.taken i = true := by
  rw [d.taken_eq]
  simp only [Server.registry, List.mem_filterMap, List.any_eq_true]
  refine exists_congr fun cb => and_congr_right fun _ => ?_
  cases cb <;> simp [Callback.reported?, Callback.isDisconnect]

theorem step_refines {a : ServerAct ID C SC} (g : Accounting s) (d : Delivered s) (r : Arrivals s)
    (h : s.step a = some t) : Lts.stepOpt Registry.step s.registry (s.label a) = some t.registry := by
  have silent : s.label a = none → t.registry = s.registry →
      Lts.stepOpt Registry.step s.registry (s.label a) = some t.registry := by
    intro hl hr
    rw [hl, hr]
    rfl
  have named : ∀ b, s.label a = some b → Registry.step s.registry b = some t.registry →
      Lts.stepOpt Registry.step s.registry (s.label a) = some t.registry := by
    intro b hl hr
    rw [hl]
    exact hr
  cases Server.step_cases h with
  | accept socket =>
    unfold Server.accept at *
    by_cases hd : s.isDropped = true
    · rw [if_pos hd] at *
      exact silent (by simp [Server.label, hd]) rfl
    · rw [if_neg hd] at *
      refine named .arrive (by simp [Server.label, hd]) ?_
      simp [Registry.step, Server.registry, Server.inLoop]
  | gracefulShutdown =>
    refine silent rfl (registry_eq ?_ ?_ ?_ ?_ ?_ ?_) <;> unfold Server.gracefulShutdown <;> split <;> rfl
  | takeShutdown hs =>
    unfold Server.takeShutdown at *
    by_cases hd : s.shuttingDown = true
    · rw [if_pos hd] at *
      exact silent (by simp [Server.label, hd]) (registry_eq rfl rfl rfl rfl rfl rfl)
    · rw [if_neg hd] at *
      have hg : s.registry.closing = false := Bool.eq_false_iff.mpr hd
      refine named .close (by simp [Server.label, hd]) ?_
      simp only [Registry.step, selecting_idle hs, hg, and_self, if_true]
      rfl
  | @takeConnection i q c x hs hp hc =>
    obtain ⟨hq, hg⟩ := Chan.pop?_some.mp hp
    have hph := (Server.selecting_iff.mp hs).1
    have hnext : i = s.connections.got.length := by
      have hi := Chan.pop?_getElem hp
      rw [r (by simp [Server.isDropped, hph]), List.getElem?_eq_some_iff] at hi
      obtain ⟨_, hi⟩ := hi
      rw [List.getElem_range] at hi
      exact hi.symm
    have hn : s.registry.next < s.registry.arrived := by
      show s.connections.got.length < s.conns.length
      rw [← hnext]
      exact (List.getElem?_eq_some_iff.mp hc).1
    unfold Server.takeConnection at *
    by_cases hd : s.shuttingDown = true
    · have hcl : s.registry.closing = true := hd
      rw [if_pos hd] at *
      refine named .refuse (by simp [Server.label, hq, hd]) ?_
      simp only [Registry.step, selecting_idle hs, hcl, hn, and_self, if_true, Option.some.injEq]
      simp [Server.registry, Server.setConn, hg, hd]
      rfl
    · have hcl : s.registry.closing = false := Bool.eq_false_iff.mpr hd
      have hi : i = s.registry.next := hnext
      rw [if_neg hd] at *
      refine named (.callback (.onConnect i)) (by simp [Server.label, hq, hd]) ?_
      simp only [Registry.step]
      rw [if_pos ⟨selecting_idle hs, hcl, hi, hn⟩]
      simp [Server.registry, Server.setConn, hg, hd, Callback.asked?, Callback.accepted?, Callback.reported?,
        ServerPhase.task, Server.inLoop, hph, hnext]
  | @onConnectOk i c a hp =>
    have hb : s.registry.busy = some (.opening i) := congrArg ServerPhase.task hp
    refine named (.callback (.onConnectReturn i true)) (by simp only [Server.label, hp]) ?_
    simp only [Registry.step, hb, if_true, Option.some.injEq]
    simp [Server.registry, Server.onConnectOk, Server.setConn, Callback.asked?, Callback.accepted?,
      Callback.reported?, ServerPhase.task, Server.inLoop, hp]
  | @onConnectErr i c frame hp =>
    have hb : s.registry.busy = some (.opening i) := congrArg ServerPhase.task hp
    refine named (.callback (.onConnectReturn i false)) (by simp only [Server.label, hp]) ?_
    simp only [Registry.step, hb, if_true, Option.some.injEq]
    simp [Server.registry, Server.onConnectErr, Server.setConn, Callback.asked?, Callback.accepted?,
      Callback.reported?, ServerPhase.task, Server.inLoop, hp]
  | @takeDisconnected e q c hs hp hc =>
    obtain ⟨hq, -⟩ := Chan.pop?_some.mp hp
    have hph := (Server.selecting_iff.mp hs).1
    have hst := (g.message hq hc).1
    have ha : e.conn ∈ s.registry.accepted := mem_accepted.mpr (by rw [g.accepted_eq hc, hst]; rfl)
    have hr : e.conn ∉ s.registry.reported := by
      rw [mem_reported d, g.taken_iff d hc, hst]
      simp
    refine named (.callback (.onDisconnect e.conn e.id e.result)) (by simp only [Server.label, hq]) ?_
    simp only [Registry.step, selecting_idle hs, ha, hr, not_false_eq_true, and_self, if_true, Option.some.injEq]
    simp [Server.registry, Server.takeDisconnected, Server.setConn, Callback.asked?, Callback.accepted?,
      Callback.reported?, ServerPhase.task, Server.inLoop, hph]
  | @onDisconnectReturn i c _ hp =>
    have hb : s.registry.busy = some (.reporting i) := congrArg ServerPhase.task hp
    refine named (.callback (.onDisconnectReturn i)) (by simp only [Server.label, hp]) ?_
    simp only [Registry.step, hb, if_true, Option.some.injEq]
    simp [Server.registry, Server.setConn, Callback.asked?, Callback.accepted?, Callback.reported?,
      ServerPhase.task, Server.inLoop, hp]
  | @takeCall call q hs hd hp =>
    have hph := (Server.selecting_iff.mp hs).1
    have hcl : s.registry.closing = false := hd
    refine named (.callback (.onCall call.call)) (by simp only [Server.label, (Chan.pop?_some.mp hp).1]) ?_
    simp only [Registry.step, selecting_idle hs, hcl, and_self, if_true, Option.some.injEq]
    simp [Server.registry, Callback.asked?, Callback.accepted?, Callback.reported?, ServerPhase.task,
      Server.inLoop, hph, hd]
  | @respond call hp =>
    have hn : (s.respondOpt call.respondTo).conns.length = s.conns.length :=
      foldl_respond_length [⟨call.call, call.respondTo⟩] s
    rw [Server.respondOpt_eq] at hn
    refine silent rfl ?_
    rw [Server.respondOpt_eq]
    exact registry_eq hn rfl rfl (by simp [hp, ServerPhase.task]) rfl (by simp [Server.inLoop, hp])
  | @onCallReturn call _ hp =>
    have hn : (s.respondOpt call.respondTo).conns.length = s.conns.length :=
      foldl_respond_length [⟨call.call, call.respondTo⟩] s
    have hb : s.registry.busy = some .calling := congrArg ServerPhase.task hp
    refine named .called rfl ?_
    simp only [Registry.step, hb, if_true, Option.some.injEq]
    rw [Server.respondOpt_eq] at hn ⊢
    simp only at hn
    simp [Server.registry, ServerPhase.task, Server.inLoop, hp, hn]
  | leave hp hd =>
    simp only [Server.drained, Bool.and_eq_true, beq_iff_eq] at hd
    have hcl : s.registry.closing = true := hd.1
    have hidle : s.registry.idle = true := by
      simp [Registry.idle, Server.registry, Server.inLoop, hp, ServerPhase.task]
    -- no session is left, so each that was accepted has been taken off the channel
    have hall : ∀ i ∈ s.registry.accepted, i ∈ s.registry.reported := by
      intro i hi
      rw [mem_accepted] at hi
      rw [mem_reported d]
      obtain ⟨c, hc⟩ := g.known hi
      have hn := List.countP_eq_zero.mp (g.active.symm.trans hd.2) c (List.mem_of_getElem? hc)
      rw [g.isAccepted_eq d hc, hi] at hn
      simpa using hn
    refine named .finish rfl ?_
    simp only [Registry.step, hidle, hcl, true_and]
    rw [if_pos hall]
    simp [Server.registry, Server.leave, ServerPhase.task, Server.inLoop, hp, hd.1]
  | dropActor hp =>
    have hn : s.dropActor.conns.length = s.conns.length :=
      (foldl_respond_length _ _).trans (by simp [Server.dropFields])
    refine silent rfl ?_
    rw [Server.dropActor_eq]
    exact registry_eq hn rfl rfl (by simp [hp, ServerPhase.task]) rfl (by simp [Server.inLoop, hp])
  | disconnected =>
    refine silent rfl (registry_eq ?_ ?_ ?_ ?_ ?_ ?_) <;> unfold Server.disconnected <;> split <;>
      first | rfl | exact List.length_set
  | call | callClosed | callWithClosed => exact silent rfl (registry_eq rfl rfl rfl rfl rfl rfl)
  | _ => exact silent rfl (registry_eq List.length_set rfl rfl rfl rfl rfl)

theorem server_refines : Lts.Refines Server.step (.create : Server ID C SC) Registry.step Server.registry
    Server.label := fun _ _ _ hr hs =>
  step_refines (reach_accounting hr) (reach_delivered hr) (reach_arrivals hr) hs

/-- The server is a registry: the labels of its run make a run of the registry to what the server stands for, and
the callbacks among them are those of the log. -/
theorem server_refines_registry (as : List (ServerAct ID C SC)) (h : Lts.exec Server.step .create as = some s) :
    Lts.exec Registry.step .start (Lts.collect Server.step Server.label .create as) = some s.registry ∧
      (Lts.collect Server.step Server.label .create as).filterMap RegistryAct.callback? = s.log := by
  refine ⟨server_refines.exec h, ?_⟩
  refine Lts.run_inv (I := fun as s => (Lts.collect Server.step Server.label .create as).filterMap
    RegistryAct.callback? = s.log) rfl (fun as s a t hs hi ha => ?_) h
  rw [Lts.collect_snoc hs ha, List.filterMap_append, hi, step_log ha]
  cases s.label a with
  | none => rfl
  | some b => cases hb : b.callback? <;> simp [hb]

/-- One connection is declined and one is accepted, and then the server is shut down. -/
def registryRun : List (ServerAct Nat Nat Nat) := [
  .accept (.new .default), .accept (.new .default), .takeConnection, .onConnectReturn (.error none),
  .takeConnection, .createSession 7, .onConnectReturn (.ok ()), .gracefulShutdown, .takeShutdown, .spawnCloser 1,
  .takeIndicator 1, .borrow 1, .close 1, .session 1 .outgoing, .session 1 .notify, .awaitClose 1, .abortCloser 1,
  .disconnected 1, .takeDisconnected, .onDisconnectReturn (.ok ()), .leave, .dropActor]

theorem server_refines_registry_two : ∃ s : Server Nat Nat Nat,
    Lts.exec Server.step .create registryRun = some s ∧ s.registry = ⟨2, 2, [0, 1], [1], [1], none, true, true⟩ ∧
      Lts.exec Registry.step .start (Lts.collect Server.step Server.label .create registryRun) =
      some s.registry := by
  have h : Lts.exec Server.step (.create : Server Nat Nat Nat) registryRun = some _ := rfl
  exact ⟨_, h, rfl, (server_refines_registry registryRun h).1⟩

/-- `on_connect` is called for the accepted connections in the order of `Server::accept`, each once and without a
gap until shutdown has begun. `on_disconnect` is called at most once for each connection whose session was accepted,
and has been called for all of them when the actor has left its loop; no callback runs after that. -/
theorem callbacks_in_order (h : Lts.Reach Server.step .create s) :
    ∃ k, s.log.filterMap Callback.asked? = List.range k ∧ k ≤ s.connections.got.length ∧
      (s.shuttingDown = false → k = s.connections.got.length) ∧
      (s.log.filterMap Callback.accepted?).Sublist (List.range k) ∧
      (s.log.filterMap Callback.reported?).Nodup ∧
      (∀ i ∈ s.log.filterMap Callback.reported?, i ∈ s.log.filterMap Callback.accepted?) ∧
      (s.inLoop = false → (s.log.filterMap Callback.reported?).Perm (s.log.filterMap Callback.accepted?) ∧
        ∀ t, Lts.Reach Server.step s t → t.log = s.log) := by
  have g : s.registry.Lawful := Registry.reach_lawful (server_refines.reach h)
  refine ⟨s.registry.asked.length, g.asked, g.next.1, g.all, ?_, g.reported.1, g.reported.2, fun hl => ⟨?_, ?_⟩⟩
  · rw [← g.asked]; exact g.accepted
  · exact g.reported_perm (by simp [Server.registry, hl])
  · intro t ht
    have hrun : t.inLoop = false ∧ t.log = s.log := by
      refine Lts.reach_inv (I := fun t => t.inLoop = false ∧ t.log = s.log) ⟨hl, rfl⟩ ?_ ht
      intro u a v hu ⟨hn, he⟩ hs
      have hr := h.trans hu
      have gu : u.registry.Lawful := Registry.reach_lawful (server_refines.reach hr)
      have hsim := server_refines u a v hr hs
      refine ⟨Server.step_inLoop hn hs, (step_log hs).trans ?_⟩
      cases hb : u.label a with
      | none => simpa using he
      | some b =>
        rw [hb] at hsim
        cases hcb : b.callback? with
        | none => simpa [hcb] using he
        | some cb =>
          cases b <;> cases hcb
          have hover : u.registry.finished = true := by simp [Server.registry, hn]
          rw [Lts.stepOpt, gu.over_silent hover] at hsim
          cases hsim
    exact hrun.2

theorem callbacks_in_order_two : ∃ s : Server Nat Nat Nat, Lts.Reach Server.step .create s ∧
    s.log.filterMap Callback.asked? = [0, 1] ∧ s.inLoop = false ∧
      (s.log.filterMap Callback.reported?).Perm (s.log.filterMap Callback.accepted?) := by
  have h : Lts.Reach Server.step (.create : Server Nat Nat Nat) _ := ⟨registryRun, rfl⟩
  obtain ⟨k, -, -, -, -, -, -, hl⟩ := callbacks_in_order h
  exact ⟨_, h, rfl, rfl, (hl rfl).1⟩

end

end Ezsockets
