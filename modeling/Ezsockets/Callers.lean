import Ezsockets.Disconnects

/-!
# The callers of a shutdown

A call waits exactly while its request is queued or its ack is held by the
actor. Leaving the loop answers the acks and nothing else, so the calls
still queued at that moment end with `ServerStopped`.
-/

namespace Ezsockets

variable {ID C SC : Type} {s t : Server ID C SC}

namespace Server

theorem step_calls {a : ServerAct ID C SC} (h : s.step a = some t) :
    (t.callers = s.callers ∧ t.inLoop = s.inLoop) ∨ (a = .gracefulShutdown ∧ t = s.gracefulShutdown) ∨
      (a = .leave ∧ s.phase = .select ∧ t = s.leave) ∨ (a = .dropActor ∧ s.phase = .left ∧ t = s.dropActor) := by
  cases step_cases h with
  | accept socket => unfold accept; split <;> exact .inl ⟨rfl, rfl⟩
  | gracefulShutdown => exact .inr (.inl ⟨rfl, rfl⟩)
  | takeShutdown => unfold takeShutdown; split <;> exact .inl ⟨rfl, rfl⟩
  | takeConnection hs =>
    have hp := (selecting_iff.mp hs).1
    unfold takeConnection
    split <;> exact .inl ⟨rfl, by simp [inLoop, hp, setConn]⟩
  | takeDisconnected hs | takeCall hs =>
    have hp := (selecting_iff.mp hs).1
    exact .inl ⟨rfl, by simp [inLoop, takeDisconnected, hp]⟩
  | onConnectOk hp | onConnectErr _ hp | onDisconnectReturn _ hp =>
    exact .inl ⟨rfl, by simp [inLoop, onConnectOk, onConnectErr, hp]⟩
  | respond hp | onCallReturn _ hp =>
    rw [respondOpt_eq]
    exact .inl ⟨rfl, by simp [inLoop, hp]⟩
  | leave hp => exact .inr (.inr (.inl ⟨rfl, hp, rfl⟩))
  | dropActor hp => exact .inr (.inr (.inr ⟨rfl, hp, rfl⟩))
  | disconnected => unfold disconnected; split <;> exact .inl ⟨rfl, rfl⟩
  | _ => exact .inl ⟨rfl, rfl⟩

theorem gracefulShutdown_inLoop (s : Server ID C SC) : s.gracefulShutdown.inLoop = s.inLoop := by
  unfold gracefulShutdown; split <;> rfl

theorem step_inLoop {a : ServerAct ID C SC} (hl : s.inLoop = false) (h : s.step a = some t) : t.inLoop = false := by
  rcases step_calls h with ⟨-, h⟩ | ⟨-, rfl⟩ | ⟨-, -, rfl⟩ | ⟨-, -, rfl⟩
  · rw [h]; exact hl
  · rw [gracefulShutdown_inLoop]; exact hl
  · rfl
  · rw [dropActor_eq]; rfl

theorem gracefulShutdown_calls (s : Server ID C SC) :
    ∃ reply, s.gracefulShutdown.callers = s.callers ++ [⟨s.inLoop, reply⟩] := by
  unfold gracefulShutdown
  split
  · rename_i hd
    exact ⟨.serverStopped, by rw [isDropped_inLoop hd]⟩
  · exact ⟨.waiting, rfl⟩

theorem resolve_some {callers : List Caller} {acks : List Nat} {reply : Reply} {n : Nat} {c : Caller} :
    (resolve callers acks reply)[n]? = some c ↔
      ∃ d, callers[n]? = some d ∧ c = if n ∈ acks then { d with reply := reply } else d := by
  unfold resolve
  rw [List.getElem?_mapIdx, Option.map_eq_some_iff]
  exact exists_congr fun d => and_congr_right fun _ => eq_comm

end Server

structure Callers (s : Server ID C SC) : Prop where
  nodup : (s.shutdownAcks ++ s.shutdowns.queue).Nodup
  known : ∀ n ∈ s.shutdownAcks ++ s.shutdowns.queue, n < s.callers.length
  waiting : ∀ n c, s.callers[n]? = some c → (c.reply = .waiting ↔ n ∈ s.shutdownAcks ++ s.shutdowns.queue)
  early : s.inLoop = true → ∀ c ∈ s.callers, c.early = true ∧ c.reply = .waiting
  acks : s.inLoop = false → s.shutdownAcks = []

theorem create_callers : Callers (.create : Server ID C SC) where
  nodup := List.nodup_nil
  known n hn := by cases hn
  waiting n c hc := by simp [Server.create] at hc
  early _ c hc := by cases hc
  acks _ := rfl

theorem Callers.same (g : Callers s) (hc : t.callers = s.callers) (ha : t.shutdownAcks = s.shutdownAcks)
    (hq : t.shutdowns = s.shutdowns) (hl : t.inLoop = s.inLoop) : Callers t where
  nodup := by rw [ha, hq]; exact g.nodup
  known := by rw [ha, hq, hc]; exact g.known
  waiting := by rw [ha, hq, hc]; exact g.waiting
  early := by rw [hl, hc]; exact g.early
  acks := by rw [hl, ha]; exact g.acks

theorem gracefulShutdown_callers (g : Callers s) : Callers s.gracefulShutdown := by
  have hfresh : s.callers.length ∉ s.shutdownAcks ++ s.shutdowns.queue :=
    fun h => absurd (g.known _ h) (Nat.lt_irrefl _)
  unfold Server.gracefulShutdown
  split
  · rename_i hd
    have hl := Server.isDropped_inLoop hd
    refine ⟨g.nodup, fun n hn => ?_, ?_, fun h => ?_, g.acks⟩
    · have := g.known n hn
      simp; omega
    · refine List.forall_append_one ?_ g.waiting
      simpa using hfresh
    · have h' : s.inLoop = true := h
      rw [hl] at h'; cases h'
  · refine ⟨?_, fun n hn => ?_, ?_, fun h c hc => ?_, g.acks⟩
    · rw [Chan.push_queue, ← List.append_assoc]
      have hone : [s.callers.length].Nodup := List.nodup_cons.mpr ⟨List.not_mem_nil, List.nodup_nil⟩
      refine List.nodup_append.mpr ⟨g.nodup, hone, fun a ha b hb => ?_⟩
      rw [List.mem_singleton.mp hb]
      intro e
      exact hfresh (e ▸ ha)
    · rw [Chan.push_queue, ← List.append_assoc, List.mem_append, List.mem_singleton] at hn
      rw [List.length_append, List.length_singleton]
      rcases hn with hn | rfl
      · have := g.known n hn; omega
      · omega
    · rw [Chan.push_queue, ← List.append_assoc]
      refine List.forall_append_one ?_ fun n c hc => ?_
      · simp
      · have hn : n < s.callers.length := (List.getElem?_eq_some_iff.mp hc).1
        rw [g.waiting n c hc, List.mem_append (s := s.shutdownAcks ++ _), List.mem_singleton]
        exact ⟨.inl, fun h => h.resolve_right (by omega)⟩
    · rcases List.mem_append.mp hc with h' | h'
      · exact g.early h c h'
      · rw [List.mem_singleton.mp h']; exact ⟨h, rfl⟩

theorem takeShutdown_callers (g : Callers s) {ack : Nat} {q : Chan Nat} (hs : s.selecting = true)
    (hp : s.shutdowns.pop? = some (ack, q)) : Callers ({ s with shutdowns := q }.takeShutdown ack) := by
  obtain ⟨hq, -⟩ := Chan.pop?_some.mp hp
  have hl : s.inLoop = true := by simp [Server.inLoop, (Server.selecting_iff.mp hs).1]
  have hmove : s.shutdownAcks ++ s.shutdowns.queue = (s.shutdownAcks ++ [ack]) ++ q.queue := by
    rw [hq, List.append_assoc]; rfl
  have hn := g.nodup
  have hk := g.known
  have hw := g.waiting
  rw [hmove] at hn hk hw
  have ho : s.inLoop = false → s.shutdownAcks ++ [ack] = [] := fun h => by rw [hl] at h; cases h
  unfold Server.takeShutdown
  split
  · exact ⟨hn, hk, hw, g.early, ho⟩
  · exact ⟨hn, hk, hw, g.early, ho⟩

theorem leave_callers (g : Callers s) : Callers s.leave := by
  refine ⟨?_, fun n hn => ?_, fun n c hc => ?_, (fun h => by cases h), fun _ => rfl⟩
  · exact (List.nodup_append.mp g.nodup).2.1
  · have := g.known n (List.mem_append_right _ hn)
    simpa [Server.leave, Server.resolve] using this
  · obtain ⟨d, hd, rfl⟩ := Server.resolve_some.mp hc
    have hw := g.waiting n d hd
    show _ ↔ n ∈ s.shutdowns.queue
    split
    · rename_i ha
      exact ⟨(fun h => by cases h), fun h => absurd rfl ((List.nodup_append.mp g.nodup).2.2 n ha n h)⟩
    · rename_i ha
      rw [hw, List.mem_append]
      exact ⟨fun h => h.resolve_left ha, .inr⟩

theorem dropActor_callers (g : Callers s) (hp : s.phase = .left) : Callers s.dropActor := by
  have ha : s.shutdownAcks = [] := g.acks (by simp [Server.inLoop, hp])
  rw [Server.dropActor_eq]
  refine ⟨?_, fun n hn => ?_, fun n c hc => ?_, (fun h => by cases h), fun _ => ha⟩
  · simp [ha]
  · simp [ha] at hn
  · obtain ⟨d, hd, rfl⟩ := Server.resolve_some.mp hc
    have hw := g.waiting n d hd
    rw [ha, List.nil_append] at hw
    simp only [ha, Chan.clear_queue, List.append_nil, List.not_mem_nil, iff_false]
    split
    · intro h
      cases h
    · rename_i hq
      intro h
      exact hq (hw.mp h)

theorem step_callers {a : ServerAct ID C SC} (g : Callers s) (h : s.step a = some t) : Callers t := by
  cases Server.step_cases h with
  | accept socket => unfold Server.accept; split <;> exact g.same rfl rfl rfl rfl
  | gracefulShutdown => exact gracefulShutdown_callers g
  | takeShutdown hs hp => exact takeShutdown_callers g hs hp
  | takeConnection hs =>
    have hph := (Server.selecting_iff.mp hs).1
    unfold Server.takeConnection
    split
    · exact g.same rfl rfl rfl rfl
    · exact g.same rfl rfl rfl (by simp [Server.inLoop, hph])
  | onConnectOk hp | onConnectErr _ hp | onDisconnectReturn _ hp =>
    exact g.same rfl rfl rfl (by simp [Server.inLoop, Server.onConnectOk, Server.onConnectErr, hp])
  | takeDisconnected hs | takeCall hs =>
    have hph := (Server.selecting_iff.mp hs).1
    exact g.same rfl rfl rfl (by simp [Server.inLoop, Server.takeDisconnected, hph])
  | respond hp | onCallReturn _ hp =>
    rw [Server.respondOpt_eq]
    exact g.same rfl rfl rfl (by simp [Server.inLoop, hp])
  | leave => exact leave_callers g
  | dropActor hp => exact dropActor_callers g hp
  | disconnected => unfold Server.disconnected; split <;> exact g.same rfl rfl rfl rfl
  | _ => exact g.same rfl rfl rfl rfl

theorem reach_callers (h : Lts.Reach Server.step .create s) : Callers s :=
  Lts.reach_inv create_callers (fun _ _ _ _ g hs => step_callers g hs) h

/-! ## Requests that came in time -/

/-- Every call that was made in time has returned `Ok` or waits for an actor that is still in its loop. -/
def Acknowledged (s : Server ID C SC) : Prop :=
  ∀ c ∈ s.callers, c.early = true → c.reply = .ok ∨ (c.reply = .waiting ∧ s.inLoop = true)

theorem Callers.acknowledged_iff (g : Callers s) :
    Acknowledged s ↔ s.inLoop = true ∨ ∀ c ∈ s.callers, c.early = true → c.reply = .ok := by
  constructor
  · intro h
    cases hl : s.inLoop with
    | true => exact .inl rfl
    | false => exact .inr fun c hc he => (h c hc he).resolve_right fun hw => by rw [hl] at hw; cases hw.2
  · intro h c hc he
    rcases h with hl | h
    · exact .inr ⟨(g.early hl c hc).2, hl⟩
    · exact .inl (h c hc he)

theorem step_acknowledged {a : ServerAct ID C SC} (g : Callers s) (hi : Acknowledged s)
    (hc : a = .leave → s.shutdowns.queue = []) (h : s.step a = some t) : Acknowledged t := by
  rw [(step_callers g h).acknowledged_iff]
  rw [g.acknowledged_iff] at hi
  rcases Server.step_calls h with ⟨hcs, hl⟩ | ⟨-, rfl⟩ | ⟨ha, hp, rfl⟩ | ⟨-, hp, rfl⟩
  · rw [hcs, hl]; exact hi
  · rw [Server.gracefulShutdown_inLoop]
    rcases hi with hl | hi
    · exact .inl hl
    · by_cases hl : s.inLoop = true
      · exact .inl hl
      · obtain ⟨reply, hr⟩ := s.gracefulShutdown_calls
        apply Or.inr
        intro c hc' he
        rw [hr] at hc'
        rcases List.mem_append.mp hc' with h' | h'
        · exact hi c h' he
        · rw [List.mem_singleton.mp h'] at he; exact absurd he hl
  · -- every call is held as an ack
    have hl : s.inLoop = true := by simp [Server.inLoop, hp]
    apply Or.inr
    intro c hc' _
    obtain ⟨n, hn⟩ := List.getElem?_of_mem hc'
    obtain ⟨d, hd, rfl⟩ := Server.resolve_some.mp hn
    have hw := (g.waiting n d hd).mp (g.early hl d (List.mem_of_getElem? hd)).2
    rw [hc ha, List.append_nil] at hw
    rw [if_pos hw]
  · have hl : s.inLoop = false := by simp [Server.inLoop, hp]
    apply Or.inr
    intro c hc' he
    obtain ⟨n, hn⟩ := List.getElem?_of_mem hc'
    rw [Server.dropActor_eq] at hn
    obtain ⟨d, hd, rfl⟩ := Server.resolve_some.mp hn
    have hok : d.reply = .ok := by
      apply (hi.resolve_left (by simp [hl])) d (List.mem_of_getElem? hd)
      split at he <;> exact he
    -- what has been answered is not queued any more
    have hq : n ∉ s.shutdowns.queue := fun hq => by
      have := (g.waiting n d hd).mpr (List.mem_append_right _ hq)
      rw [hok] at this; cases this
    rw [if_neg hq]; exact hok

/-- A call left without its `Ok` by an actor that is out of its loop never gets it. -/
theorem step_unanswered {a : ServerAct ID C SC} (g : Callers s) (hi : ¬ Acknowledged s) (h : s.step a = some t) :
    ¬ Acknowledged t := by
  rw [(step_callers g h).acknowledged_iff]
  rw [g.acknowledged_iff] at hi
  push Not at hi ⊢
  obtain ⟨hl, c, hc, he, hr⟩ := hi
  have hl' : s.inLoop = false := by simpa using hl
  refine ⟨by simp [Server.step_inLoop hl' h], ?_⟩
  rcases Server.step_calls h with ⟨hcs, -⟩ | ⟨-, rfl⟩ | ⟨-, hp, -⟩ | ⟨-, -, rfl⟩
  · rw [hcs]; exact ⟨c, hc, he, hr⟩
  · obtain ⟨reply, hcs⟩ := s.gracefulShutdown_calls
    rw [hcs]; exact ⟨c, List.mem_append_left _ hc, he, hr⟩
  · simp [Server.inLoop, hp] at hl'
  · obtain ⟨n, hn⟩ := List.getElem?_of_mem hc
    rw [Server.dropActor_eq]
    refine ⟨_, List.mem_of_getElem? (Server.resolve_some.mpr ⟨c, hn, rfl⟩), ?_, ?_⟩
    · split <;> exact he
    · split
      · intro h
        cases h
      · exact hr

theorem leave_unanswered (g : Callers s) (hp : s.phase = .select) (hq : s.shutdowns.queue ≠ []) :
    ¬ Acknowledged s.leave := by
  obtain ⟨n, hn⟩ := List.exists_mem_of_ne_nil _ hq
  have hl : s.inLoop = true := by simp [Server.inLoop, hp]
  obtain ⟨c, hc⟩ : ∃ c, s.callers[n]? = some c :=
    ⟨_, List.getElem?_eq_getElem (g.known n (List.mem_append_right _ hn))⟩
  obtain ⟨he, hw⟩ := g.early hl c (List.mem_of_getElem? hc)
  have hna : n ∉ s.shutdownAcks := fun ha => (List.nodup_append.mp g.nodup).2.2 n ha n hn rfl
  rw [(leave_callers g).acknowledged_iff]
  push Not
  refine ⟨by simp [Server.leave, Server.inLoop], c, ?_, he, by rw [hw]; exact fun h => by cases h⟩
  exact List.mem_of_getElem? (Server.resolve_some.mpr ⟨c, hc, by rw [if_neg hna]⟩)

/-- The calls of a run are acknowledged exactly when the actor never leaves its loop with a request still queued. -/
theorem acknowledged_iff_queue_empty (as : List (ServerAct ID C SC))
    (h : Lts.exec Server.step .create as = some s) :
    Acknowledged s ↔ Lts.Along Server.step (fun s a => a = .leave → s.shutdowns.queue = []) .create as := by
  constructor
  · refine fun hi => Lts.along_of_inv (I := Acknowledged)
      (fun s a t hr hi h => step_unanswered (reach_callers hr) hi h) (fun s a t hr hC h => ?_) h hi
    push Not at hC
    obtain ⟨rfl, hq⟩ := hC
    cases Server.step_cases h with
    | leave hp _ => exact leave_unanswered (reach_callers hr) hp hq
  · refine fun hc => Lts.along_inv (I := Acknowledged) (fun c hc => by cases hc)
      (fun s a t hr hi hC h => step_acknowledged (reach_callers hr) hi hC h) hc h

/-- Two calls at once with no session: the loop ends after the first. -/
theorem second_caller_unanswered : ∃ (as : List (ServerAct Nat Nat Nat)) (s : Server Nat Nat Nat),
    Lts.exec Server.step .create as = some s ∧ s.callers = [⟨true, .ok⟩, ⟨true, .serverStopped⟩] ∧
      ¬ Acknowledged s := by
  refine ⟨[.gracefulShutdown, .gracefulShutdown, .takeShutdown, .leave, .dropActor], _, rfl, rfl, fun h => ?_⟩
  rcases h ⟨true, .serverStopped⟩ (List.mem_cons_of_mem _ (List.mem_singleton_self _)) rfl with h | h
  · cases h
  · cases h.1

/-- Two calls and one session, which is drained before the actor leaves. -/
theorem acknowledged_iff_queue_empty_two : ∃ (as : List (ServerAct Nat Nat Nat)) (s : Server Nat Nat Nat),
    Lts.exec Server.step .create as = some s ∧ s.callers = [⟨true, .ok⟩, ⟨true, .ok⟩] ∧
      Lts.Along Server.step (fun s a => a = .leave → s.shutdowns.queue = []) .create as := by
  have h : Lts.exec Server.step (.create : Server Nat Nat Nat) [
    .accept (.new .default), .takeConnection, .createSession 7, .onConnectReturn (.ok ()),
    .gracefulShutdown, .gracefulShutdown, .takeShutdown, .takeShutdown,
    .spawnCloser 0, .takeIndicator 0, .borrow 0, .close 0, .session 0 .outgoing, .session 0 .notify, .awaitClose 0,
    .abortCloser 0, .disconnected 0, .takeDisconnected, .onDisconnectReturn (.ok ()), .leave, .dropActor]
    = some _ := rfl
  refine ⟨_, _, h, rfl, (acknowledged_iff_queue_empty _ h).mp fun c hc _ => .inl ?_⟩
  have hc : c ∈ [⟨true, .ok⟩, (⟨true, .ok⟩ : Caller)] := hc
  simp only [List.mem_cons, List.not_mem_nil, or_false, or_self] at hc
  rw [hc]

end Ezsockets
