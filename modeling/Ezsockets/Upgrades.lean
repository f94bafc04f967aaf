import Ezsockets.Hosting
import Ezsockets.Upgrade

/-!
# The axum runner

A handler extracts `Upgrade` from each request. `on_upgrade` spawns a task
that waits for hyper to hand the connection over and then gives it to
`Server::accept`; the handler answers at once. The tasks do not wait for each
other. Only what was answered with `101` reaches the server, once and with
its own request (`upgrades_to_on_connect`).
-/

namespace Ezsockets

inductive UpgradeTask where
  | waiting
  | failed
  | done
  deriving DecidableEq

/-- What became of a request: the extractor panicked or rejected it, the handler did not upgrade it, or `on_upgrade`
answered it and spawned its task. -/
inductive Exchange where
  | panicked
  | rejected (rejection : WebSocketUpgradeRejection)
  | unused (upgrade : Upgrade)
  | switching (upgrade : Upgrade) (response : Response) (task : UpgradeTask)

structure Upgrades where
  exchanges : List (Parts × Exchange)
  accepted : List Accepted

inductive UpgradeAct where
  | request (parts : Parts) (upgrades : Bool)
  | upgraded (k : Nat)
  | upgradeFailed (k : Nat)

namespace Upgrades

def start : Upgrades := ⟨[], []⟩

variable (http : HttpCrate) (sign : List UInt8 → HeaderValue)

def handle (parts : Parts) (upgrades : Bool) : Exchange :=
  match Upgrade.fromRequestParts http parts with
  | none => .panicked
  | some (.error rejection, _) => .rejected rejection
  | some (.ok upgrade, _) =>
    if upgrades then .switching upgrade (upgrade.ws.onUpgradeResponse sign) .waiting else .unused upgrade

def step (s : Upgrades) : UpgradeAct → Option Upgrades
  | .request parts upgrades =>
    some { s with exchanges := s.exchanges ++ [(parts, handle http sign parts upgrades)] }
  | .upgraded k => match s.exchanges[k]? with
    | some (parts, .switching upgrade response .waiting) => some {
        exchanges := s.exchanges.set k (parts, .switching upgrade response .done)
        accepted := s.accepted ++ [⟨k, upgrade.request, upgrade.address⟩] }
    | _ => none
  -- `DefaultOnFailedUpdgrade` ignores the error
  | .upgradeFailed k => match s.exchanges[k]? with
    | some (parts, .switching upgrade response .waiting) =>
      some { s with exchanges := s.exchanges.set k (parts, .switching upgrade response .failed) }
    | _ => none

inductive Step (s : Upgrades) : UpgradeAct → Upgrades → Prop where
  | request (parts : Parts) (upgrades : Bool) : Step s (.request parts upgrades)
      { s with exchanges := s.exchanges ++ [(parts, handle http sign parts upgrades)] }
  | upgraded {k : Nat} {parts : Parts} {upgrade : Upgrade} {response : Response} :
      s.exchanges[k]? = some (parts, .switching upgrade response .waiting) → Step s (.upgraded k)
        { exchanges := s.exchanges.set k (parts, .switching upgrade response .done)
          accepted := s.accepted ++ [⟨k, upgrade.request, upgrade.address⟩] }
  | upgradeFailed {k : Nat} {parts : Parts} {upgrade : Upgrade} {response : Response} :
      s.exchanges[k]? = some (parts, .switching upgrade response .waiting) → Step s (.upgradeFailed k)
        { s with exchanges := s.exchanges.set k (parts, .switching upgrade response .failed) }

variable {http sign} {s t : Upgrades} {a : UpgradeAct}

theorem step_cases (h : s.step http sign a = some t) : Step http sign s a t := by
  cases a with
  | request parts upgrades => cases h; exact .request parts upgrades
  | upgraded k =>
    simp only [step] at h
    split at h
    · rename_i hk; cases h; exact .upgraded hk
    · cases h
  | upgradeFailed k =>
    simp only [step] at h
    split at h
    · rename_i hk; cases h; exact .upgradeFailed hk
    · cases h

theorem step_accepted (h : s.step http sign a = some t) : s.accepted <+: t.accepted := by
  cases step_cases h with
  | upgraded => exact List.prefix_append ..
  | _ => exact List.prefix_rfl

variable (http sign) in
def front : Front Upgrades UpgradeAct where
  step := step http sign
  accepted := accepted
  grows := step_accepted

/-- What an exchange says of the request that it answers. -/
def Answers (http : HttpCrate) (sign : List UInt8 → HeaderValue) (parts : Parts) : Exchange → Prop
  | .panicked => parts.connectInfo = none
  | .rejected rejection => ∃ q, Upgrade.fromRequestParts http parts = some (.error rejection, q)
  | .unused upgrade => ∃ q, Upgrade.fromRequestParts http parts = some (.ok upgrade, q)
  | .switching upgrade response _ => response = upgrade.ws.onUpgradeResponse sign ∧
      ∃ q, Upgrade.fromRequestParts http parts = some (.ok upgrade, q)

theorem handle_answers (parts : Parts) (upgrades : Bool) :
    Answers http sign parts (handle http sign parts upgrades) := by
  unfold handle
  cases h : Upgrade.fromRequestParts http parts with
  | none =>
    cases hc : parts.connectInfo with
    | none => exact hc
    | some address =>
      unfold Upgrade.fromRequestParts at h
      rw [hc] at h
      simp only [Option.bind_eq_bind, Option.bind_some] at h
      split at h
      · cases h
      · split at h <;> cases h
  | some p =>
    obtain ⟨_ | upgrade, q⟩ := p
    · exact ⟨q, h⟩
    · by_cases hu : upgrades
      · simp only [hu, if_true]
        exact ⟨rfl, q, h⟩
      · simp only [hu, Bool.false_eq_true, if_false]
        exact ⟨q, h⟩

/-- A request that was extracted has passed every check, and its copy is the request itself. -/
theorem extracted {parts q : Parts} {upgrade : Upgrade}
    (h : Upgrade.fromRequestParts http parts = some (.ok upgrade, q)) :
    (∀ rejection : WebSocketUpgradeRejection, ¬ rejection.Applies parts) ∧
    parts.connectInfo = some upgrade.address ∧
      upgrade.request = ⟨parts.method, parts.uri, parts.version, parts.headers⟩ := by
  unfold Upgrade.fromRequestParts at h
  cases hc : parts.connectInfo with
  | none => rw [hc] at h; cases h
  | some address =>
    rw [hc] at h
    simp only [Option.bind_eq_bind, Option.bind_some] at h
    split at h
    · cases h
    · rename_i request hr
      split at h
      · rename_i ws parts' hw
        cases h
        exact ⟨(fromRequestParts_ok hw).1, rfl, Request.rebuild_eq http hr⟩
      · cases h

/-- The tasks that are done are those that have called `Server::accept`, each once. -/
structure Sound (http : HttpCrate) (sign : List UInt8 → HeaderValue) (s : Upgrades) : Prop where
  answers : ∀ (k : Nat) (p : Parts × Exchange), s.exchanges[k]? = some p → Answers http sign p.1 p.2
  nodup : (s.accepted.map Accepted.peer).Nodup
  sent : ∀ c ∈ s.accepted, ∃ parts upgrade response,
    s.exchanges[c.peer]? = some (parts, .switching upgrade response .done) ∧ c.request = upgrade.request ∧
      c.address = upgrade.address
  all : ∀ (k : Nat) (p : Parts × Exchange) upgrade response, s.exchanges[k]? = some p →
    p.2 = .switching upgrade response .done → k ∈ s.accepted.map Accepted.peer

theorem Sound.kept (g : s.Sound http sign) {k : Nat} {parts : Parts} {upgrade : Upgrade} {response : Response}
    (hk : s.exchanges[k]? = some (parts, .switching upgrade response .waiting)) (task : UpgradeTask) :
    ∀ c ∈ s.accepted, ∃ parts' upgrade' response',
      (s.exchanges.set k (parts, .switching upgrade response task))[c.peer]? =
        some (parts', .switching upgrade' response' .done) ∧ c.request = upgrade'.request ∧
          c.address = upgrade'.address := by
  intro c hc
  obtain ⟨parts', upgrade', response', he, hr⟩ := g.sent c hc
  refine ⟨parts', upgrade', response', ?_, hr⟩
  rw [List.getElem?_set_of hk]
  by_cases hck : c.peer = k
  · rw [hck] at he
    cases hk.symm.trans he
  · rw [if_neg hck]
    exact he

theorem Sound.step (g : s.Sound http sign) (h : s.step http sign a = some t) : t.Sound http sign := by
  cases step_cases h with
  | request parts upgrades =>
    have hnew : ∀ upgrade response, handle http sign parts upgrades ≠ .switching upgrade response .done := by
      intro upgrade response hh
      unfold handle at hh
      split at hh
      · cases hh
      · cases hh
      · split at hh <;> cases hh
    refine ⟨List.forall_append_one (handle_answers parts upgrades) g.answers, g.nodup, ?_, ?_⟩
    · intro c hc
      obtain ⟨parts', upgrade', response', he, hr⟩ := g.sent c hc
      refine ⟨parts', upgrade', response', ?_, hr⟩
      rw [List.getElem?_append_left (List.getElem?_eq_some_iff.mp he).1]
      exact he
    · intro k p upgrade response hk hp
      refine List.forall_append_one (P := fun k p => p.2 = .switching upgrade response .done →
        k ∈ s.accepted.map Accepted.peer) ?_ (fun k p hk hp => g.all k p upgrade response hk hp) k p hk hp
      exact fun hp => absurd hp (hnew upgrade response)
  | @upgraded k parts upgrade response hk =>
    have hn : k ∉ s.accepted.map Accepted.peer := by
      intro hm
      obtain ⟨c, hc, rfl⟩ := List.mem_map.mp hm
      obtain ⟨_, _, _, he, -⟩ := g.sent c hc
      cases hk.symm.trans he
    have ha := g.answers k _ hk
    refine ⟨List.forall_set hk ha fun j p _ => g.answers j p, ?_, ?_, ?_⟩
    · rw [List.map_append]
      apply g.nodup.append (List.nodup_singleton _)
      simpa using hn
    · intro c hc
      rcases List.mem_append.mp hc with hc | hc
      · exact g.kept hk .done c hc
      · rw [List.mem_singleton.mp hc]
        refine ⟨parts, upgrade, response, ?_, rfl, rfl⟩
        rw [List.getElem?_set_of hk, if_pos rfl]
    · intro j p upgrade' response' hj hp
      rw [List.map_append]
      by_cases hjk : j = k
      · exact List.mem_append_right _ (by simp [hjk])
      · rw [List.getElem?_set_of hk, if_neg hjk] at hj
        exact List.mem_append_left _ (g.all j p upgrade' response' hj hp)
  | @upgradeFailed k parts upgrade response hk =>
    have ha := g.answers k _ hk
    refine ⟨List.forall_set hk ha fun j p _ => g.answers j p, g.nodup, g.kept hk .failed, ?_⟩
    intro j p upgrade' response' hj hp
    by_cases hjk : j = k
    · rw [List.getElem?_set_of hk, if_pos hjk] at hj
      cases hj
      cases hp
    · rw [List.getElem?_set_of hk, if_neg hjk] at hj
      exact g.all j p upgrade' response' hj hp

theorem reach_sound (h : Lts.Reach (step http sign) start s) : s.Sound http sign :=
  Lts.reach_inv (I := Sound http sign) ⟨by simp [start], by simp [start], by simp [start], by simp [start]⟩
    (fun _ _ _ _ g ht => g.step ht) h

/-- `on_connect` is called for the requests whose upgrade hyper has completed, in that order and at most once for
each: requests that passed every check of the extractor and were answered with `101` for the key that it took from
them. It is given the request itself and the address of its connection. Until shutdown begins no upgraded connection
is left out. -/
theorem upgrades_to_on_connect {ID C SC : Type} (http : HttpCrate) (sign : List UInt8 → HeaderValue)
    (config : SocketConfig) {s : Hosted Upgrades ID C SC}
    (h : Lts.Reach (Hosted.step (front http sign) config) (.start start) s) :
    (s.opened.map Accepted.peer).Nodup ∧
      (∀ c ∈ s.opened, ∃ parts upgrade,
        s.front.exchanges[c.peer]? = some (parts, .switching upgrade (upgrade.ws.onUpgradeResponse sign) .done) ∧
          (∃ parts', Upgrade.fromRequestParts http parts = some (.ok upgrade, parts')) ∧
          (∀ rejection : WebSocketUpgradeRejection, ¬ rejection.Applies parts) ∧
          parts.connectInfo = some c.address ∧
          c.request = ⟨parts.method, parts.uri, parts.version, parts.headers⟩) ∧
      s.opened <+: s.front.accepted ∧
      (s.server.shuttingDown = false → s.opened ++ s.waiting = s.front.accepted ∧
        ∀ (k : Nat) parts upgrade response, s.front.exchanges[k]? =
        some (parts, .switching upgrade response .done) →
          ∃ c ∈ s.opened ++ s.waiting, c.peer = k) := by
  obtain ⟨hle, hall⟩ := Hosted.opened_spec (F := front http sign) rfl h
  have g : s.front.Sound http sign := reach_sound (Hosted.reach_fed (F := front http sign) rfl h).1
  refine ⟨(hle.sublist.map _).nodup g.nodup, ?_, hle, ?_⟩
  · intro c hc
    obtain ⟨parts, upgrade, response, he, hr, ha⟩ := g.sent c (hle.subset hc)
    obtain ⟨rfl, q, hq⟩ := g.answers _ _ he
    obtain ⟨hn, hc, hreq⟩ := extracted hq
    exact ⟨parts, upgrade, he, ⟨q, hq⟩, hn, by rw [ha]; exact hc, hr.trans hreq⟩
  · intro hs
    refine ⟨hall hs, fun k parts upgrade response hk => ?_⟩
    obtain ⟨c, hc, hp⟩ := List.mem_map.mp (g.all k _ upgrade response hk rfl)
    rw [hall hs]
    exact ⟨c, hc, hp⟩

def openingFrom (address : SocketAddr) : Parts := { opening [.upgrade] with connectInfo := some address }

/-- Of two upgrades the second completes and the first fails; a third request is rejected. -/
def upgradesRun : List (HostedAct UpgradeAct Nat Nat Nat) := [
  .front (.request (openingFrom ⟨"a"⟩) true), .front (.request (openingFrom ⟨"b"⟩) true),
  .front (.request { openingFrom ⟨"c"⟩ with onUpgrade := none } true), .front (.upgraded 1),
  .server .takeConnection, .front (.upgradeFailed 0)]

theorem upgrades_to_on_connect_one : ∃ s : Hosted Upgrades Nat Nat Nat,
    Lts.exec (Hosted.step (front .standard fun _ => .sampleKey) .default) (.start start) upgradesRun = some s ∧
      s.opened.map Accepted.address = [⟨"b"⟩] ∧ s.opened ++ s.waiting = s.front.accepted := by
  have h : Lts.exec (Hosted.step (front .standard fun _ => .sampleKey) .default) (.start start) upgradesRun =
    some _ := rfl
  exact ⟨_, h, rfl, ((upgrades_to_on_connect .standard (fun _ => .sampleKey) .default ⟨_, h⟩).2.2.2 rfl).1⟩

end Upgrades

end Ezsockets
