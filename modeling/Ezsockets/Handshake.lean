import Ezsockets.ClientRequest
import Ezsockets.Upgrade

/-!
# The two ends of a handshake

The request that a `ClientConfig` makes is the one that the axum upgrade looks
for. A call of the builder can only spoil it by giving one of three headers of
the handshake a value of its own (`Undisturbed`), and all other values that
the calls gave arrive at `on_connect` (`handshake_agrees`).
-/

namespace Ezsockets

/-- What `hyper` hands over for a request: HTTP keeps the values of each name, and the URI becomes a path. -/
structure Carries (request : Request) (parts : Parts) : Prop where
  method : parts.method = request.method
  headers : ∀ name, parts.headers.getAll name = request.headers.getAll name
  upgradable : parts.onUpgrade.isSome
  connectInfo : parts.connectInfo.isSome

/-- No call has put a value into the handshake that does not belong there. -/
structure Undisturbed (http : HttpCrate) (calls : List BuilderCall) : Prop where
  connection : ∀ v, lastSet http calls .connection = some v → SpellsUpgrade v
  upgrade : ∀ v, lastSet http calls .upgrade = some v → v.bytes.map toAsciiLowercase = asBytes "websocket"
  version : ∀ v, lastSet http calls .secWebsocketVersion = some v → v.bytes.map toAsciiLowercase = asBytes "13"

theorem get_of_getAll {headers : HeaderMap} {name : HeaderName} {v : HeaderValue} (h : headers.getAll name = [v]) :
    headers.get name = some v := by
  rw [MultiMap.get_eq_head?, h, List.head?_cons]

theorem headerIs_single {headers : HeaderMap} {name : HeaderName} {v : HeaderValue} {value : String}
    (h : headers.getAll name = [v]) :
    HeaderIs headers name value ↔ v.bytes.map toAsciiLowercase = asBytes value := by
  unfold HeaderIs
  rw [get_of_getAll h]
  simp

/-- A text of visible characters has one value. -/
theorem fromStr_literal {http : HttpCrate} {s : String} {v w : HeaderValue} (hs : IsVisibleText s)
    (hv : http.fromStr s = some v) (hw : w.chars = s.toList) : v = w := by
  obtain ⟨u, hu, hc⟩ := http.fromStr_visible s hs
  cases hv.symm.trans hu
  exact HeaderValue.chars_inj (hc.trans hw.symm)

/-- A default that has the property does not spoil it. -/
theorem forall_some_iff_getD {α : Type} {P : α → Prop} {d : α} (hd : P d) (o : Option α) :
    (∀ v, o = some v → P v) ↔ P (o.getD d) := by
  cases o with
  | none => exact iff_of_true nofun hd
  | some v => exact ⟨fun h => h v rfl, fun h w hw => Option.some.inj hw ▸ h⟩

namespace NativeConfig

variable {http : HttpCrate} {nonce : List UInt8} {config : NativeConfig} {calls : List BuilderCall}
  {usizeMax : Nat} {url : Url} {host : Host} {request : Request} {parts : Parts}

/-! ## What the request says -/

def upgradeText : HeaderValue := .literal "Upgrade" (by decide)

/-- Each header of the handshake has one value, the last that a call gave it or its own. -/
structure Tells (http : HttpCrate) (nonce : List UInt8) (calls : List BuilderCall) (request : Request) : Prop where
  method : request.method = .GET
  connection : request.headers.getAll .connection = [(lastSet http calls .connection).getD upgradeText]
  upgrade : request.headers.getAll .upgrade = [(lastSet http calls .upgrade).getD .websocket]
  version : request.headers.getAll .secWebsocketVersion =
    [(lastSet http calls .secWebsocketVersion).getD .version13]
  key : ∃ key : HeaderValue, key.chars = (base64Encode nonce).toList ∧
    request.headers.getAll .secWebsocketKey = [(lastSet http calls .secWebsocketKey).getD key]
  protocol : request.headers.getAll .secWebsocketProtocol = (lastSet http calls .secWebsocketProtocol).toList
  others : ∀ name value, lastSet http calls name = some value → request.headers.getAll name = [value]

theorem standardRequest_tells (h : config.standardRequest http nonce host = some request) :
    Tells http nonce [] request := by
  obtain ⟨r₄, key, h₄, hkey, rfl⟩ := Builder.header_inv http h
  obtain ⟨r₃, version, h₃, hversion, rfl⟩ := Builder.header_inv http h₄
  obtain ⟨r₂, upgrade, h₂, hupgrade, rfl⟩ := Builder.header_inv http h₃
  obtain ⟨r₁, connection, h₁, hconnection, rfl⟩ := Builder.header_inv http h₂
  obtain ⟨r₀, value, h₀, -, rfl⟩ := Builder.header_inv http h₁
  have hr : r₀.method = .GET ∧ r₀.headers = .empty := by
    cases hu : http.uri config.url.asStr with
    | none => simp [Builder.method, Builder.uri, Request.builder, hu] at h₀
    | some u =>
      simp only [Builder.method, Builder.uri, Request.builder, hu, Option.bind_some, Option.map_some] at h₀
      cases h₀
      exact ⟨rfl, rfl⟩
  obtain ⟨hm, hempty⟩ := hr
  have hc : connection = upgradeText := fromStr_literal (isVisibleText_iff.mpr (by decide)) hconnection (by decide)
  have hu : upgrade = .websocket := fromStr_literal (isVisibleText_iff.mpr (by decide)) hupgrade (by decide)
  have hv : version = .version13 := fromStr_literal (isVisibleText_iff.mpr (by decide)) hversion (by decide)
  have hk : key.chars = (base64Encode nonce).toList := by
    obtain ⟨w, hw, hchars⟩ := http.fromStr_visible (base64Encode nonce) (by
      simpa using isVisibleText_base64 (s := "") rfl nonce)
    cases hkey.symm.trans hw
    exact hchars
  rw [hempty, hc, hu, hv]
  refine ⟨hm, ?_, ?_, ?_, ⟨key, hk, ?_⟩, ?_, ?_⟩
  all_goals simp +decide [MultiMap.getAll_append, lastSet, MultiMap.valuesOf]

theorem connectHttpRequest_tells (hb : (new usizeMax url).build http calls = some config)
    (hh : url.host = some host)
    (hr : config.connectHttpRequest http nonce = .ok request) : Tells http nonce calls request := by
  rcases connectHttpRequest_cases hb hh with ⟨he, -⟩ | ⟨he, -⟩ | ⟨base, hs, he⟩
  · cases hr.symm.trans he
  · cases hr.symm.trans he
  · cases hr.symm.trans he
    have g := standardRequest_tells hs
    have hget (name : HeaderName) : (base.headers.insertAll config.headers.iter).getAll name =
        (lastSet http calls name).elim (base.headers.getAll name) fun value => [value] := by
      rw [MultiMap.getAll_insertAll, build_values hb]
      cases lastSet http calls name <;> rfl
    obtain ⟨key, hk, hkey⟩ := g.key
    have single {name : HeaderName} {v : HeaderValue} (hv : base.headers.getAll name = [v]) :
        (base.headers.insertAll config.headers.iter).getAll name = [(lastSet http calls name).getD v] := by
      rw [hget, hv]
      cases lastSet http calls name <;> rfl
    refine ⟨g.method, single g.connection, single g.upgrade, single g.version, ⟨key, hk, single hkey⟩, ?_, ?_⟩
    · rw [hget, g.protocol]
      cases lastSet http calls .secWebsocketProtocol <;> rfl
    · intro name value hl
      rw [hget, hl, Option.elim_some]

/-! ## What the server makes of it -/

theorem carried_accepts_iff (g : Tells http nonce calls request) (hc : Carries request parts) :
    Accepts parts ↔ Undisturbed http calls := by
  have hconnection := (hc.headers .connection).trans g.connection
  have hupgrade := (hc.headers .upgrade).trans g.upgrade
  have hversion := (hc.headers .secWebsocketVersion).trans g.version
  obtain ⟨key, -, hkey⟩ := g.key
  have hkey := (hc.headers .secWebsocketKey).trans hkey
  have spells : (∃ v ∈ (parts.headers.getAll .connection).head?, SpellsUpgrade v) ↔
      SpellsUpgrade ((lastSet http calls .connection).getD upgradeText) := by
    rw [hconnection]
    simp
  have hs : SpellsUpgrade upgradeText := by
    unfold SpellsUpgrade
    decide
  rw [accepts_iff, spells]
  constructor
  · intro ⟨ho, hsp⟩
    exact ⟨(forall_some_iff_getD hs _).mpr hsp,
      (forall_some_iff_getD (by decide) _).mpr ((headerIs_single hupgrade).mp ho.upgrade),
      (forall_some_iff_getD (by decide) _).mpr ((headerIs_single hversion).mp ho.version)⟩
  · intro h
    refine ⟨⟨hc.method.trans g.method, ?_, ?_, ?_, hc.upgradable⟩, (forall_some_iff_getD hs _).mp h.connection⟩
    · exact (headerIs_single hupgrade).mpr ((forall_some_iff_getD (by decide) _).mp h.upgrade)
    · exact (headerIs_single hversion).mpr ((forall_some_iff_getD (by decide) _).mp h.version)
    · rw [get_of_getAll hkey, Option.isSome_some]

theorem fromRequestParts_inv {u : Upgrade} {rest : Parts}
    (h : Upgrade.fromRequestParts http parts = some (.ok u, rest)) :
    WebSocketUpgrade.fromRequestParts parts = (.ok u.ws, rest) ∧
      u.request = ⟨parts.method, parts.uri, parts.version, parts.headers⟩ := by
  unfold Upgrade.fromRequestParts at h
  cases hi : parts.connectInfo with
  | none => simp [hi] at h
  | some address =>
    simp only [hi, Option.bind_eq_bind, Option.bind_some] at h
    split at h
    · cases h
    · rename_i copy hcopy
      split at h
      · rename_i ws rest' hw
        cases h
        exact ⟨hw, Request.rebuild_eq http hcopy⟩
      · cases h

theorem fromRequestParts_copied {copy : Request} (ha : Accepts parts) (hi : parts.connectInfo.isSome)
    (hcopy : Request.rebuild http parts.method parts.uri parts.version parts.headers = some copy) :
    ∃ u rest, Upgrade.fromRequestParts http parts = some (.ok u, rest) := by
  obtain ⟨address, hi⟩ := Option.isSome_iff_exists.mp hi
  obtain ⟨ws, hw⟩ := ha
  have hparts : WebSocketUpgrade.fromRequestParts parts =
    (.ok ws, (WebSocketUpgrade.fromRequestParts parts).2) := by
    rw [← hw]
  refine ⟨⟨ws, address, copy⟩, (WebSocketUpgrade.fromRequestParts parts).2, ?_⟩
  simp only [Upgrade.fromRequestParts, hi, Option.bind_eq_bind, Option.bind_some, hcopy]
  rw [hparts]

/-- A request of `connect_http_request` that arrives and can be copied is accepted if and only if no call has
disturbed the handshake. Then `on_connect` is given every value that the calls have set, the server is offered the
subprotocols of the last call for them, and the response answers the key of the request: the one that a call has set
or the nonce. -/
theorem handshake_agrees {copy : Request} (hb : (new usizeMax url).build http calls = some config)
    (hh : url.host = some host) (hr : config.connectHttpRequest http nonce = .ok request)
    (hc : Carries request parts)
    (hcopy : Request.rebuild http parts.method parts.uri parts.version parts.headers = some copy) :
    ((∃ u rest, Upgrade.fromRequestParts http parts = some (.ok u, rest)) ↔ Undisturbed http calls) ∧
    ∀ u rest, Upgrade.fromRequestParts http parts = some (.ok u, rest) →
      (∀ name value, lastSet http calls name = some value → u.request.headers.getAll name = [value]) ∧
      u.ws.secWebsocketProtocol = lastSet http calls .secWebsocketProtocol ∧
      ∃ key : HeaderValue, key.chars = (base64Encode nonce).toList ∧ ∀ sign : List UInt8 → HeaderValue,
        (u.ws.onUpgradeResponse sign).headers.getAll .secWebsocketAccept =
          [sign ((lastSet http calls .secWebsocketKey).getD key).bytes] := by
  have g := connectHttpRequest_tells hb hh hr
  refine ⟨?_, ?_⟩
  · rw [← carried_accepts_iff g hc]
    constructor
    · intro ⟨u, rest, h⟩
      exact ⟨u.ws, by rw [(fromRequestParts_inv h).1]⟩
    · exact fun h => fromRequestParts_copied h hc.connectInfo hcopy
  · intro u rest h
    obtain ⟨hws, hrequest⟩ := fromRequestParts_inv h
    obtain ⟨-, -, -, hkey, hprotocol, -⟩ := fromRequestParts_ok hws
    refine ⟨fun name value hl => ?_, ?_, ?_⟩
    · rw [hrequest]
      exact (hc.headers name).trans (g.others name value hl)
    · rw [hprotocol, MultiMap.get_eq_head?, hc.headers, g.protocol]
      cases lastSet http calls .secWebsocketProtocol <;> rfl
    · obtain ⟨key, hchars, hk⟩ := g.key
      refine ⟨key, hchars, fun sign => ?_⟩
      have hget := get_of_getAll ((hc.headers .secWebsocketKey).trans hk)
      rw [WebSocketUpgrade.onUpgradeResponse_headers, Option.some.inj (hkey.symm.trans hget)]
      rfl

def portlessUrl : Url := localUrl none (by simp)

def arrived (headers : HeaderMap) : Parts :=
  ⟨.GET, ⟨"/websocket"⟩, .http11, headers, some ⟨"127.0.0.1:9"⟩, some ⟨0⟩⟩

/-- The request of `localCalls` arrives, with the credentials. -/
theorem handshake_agrees_local : ∃ config request, (new 0 portlessUrl).build .standard localCalls = some config ∧
    config.connectHttpRequest .standard [1, 2, 3] = .ok request ∧
    ∃ u rest, Upgrade.fromRequestParts .standard (arrived request.headers) = some (.ok u, rest) ∧
      u.request.headers.getAll .authorization = [.literal "Basic dXNlcjpwYXNzd29yZA==" (by decide)] := by
  have hb : (new 0 portlessUrl).build .standard localCalls = some _ := rfl
  have hh : portlessUrl.host = some localhost := rfl
  obtain ⟨request, hr⟩ : ∃ request, connectHttpRequest .standard [1, 2, 3] _ = .ok request :=
    request_built (fun _ => rfl) hb hh rfl
  have hc : Carries request (arrived request.headers) :=
    ⟨(connectHttpRequest_tells hb hh hr).method.symm, fun _ => rfl, rfl, rfl⟩
  obtain ⟨hiff, hall⟩ := handshake_agrees hb hh hr hc (Request.rebuild_room .standard (fun _ => rfl) _ _ _ _)
  obtain ⟨u, rest, h⟩ := hiff.mpr ⟨nofun, nofun, nofun⟩
  exact ⟨_, request, hb, hr, u, rest, h, (hall u rest h).1 .authorization _ rfl⟩

end NativeConfig

end Ezsockets
