import Ezsockets.Http
import Ezsockets.Pieces
import Mathlib.Data.List.Infix

/-!
# The axum upgrade

`WebSocketUpgrade::from_request_parts` looks for the letters of `upgrade` in
the first Connection value. The header is a list of tokens, over any number of
values: the check agrees with that reading unless the values are `Misread`
(`accepts_handshake_iff`).
-/

namespace Ezsockets

inductive StatusCode where
  | switchingProtocols
  deriving DecidableEq

inductive WebSocketUpgradeRejection where
  | methodNotGet
  | invalidConnectionHeader
  | invalidUpgradeHeader
  | invalidWebSocketVersionHeader
  | webSocketKeyHeaderMissing
  | connectionNotUpgradable
  deriving DecidableEq

/-- The handle on the connection that `hyper` leaves in the extensions. -/
structure OnUpgrade where
  connection : Nat
  deriving DecidableEq

structure Parts where
  method : Method
  uri : Uri
  version : Version
  headers : HeaderMap
  connectInfo : Option SocketAddr
  onUpgrade : Option OnUpgrade

structure WebSocketUpgrade where
  protocol : Option HeaderValue
  secWebsocketKey : HeaderValue
  onUpgrade : OnUpgrade
  secWebsocketProtocol : Option HeaderValue
  deriving DecidableEq

def headerEq (req : Parts) (key : HeaderName) (value : String) : Bool :=
  match req.headers.get key with
  | some header => eqIgnoreAsciiCase header.bytes (asBytes value)
  | none => false

/-- `contains` looks for the bytes of an ASCII text. -/
def headerContains (req : Parts) (key : HeaderName) (value : String) : Bool :=
  match req.headers.get key with
  | some header => isUtf8 header.bytes && decide (asBytes value <:+: header.bytes.map toAsciiLowercase)
  | none => false

namespace WebSocketUpgrade

def fromRequestParts (parts : Parts) : Except WebSocketUpgradeRejection WebSocketUpgrade × Parts :=
  if parts.method ≠ .GET then (.error .methodNotGet, parts)
  else if !headerContains parts .connection "upgrade" then (.error .invalidConnectionHeader, parts)
  else if !headerEq parts .upgrade "websocket" then (.error .invalidUpgradeHeader, parts)
  else if !headerEq parts .secWebsocketVersion "13" then (.error .invalidWebSocketVersionHeader, parts)
  else match parts.headers.get .secWebsocketKey with
    | none => (.error .webSocketKeyHeaderMissing, parts)
    | some secWebsocketKey => match parts.onUpgrade with
      | none => (.error .connectionNotUpgradable, parts)
      | some onUpgrade =>
        (.ok {
          protocol := none
          secWebsocketKey := secWebsocketKey
          onUpgrade := onUpgrade
          secWebsocketProtocol := parts.headers.get .secWebsocketProtocol }, { parts with onUpgrade := none })

end WebSocketUpgrade

structure Upgrade where
  ws : WebSocketUpgrade
  address : SocketAddr
  request : Request

/-- `none` is the panic of an extractor that was not given the address. -/
def Upgrade.fromRequestParts (http : HttpCrate) (parts : Parts) :
    Option (Except WebSocketUpgradeRejection Upgrade × Parts) := do
  let address ← parts.connectInfo
  match Request.rebuild http parts.method parts.uri parts.version parts.headers with
  | none => some (.error .invalidConnectionHeader, parts)
  | some request => match WebSocketUpgrade.fromRequestParts parts with
    | (.ok ws, parts) => some (.ok ⟨ws, address, request⟩, parts)
    | (.error rejection, parts) => some (.error rejection, parts)

/-- The check that a rejection stands for has failed. -/
def WebSocketUpgradeRejection.Applies (parts : Parts) : WebSocketUpgradeRejection → Prop
  | methodNotGet => parts.method ≠ .GET
  | invalidConnectionHeader => headerContains parts .connection "upgrade" = false
  | invalidUpgradeHeader => headerEq parts .upgrade "websocket" = false
  | invalidWebSocketVersionHeader => headerEq parts .secWebsocketVersion "13" = false
  | webSocketKeyHeaderMissing => parts.headers.get .secWebsocketKey = none
  | connectionNotUpgradable => parts.onUpgrade = none

theorem fromRequestParts_error {parts parts' : Parts} {rejection : WebSocketUpgradeRejection}
    (h : WebSocketUpgrade.fromRequestParts parts = (.error rejection, parts')) :
    rejection.Applies parts ∧ parts' = parts := by
  unfold WebSocketUpgrade.fromRequestParts at h
  split at h
  · rename_i hm
    cases h
    exact ⟨hm, rfl⟩
  split at h
  · rename_i hc
    cases h
    exact ⟨by simpa [WebSocketUpgradeRejection.Applies] using hc, rfl⟩
  split at h
  · rename_i hu
    cases h
    exact ⟨by simpa [WebSocketUpgradeRejection.Applies] using hu, rfl⟩
  split at h
  · rename_i hv
    cases h
    exact ⟨by simpa [WebSocketUpgradeRejection.Applies] using hv, rfl⟩
  split at h
  · rename_i hk
    cases h
    exact ⟨hk, rfl⟩
  split at h
  · rename_i ho
    cases h
    exact ⟨ho, rfl⟩
  · cases h

theorem fromRequestParts_ok {parts parts' : Parts} {ws : WebSocketUpgrade}
    (h : WebSocketUpgrade.fromRequestParts parts = (.ok ws, parts')) :
    (∀ rejection : WebSocketUpgradeRejection, ¬ rejection.Applies parts) ∧ some ws.onUpgrade = parts.onUpgrade ∧
      ws.protocol = none ∧ parts.headers.get .secWebsocketKey = some ws.secWebsocketKey ∧
      ws.secWebsocketProtocol = parts.headers.get .secWebsocketProtocol ∧
      parts' = { parts with onUpgrade := none } := by
  unfold WebSocketUpgrade.fromRequestParts at h
  split at h
  · cases h
  split at h
  · cases h
  split at h
  · cases h
  split at h
  · cases h
  split at h
  · cases h
  split at h
  · cases h
  rename_i hm hc hu hv _ key hk _ onUpgrade ho
  cases h
  refine ⟨?_, ho.symm, rfl, hk, rfl, rfl⟩
  intro rejection
  cases rejection with
  | methodNotGet => simpa [WebSocketUpgradeRejection.Applies] using hm
  | invalidConnectionHeader => simpa [WebSocketUpgradeRejection.Applies] using hc
  | invalidUpgradeHeader => simpa [WebSocketUpgradeRejection.Applies] using hu
  | invalidWebSocketVersionHeader => simpa [WebSocketUpgradeRejection.Applies] using hv
  | webSocketKeyHeaderMissing => simp [WebSocketUpgradeRejection.Applies, hk]
  | connectionNotUpgradable => simp [WebSocketUpgradeRejection.Applies, ho]

theorem upgrade_ok_iff {http : HttpCrate} (hr : ∀ m, http.room m) {parts parts' : Parts} {u : Upgrade} :
    Upgrade.fromRequestParts http parts = some (.ok u, parts') ↔
      WebSocketUpgrade.fromRequestParts parts = (.ok u.ws, parts') ∧ parts.connectInfo = some u.address ∧
        u.request = ⟨parts.method, parts.uri, parts.version, parts.headers⟩ := by
  obtain ⟨ws, address, request⟩ := u
  unfold Upgrade.fromRequestParts
  rw [Request.rebuild_room http hr]
  cases parts.connectInfo with
  | none => simp
  | some addr =>
    obtain ⟨res, q⟩ := WebSocketUpgrade.fromRequestParts parts
    cases res with
    | error rejection => simp
    | ok w => simp; grind

/-! ## The opening handshake -/

def isBlank (b : UInt8) : Bool := b == 32 || b == 9

/-- The value's list has the element `upgrade`. -/
def NamesUpgrade (v : HeaderValue) : Prop :=
  ∃ t, Pieces.IsElement isBlank 44 v.bytes t ∧ t.map toAsciiLowercase = asBytes "upgrade"

def HeaderIs (headers : HeaderMap) (key : HeaderName) (value : String) : Prop :=
  ∃ v, headers.get key = some v ∧ v.bytes.map toAsciiLowercase = asBytes value

/-- What an opening handshake has apart from its Connection header. -/
structure Offers (parts : Parts) : Prop where
  method : parts.method = .GET
  upgrade : HeaderIs parts.headers .upgrade "websocket"
  version : HeaderIs parts.headers .secWebsocketVersion "13"
  key : (parts.headers.get .secWebsocketKey).isSome
  upgradable : parts.onUpgrade.isSome

structure OpeningHandshake (parts : Parts) : Prop extends Offers parts where
  connection : ∃ v ∈ parts.headers.getAll .connection, NamesUpgrade v

def SpellsUpgrade (v : HeaderValue) : Prop :=
  isUtf8 v.bytes ∧ asBytes "upgrade" <:+: v.bytes.map toAsciiLowercase

/-- The look at the first value and the reading of the whole list disagree. -/
inductive Misread : List HeaderValue → Prop where
  | embedded {v : HeaderValue} {vs : List HeaderValue} :
      SpellsUpgrade v → (∀ w ∈ v :: vs, ¬ NamesUpgrade w) → Misread (v :: vs)
  | garbled {v : HeaderValue} {vs : List HeaderValue} : ¬ isUtf8 v.bytes → NamesUpgrade v → Misread (v :: vs)
  | later {v w : HeaderValue} {vs : List HeaderValue} :
      ¬ SpellsUpgrade v → w ∈ vs → NamesUpgrade w → Misread (v :: vs)

def Accepts (parts : Parts) : Prop := ∃ ws, (WebSocketUpgrade.fromRequestParts parts).1 = .ok ws

theorem NamesUpgrade.letters {v : HeaderValue} (h : NamesUpgrade v) :
    asBytes "upgrade" <:+: v.bytes.map toAsciiLowercase := by
  obtain ⟨t, ht, he⟩ := h
  rw [← he]
  exact ht.isInfix.map toAsciiLowercase

theorem headerEq_iff {parts : Parts} {key : HeaderName} {value : String}
    (hv : (asBytes value).map toAsciiLowercase = asBytes value) :
    headerEq parts key value ↔ HeaderIs parts.headers key value := by
  unfold headerEq HeaderIs
  cases parts.headers.get key with
  | none => simp
  | some v => simp [eqIgnoreAsciiCase, hv]

theorem headerContains_iff {parts : Parts} :
    headerContains parts .connection "upgrade" ↔ ∃ v ∈ (parts.headers.getAll .connection).head?,
    SpellsUpgrade v := by
  rw [← MultiMap.get_eq_head?]
  unfold headerContains SpellsUpgrade
  cases parts.headers.get .connection with
  | none => simp
  | some v => simp

theorem accepts_iff {parts : Parts} :
    Accepts parts ↔ Offers parts ∧ ∃ v ∈ (parts.headers.getAll .connection).head?, SpellsUpgrade v := by
  have hup : headerEq parts .upgrade "websocket" ↔ HeaderIs parts.headers .upgrade "websocket" :=
    headerEq_iff (by decide)
  have hver : headerEq parts .secWebsocketVersion "13" ↔ HeaderIs parts.headers .secWebsocketVersion "13" :=
    headerEq_iff (by decide)
  rw [← headerContains_iff]
  constructor
  · intro ⟨ws, h⟩
    have hok : WebSocketUpgrade.fromRequestParts parts = (.ok ws, (WebSocketUpgrade.fromRequestParts parts).2) := by
      rw [← h]
    obtain ⟨hn, ho, _, hk, _⟩ := fromRequestParts_ok hok
    have hm := hn .methodNotGet
    have hc := hn .invalidConnectionHeader
    have hu := hn .invalidUpgradeHeader
    have hv := hn .invalidWebSocketVersionHeader
    simp only [WebSocketUpgradeRejection.Applies, ne_eq, not_not, Bool.not_eq_false] at hm hc hu hv
    exact ⟨⟨hm, hup.mp hu, hver.mp hv, by simp [hk], by simp [← ho]⟩, hc⟩
  · intro ⟨h, hc⟩
    obtain ⟨key, hk⟩ := Option.isSome_iff_exists.mp h.key
    obtain ⟨onUpgrade, ho⟩ := Option.isSome_iff_exists.mp h.upgradable
    unfold Accepts WebSocketUpgrade.fromRequestParts
    simp [h.method, hc, hup.mpr h.upgrade, hver.mpr h.version, hk, ho]

theorem misread_iff (vs : List HeaderValue) :
    Misread vs ↔ ¬ ((∃ v ∈ vs.head?, SpellsUpgrade v) ↔ ∃ v ∈ vs, NamesUpgrade v) := by
  cases vs with
  | nil =>
    constructor
    · intro h; cases h
    · simp
  | cons v vs =>
    have hv : NamesUpgrade v → (SpellsUpgrade v ↔ isUtf8 v.bytes) := by
      intro h
      simp [SpellsUpgrade, h.letters]
    constructor
    · intro h
      cases h with
      | embedded hs hn =>
        intro hi
        obtain ⟨w, hw, hu⟩ := hi.mp ⟨v, by simp, hs⟩
        exact hn w hw hu
      | garbled hu hn =>
        intro hi
        obtain ⟨w, hw, hs⟩ := hi.mpr ⟨v, by simp, hn⟩
        cases hw
        exact hu hs.1
      | later hs hw hn =>
        intro hi
        obtain ⟨x, hx, hsx⟩ := hi.mpr ⟨_, List.mem_cons_of_mem _ hw, hn⟩
        cases hx
        exact hs hsx
    · intro h
      by_cases hs : SpellsUpgrade v
      · apply Misread.embedded hs
        intro w hw hn
        apply h
        simp only [List.head?_cons, Option.mem_def, Option.some.injEq, exists_eq_left', hs, true_iff]
        exact ⟨w, hw, hn⟩
      · have hex : ∃ w ∈ v :: vs, NamesUpgrade w := by
          by_contra hn
          apply h
          simp only [List.head?_cons, Option.mem_def, Option.some.injEq, exists_eq_left', hs, false_iff]
          exact hn
        obtain ⟨w, hw, hn⟩ := hex
        rcases List.mem_cons.mp hw with rfl | hw
        · exact .garbled (fun hu => hs ((hv hn).mpr hu)) hn
        · exact .later hs hw hn

instance (v : HeaderValue) : Decidable (NamesUpgrade v) :=
  decidable_of_iff ((Pieces.elements isBlank 44 v.bytes).any (·.map toAsciiLowercase == asBytes "upgrade")) (by
    simp only [List.any_eq_true, beq_iff_eq, Pieces.mem_elements, NamesUpgrade])

/-- Every request is judged as an opening handshake should be, but those that
offer one in all other respects and whose Connection header is misread. -/
theorem accepts_handshake_iff (parts : Parts) :
    (Accepts parts ↔ OpeningHandshake parts) ↔ ¬ (Offers parts ∧ Misread (parts.headers.getAll .connection)) := by
  have hspec : OpeningHandshake parts ↔
      Offers parts ∧ ∃ v ∈ parts.headers.getAll .connection, NamesUpgrade v :=
    ⟨fun h => ⟨h.toOffers, h.connection⟩, fun h => ⟨h.1, h.2⟩⟩
  rw [accepts_iff, hspec, misread_iff]
  by_cases ho : Offers parts
  · simp only [ho, true_and, not_not]
  · simp only [ho, false_and, not_false_eq_true]

/-- A request that opens a WebSocket, with these Connection values. -/
def opening (connection : List HeaderValue) : Parts where
  method := .GET
  uri := ⟨"/websocket"⟩
  version := .http11
  headers := MultiMap.empty.appendAll (connection.map (Prod.mk .connection) ++
    [(.upgrade, .websocket), (.secWebsocketVersion, .version13), (.secWebsocketKey, .sampleKey)])
  connectInfo := none
  onUpgrade := some ⟨0⟩

def upgrades : HeaderValue := .literal "upgrades" (by decide)
def keepAlive : HeaderValue := .literal "keep-alive" (by decide)

theorem upgrades_accepted_second_line_rejected :
    (Accepts (opening [upgrades]) ∧ ¬ OpeningHandshake (opening [upgrades])) ∧
    ¬ Accepts (opening [keepAlive, .upgrade]) ∧ OpeningHandshake (opening [keepAlive, .upgrade]) := by
  refine ⟨⟨⟨_, rfl⟩, ?_⟩, ?_, ?_⟩
  · intro h
    have hn : ¬ ∃ v ∈ (opening [upgrades]).headers.getAll .connection, NamesUpgrade v := by decide
    exact hn h.connection
  · intro ⟨ws, h⟩
    cases h
  · exact ⟨⟨rfl, ⟨_, rfl, by decide⟩, ⟨_, rfl, by decide⟩, rfl, rfl⟩, by decide⟩

/-! ## Subprotocols -/

inductive Cow where
  | borrowed (s : String)
  | owned (s : String)
  deriving DecidableEq

def Cow.text : Cow → String
  | borrowed s | owned s => s

/-- `none` is a panic: of `from_static`, or of the `unwrap` after `from_str`. -/
def Cow.toHeaderValue (http : HttpCrate) : Cow → Option HeaderValue
  | owned s => http.fromStr s
  | borrowed s => http.fromStatic s

/-- The characters with the property White_Space. -/
def isWhitespace (c : Char) : Bool :=
  (9 ≤ c.toNat && c.toNat ≤ 13) || (0x2000 ≤ c.toNat && c.toNat ≤ 0x200A) ||
    [0x20, 0x85, 0xA0, 0x1680, 0x2028, 0x2029, 0x202F, 0x205F, 0x3000].contains c.toNat

def requests (reqProtocols : String) (protocol : Cow) : Bool :=
  (reqProtocols.toList.splitOn ',').any fun reqProtocol => Pieces.trim isWhitespace reqProtocol ==
    protocol.text.toList

namespace WebSocketUpgrade

def protocols (http : HttpCrate) (ws : WebSocketUpgrade) (protocols : List Cow) : Option WebSocketUpgrade :=
  match ws.secWebsocketProtocol.bind http.toStr with
  | none => some ws
  | some reqProtocols => match protocols.find? (requests reqProtocols) with
    | none => some { ws with protocol := none }
    | some protocol => (protocol.toHeaderValue http).map fun value => { ws with protocol := some value }

end WebSocketUpgrade

def Offered (header : HeaderValue) (protocol : Cow) : Prop :=
  Pieces.IsElement isWhitespace ',' header.chars protocol.text.toList

/-- `protocol` is the server's first choice of what the header offers. -/
def Chosen (header : HeaderValue) (protocols : List Cow) (protocol : Cow) : Prop :=
  ∃ preferred rest, protocols = preferred ++ protocol :: rest ∧ Offered header protocol ∧
    ∀ other ∈ preferred, ¬ Offered header other

theorem requests_iff {header : HeaderValue} {reqProtocols : String} (h : reqProtocols.toList = header.chars)
    (protocol : Cow) : requests reqProtocols protocol ↔ Offered header protocol := by
  simp only [requests, Offered, ← Pieces.mem_elements, Pieces.elements, ← h, List.any_eq_true,
    beq_iff_eq, List.mem_map]

theorem find?_requests {header : HeaderValue} {reqProtocols : String} (h : reqProtocols.toList = header.chars)
    (protocols : List Cow) (protocol : Cow) :
    protocols.find? (requests reqProtocols) = some protocol ↔ Chosen header protocols protocol := by
  rw [List.find?_eq_some_iff_append]
  simp only [requests_iff h, Bool.not_eq_true', Bool.eq_false_iff, ne_eq, Chosen]
  constructor
  · intro ⟨ho, preferred, rest, he, hn⟩
    exact ⟨preferred, rest, he, ho, hn⟩
  · intro ⟨preferred, rest, he, ho, hn⟩
    exact ⟨ho, preferred, rest, he, hn⟩

theorem toHeaderValue_offered (http : HttpCrate) {header : HeaderValue} (hv : header.Visible) {protocol : Cow}
    (h : Offered header protocol) :
    ∃ value, protocol.toHeaderValue http = some value ∧ value.chars = protocol.text.toList := by
  have ht : IsVisibleText protocol.text := by
    apply isVisibleText_of_chars hv
    intro c hc
    exact h.isInfix.subset hc
  cases protocol with
  | borrowed s => exact http.fromStatic_visible s ht
  | owned s => exact http.fromStr_visible s ht

theorem protocols_visible (http : HttpCrate) {ws : WebSocketUpgrade} {header : HeaderValue}
    (hh : ws.secWebsocketProtocol = some header) (hv : header.Visible) (protocols : List Cow) :
    ∃ protocol, ws.protocols http protocols = some { ws with protocol := protocol } ∧
      (∀ value, protocol = some value ↔ ∃ c, Chosen header protocols c ∧ value.chars = c.text.toList) ∧
      (protocol = none ↔ ∀ c ∈ protocols, ¬ Offered header c) := by
  have hs : http.toStr header = some (String.ofList header.chars) := by
    rw [http.toStr_eq_some]
    simp [hv]
  have hc : (String.ofList header.chars).toList = header.chars := by simp
  unfold WebSocketUpgrade.protocols
  simp only [hh, Option.bind_some, hs]
  cases hf : protocols.find? (requests (String.ofList header.chars)) with
  | none =>
    have hno : ∀ c ∈ protocols, ¬ Offered header c := by
      intro c hm
      have := List.find?_eq_none.mp hf c hm
      rwa [requests_iff hc] at this
    refine ⟨none, rfl, ?_, by simpa using hno⟩
    intro value
    simp only [reduceCtorEq, false_iff]
    intro ⟨c, hchosen, _⟩
    rw [← find?_requests hc, hf] at hchosen
    cases hchosen
  | some c =>
    have hchosen := (find?_requests hc protocols c).mp hf
    have ho := (requests_iff hc c).mp (List.find?_some hf)
    obtain ⟨value, hvalue, hchars⟩ := toHeaderValue_offered http hv ho
    refine ⟨some value, by simp [hvalue], ?_, ?_⟩
    · intro w
      constructor
      · intro h
        cases h
        exact ⟨c, hchosen, hchars⟩
      · intro ⟨d, hd, hw⟩
        rw [← find?_requests hc, hf] at hd
        cases hd
        rw [HeaderValue.chars_inj (hchars.trans hw.symm)]
    · simp only [reduceCtorEq, false_iff]
      intro hno
      exact hno c (List.mem_of_find?_eq_some hf) ho

theorem protocols_unchanged (http : HttpCrate) {ws : WebSocketUpgrade}
    (h : ∀ header, ws.secWebsocketProtocol = some header → ¬ header.Visible) (protocols : List Cow) :
    ws.protocols http protocols = some ws := by
  have hn : ws.secWebsocketProtocol.bind http.toStr = none := by
    cases hh : ws.secWebsocketProtocol with
    | none => rfl
    | some header =>
      rw [Option.bind_some, Option.eq_none_iff_forall_ne_some]
      intro s hs
      exact h header hh ((http.toStr_eq_some header s).mp hs).1
  simp only [WebSocketUpgrade.protocols, hn]

/-- The negotiation never panics, and touches nothing but the protocol. -/
theorem protocols_negotiates (http : HttpCrate) (ws : WebSocketUpgrade) (protocols : List Cow) :
    ∃ protocol, ws.protocols http protocols = some { ws with protocol := protocol } ∧
      ((∀ header, ws.secWebsocketProtocol = some header → ¬ header.Visible) → protocol = ws.protocol) ∧
      ∀ header, ws.secWebsocketProtocol = some header → header.Visible →
        (∀ value, protocol = some value ↔ ∃ c, Chosen header protocols c ∧ value.chars = c.text.toList) ∧
        (protocol = none ↔ ∀ c ∈ protocols, ¬ Offered header c) := by
  by_cases hv : ∃ header, ws.secWebsocketProtocol = some header ∧ header.Visible
  · obtain ⟨header, hh, hv⟩ := hv
    obtain ⟨protocol, hp, hsome, hnone⟩ := protocols_visible http hh hv protocols
    refine ⟨protocol, hp, ?_, ?_⟩
    · intro h
      exact absurd hv (h header hh)
    · intro other ho _
      cases hh.symm.trans ho
      exact ⟨hsome, hnone⟩
  · simp only [not_exists, not_and] at hv
    refine ⟨ws.protocol, protocols_unchanged http hv protocols, fun _ => rfl, ?_⟩
    intro header hh hvis
    exact absurd hvis (hv header hh)

def chatRequest : WebSocketUpgrade where
  protocol := none
  secWebsocketKey := .sampleKey
  onUpgrade := ⟨0⟩
  secWebsocketProtocol := some (.literal "chat, superchat" (by decide))

theorem protocols_negotiates_superchat :
    chatRequest.protocols .standard [.owned "über", .borrowed "superchat", .owned "chat"] =
      some { chatRequest with protocol := some (.literal "superchat" (by decide)) } ∧
    ∃ c, Chosen (.literal "chat, superchat" (by decide)) [.owned "über", .borrowed "superchat", .owned "chat"] c ∧
      c.text.toList = "superchat".toList := by
  have heval : chatRequest.protocols .standard [.owned "über", .borrowed "superchat", .owned "chat"] =
      some { chatRequest with protocol := some (.literal "superchat" (by decide)) } := by decide
  obtain ⟨protocol, he, _, hv⟩ :=
    protocols_negotiates .standard chatRequest [.owned "über", .borrowed "superchat", .owned "chat"]
  have hp : protocol = some (.literal "superchat" (by decide)) := by
    rw [heval] at he
    simpa using he.symm
  obtain ⟨hs, _⟩ := hv (.literal "chat, superchat" (by decide)) rfl (by decide)
  obtain ⟨c, hc, ht⟩ := (hs _).mp hp
  exact ⟨heval, c, hc, by rw [← ht]; decide⟩

/-! ## The response -/

structure Response where
  status : StatusCode
  headers : HeaderMap

namespace WebSocketUpgrade

/-- `sign` is the digest of the key, in base64. -/
def onUpgradeResponse (sign : List UInt8 → HeaderValue) (ws : WebSocketUpgrade) : Response :=
  let headers : HeaderMap := ((MultiMap.empty.insert .connection .upgrade).insert .upgrade .websocket).insert
    .secWebsocketAccept (sign ws.secWebsocketKey.bytes)
  { status := .switchingProtocols
    headers := match ws.protocol with
      | some protocol => headers.insert .secWebsocketProtocol protocol
      | none => headers }

theorem onUpgradeResponse_headers (sign : List UInt8 → HeaderValue) (ws : WebSocketUpgrade) (key : HeaderName) :
    (ws.onUpgradeResponse sign).headers.getAll key =
      if key = .secWebsocketProtocol then ws.protocol.toList
      else if key = .secWebsocketAccept then [sign ws.secWebsocketKey.bytes]
      else if key = .upgrade then [.websocket]
      else if key = .connection then [.upgrade]
      else [] := by
  by_cases hp : key = .secWebsocketProtocol
  · subst hp
    unfold onUpgradeResponse
    cases ws.protocol with
    | none =>
      simp only [MultiMap.getAll_insert]
      rfl
    | some protocol => simp [MultiMap.getAll_insert]
  · unfold onUpgradeResponse
    cases ws.protocol with
    | none => simp [MultiMap.getAll_insert, hp]
    | some protocol => simp [MultiMap.getAll_insert, hp]

end WebSocketUpgrade

/-- The subprotocol that the response names was offered by the request and is
the first such protocol of the server. -/
theorem response_protocol (http : HttpCrate) (sign : List UInt8 → HeaderValue) {parts parts' : Parts}
    {ws negotiated : WebSocketUpgrade} {protocols : List Cow} {value : HeaderValue}
    (hok : WebSocketUpgrade.fromRequestParts parts = (.ok ws, parts'))
    (hp : ws.protocols http protocols = some negotiated)
    (hv : value ∈ (negotiated.onUpgradeResponse sign).headers.getAll .secWebsocketProtocol) :
    ∃ header, parts.headers.get .secWebsocketProtocol = some header ∧ header.Visible ∧
      ∃ c, Chosen header protocols c ∧ value.chars = c.text.toList := by
  obtain ⟨_, _, hnone, _, hheader, _⟩ := fromRequestParts_ok hok
  rw [WebSocketUpgrade.onUpgradeResponse_headers, if_pos rfl, Option.mem_toList] at hv
  by_cases hvis : ∃ header, ws.secWebsocketProtocol = some header ∧ header.Visible
  · obtain ⟨header, hh, hvis⟩ := hvis
    obtain ⟨protocol, he, hsome, _⟩ := protocols_visible http hh hvis protocols
    cases hp.symm.trans he
    exact ⟨header, by rw [← hheader, hh], hvis, (hsome value).mp hv⟩
  · simp only [not_exists, not_and] at hvis
    have he := protocols_unchanged http hvis protocols
    cases hp.symm.trans he
    simp [hnone] at hv

end Ezsockets
