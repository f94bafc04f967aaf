import Ezsockets.Client
import Ezsockets.Http
import Ezsockets.Latency

/-!
# The native handshake request

A `ClientConfig` is made by builder calls, then `connect_http_request` merges
its headers over the standard ones. What a name carries in the end is the last
value that a call gave it (`request_headers`). The Host that nobody set is the
URL's host without the port, so it names the authority if and only if the URL
carries no port (`names_authority_iff`).
-/

namespace Ezsockets

/-! ## URLs -/

/-- A host as `Display` writes it, an IPv6 address in brackets. -/
inductive Host where
  | domain (name : String)
  | ipv4 (address : String)
  | ipv6 (address : String)
  deriving DecidableEq

def Host.display : Host → String
  | domain name => name
  | ipv4 address => address
  | ipv6 address => "[" ++ address ++ "]"

def defaultPort (scheme : String) : Option UInt16 :=
  if scheme = "http" ∨ scheme = "ws" then some 80
  else if scheme = "https" ∨ scheme = "wss" then some 443
  else if scheme = "ftp" then some 21
  else none

/-- A parsed URL drops the default port of its scheme. `userinfo` has its `@`. -/
structure Url where
  scheme : String
  userinfo : String
  host : Option Host
  port : Option UInt16
  path : String
  query : Option String
  fragment : Option String
  host_visible : ∀ h, host = some h → IsVisibleText h.display
  port_ne : ∀ p, port = some p → defaultPort scheme ≠ some p

namespace Url

def portSuffix (url : Url) : String :=
  match url.port with
  | some p => ":" ++ p.toNat.repr
  | none => ""

def asStr (url : Url) : String :=
  let authority := match url.host with
    | some h => "//" ++ url.userinfo ++ h.display ++ url.portSuffix
    | none => ""
  let query := match url.query with
    | some q => "?" ++ q
    | none => ""
  let fragment := match url.fragment with
    | some f => "#" ++ f
    | none => ""
  url.scheme ++ ":" ++ authority ++ url.path ++ query ++ fragment

def hexDigit (n : Nat) : Char := "0123456789ABCDEF".toList.getD n '0'

/-- `application/x-www-form-urlencoded`. -/
def byteSerialize (s : String) : String :=
  String.ofList ((asBytes s).flatMap fun b =>
    let c := Char.ofUInt8 b
    if c.isAlphanum || "*-._".toList.contains c then [c]
    else if c = ' ' then ['+']
    else ['%', hexDigit (b.toNat / 16), hexDigit (b.toNat % 16)])

def appendPair (url : Url) (key value : String) : Url :=
  let pair := byteSerialize key ++ "=" ++ byteSerialize value
  { url with query := match url.query with
      | some q => some (if q.isEmpty then pair else q ++ "&" ++ pair)
      | none => some pair }

@[simp] theorem appendPair_host (url : Url) (key value : String) : (url.appendPair key value).host = url.host := rfl
@[simp] theorem appendPair_port (url : Url) (key value : String) : (url.appendPair key value).port = url.port := rfl

end Url

/-! ## Base64 -/

def base64Char (n : Nat) : Char :=
  "ABCDEFGHIJKLMNOPQRSTUVWXYZabcdefghijklmnopqrstuvwxyz0123456789+/".toList.getD n 'A'

def base64Chars : List UInt8 → List Char
  | [] => []
  | [a] => [base64Char (a.toNat / 4), base64Char (a.toNat % 4 * 16), '=', '=']
  | [a, b] =>
    [base64Char (a.toNat / 4), base64Char (a.toNat % 4 * 16 + b.toNat / 16), base64Char (b.toNat % 16 * 4), '=']
  | a :: b :: c :: bytes =>
    base64Char (a.toNat / 4) :: base64Char (a.toNat % 4 * 16 + b.toNat / 16) ::
      base64Char (b.toNat % 16 * 4 + c.toNat / 64) :: base64Char (c.toNat % 64) :: base64Chars bytes

def base64Encode (bytes : List UInt8) : String := String.ofList (base64Chars bytes)

def isVisibleChar (c : Char) : Bool := c.toNat < 128 && isVisibleAscii c.toUInt8

theorem isVisibleText_iff {s : String} : IsVisibleText s ↔ s.toList.all isVisibleChar := by
  simp [IsVisibleText, isVisibleChar]

theorem base64Char_visible (n : Nat) : isVisibleChar (base64Char n) := by
  have hall : ("ABCDEFGHIJKLMNOPQRSTUVWXYZabcdefghijklmnopqrstuvwxyz0123456789+/".toList.all isVisibleChar) := by
    decide
  unfold base64Char
  rw [List.getD_eq_getElem?_getD]
  cases hn : ("ABCDEFGHIJKLMNOPQRSTUVWXYZabcdefghijklmnopqrstuvwxyz0123456789+/".toList)[n]? with
  | none => decide
  | some c => exact List.all_eq_true.mp hall c (List.mem_of_getElem? hn)

theorem base64Chars_visible (bytes : List UInt8) : (base64Chars bytes).all isVisibleChar := by
  induction bytes using base64Chars.induct with
  | case1 => rfl
  | case2 a =>
    simp only [base64Chars, List.all_cons, base64Char_visible]
    decide
  | case3 a b =>
    simp only [base64Chars, List.all_cons, base64Char_visible]
    decide
  | case4 a b c bytes ih => simp [base64Chars, base64Char_visible, ih]

theorem isVisibleText_base64 {s : String} (hs : s.toList.all isVisibleChar) (bytes : List UInt8) :
    IsVisibleText (s ++ base64Encode bytes) := by
  simp [isVisibleText_iff, base64Encode, hs, base64Chars_visible]

/-! ## Builder calls -/

/-- A `ClientConfig` with all that a native handshake reads. -/
structure NativeConfig extends ClientConfig where
  url : Url
  reconnectInterval : Duration
  headers : HeaderMap

/-- The arguments of `header` are the results of its two conversions. -/
inductive BuilderCall where
  | basic (username password : String)
  | bearer (token : String)
  | header (name : Option HeaderName) (value : Option HeaderValue)
  | queryParameter (key value : String)
  | maxInitialConnectAttempts (n : Nat)
  | maxReconnectAttempts (n : Nat)
  | reconnectInterval (d : Duration)
  | socketConfig (c : SocketConfig)

namespace NativeConfig

variable (http : HttpCrate)

def new (usizeMax : Nat) (url : Url) : NativeConfig where
  url := url
  maxInitialConnectAttempts := usizeMax
  maxReconnectAttempts := usizeMax
  reconnectInterval := .seconds 5 (by decide)
  headers := .empty
  socketConfig := none

def insertHeader (config : NativeConfig) (name : HeaderName) (value : HeaderValue) : Option NativeConfig :=
  if http.room config.headers then some { config with headers := config.headers.insert name value } else none

/-- `none` is a panic: of a conversion, or of a map that is full. -/
def call (config : NativeConfig) : BuilderCall → Option NativeConfig
  | .basic username password => do
    let credentials := base64Encode (asBytes (username ++ ":" ++ password))
    let value ← http.fromStr ("Basic " ++ credentials)
    config.insertHeader http .authorization value
  | .bearer token => do
    let value ← http.fromStr ("Bearer " ++ token)
    config.insertHeader http .authorization value
  | .header name value => do
    let name ← name
    let value ← value
    config.insertHeader http name value
  | .queryParameter key value => some { config with url := config.url.appendPair key value }
  | .maxInitialConnectAttempts n => some { config with maxInitialConnectAttempts := n }
  | .maxReconnectAttempts n => some { config with maxReconnectAttempts := n }
  | .reconnectInterval d => some { config with reconnectInterval := d }
  | .socketConfig c => some { config with socketConfig := some c }

def build (config : NativeConfig) (calls : List BuilderCall) : Option NativeConfig :=
  calls.foldlM (call http) config

end NativeConfig

def BuilderCall.sets (http : HttpCrate) : BuilderCall → Option (HeaderName × HeaderValue)
  | basic username password =>
    (http.fromStr ("Basic " ++ base64Encode (asBytes (username ++ ":" ++ password)))).map (Prod.mk .authorization)
  | bearer token => (http.fromStr ("Bearer " ++ token)).map (Prod.mk .authorization)
  | header name value => name.bind fun n => value.map (Prod.mk n)
  | _ => none

def lastSet (http : HttpCrate) (calls : List BuilderCall) (name : HeaderName) : Option HeaderValue :=
  (MultiMap.valuesOf (calls.filterMap (BuilderCall.sets http)) name).getLast?

namespace NativeConfig

variable {http : HttpCrate} {config config' : NativeConfig}

theorem insertHeader_inv {name : HeaderName} {value : HeaderValue}
    (h : config.insertHeader http name value = some config') :
    config' = { config with headers := config.headers.insert name value } := by
  unfold insertHeader at h
  by_cases hr : http.room config.headers
  · simpa [hr, eq_comm] using h
  · simp [hr] at h

theorem call_spec {c : BuilderCall} (h : config.call http c = some config') :
    config'.headers = config.headers.insertAll (c.sets http).toList ∧ config'.url.host = config.url.host ∧
      config'.url.port = config.url.port := by
  cases c with
  | basic username password =>
    simp only [call, Option.bind_eq_bind, Option.bind_eq_some_iff] at h
    obtain ⟨value, hv, hi⟩ := h
    rw [insertHeader_inv hi]
    simp [BuilderCall.sets, hv, MultiMap.insertAll]
  | bearer token =>
    simp only [call, Option.bind_eq_bind, Option.bind_eq_some_iff] at h
    obtain ⟨value, hv, hi⟩ := h
    rw [insertHeader_inv hi]
    simp [BuilderCall.sets, hv, MultiMap.insertAll]
  | header name value =>
    simp only [call, Option.bind_eq_bind, Option.bind_eq_some_iff] at h
    obtain ⟨n, hn, v, hv, hi⟩ := h
    rw [insertHeader_inv hi]
    simp [BuilderCall.sets, hn, hv, MultiMap.insertAll]
  | queryParameter key value => cases h; exact ⟨rfl, rfl, rfl⟩
  | maxInitialConnectAttempts n => cases h; exact ⟨rfl, rfl, rfl⟩
  | maxReconnectAttempts n => cases h; exact ⟨rfl, rfl, rfl⟩
  | reconnectInterval d => cases h; exact ⟨rfl, rfl, rfl⟩
  | socketConfig s => cases h; exact ⟨rfl, rfl, rfl⟩

theorem build_spec {calls : List BuilderCall} : ∀ {config : NativeConfig}, config.build http calls = some config' →
    config'.headers = config.headers.insertAll (calls.filterMap (BuilderCall.sets http)) ∧
      config'.url.host = config.url.host ∧ config'.url.port = config.url.port := by
  induction calls with
  | nil =>
    intro config h
    cases h
    exact ⟨rfl, rfl, rfl⟩
  | cons c calls ih =>
    intro config h
    simp only [build, List.foldlM_cons, Option.bind_eq_bind, Option.bind_eq_some_iff] at h
    obtain ⟨middle, hc, hb⟩ := h
    obtain ⟨hh, hhost, hport⟩ := call_spec hc
    obtain ⟨ih₁, ih₂, ih₃⟩ := ih hb
    refine ⟨?_, ih₂.trans hhost, ih₃.trans hport⟩
    rw [ih₁, hh, List.filterMap_cons]
    cases c.sets http with
    | none => rfl
    | some p => simp [MultiMap.insertAll]

end NativeConfig

/-! ## The request -/

inductive RequestPanic where
  | noHost
  | builder
  | noKey
  | full
  deriving DecidableEq

def mergeHeaders (http : HttpCrate) : Request → List (Option HeaderName × HeaderValue) → Except RequestPanic Request
  | request, [] => .ok request
  | _, (none, _) :: _ => .error .noKey
  | request, (some key, value) :: headers =>
    if http.room request.headers then
      mergeHeaders http { request with headers := request.headers.insert key value } headers
    else .error .full

namespace NativeConfig

/-- `nonce` are the random bytes of `generate_key`. -/
def standardRequest (http : HttpCrate) (nonce : List UInt8) (config : NativeConfig) (host : Host) : Builder :=
  ((((((Request.builder.uri (http.uri config.url.asStr)).method .GET).header http .host
    (http.fromStr host.display)).header http .connection (http.fromStr "Upgrade")).header http .upgrade
    (http.fromStr "websocket")).header http .secWebsocketVersion (http.fromStr "13")).header http .secWebsocketKey
    (http.fromStr (base64Encode nonce))

def connectHttpRequest (http : HttpCrate) (nonce : List UInt8) (config : NativeConfig) :
    Except RequestPanic Request :=
  match config.url.host with
  | none => .error .noHost
  | some host => match config.standardRequest http nonce host with
    | none => .error .builder
    | some request => mergeHeaders http request config.headers.intoIter

end NativeConfig

theorem mergeHeaders_spec (http : HttpCrate) (headers : List (HeaderName × HeaderValue)) : ∀ request : Request,
    (mergeHeaders http request (headers.map fun p => (some p.1, p.2)) = .error .full ∧ ∃ m, ¬ http.room m) ∨
    mergeHeaders http request (headers.map fun p => (some p.1, p.2)) =
      .ok { request with headers := request.headers.insertAll headers } := by
  induction headers with
  | nil =>
    intro request
    right
    rfl
  | cons p headers ih =>
    intro request
    simp only [List.map_cons, mergeHeaders]
    by_cases hr : http.room request.headers
    · simp only [hr, ite_true]
      exact ih _
    · left
      simp only [hr, Bool.false_eq_true, ite_false, true_and]
      exact ⟨request.headers, hr⟩

namespace NativeConfig

variable {http : HttpCrate} {nonce : List UInt8} {config : NativeConfig} {calls : List BuilderCall}

structure Standard (http : HttpCrate) (host : Host) (headers : HeaderMap) : Prop where
  host : ∃ v, headers.getAll .host = [v] ∧ http.fromStr host.display = some v
  connection : ∃ v, headers.getAll .connection = [v] ∧ http.fromStr "Upgrade" = some v
  upgrade : ∃ v, headers.getAll .upgrade = [v] ∧ http.fromStr "websocket" = some v
  version : ∃ v, headers.getAll .secWebsocketVersion = [v] ∧ http.fromStr "13" = some v
  key : ∃ v nonce, headers.getAll .secWebsocketKey = [v] ∧ http.fromStr (base64Encode nonce) = some v

theorem standardRequest_spec {host : Host} {request : Request}
    (h : config.standardRequest http nonce host = some request) : Standard http host request.headers := by
  obtain ⟨r₄, key, h₄, hkey, rfl⟩ := Builder.header_inv http h
  obtain ⟨r₃, version, h₃, hversion, rfl⟩ := Builder.header_inv http h₄
  obtain ⟨r₂, upgrade, h₂, hupgrade, rfl⟩ := Builder.header_inv http h₃
  obtain ⟨r₁, connection, h₁, hconnection, rfl⟩ := Builder.header_inv http h₂
  obtain ⟨r₀, value, h₀, hvalue, rfl⟩ := Builder.header_inv http h₁
  have hempty : r₀.headers = .empty := by
    cases hu : http.uri config.url.asStr with
    | none => simp [Builder.method, Builder.uri, Request.builder, hu] at h₀
    | some u =>
      simp only [Builder.method, Builder.uri, Request.builder, hu, Option.bind_some, Option.map_some] at h₀
      cases h₀
      rfl
  rw [hempty]
  constructor
  · exact ⟨value, by simp +decide [MultiMap.getAll_append], hvalue⟩
  · exact ⟨connection, by simp +decide [MultiMap.getAll_append], hconnection⟩
  · exact ⟨upgrade, by simp +decide [MultiMap.getAll_append], hupgrade⟩
  · exact ⟨version, by simp +decide [MultiMap.getAll_append], hversion⟩
  · exact ⟨key, nonce, by simp +decide [MultiMap.getAll_append], hkey⟩

theorem build_single {usizeMax : Nat} {url : Url} (h : (new usizeMax url).build http calls = some config) :
    config.headers.Single := by
  rw [(build_spec h).1]
  exact MultiMap.single_insertAll MultiMap.single_empty _

theorem build_values {usizeMax : Nat} {url : Url} (h : (new usizeMax url).build http calls = some config)
    (name : HeaderName) : MultiMap.valuesOf config.headers.iter name = (lastSet http calls name).toList := by
  rw [MultiMap.valuesOf_iter, (build_spec h).1, MultiMap.getAll_insertAll]
  unfold lastSet
  cases (MultiMap.valuesOf (calls.filterMap (BuilderCall.sets http)) name).getLast? <;> rfl

theorem connectHttpRequest_cases {usizeMax : Nat} {url : Url} {host : Host}
    (hb : (new usizeMax url).build http calls = some config) (hh : url.host = some host) :
    (config.connectHttpRequest http nonce = .error .builder ∧ config.standardRequest http nonce host = none) ∨
    (config.connectHttpRequest http nonce = .error .full ∧ ∃ m, ¬ http.room m) ∨
    ∃ request, config.standardRequest http nonce host = some request ∧ config.connectHttpRequest http nonce =
      .ok { request with headers := request.headers.insertAll config.headers.iter } := by
  have hhost : config.url.host = some host := (build_spec hb).2.1.trans hh
  unfold connectHttpRequest
  simp only [hhost]
  cases hs : config.standardRequest http nonce host with
  | none => simp
  | some request =>
    right
    rw [MultiMap.intoIter_single (build_single hb)]
    rcases mergeHeaders_spec http config.headers.iter request with he | he
    · exact .inl he
    · exact .inr ⟨request, rfl, he⟩

/-- A name carries the last value that the calls gave it, or its standard value. -/
theorem request_headers {usizeMax : Nat} {url : Url} {host : Host} {request : Request}
    (hb : (new usizeMax url).build http calls = some config) (hh : url.host = some host)
    (hr : config.connectHttpRequest http nonce = .ok request) :
    ∃ standard : HeaderMap, Standard http host standard ∧ ∀ name, request.headers.getAll name =
      match lastSet http calls name with
      | some value => [value]
      | none => standard.getAll name := by
  rcases connectHttpRequest_cases hb hh with ⟨he, _⟩ | ⟨he, _⟩ | ⟨base, hs, he⟩
  · cases hr.symm.trans he
  · cases hr.symm.trans he
  · cases hr.symm.trans he
    refine ⟨base.headers, standardRequest_spec hs, ?_⟩
    intro name
    rw [MultiMap.getAll_insertAll, build_values hb]
    cases lastSet http calls name <;> rfl

theorem header_room (hr : ∀ m, http.room m) (r : Request) (key : HeaderName) {s : String} (hs : IsVisibleText s) :
    ∃ q, Builder.header http (some r) key (http.fromStr s) = some q := by
  obtain ⟨v, hv, _⟩ := http.fromStr_visible s hs
  rw [hv, Builder.header_some, if_pos (hr _)]
  exact ⟨_, rfl⟩

/-- With room in the maps and a URL that is a URI there is a request. -/
theorem request_built {usizeMax : Nat} {url : Url} {host : Host} {uri : Uri} (hr : ∀ m, http.room m)
    (hb : (new usizeMax url).build http calls = some config) (hh : url.host = some host)
    (hu : http.uri config.url.asStr = some uri) :
    ∃ request, config.connectHttpRequest http nonce = .ok request := by
  have hs : ∃ request, config.standardRequest http nonce host = some request := by
    have hkey : IsVisibleText (base64Encode nonce) := by
      simpa using isVisibleText_base64 (s := "") rfl nonce
    unfold standardRequest
    simp only [Request.builder, Builder.uri, Builder.method, hu, Option.bind_some, Option.map_some]
    obtain ⟨r₁, h₁⟩ := header_room hr ⟨.GET, uri, .http11, .empty⟩ .host (url.host_visible host hh)
    obtain ⟨r₂, h₂⟩ := header_room hr r₁ .connection (s := "Upgrade") (isVisibleText_iff.mpr (by decide))
    obtain ⟨r₃, h₃⟩ := header_room hr r₂ .upgrade (s := "websocket") (isVisibleText_iff.mpr (by decide))
    obtain ⟨r₄, h₄⟩ := header_room hr r₃ .secWebsocketVersion (s := "13") (isVisibleText_iff.mpr (by decide))
    obtain ⟨r₅, h₅⟩ := header_room hr r₄ .secWebsocketKey hkey
    exact ⟨r₅, by rw [h₁, h₂, h₃, h₄, h₅]⟩
  rcases connectHttpRequest_cases hb hh with ⟨_, hn⟩ | ⟨_, m, hm⟩ | ⟨request, _, he⟩
  · obtain ⟨request, hs⟩ := hs
    cases hn.symm.trans hs
  · exact absurd (hr m) hm
  · exact ⟨_, he⟩

/-! ## The authority -/

/-- The request names the user's last Host, or the authority of the URL, and
carries the last value of every other header. -/
structure NamesAuthority (http : HttpCrate) (calls : List BuilderCall) (url : Url) (host : Host)
    (request : Request) :
    Prop where
  host : ∃ v, request.headers.getAll .host = [v] ∧ (∀ value, lastSet http calls .host = some value → v = value) ∧
    (lastSet http calls .host = none → v.chars = (host.display ++ url.portSuffix).toList)
  others : ∀ name value, name ≠ .host → lastSet http calls name = some value → request.headers.getAll name = [value]

theorem portSuffix_eq_nil {url : Url} : url.portSuffix.toList = [] ↔ url.port = none := by
  unfold Url.portSuffix
  cases url.port with
  | none => simp
  | some p => simp

theorem host_chars {url : Url} {host : Host} (hh : url.host = some host) {v : HeaderValue}
    (hv : http.fromStr host.display = some v) : v.chars = host.display.toList := by
  obtain ⟨w, hw, hc⟩ := http.fromStr_visible _ (url.host_visible host hh)
  cases hv.symm.trans hw
  exact hc

/-- For every URL with a host and all builder calls: `key.unwrap()` does not
panic, and the request is right unless it needs the port. -/
theorem names_authority_iff {usizeMax : Nat} {url : Url} {host : Host} (nonce : List UInt8)
    (hb : (new usizeMax url).build http calls = some config) (hh : url.host = some host) :
    config.connectHttpRequest http nonce ≠ .error .noKey ∧
    ∀ request, config.connectHttpRequest http nonce = .ok request →
      (NamesAuthority http calls url host request ↔ (lastSet http calls .host).isSome ∨ url.port = none) := by
  constructor
  · intro hk
    rcases connectHttpRequest_cases hb hh with ⟨he, _⟩ | ⟨he, _⟩ | ⟨base, _, he⟩
    · cases hk.symm.trans he
    · cases hk.symm.trans he
    · cases hk.symm.trans he
  · intro request hr
    obtain ⟨standard, hs, hnames⟩ := request_headers hb hh hr
    obtain ⟨v, hv, hstr⟩ := hs.host
    have hchars := host_chars hh hstr
    have others : ∀ name value, name ≠ .host → lastSet http calls name = some value →
        request.headers.getAll name = [value] := by
      intro name value _ hl
      rw [hnames, hl]
    cases hl : lastSet http calls .host with
    | some value =>
      simp only [Option.isSome_some, true_or, iff_true]
      refine ⟨⟨value, by rw [hnames, hl], ?_, ?_⟩, others⟩
      · intro w hw
        simpa using hl.symm.trans hw
      · simp [hl]
    | none =>
      have hhost : request.headers.getAll .host = [v] := by rw [hnames, hl, hv]
      simp only [Option.isSome_none, Bool.false_eq_true, false_or]
      rw [← portSuffix_eq_nil]
      constructor
      · intro h
        obtain ⟨w, hw, _, hauth⟩ := h.host
        cases hhost.symm.trans hw
        have hsuffix := hauth hl
        rw [hchars, String.toList_append] at hsuffix
        simpa using hsuffix
      · intro hp
        refine ⟨⟨v, hhost, ?_, ?_⟩, others⟩
        · simp [hl]
        · intro _
          simp [hchars, hp]

def localhost : Host := .domain "localhost"

theorem localhost_visible : IsVisibleText localhost.display := isVisibleText_iff.mpr (by decide)

/-- `ws://localhost/websocket`, with the port if there is one. -/
def localUrl (port : Option UInt16) (h : ∀ p, port = some p → defaultPort "ws" ≠ some p) : Url where
  scheme := "ws"
  userinfo := ""
  host := some localhost
  port := port
  path := "/websocket"
  query := none
  fragment := none
  host_visible := by
    intro _ hh
    cases hh
    exact localhost_visible
  port_ne := h

def localCalls : List BuilderCall :=
  [.header (HeaderName.ofStr "Some-Header") (HeaderValue.ofVisible "someValue"), .basic "user" "password"]

theorem names_authority_iff_local :
    ∃ config request, (new 0 (localUrl none (by simp))).build .standard localCalls = some config ∧
      config.connectHttpRequest .standard [] = .ok request ∧
      NamesAuthority .standard localCalls (localUrl none (by simp)) localhost request := by
  refine ⟨_, _, rfl, rfl, ?_⟩
  exact ((names_authority_iff [] rfl rfl).2 _ rfl).mpr (.inr rfl)

theorem port_8080 : ∀ p, some (8080 : UInt16) = some p → defaultPort "ws" ≠ some p := by
  intro p hp
  cases hp
  decide

/-- `ws://localhost:8080/websocket`: the Host is `localhost`. -/
theorem port_missing :
    ∃ request, (new 0 (localUrl (some 8080) port_8080)).connectHttpRequest .standard [] = .ok request ∧
      ¬ NamesAuthority .standard [] (localUrl (some 8080) port_8080) localhost request := by
  refine ⟨_, rfl, ?_⟩
  intro h
  obtain ⟨v, hv, _, hauth⟩ := h.host
  have hc := hauth rfl
  cases hv
  revert hc
  decide

end NativeConfig

end Ezsockets
