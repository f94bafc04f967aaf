import Ezsockets.MultiMap
import Mathlib.Data.List.Basic

/-!
# HTTP requests

Header names and values as the `http` crate checks them, header maps, and the
request builder. What the crate decides on its own is a parameter: `HttpCrate`
holds its functions with what they are documented to do.
-/

namespace Ezsockets

def asBytes (s : String) : List UInt8 := s.toUTF8.data.toList

def toAsciiLowercase (b : UInt8) : UInt8 := if 65 ≤ b ∧ b ≤ 90 then b + 32 else b

def eqIgnoreAsciiCase (a b : List UInt8) : Bool := a.map toAsciiLowercase == b.map toAsciiLowercase

/-- `std::str::from_utf8(bytes).is_ok()`. -/
def isUtf8 (bytes : List UInt8) : Bool := (String.fromUTF8? ⟨bytes.toArray⟩).isSome

/-! ## Names and values -/

def isNameChar (c : Char) : Bool := c.isLower || c.isDigit || "!#$%&'*+-.^_`|~".toList.contains c

/-- A token in lower case. -/
structure HeaderName where
  text : String
  valid : text ≠ "" ∧ text.toList.all isNameChar
  deriving DecidableEq

namespace HeaderName

def ofStr (s : String) : Option HeaderName :=
  let text := String.ofList (s.toList.map Char.toLower)
  if h : text ≠ "" ∧ text.toList.all isNameChar then some ⟨text, h⟩ else none

def authorization : HeaderName := ⟨"authorization", by decide⟩
def connection : HeaderName := ⟨"connection", by decide⟩
def host : HeaderName := ⟨"host", by decide⟩
def secWebsocketAccept : HeaderName := ⟨"sec-websocket-accept", by decide⟩
def secWebsocketKey : HeaderName := ⟨"sec-websocket-key", by decide⟩
def secWebsocketProtocol : HeaderName := ⟨"sec-websocket-protocol", by decide⟩
def secWebsocketVersion : HeaderName := ⟨"sec-websocket-version", by decide⟩
def upgrade : HeaderName := ⟨"upgrade", by decide⟩

end HeaderName

def isValid (b : UInt8) : Bool := (32 ≤ b && b != 127) || b == 9

def isVisibleAscii (b : UInt8) : Bool := (32 ≤ b && b < 127) || b == 9

structure HeaderValue where
  bytes : List UInt8
  valid : bytes.all isValid
  deriving DecidableEq

namespace HeaderValue

def Visible (v : HeaderValue) : Prop := v.bytes.all isVisibleAscii

instance (v : HeaderValue) : Decidable v.Visible := inferInstanceAs (Decidable (v.bytes.all isVisibleAscii = true))

def literal (s : String) (h : (asBytes s).all isValid) : HeaderValue := ⟨asBytes s, h⟩

def upgrade : HeaderValue := literal "upgrade" (by decide)
def websocket : HeaderValue := literal "websocket" (by decide)
def version13 : HeaderValue := literal "13" (by decide)
def sampleKey : HeaderValue := literal "dGhlIHNhbXBsZSBub25jZQ==" (by decide)

/-- The text of a visible value: there a byte is a character. -/
def chars (v : HeaderValue) : List Char := v.bytes.map Char.ofUInt8

end HeaderValue

abbrev HeaderMap := MultiMap HeaderName HeaderValue

/-! ## Requests -/

structure SocketAddr where
  text : String
  deriving DecidableEq

structure Method where
  name : String
  deriving DecidableEq

def Method.GET : Method := ⟨"GET"⟩

structure Uri where
  text : String
  deriving DecidableEq

inductive Version where
  | http09
  | http10
  | http11
  | http2
  | http3
  deriving DecidableEq

structure Request where
  method : Method
  uri : Uri
  version : Version
  headers : HeaderMap

def IsVisibleText (s : String) : Prop := ∀ c ∈ s.toList, c.toNat < 128 ∧ isVisibleAscii c.toUInt8

structure HttpCrate where
  /-- The map's table takes another entry. -/
  room : HeaderMap → Bool
  uri : String → Option Uri
  toStr : HeaderValue → Option String
  fromStr : String → Option HeaderValue
  fromStatic : String → Option HeaderValue
  toStr_eq_some : ∀ v s, toStr v = some s ↔ v.Visible ∧ s.toList = v.chars
  fromStr_visible : ∀ s, IsVisibleText s → ∃ v, fromStr s = some v ∧ v.chars = s.toList
  fromStatic_visible : ∀ s, IsVisibleText s → ∃ v, fromStatic s = some v ∧ v.chars = s.toList

theorem asBytes_eq (s : String) : asBytes s = s.toList.flatMap String.utf8EncodeChar := by
  have h := String.utf8Encode_toList (b := s)
  unfold asBytes
  rw [String.toUTF8, ← h]
  simp [List.utf8Encode]

theorem utf8EncodeChar_ascii {c : Char} (h : c.toNat < 128) : String.utf8EncodeChar c = [c.toUInt8] := by
  have hc : c.toNat ≤ 127 := by omega
  simp [String.utf8EncodeChar, hc]
  rfl

theorem ofUInt8_toUInt8 {c : Char} (h : c.toNat < 128) : Char.ofUInt8 c.toUInt8 = c := by
  apply Char.ext
  apply UInt32.toNat.inj
  have hc : c.toUInt8.toNat = c.toNat := by
    have : c.toUInt8.toNat = c.toNat % 256 := rfl
    omega
  have ho : (Char.ofUInt8 c.toUInt8).val.toNat = c.toUInt8.toNat := rfl
  rw [ho, hc]
  rfl

theorem toUInt8_ofUInt8 (b : UInt8) : (Char.ofUInt8 b).toUInt8 = b := by
  apply UInt8.toNat.inj
  have hb : (Char.ofUInt8 b).toUInt8.toNat = b.toNat % 256 := rfl
  have := b.toNat_lt
  omega

theorem HeaderValue.chars_inj {v w : HeaderValue} (h : v.chars = w.chars) : v = w := by
  obtain ⟨a, ha⟩ := v
  obtain ⟨b, hb⟩ := w
  have hi : Function.Injective Char.ofUInt8 := by
    intro x y hxy
    rw [← toUInt8_ofUInt8 x, hxy, toUInt8_ofUInt8]
  have hab : a = b := hi.list_map h
  simp [hab]

theorem isVisibleAscii_toNat {b : UInt8} (h : isVisibleAscii b) : b.toNat < 128 := by
  simp only [isVisibleAscii, Bool.or_eq_true, Bool.and_eq_true, decide_eq_true_eq, beq_iff_eq] at h
  rcases h with h | h
  · have := UInt8.lt_iff_toNat_lt.mp h.2
    exact Nat.lt_trans this (by decide)
  · rw [h]
    decide

theorem isValid_of_visible {b : UInt8} (h : isVisibleAscii b) : isValid b := by
  simp only [isVisibleAscii, isValid, Bool.or_eq_true, Bool.and_eq_true, decide_eq_true_eq, beq_iff_eq,
    bne_iff_ne] at h ⊢
  rcases h with h | h
  · left
    refine ⟨h.1, ?_⟩
    intro hb
    rw [hb] at h
    exact absurd h.2 (by decide)
  · exact .inr h

theorem isVisibleText_of_chars {v : HeaderValue} {s : String} (hv : v.Visible) (h : ∀ c ∈ s.toList, c ∈ v.chars) :
    IsVisibleText s := by
  intro c hc
  obtain ⟨b, hb, rfl⟩ := List.mem_map.mp (h c hc)
  have hvis := List.all_eq_true.mp hv b hb
  rw [toUInt8_ofUInt8]
  exact ⟨isVisibleAscii_toNat hvis, hvis⟩

theorem asBytes_visible {s : String} (h : IsVisibleText s) : asBytes s = s.toList.map Char.toUInt8 := by
  rw [asBytes_eq, List.map_eq_flatMap]
  apply List.flatMap_congr
  intro c hc
  exact utf8EncodeChar_ascii (h c hc).1

theorem chars_asBytes {s : String} (h : IsVisibleText s) : (asBytes s).map Char.ofUInt8 = s.toList := by
  rw [asBytes_visible h, List.map_map]
  have hc : ∀ c ∈ s.toList, (Char.ofUInt8 ∘ Char.toUInt8) c = id c := fun c hc => ofUInt8_toUInt8 (h c hc).1
  rw [List.map_congr_left hc, List.map_id]

namespace HeaderValue

def ofBytes (bytes : List UInt8) : Option HeaderValue := if h : bytes.all isValid then some ⟨bytes, h⟩ else none

def ofVisible (s : String) : Option HeaderValue :=
  if (asBytes s).all isVisibleAscii then ofBytes (asBytes s) else none

theorem ofBytes_visible {s : String} (h : IsVisibleText s) :
    ∃ v, ofBytes (asBytes s) = some v ∧ v.chars = s.toList := by
  have hv : (asBytes s).all isValid := by
    rw [asBytes_visible h, List.all_map, List.all_eq_true]
    intro c hc
    exact isValid_of_visible (h c hc).2
  exact ⟨⟨asBytes s, hv⟩, dif_pos hv, chars_asBytes h⟩

theorem ofVisible_visible {s : String} (h : IsVisibleText s) :
    ∃ v, ofVisible s = some v ∧ v.chars = s.toList := by
  have hv : (asBytes s).all isVisibleAscii := by
    rw [asBytes_visible h, List.all_map, List.all_eq_true]
    intro c hc
    exact (h c hc).2
  rw [ofVisible, if_pos hv]
  exact ofBytes_visible h

end HeaderValue

/-- The crate's conversions; every text is taken for a URI. -/
def HttpCrate.standard : HttpCrate where
  room _ := true
  uri s := some ⟨s⟩
  toStr v := if v.Visible then some (String.ofList v.chars) else none
  fromStr s := HeaderValue.ofBytes (asBytes s)
  fromStatic := HeaderValue.ofVisible
  toStr_eq_some v s := by
    by_cases hv : v.Visible
    · simp [hv, ← String.toList_inj, eq_comm]
    · simp [hv]
  fromStr_visible _ := HeaderValue.ofBytes_visible
  fromStatic_visible _ := HeaderValue.ofVisible_visible

/-- Keeps the first error until `body`. -/
abbrev Builder := Option Request

def Request.builder : Builder := some ⟨.GET, ⟨"/"⟩, .http11, .empty⟩

namespace Builder

variable (http : HttpCrate)

def method (b : Builder) (method : Method) : Builder := b.map fun r => { r with method := method }

def uri (b : Builder) (uri : Option Uri) : Builder := b.bind fun r => uri.map fun uri => { r with uri := uri }

def version (b : Builder) (version : Version) : Builder := b.map fun r => { r with version := version }

def header (b : Builder) (key : HeaderName) (value : Option HeaderValue) : Builder := do
  let r ← b
  let value ← value
  if http.room r.headers then some { r with headers := r.headers.append key value } else none

def headers (b : Builder) (ps : List (HeaderName × HeaderValue)) : Builder :=
  ps.foldl (fun b p => b.header http p.1 (some p.2)) b

theorem header_some (r : Request) (key : HeaderName) (value : HeaderValue) : header http (some r) key (some value) =
    if http.room r.headers then some { r with headers := r.headers.append key value } else none := rfl

theorem header_inv {b : Builder} {key : HeaderName} {value : Option HeaderValue} {r : Request}
    (h : b.header http key value = some r) :
    ∃ q v, b = some q ∧ value = some v ∧ r = { q with headers := q.headers.append key v } := by
  simp only [header, Option.bind_eq_bind, Option.bind_eq_some_iff] at h
  obtain ⟨q, hq, v, hv, hr⟩ := h
  refine ⟨q, v, hq, hv, ?_⟩
  by_cases hm : http.room q.headers
  · simpa [hm, eq_comm] using hr
  · simp [hm] at hr

theorem headers_cons (b : Builder) (p : HeaderName × HeaderValue) (ps : List (HeaderName × HeaderValue)) :
    headers http b (p :: ps) = headers http (b.header http p.1 (some p.2)) ps := rfl

theorem headers_none (ps : List (HeaderName × HeaderValue)) : headers http none ps = none := by
  induction ps with
  | nil => rfl
  | cons p ps ih => exact ih

theorem headers_inv {ps : List (HeaderName × HeaderValue)} : ∀ {r q : Request},
    headers http (some r) ps = some q → q = { r with headers := r.headers.appendAll ps } := by
  induction ps with
  | nil =>
    intro r q h
    cases h
    rfl
  | cons p ps ih =>
    intro r q h
    rw [headers_cons, header_some] at h
    by_cases hr : http.room r.headers
    · rw [if_pos hr] at h
      exact ih h
    · rw [if_neg hr, headers_none] at h
      cases h

theorem headers_room (h : ∀ m, http.room m) (ps : List (HeaderName × HeaderValue)) : ∀ r : Request,
    headers http (some r) ps = some { r with headers := r.headers.appendAll ps } := by
  induction ps with
  | nil => intro r; rfl
  | cons p ps ih =>
    intro r
    rw [headers_cons, header_some, if_pos (h _)]
    exact ih _

end Builder

/-! ## Copies -/

namespace Request

variable (http : HttpCrate)

-- both servers rebuild the request from its head
def rebuild (method : Method) (uri : Uri) (version : Version) (headers : HeaderMap) : Builder :=
  (((builder.method method).uri (some uri)).version version).headers http headers.iter

theorem rebuild_eq {method : Method} {uri : Uri} {version : Version} {headers : HeaderMap} {r : Request}
    (h : rebuild http method uri version headers = some r) : r = ⟨method, uri, version, headers⟩ := by
  have hr := Builder.headers_inv http h
  simpa [MultiMap.appendAll_iter] using hr

theorem rebuild_room (h : ∀ m, http.room m) (method : Method) (uri : Uri) (version : Version)
    (headers : HeaderMap) :
    rebuild http method uri version headers = some ⟨method, uri, version, headers⟩ := by
  have hr := Builder.headers_room http h headers.iter ⟨method, uri, version, .empty⟩
  rw [MultiMap.appendAll_iter] at hr
  exact hr

end Request

end Ezsockets
