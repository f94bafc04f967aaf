import Ezsockets.Message
import Mathlib.Data.Set.Function

/-!
# Messages as the connectors' crates have them

A connector's crate has message and close code types of its own. The native
conversions forget nothing (`native_round_trip`). Those of the browser go
through the number of a close code, and know neither pings nor pongs
(`wasm_round_trip`). A close code is not its number: what comes back from
the number is the canonical code of that number (`codes_round_trip`).
-/

namespace Ezsockets

namespace CloseCode

def toU16 : CloseCode → UInt16
  | normal => 1000
  | away => 1001
  | protocol => 1002
  | unsupported => 1003
  | status => 1005
  | abnormal => 1006
  | invalid => 1007
  | policy => 1008
  | size => 1009
  | extension => 1010
  | error => 1011
  | restart => 1012
  | again => 1013
  | tls => 1015
  | reserved code => code
  | iana code => code
  | library code => code
  | bad code => code

def ofU16 (code : UInt16) : CloseCode :=
  match code.toNat with
  | 1000 => normal
  | 1001 => away
  | 1002 => protocol
  | 1003 => unsupported
  | 1005 => status
  | 1006 => abnormal
  | 1007 => invalid
  | 1008 => policy
  | 1009 => size
  | 1010 => extension
  | 1011 => error
  | 1012 => restart
  | 1013 => again
  | 1015 => tls
  | n =>
    if 1 ≤ n ∧ n ≤ 999 then bad code
    else if 1016 ≤ n ∧ n ≤ 2999 then reserved code
    else if 3000 ≤ n ∧ n ≤ 3999 then iana code
    else if 4000 ≤ n ∧ n ≤ 4999 then library code
    else bad code

/-- The variant is the one that its number is read as. -/
def Canonical : CloseCode → Prop
  | reserved code => 1016 ≤ code.toNat ∧ code.toNat ≤ 2999
  | iana code => 3000 ≤ code.toNat ∧ code.toNat ≤ 3999
  | library code => 4000 ≤ code.toNat ∧ code.toNat ≤ 4999
  | bad code => code.toNat ≤ 999 ∨ code.toNat = 1004 ∨ code.toNat = 1014 ∨ 5000 ≤ code.toNat
  | _ => True

instance : DecidablePred Canonical := fun c => by
  cases c <;> unfold Canonical <;> infer_instance

theorem toU16_ofU16 (code : UInt16) : (ofU16 code).toU16 = code := by
  unfold ofU16
  split
  case h_15 =>
    by_cases h1 : 1 ≤ code.toNat ∧ code.toNat ≤ 999
    · rw [if_pos h1]; rfl
    rw [if_neg h1]
    by_cases h2 : 1016 ≤ code.toNat ∧ code.toNat ≤ 2999
    · rw [if_pos h2]; rfl
    rw [if_neg h2]
    by_cases h3 : 3000 ≤ code.toNat ∧ code.toNat ≤ 3999
    · rw [if_pos h3]; rfl
    rw [if_neg h3]
    by_cases h4 : 4000 ≤ code.toNat ∧ code.toNat ≤ 4999
    · rw [if_pos h4]; rfl
    rw [if_neg h4]; rfl
  all_goals
    rename_i h
    exact (UInt16.toNat_inj.mp h).symm

theorem ofU16_canonical (code : UInt16) : (ofU16 code).Canonical := by
  unfold ofU16
  split
  case h_15 =>
    by_cases h1 : 1 ≤ code.toNat ∧ code.toNat ≤ 999
    · rw [if_pos h1]
      exact .inl h1.2
    rw [if_neg h1]
    by_cases h2 : 1016 ≤ code.toNat ∧ code.toNat ≤ 2999
    · rw [if_pos h2]
      exact h2
    rw [if_neg h2]
    by_cases h3 : 3000 ≤ code.toNat ∧ code.toNat ≤ 3999
    · rw [if_pos h3]
      exact h3
    rw [if_neg h3]
    by_cases h4 : 4000 ≤ code.toNat ∧ code.toNat ≤ 4999
    · rw [if_pos h4]
      exact h4
    rw [if_neg h4]
    -- what is left are the numbers under 1000, 1004, 1014 and those from 5000 on
    simp only [Canonical]
    simp only [imp_false] at *
    omega
  all_goals trivial

theorem Canonical.ofU16_toU16 {c : CloseCode} (h : c.Canonical) : ofU16 c.toU16 = c := by
  cases c with
  | reserved code =>
    change ofU16 code = _
    unfold Canonical at h
    unfold ofU16
    split
    case h_15 => rw [if_neg (by omega), if_pos h]
    all_goals omega
  | iana code =>
    change ofU16 code = _
    unfold Canonical at h
    unfold ofU16
    split
    case h_15 => rw [if_neg (by omega), if_neg (by omega), if_pos h]
    all_goals omega
  | library code =>
    change ofU16 code = _
    unfold Canonical at h
    unfold ofU16
    split
    case h_15 => rw [if_neg (by omega), if_neg (by omega), if_neg (by omega), if_pos h]
    all_goals omega
  | bad code =>
    change ofU16 code = _
    unfold Canonical at h
    have h2 : ¬ (1016 ≤ code.toNat ∧ code.toNat ≤ 2999) := by omega
    have h3 : ¬ (3000 ≤ code.toNat ∧ code.toNat ≤ 3999) := by omega
    have h4 : ¬ (4000 ≤ code.toNat ∧ code.toNat ≤ 4999) := by omega
    unfold ofU16
    split
    case h_15 => rw [if_neg h2, if_neg h3, if_neg h4, ite_self]
    all_goals omega
  | _ => rfl

/-- Every number has one canonical code, and the canonical codes are those that come back from their numbers. -/
theorem codes_round_trip : Set.BijOn toU16 {c | c.Canonical} Set.univ ∧
    (∀ code, (ofU16 code).toU16 = code) ∧ ∀ c, ofU16 c.toU16 = c ↔ c.Canonical := by
  refine ⟨⟨fun _ _ => trivial, ?_, ?_⟩, toU16_ofU16, fun c => ⟨fun h => ?_, Canonical.ofU16_toU16⟩⟩
  · intro c hc d hd h
    have h : c.toU16 = d.toU16 := h
    rw [← Canonical.ofU16_toU16 hc, h, Canonical.ofU16_toU16 hd]
  · intro code _
    exact ⟨ofU16 code, ofU16_canonical code, toU16_ofU16 code⟩
  · rw [← h]
    exact ofU16_canonical _

end CloseCode

/-! ## The native connector -/

inductive TungsteniteCloseCode where
  | normal | away | protocol | unsupported | status | abnormal | invalid | policy | size | extension
  | error | restart | again | tls
  | reserved (code : UInt16)
  | iana (code : UInt16)
  | library (code : UInt16)
  | bad (code : UInt16)

structure TungsteniteCloseFrame where
  code : TungsteniteCloseCode
  reason : Utf8Bytes

/-- The messages of tungstenite, with its raw frames `F`. -/
inductive TungsteniteMessage (F : Type) where
  | text (text : Utf8Bytes)
  | binary (bytes : Bytes)
  | ping (bytes : Bytes)
  | pong (bytes : Bytes)
  | close (frame : Option TungsteniteCloseFrame)
  | frame (raw : F)

def CloseCode.toTungstenite : CloseCode → TungsteniteCloseCode
  | normal => .normal
  | away => .away
  | protocol => .protocol
  | unsupported => .unsupported
  | status => .status
  | abnormal => .abnormal
  | invalid => .invalid
  | policy => .policy
  | size => .size
  | extension => .extension
  | error => .error
  | restart => .restart
  | again => .again
  | tls => .tls
  | reserved code => .reserved code
  | iana code => .iana code
  | library code => .library code
  | bad code => .bad code

def TungsteniteCloseCode.toCloseCode : TungsteniteCloseCode → CloseCode
  | normal => .normal
  | away => .away
  | protocol => .protocol
  | unsupported => .unsupported
  | status => .status
  | abnormal => .abnormal
  | invalid => .invalid
  | policy => .policy
  | size => .size
  | extension => .extension
  | error => .error
  | restart => .restart
  | again => .again
  | tls => .tls
  | reserved code => .reserved code
  | iana code => .iana code
  | library code => .library code
  | bad code => .bad code

def CloseFrame.toTungstenite (frame : CloseFrame) : TungsteniteCloseFrame :=
  ⟨frame.code.toTungstenite, frame.reason⟩

def TungsteniteCloseFrame.toCloseFrame (frame : TungsteniteCloseFrame) : CloseFrame :=
  ⟨frame.code.toCloseCode, frame.reason⟩

section
variable {F : Type}

def RawMessage.toTungstenite : RawMessage → TungsteniteMessage F
  | text t => .text t
  | binary b => .binary b
  | ping b => .ping b
  | pong b => .pong b
  | close frame => .close (frame.map CloseFrame.toTungstenite)

/-- `none` is the panic of `unreachable!()`. -/
def TungsteniteMessage.toRaw : TungsteniteMessage F → Option RawMessage
  | text t => some (.text t)
  | binary b => some (.binary b)
  | ping b => some (.ping b)
  | pong b => some (.pong b)
  | close f => some (.close (f.map TungsteniteCloseFrame.toCloseFrame))
  | frame _ => none

def Message.toTungstenite : Message → TungsteniteMessage F
  | text t => .text t
  | binary b => .binary b
  | close frame => .close (frame.map CloseFrame.toTungstenite)

end

@[simp] theorem CloseCode.toCloseCode_toTungstenite (c : CloseCode) : c.toTungstenite.toCloseCode = c := by
  cases c <;> rfl

@[simp] theorem TungsteniteCloseCode.toTungstenite_toCloseCode (c : TungsteniteCloseCode) :
    c.toCloseCode.toTungstenite = c := by
  cases c <;> rfl

theorem CloseFrame.toCloseFrame_toTungstenite :
    TungsteniteCloseFrame.toCloseFrame ∘ CloseFrame.toTungstenite = id := by
  funext frame
  simp [toTungstenite, TungsteniteCloseFrame.toCloseFrame]

theorem TungsteniteCloseFrame.toTungstenite_toCloseFrame :
    CloseFrame.toTungstenite ∘ TungsteniteCloseFrame.toCloseFrame = id := by
  funext frame
  simp [toCloseFrame, CloseFrame.toTungstenite]

theorem RawMessage.toRaw_toTungstenite {F : Type} (m : RawMessage) :
    (m.toTungstenite : TungsteniteMessage F).toRaw = some m := by
  cases m with
  | close frame =>
    simp only [toTungstenite, TungsteniteMessage.toRaw, Option.map_map, CloseFrame.toCloseFrame_toTungstenite,
      Option.map_id_fun, id_eq]
  | _ => rfl

theorem TungsteniteMessage.toTungstenite_toRaw {F : Type} {w : TungsteniteMessage F} {m : RawMessage}
    (h : w.toRaw = some m) : m.toTungstenite = w := by
  cases w with
  | close f =>
    cases h
    simp only [RawMessage.toTungstenite, Option.map_map, TungsteniteCloseFrame.toTungstenite_toCloseFrame,
      Option.map_id_fun, id_eq]
  | frame raw => cases h
  | _ => cases h; rfl

/-! ## The connector of the browser -/

structure WasmCloseFrame (W : Type) where
  code : W
  reason : Utf8Bytes

/-- The messages of tokio-tungstenite-wasm, with its close codes `W`. -/
inductive WasmMessage (W : Type) where
  | text (text : Utf8Bytes)
  | binary (bytes : Bytes)
  | close (frame : Option (WasmCloseFrame W))

/-- Close codes and their numbers in the two crates. Tungstenite reads and writes the numbers as this crate does. -/
structure CloseCodes (W : Type) where
  tungsteniteToU16 : TungsteniteCloseCode → UInt16
  tungsteniteOfU16 : UInt16 → TungsteniteCloseCode
  toU16 : W → UInt16
  ofU16 : UInt16 → W
  abnormal : W
  tungsteniteToU16_eq : ∀ c : CloseCode, tungsteniteToU16 c.toTungstenite = c.toU16
  tungsteniteOfU16_eq : ∀ code, tungsteniteOfU16 code = (CloseCode.ofU16 code).toTungstenite
  toU16_ofU16 : ∀ code, toU16 (ofU16 code) = code
  toU16_abnormal : toU16 abnormal = 1006

/-- A crate whose codes are those of this one. -/
def CloseCodes.standard : CloseCodes CloseCode where
  tungsteniteToU16 c := c.toCloseCode.toU16
  tungsteniteOfU16 code := (CloseCode.ofU16 code).toTungstenite
  toU16 := CloseCode.toU16
  ofU16 := CloseCode.ofU16
  abnormal := .abnormal
  tungsteniteToU16_eq c := congrArg CloseCode.toU16 c.toCloseCode_toTungstenite
  tungsteniteOfU16_eq _ := rfl
  toU16_ofU16 := CloseCode.toU16_ofU16
  toU16_abnormal := rfl

section
variable {W : Type} (codes : CloseCodes W)

def CloseFrame.toWasm (frame : CloseFrame) : WasmCloseFrame W :=
  ⟨codes.ofU16 (codes.tungsteniteToU16 frame.code.toTungstenite), frame.reason⟩

def WasmCloseFrame.toCloseFrame (frame : WasmCloseFrame W) : CloseFrame :=
  ⟨(codes.tungsteniteOfU16 (codes.toU16 frame.code)).toCloseCode, frame.reason⟩

def RawMessage.toWasm : RawMessage → WasmMessage W
  | text t => .text t
  | binary b => .binary b
  | ping _ => .close (some ⟨codes.abnormal, "raw pings not supported"⟩)
  | pong _ => .close (some ⟨codes.abnormal, "raw pongs not supported"⟩)
  | close frame => .close (frame.map (CloseFrame.toWasm codes))

def WasmMessage.toRaw : WasmMessage W → RawMessage
  | text t => .text t
  | binary b => .binary b
  | close frame => .close (frame.map (WasmCloseFrame.toCloseFrame codes))

def Message.toWasm : Message → WasmMessage W
  | text t => .text t
  | binary b => .binary b
  | close frame => .close (frame.map (CloseFrame.toWasm codes))

end

/-- What a message has become when the crate gives it back. -/
def RawMessage.viaWasm {W : Type} (codes : CloseCodes W) (m : RawMessage) : RawMessage :=
  (m.toWasm codes).toRaw codes

/-- The messages that the browser's crate can express. -/
def RawMessage.Portable : RawMessage → Prop
  | close (some frame) => frame.code.Canonical
  | ping _ | pong _ => False
  | _ => True

section
variable {W : Type} {codes : CloseCodes W}

theorem CloseFrame.toCloseFrame_toWasm (frame : CloseFrame) :
    (frame.toWasm codes).toCloseFrame codes = ⟨CloseCode.ofU16 frame.code.toU16, frame.reason⟩ := by
  simp only [toWasm, WasmCloseFrame.toCloseFrame, codes.toU16_ofU16, codes.tungsteniteToU16_eq,
    codes.tungsteniteOfU16_eq, CloseCode.toCloseCode_toTungstenite]

theorem WasmCloseFrame.toCloseFrame_abnormal (reason : Utf8Bytes) :
    toCloseFrame codes ⟨codes.abnormal, reason⟩ = ⟨.abnormal, reason⟩ := by
  simp only [toCloseFrame, codes.toU16_abnormal, codes.tungsteniteOfU16_eq, CloseCode.toCloseCode_toTungstenite]
  rfl

theorem RawMessage.viaWasm_ping (codes : CloseCodes W) (b : Bytes) :
    (ping b).viaWasm codes = .close (some ⟨.abnormal, "raw pings not supported"⟩) :=
  congrArg (close ∘ some) (WasmCloseFrame.toCloseFrame_abnormal _)

theorem RawMessage.viaWasm_pong (codes : CloseCodes W) (b : Bytes) :
    (pong b).viaWasm codes = .close (some ⟨.abnormal, "raw pongs not supported"⟩) :=
  congrArg (close ∘ some) (WasmCloseFrame.toCloseFrame_abnormal _)

theorem RawMessage.viaWasm_cases (codes : CloseCodes W) (m : RawMessage) :
    (m.viaWasm codes = m ∧ m.Portable) ∨
    (∃ reason, m.viaWasm codes = .close (some ⟨.abnormal, reason⟩) ∧ ¬ m.Portable ∧ m.payload = none) ∨
    ∃ f, m = .close (some f) ∧ m.viaWasm codes = .close (some ⟨CloseCode.ofU16 f.code.toU16, f.reason⟩) := by
  cases m with
  | text t | binary b => exact .inl ⟨rfl, trivial⟩
  | ping b => exact .inr (.inl ⟨_, viaWasm_ping codes b, fun h => h, rfl⟩)
  | pong b => exact .inr (.inl ⟨_, viaWasm_pong codes b, fun h => h, rfl⟩)
  | close frame =>
    cases frame with
    | none => exact .inl ⟨rfl, trivial⟩
    | some f => exact .inr (.inr ⟨f, rfl, congrArg (close ∘ some) f.toCloseFrame_toWasm⟩)

theorem RawMessage.viaWasm_portable (m : RawMessage) : (m.viaWasm codes).Portable := by
  rcases m.viaWasm_cases codes with ⟨he, hp⟩ | ⟨reason, he, -, -⟩ | ⟨f, -, he⟩
  · rw [he]
    exact hp
  · rw [he]
    trivial
  · rw [he]
    exact CloseCode.ofU16_canonical _

theorem RawMessage.viaWasm_eq_iff (m : RawMessage) : m.viaWasm codes = m ↔ m.Portable := by
  constructor
  · intro h
    rw [← h]
    exact m.viaWasm_portable
  · intro h
    rcases m.viaWasm_cases codes with ⟨he, -⟩ | ⟨reason, -, hn, -⟩ | ⟨f, rfl, he⟩
    · exact he
    · exact absurd h hn
    · have hc : CloseCode.ofU16 f.code.toU16 = f.code := CloseCode.Canonical.ofU16_toU16 h
      rw [he, hc]

theorem RawMessage.viaWasm_payload (m : RawMessage) : (m.viaWasm codes).payload = m.payload := by
  rcases m.viaWasm_cases codes with ⟨he, -⟩ | ⟨reason, he, -, hn⟩ | ⟨f, rfl, he⟩
  · rw [he]
  · rw [he, hn]; rfl
  · rw [he]; rfl

/-- Tungstenite's types give every message back. Those of the browser give back the payload of any, and the message
itself if and only if it is no ping, no pong and no close with a code that its number is not read as. They make an
abnormal close of a ping and of a pong. -/
theorem conversions_round_trip {F : Type} (codes : CloseCodes W) :
    (∀ m : RawMessage, (m.toTungstenite : TungsteniteMessage F).toRaw = some m) ∧
    (∀ (w : TungsteniteMessage F) (m : RawMessage), w.toRaw = some m → m.toTungstenite = w) ∧
    (∀ m : RawMessage, m.viaWasm codes = m ↔ m.Portable) ∧
    (∀ m : RawMessage, (m.viaWasm codes).Portable ∧ (m.viaWasm codes).payload = m.payload) ∧
    ∀ b : Bytes, (RawMessage.ping b).viaWasm codes = .close (some ⟨.abnormal, "raw pings not supported"⟩) ∧
      (RawMessage.pong b).viaWasm codes = .close (some ⟨.abnormal, "raw pongs not supported"⟩) :=
  ⟨RawMessage.toRaw_toTungstenite, fun _ _ => TungsteniteMessage.toTungstenite_toRaw, RawMessage.viaWasm_eq_iff,
    fun m => ⟨m.viaWasm_portable, m.viaWasm_payload⟩,
    fun b => ⟨RawMessage.viaWasm_ping codes b, RawMessage.viaWasm_pong codes b⟩⟩

example : (RawMessage.pong [1]).viaWasm .standard ≠ .pong [1] := by decide

/-- The way from `Message` by `RawMessage` is the direct one. -/
theorem Message.toRaw_conversions {F : Type} (m : Message) :
    m.toWasm codes = m.toRaw.toWasm codes ∧ (m.toTungstenite : TungsteniteMessage F) = m.toRaw.toTungstenite := by
  cases m <;> exact ⟨rfl, rfl⟩

end

end Ezsockets
