import Mathlib.Data.List.Infix

/-!
# Messages and their signals

`InMessage` and `InRawMessage` carry the signal of the message: whoever drops
one that still has its signal sets it to `failed`. A signal is that of the
`n`th message its handle accepted, or one that nobody outside reads; what is
written to signals is recorded in order.
-/

namespace Ezsockets

abbrev Utf8Bytes := String
abbrev Bytes := List UInt8
abbrev Error := String

inductive CloseCode where
  | normal | away | protocol | unsupported | status | abnormal | invalid | policy | size | extension
  | error | restart | again | tls
  | reserved (code : UInt16)
  | iana (code : UInt16)
  | library (code : UInt16)
  | bad (code : UInt16)
  deriving DecidableEq, Repr

structure CloseFrame where
  code : CloseCode
  reason : Utf8Bytes
  deriving DecidableEq, Repr

inductive Message where
  | text (text : Utf8Bytes)
  | binary (bytes : Bytes)
  | close (frame : Option CloseFrame)
  deriving DecidableEq, Repr

inductive RawMessage where
  | text (text : Utf8Bytes)
  | binary (bytes : Bytes)
  | ping (bytes : Bytes)
  | pong (bytes : Bytes)
  | close (frame : Option CloseFrame)
  deriving DecidableEq, Repr

def Message.toRaw : Message → RawMessage
  | .text t => .text t
  | .binary b => .binary b
  | .close f => .close f

inductive MessageStatus where
  | sending | sent | failed
  deriving DecidableEq, Repr

inductive Signal where
  | handle (n : Nat)
  | own
  deriving DecidableEq, Repr

structure InRawMessage where
  message : Option RawMessage
  signal : Option Signal
  deriving DecidableEq, Repr

structure InMessage where
  message : Option Message
  signal : Option Signal
  deriving DecidableEq, Repr

def InRawMessage.new (message : RawMessage) : InRawMessage := ⟨some message, some .own⟩

def InMessage.new (message : Message) (signal : Signal) : InMessage := ⟨some message, some signal⟩

def InMessage.toRaw (inmessage : InMessage) : InRawMessage :=
  ⟨inmessage.message.map Message.toRaw, inmessage.signal⟩

def InMessage.closeFrame (inmessage : InMessage) : Option (Option CloseFrame) :=
  match inmessage.message with
  | some (.close frame) => some frame
  | _ => none

abbrev Writes := List (Signal × MessageStatus)

def InRawMessage.setSignal (inmessage : InRawMessage) (state : MessageStatus) : Writes :=
  inmessage.signal.toList.map (·, state)

def InMessage.drop (inmessage : InMessage) : Writes := inmessage.toRaw.setSignal .failed

/-! ## Text and binary payloads -/

inductive Payload where
  | text (text : Utf8Bytes)
  | binary (bytes : Bytes)
  deriving DecidableEq, Repr

def Message.payload : Message → Option Payload
  | .text t => some (.text t)
  | .binary b => some (.binary b)
  | .close _ => none

def RawMessage.payload : RawMessage → Option Payload
  | .text t => some (.text t)
  | .binary b => some (.binary b)
  | _ => none

def InMessage.payload (inmessage : InMessage) : Option Payload := inmessage.message.bind Message.payload

def InRawMessage.payload (inmessage : InRawMessage) : Option Payload := inmessage.message.bind RawMessage.payload

@[simp] theorem Message.toRaw_payload (m : Message) : m.toRaw.payload = m.payload := by cases m <;> rfl

@[simp] theorem InMessage.toRaw_payload (m : InMessage) : m.toRaw.payload = m.payload := by
  obtain ⟨_ | message, signal⟩ := m
  · rfl
  · exact Message.toRaw_payload message

end Ezsockets
