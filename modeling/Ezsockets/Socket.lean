import Ezsockets.BigEndian
import Ezsockets.Chan
import Ezsockets.Lts
import Ezsockets.Message

/-!
# The tasks of one socket

`Socket::new` starts four tasks: `SinkActor` and `StreamActor` over the two
halves of the connection, the heartbeat, and a supervisor that waits for
the stream actor, aborts the other two and forwards the sink's result. The
owner sends into one channel and receives from another. Which task moves
next, what the connection yields and what the clock reads is up to the
action. Durations are in nanoseconds.

`yielded` is what `stream.next()` has returned so far and `sleep` what the
heartbeat's sleep was last set to. `resultTaken` says that
`sink_result_receiver` is `None`, `owned` that the owner has not dropped the
socket; `sinkClones` counts the `Sink` clones beside the owner's and the
heartbeat's. An actor's receiver goes with the actor, and that closes the
channel; what is still queued is dropped with the last sender (`freed`).
-/

namespace Ezsockets

inductive ProtocolError where
  | sendAfterClosing
  | other (text : String)
  deriving DecidableEq, Repr

inductive WSError where
  | connectionClosed
  | alreadyClosed
  | io (text : String)
  | tls (text : String)
  | protocol (error : ProtocolError)
  | other (text : String)
  deriving DecidableEq, Repr

structure SocketConfig where
  heartbeat : Nat
  timeout : Nat
  heartbeatPingMsgFn : Nat → RawMessage

def toBeBytes (n : Nat) : Bytes := BigEndian.toBytes 16 n

def SocketConfig.default : SocketConfig where
  heartbeat := 5000000000
  timeout := 10000000000
  heartbeatPingMsgFn timestamp := .ping (toBeBytes (timestamp / 1000000))

inductive SinkTask where
  | running
  | sending (message : RawMessage) (signal : Option Signal)
  | ended (res : Except WSError Unit)
  | crashed

def SinkTask.isClosed : SinkTask → Bool
  | .ended _ | .crashed => true
  | _ => false

inductive Supervisor where
  | awaitStream
  | abortSink
  | abortHeartbeat
  | awaitSink
  | sendResult (res : Except WSError Unit)
  | done

structure Socket where
  config : SocketConfig
  toSink : Chan InRawMessage
  sink : SinkTask
  yielded : List (Except WSError RawMessage)
  streaming : Bool
  toOwner : Chan (Except WSError Message)
  beating : Bool
  sleep : Nat
  supervisor : Supervisor
  sinkAbort : Bool
  heartbeatAbort : Bool
  sinkResult : Option (Except WSError Unit)
  resultTaken : Bool
  owned : Bool
  sinkClones : Nat
  freed : Bool
  writes : Writes

namespace Socket

def new (config : SocketConfig) : Socket where
  config := config
  toSink := .empty
  sink := .running
  yielded := []
  streaming := true
  toOwner := .empty
  beating := true
  sleep := config.heartbeat
  supervisor := .awaitStream
  sinkAbort := false
  heartbeatAbort := false
  sinkResult := none
  resultTaken := false
  owned := true
  sinkClones := 0
  freed := false
  writes := []

/-! ## The owner's side -/

def sinkSenders (s : Socket) : Nat :=
  (if s.owned then 1 else 0) + (if s.beating then 1 else 0) + s.sinkClones

def free (s : Socket) : Socket :=
  if s.sink.isClosed && s.sinkSenders == 0 && !s.freed then
    { s with freed := true, writes := s.writes ++ s.toSink.queue.flatMap (·.setSignal .failed) }
  else s

-- a closed channel hands the message back, and every caller drops it
def sendRaw (s : Socket) (inmessage : InRawMessage) : Socket × Bool :=
  if s.sink.isClosed then ({ s with writes := s.writes ++ inmessage.setSignal .failed }, false)
  else ({ s with toSink := s.toSink.push inmessage }, true)

def send (s : Socket) (inmessage : InMessage) : Socket × Bool := s.sendRaw inmessage.toRaw

def recv (s : Socket) : Option (Option (Except WSError Message) × Socket) :=
  match s.toOwner.pop? with
  | some (item, c) => some (some item, { s with toOwner := c })
  | none => if s.streaming then none else some (none, s)

def awaitSinkClose (s : Socket) : Option (Except WSError Unit × Socket) :=
  if s.resultTaken then some (.error .alreadyClosed, s)
  else
    match s.sinkResult, s.supervisor with
    | some res, _ => some (res, { s with resultTaken := true, sinkResult := none })
    | none, .done => some (.error .alreadyClosed, { s with resultTaken := true })
    | none, _ => none

def drop (s : Socket) : Socket := free { s with owned := false }

def cloneSink (s : Socket) : Socket := { s with sinkClones := s.sinkClones + 1 }

def dropSink (s : Socket) : Socket := free { s with sinkClones := s.sinkClones - 1 }

/-! ## The tasks -/

def forward (s : Socket) (item : Except WSError RawMessage) : Socket :=
  let push (message : Except WSError Message) : Socket :=
    if s.owned then { s with toOwner := s.toOwner.push message } else { s with streaming := false }
  match item with
  | .ok (.text t) => push (.ok (.text t))
  | .ok (.binary b) => push (.ok (.binary b))
  | .ok (.ping _) => s
  | .ok (.pong _) => s
  | .ok (.close frame) => push (.ok (.close frame))
  | .error err => push (.error err)

def handleHeartbeatSleepElapsed (s : Socket) (elapsed timestamp : Nat) : Socket × Option Nat :=
  if elapsed > s.config.timeout then
    ((s.sendRaw (.new (.close (some ⟨.abnormal, "remote partner is inactive"⟩)))).1, none)
  else if elapsed < s.config.heartbeat then (s, some (s.config.heartbeat - elapsed))
  else
    match s.sendRaw (.new (s.config.heartbeatPingMsgFn timestamp)) with
    | (s, false) => (s, none)
    | (s, true) => (s, some s.config.heartbeat)

-- each channel has one slot: a send blocks while it is full and returns at once when the receiver is gone
def supervise (s : Socket) : Option Socket :=
  match s.supervisor with
  | .awaitStream => if s.streaming then none else some { s with supervisor := .abortSink }
  | .abortSink =>
    if s.sink.isClosed then some { s with supervisor := .abortHeartbeat }
    else if s.sinkAbort then none
    else some { s with supervisor := .abortHeartbeat, sinkAbort := true }
  | .abortHeartbeat =>
    if !s.beating then some { s with supervisor := .awaitSink }
    else if s.heartbeatAbort then none
    else some { s with supervisor := .awaitSink, heartbeatAbort := true }
  | .awaitSink =>
    match s.sink with
    | .ended res => some { s with supervisor := .sendResult res }
    | .crashed => some { s with supervisor := .sendResult (.error .alreadyClosed) }
    | _ => none
  | .sendResult res =>
    if !s.owned || s.resultTaken then some { s with supervisor := .done }
    else if s.sinkResult.isSome then none
    else some { s with supervisor := .done, sinkResult := some res }
  | .done => none

def supervised (s : Socket) : Bool :=
  match s.supervisor with
  | .done => false
  | _ => true

end Socket

inductive SocketAct where
  | sinkRecv
  | sinkRecvClosed
  | sinkSend (res : Except WSError Unit)
  | sinkAborted
  | sinkPanic
  | streamNext (item : Except WSError RawMessage)
  | streamEnd
  | streamPanic
  | heartbeat (elapsed timestamp : Nat)
  | heartbeatAborted
  | supervise

def Socket.step (s : Socket) : SocketAct → Option Socket
  | .sinkRecv =>
    match s.sink, s.toSink.pop? with
    | .running, some (inmessage, c) =>
      match inmessage.message with
      | none => some { s with toSink := c, writes := s.writes ++ inmessage.setSignal .failed }
      | some message => some { s with toSink := c, sink := .sending message inmessage.signal }
    | _, _ => none
  | .sinkRecvClosed =>
    match s.sink, s.toSink.queue with
    | .running, [] => if s.sinkSenders = 0 then some (free { s with sink := .ended (.ok ()) }) else none
    | _, _ => none
  | .sinkSend res =>
    match s.sink with
    | .sending _ signal =>
      match res with
      | .ok () =>
        some { s with sink := .running, writes := s.writes ++ InRawMessage.setSignal ⟨none, signal⟩ .sent }
      | .error err =>
        some (free { s with
          sink := .ended (.error err), writes := s.writes ++ InRawMessage.setSignal ⟨none, signal⟩ .failed })
    | _ => none
  | .sinkAborted =>
    match s.sink with
    | .running => if s.sinkAbort || !s.supervised then some (free { s with sink := .ended (.ok ()) }) else none
    | _ => none
  | .sinkPanic =>
    match s.sink with
    | .sending _ signal =>
      some (free { s with sink := .crashed, writes := s.writes ++ InRawMessage.setSignal ⟨none, signal⟩ .failed })
    | _ => none
  | .streamNext item =>
    if s.streaming then some (forward { s with yielded := s.yielded ++ [item] } item) else none
  | .streamEnd => if s.streaming then some { s with streaming := false } else none
  | .streamPanic => if s.streaming then some { s with streaming := false } else none
  | .heartbeat elapsed timestamp =>
    if s.beating then
      match s.handleHeartbeatSleepElapsed elapsed timestamp with
      | (s, some sleep) => some { s with sleep := sleep }
      | (s, none) => some (free { s with beating := false })
    else none
  | .heartbeatAborted =>
    if s.beating && (s.heartbeatAbort || !s.supervised) then some (free { s with beating := false }) else none
  | .supervise => s.supervise

end Ezsockets
