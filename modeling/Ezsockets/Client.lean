import Ezsockets.Socket

/-!
# The client actor and its connections

`connect_with` with `ClientActor::run` and `client_connect`. `socks` are the
sockets of all connections so far, in order; the last one is in the actor's
hands until it drops it. `log` is the trace of callbacks, connection
attempts and sleeps, each with the number of connections made before it.

`clients` says that a `Client` is left, which holds a sender of either
channel; `callSenders` that one was turned into a sender of calls. A message
that is queued when the actor is over is dropped with the last `Client`
(`freed`).
-/

namespace Ezsockets

structure ClientConfig where
  maxInitialConnectAttempts : Nat
  maxReconnectAttempts : Nat
  socketConfig : Option SocketConfig

def ClientConfig.socket (config : ClientConfig) : SocketConfig := config.socketConfig.getD .default

inductive ClientCloseMode where
  | reconnect
  | close
  deriving DecidableEq

inductive ClientEvent (C : Type) where
  | connect (attempt : Nat)
  | onConnect
  | onConnectFail (error : WSError)
  | sleep
  | onText (text : Utf8Bytes)
  | onBinary (bytes : Bytes)
  | onCall (call : C)
  | onClose (frame : Option CloseFrame)
  | onDisconnect

inductive ClientPhase where
  | drain (attempt max : Nat)
  | connecting (attempt max : Nat)
  | onConnect
  | onConnectFail (attempt max : Nat)
  | sleeping (attempt max : Nat)
  | select
  | awaitSink (closedSelf : Bool)
  | handler
  | onClose
  | closeSleep
  | onDisconnect
  | done (res : Except Error Unit)

def ClientPhase.isCallback : ClientPhase → Bool
  | .onConnect | .onConnectFail _ _ | .handler | .onClose | .onDisconnect => true
  | _ => false

structure ClientActor (C : Type) where
  config : ClientConfig
  toSocket : Chan InMessage
  calls : Chan C
  clients : Bool
  callSenders : Bool
  socks : List Socket
  phase : ClientPhase
  log : List (Nat × ClientEvent C)
  freed : Bool
  writes : Writes

namespace ClientActor

variable {C : Type}

def create (config : ClientConfig) : ClientActor C where
  config := config
  toSocket := .empty
  calls := .empty
  clients := true
  callSenders := false
  socks := []
  phase := .drain 1 config.maxInitialConnectAttempts
  log := []
  freed := false
  writes := []

def isDone (s : ClientActor C) : Bool :=
  match s.phase with
  | .done _ => true
  | _ => false

def conn (s : ClientActor C) : Nat := s.socks.length - 1

def free (s : ClientActor C) : ClientActor C :=
  if s.isDone && !s.clients && !s.freed then
    { s with freed := true, writes := s.writes ++ s.toSocket.queue.flatMap InMessage.drop }
  else s

/-! ## The handle -/

def send (s : ClientActor C) (message : Message) : ClientActor C :=
  if s.clients && !s.isDone then
    { s with toSocket := s.toSocket.push (.new message (.handle s.toSocket.hist.length)) }
  else s

def text (s : ClientActor C) (t : Utf8Bytes) : ClientActor C := s.send (.text t)

def binary (s : ClientActor C) (b : Bytes) : ClientActor C := s.send (.binary b)

def close (s : ClientActor C) (frame : Option CloseFrame) : ClientActor C := s.send (.close frame)

def call (s : ClientActor C) (c : C) : ClientActor C :=
  if (s.clients || s.callSenders) && !s.isDone then { s with calls := s.calls.push c } else s

/-! ## The actor -/

def setSocket (s : ClientActor C) (socket : Socket) : ClientActor C := { s with socks := s.socks.set s.conn socket }

def dropSocket (s : ClientActor C) : ClientActor C := { s with socks := s.socks.modify s.conn Socket.drop }

def event (s : ClientActor C) (e : ClientEvent C) : ClientActor C :=
  { s with log := s.log ++ [(s.socks.length, e)] }

def finish (s : ClientActor C) (res : Except Error Unit) : ClientActor C :=
  free { s.dropSocket with phase := .done res }

def unexpectedSinkError : Error := "unexpected sink error, aborting client actor"

def clientDied : Error := "client died while trying to connect"

def attemptsExhausted (attempt : Nat) : Error :=
  "failed to connect after " ++ toString attempt ++ " attempt(s), aborting..."

def clientCrashed : Error := "client actor crashed"

-- one `try_recv` of the drain at the head of an attempt
def tryRecv (s : ClientActor C) (attempt max : Nat) : ClientActor C :=
  match s.toSocket.pop? with
  | some (inmessage, c) =>
    let s := { s with toSocket := c, writes := s.writes ++ inmessage.drop }
    match inmessage.closeFrame with
    | some _ => s.finish (.ok ())
    | none => s
  | none =>
    if s.clients then { s.event (.connect attempt) with phase := .connecting attempt max }
    else s.finish (.error clientDied)

def onConnectFailReturn (s : ClientActor C) (attempt max : Nat) : ClientCloseMode → ClientActor C
  | .reconnect =>
    if attempt ≥ max then s.finish (.error (attemptsExhausted attempt))
    else { s.event .sleep with phase := .sleeping attempt max }
  | .close => s.finish (.ok ())

def handleOutgoingMsg (s : ClientActor C) (inmessage : InMessage) (socket : Socket) : ClientActor C :=
  let closedSelf := inmessage.closeFrame.isSome
  match socket.send inmessage with
  | (socket, true) =>
    let s := s.setSocket socket
    if closedSelf then s.finish (.ok ()) else s
  | (socket, false) => { s.setSocket socket with phase := .awaitSink closedSelf }

def handleDisconnect (s : ClientActor C) : ClientActor C := { s.event .onDisconnect with phase := .onDisconnect }

-- the sink errors that the client takes for the end of the connection
def isDisconnect : WSError → Bool
  | .protocol .sendAfterClosing | .connectionClosed | .alreadyClosed => true
  | .io _ | .tls _ => true
  | _ => false

def sinkClosed (s : ClientActor C) (closedSelf : Bool) : Except WSError Unit → ClientActor C
  | .error err =>
    if closedSelf then s.finish (.ok ())
    else if isDisconnect err then s.handleDisconnect
    else s.finish (.error unexpectedSinkError)
  | .ok () => if closedSelf then s.finish (.ok ()) else { s with phase := .select }

def handleIncomingMsg (s : ClientActor C) : Option (Except WSError Message) → ClientActor C
  | some (.ok (.text t)) => { s.event (.onText t) with phase := .handler }
  | some (.ok (.binary b)) => { s.event (.onBinary b) with phase := .handler }
  | some (.ok (.close frame)) => { s.event (.onClose frame) with phase := .onClose }
  | some (.error _) => s.handleDisconnect
  | none => s.handleDisconnect

end ClientActor

inductive ClientAct (C : Type) where
  | text (t : Utf8Bytes)
  | binary (b : Bytes)
  | close (frame : Option CloseFrame)
  | call (c : C)
  | dropClients (callSenders : Bool)
  | dropCallSenders
  | tryRecv
  | connected
  | connectFailed (error : WSError)
  | onConnectReturn (res : Except Error Unit)
  | onConnectFailReturn (res : Except Error ClientCloseMode)
  | slept
  | outgoing
  | outgoingClosed
  | takeCall
  | callsClosed
  | incoming
  | sinkClosed
  | handlerReturn (res : Except Error Unit)
  | onCloseReturn (res : Except Error ClientCloseMode)
  | onDisconnectReturn (res : Except Error ClientCloseMode)
  | panic
  | socket (k : Nat) (a : SocketAct)

/-- The select of `run` takes any branch that is ready. -/
def ClientActor.step {C : Type} (s : ClientActor C) : ClientAct C → Option (ClientActor C)
  | .text t => some (s.text t)
  | .binary b => some (s.binary b)
  | .close frame => some (s.close frame)
  | .call c => some (s.call c)
  | .dropClients callSenders =>
    if s.clients then some (free { s with clients := false, callSenders := callSenders }) else none
  | .dropCallSenders => some { s with callSenders := false }
  | .tryRecv =>
    match s.phase with
    | .drain attempt max => some (s.tryRecv attempt max)
    | _ => none
  | .connected =>
    match s.phase with
    | .connecting _ _ => some { s.event .onConnect with phase := .onConnect }
    | _ => none
  | .connectFailed error =>
    match s.phase with
    | .connecting attempt max => some { s.event (.onConnectFail error) with phase := .onConnectFail attempt max }
    | _ => none
  | .onConnectReturn res =>
    match s.phase, res with
    | .onConnect, .ok () => some { s with socks := s.socks ++ [.new s.config.socket], phase := .select }
    | .onConnect, .error err => some (s.finish (.error err))
    | _, _ => none
  | .onConnectFailReturn res =>
    match s.phase, res with
    | .onConnectFail attempt max, .ok mode => some (s.onConnectFailReturn attempt max mode)
    | .onConnectFail _ _, .error err => some (s.finish (.error err))
    | _, _ => none
  | .slept =>
    match s.phase with
    | .sleeping attempt max => some { s with phase := .drain (attempt + 1) max }
    | .closeSleep => some { s with phase := .drain 1 s.config.maxReconnectAttempts }
    | _ => none
  | .outgoing =>
    match s.phase, s.toSocket.pop?, s.socks[s.conn]? with
    | .select, some (inmessage, c), some socket =>
      some ({ s with toSocket := c }.handleOutgoingMsg inmessage socket)
    | _, _, _ => none
  | .outgoingClosed =>
    match s.phase, s.toSocket.queue with
    | .select, [] => if s.clients then none else some (s.finish (.ok ()))
    | _, _ => none
  | .takeCall =>
    match s.phase, s.calls.pop? with
    | .select, some (c, q) => some { { s with calls := q }.event (.onCall c) with phase := .handler }
    | _, _ => none
  | .callsClosed =>
    match s.phase, s.calls.queue with
    | .select, [] => if s.clients || s.callSenders then none else some (s.finish (.ok ()))
    | _, _ => none
  | .incoming =>
    match s.phase, s.socks[s.conn]? with
    | .select, some socket =>
      match socket.recv with
      | some (item, socket) => some ((s.setSocket socket).handleIncomingMsg item)
      | none => none
    | _, _ => none
  | .sinkClosed =>
    match s.phase, s.socks[s.conn]? with
    | .awaitSink closedSelf, some socket =>
      match socket.awaitSinkClose with
      | some (res, socket) => some ((s.setSocket socket).sinkClosed closedSelf res)
      | none => none
    | _, _ => none
  | .handlerReturn res =>
    match s.phase, res with
    | .handler, .ok () => some { s with phase := .select }
    | .handler, .error err => some (s.finish (.error err))
    | _, _ => none
  | .onCloseReturn res =>
    match s.phase, res with
    | .onClose, .ok .reconnect => some { s.dropSocket.event .sleep with phase := .closeSleep }
    | .onClose, .ok .close => some (s.finish (.ok ()))
    | .onClose, .error err => some (s.finish (.error err))
    | _, _ => none
  | .onDisconnectReturn res =>
    match s.phase, res with
    | .onDisconnect, .ok .reconnect => some { s.dropSocket with phase := .drain 1 s.config.maxReconnectAttempts }
    | .onDisconnect, .ok .close => some (s.finish (.ok ()))
    | .onDisconnect, .error err => some (s.finish (.error err))
    | _, _ => none
  | .panic => if s.phase.isCallback then some (s.finish (.error clientCrashed)) else none
  | .socket k a =>
    match s.socks[k]? with
    | some socket => (socket.step a).map fun socket => { s with socks := s.socks.set k socket }
    | none => none

end Ezsockets
