import Ezsockets.Socket

/-!
# The session actor

`SessionActor::run` with the task `Session::create` spawns around it and the
channels of the `Session` handle. A handler may pause in `call_with` and
goes on when the reply comes; it ends with a result or a panic. When `run`
is over the actor is dropped, its extension and socket with it, before
`notify` puts the result into the `closed` oneshot.

`handled` is the log of the handlers started, and `result` is what
`await_close` reads: `some none` when the sender was dropped.
-/

namespace Ezsockets

inductive Handler (C : Type) where
  | onText (text : Utf8Bytes)
  | onBinary (bytes : Bytes)
  | onCall (call : C)

abbrev SessionResult := Except Error (Option CloseFrame)

inductive SessionPhase (C : Type) where
  | select
  | handler (h : Handler C) (waiting : Bool)
  | finished (res : Option SessionResult)
  | ended

structure SessionActor (ID C : Type) where
  id : ID
  toSocket : Chan InMessage
  calls : Chan C
  socket : Socket
  phase : SessionPhase C
  handled : List (Handler C)
  indicator : Bool
  result : Option (Option SessionResult)
  writes : Writes

namespace SessionActor

variable {ID C : Type}

def create (id : ID) (socket : Socket) : SessionActor ID C where
  id := id
  toSocket := .empty
  calls := .empty
  socket := socket
  phase := .select
  handled := []
  indicator := true
  result := none
  writes := []

def live (s : SessionActor ID C) : Bool :=
  match s.phase with
  | .select | .handler _ _ => true
  | .finished _ | .ended => false

/-! ## The handle

`send` is what `Session::text`, `binary` and `close` share. The channels are
closed once the actor is dropped, and then nothing is accepted.
-/

def send (s : SessionActor ID C) (message : Message) : SessionActor ID C :=
  if s.live then { s with toSocket := s.toSocket.push (.new message (.handle s.toSocket.hist.length)) } else s

def text (s : SessionActor ID C) (t : Utf8Bytes) : SessionActor ID C := s.send (.text t)

def binary (s : SessionActor ID C) (b : Bytes) : SessionActor ID C := s.send (.binary b)

def close (s : SessionActor ID C) (frame : Option CloseFrame) : SessionActor ID C := s.send (.close frame)

def call (s : SessionActor ID C) (c : C) : SessionActor ID C :=
  if s.live then { s with calls := s.calls.push c } else s

/-! ## The actor -/

-- the receivers go with the actor, and what they had not delivered is dropped
def finish (s : SessionActor ID C) (res : Option SessionResult) : SessionActor ID C :=
  { s with
    phase := .finished res
    socket := s.socket.drop
    writes := s.writes ++ s.toSocket.queue.flatMap InMessage.drop }

def start (s : SessionActor ID C) (h : Handler C) : SessionActor ID C :=
  { s with phase := .handler h false, handled := s.handled ++ [h] }

def outgoing (s : SessionActor ID C) (inmessage : InMessage) : SessionActor ID C :=
  let closeFrame := inmessage.closeFrame
  match s.socket.send inmessage with
  | (socket, ok) =>
    let s := { s with socket := socket }
    let closeFrame := if !ok && closeFrame.isNone then some none else closeFrame
    match closeFrame with
    | some frame => s.finish (some (.ok frame))
    | none => s

def incoming (s : SessionActor ID C) : Option (Except WSError Message) → SessionActor ID C
  | some (.ok (.text t)) => s.start (.onText t)
  | some (.ok (.binary b)) => s.start (.onBinary b)
  | some (.ok (.close frame)) => s.finish (some (.ok frame))
  | some (.error _) => s
  | none => s.finish (some (.ok none))

end SessionActor

inductive SessionAct (C : Type) where
  | text (t : Utf8Bytes)
  | binary (b : Bytes)
  | close (frame : Option CloseFrame)
  | call (c : C)
  | outgoing
  | takeCall
  | incoming
  | callWith
  | resume
  | handlerReturn (res : Except Error Unit)
  | handlerPanic
  | notify
  | socket (a : SocketAct)

/-- The select is biased: a branch is taken only while those above it are empty. -/
def SessionActor.step {ID C : Type} (s : SessionActor ID C) : SessionAct C → Option (SessionActor ID C)
  | .text t => some (s.text t)
  | .binary b => some (s.binary b)
  | .close frame => some (s.close frame)
  | .call c => some (s.call c)
  | .outgoing =>
    match s.phase, s.toSocket.pop? with
    | .select, some (inmessage, c) => some ({ s with toSocket := c }.outgoing inmessage)
    | _, _ => none
  | .takeCall =>
    match s.phase, s.toSocket.queue, s.calls.pop? with
    | .select, [], some (c, q) => some ({ s with calls := q }.start (.onCall c))
    | _, _, _ => none
  | .incoming =>
    match s.phase, s.toSocket.queue, s.calls.queue, s.socket.recv with
    | .select, [], [], some (item, socket) => some ({ s with socket := socket }.incoming item)
    | _, _, _, _ => none
  | .callWith =>
    match s.phase with
    | .handler h false => some { s with phase := .handler h true }
    | _ => none
  | .resume =>
    match s.phase with
    | .handler h true => some { s with phase := .handler h false }
    | _ => none
  | .handlerReturn res =>
    match s.phase, res with
    | .handler _ false, .ok () => some { s with phase := .select }
    | .handler _ false, .error err => some (s.finish (some (.error err)))
    | _, _ => none
  | .handlerPanic =>
    match s.phase with
    | .handler _ false => some (s.finish none)
    | _ => none
  | .notify =>
    match s.phase with
    | .finished res => some { s with phase := .ended, result := some res }
    | _ => none
  | .socket a => (s.socket.step a).map fun socket => { s with socket := socket }

end Ezsockets
