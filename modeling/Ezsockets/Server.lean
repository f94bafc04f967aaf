import Ezsockets.Session

/-!
# The server actor, its sessions and their watchers

The state of everything `Server::create` starts: the actor of
`ServerActor::run`, the connections given to `Server::accept` with their
sockets and sessions, the task spawned for each accepted session (`Watcher`)
with the `watch_for_shutdown` task it spawns (`Closer`), and the
`graceful_shutdown` calls. `Stage` is how far the actor is with a connection.

Connections and shutdown calls are numbered in the order they come.
`early` marks those that were sent while the actor was still in its loop.
The actor holds a clone of the server's handle, so none of its four
channels ever reads `None` and the `else` branch of the select is not taken.
-/

namespace Ezsockets

inductive Callback (ID C : Type) where
  | onConnect (i : Nat)
  | onConnectReturn (i : Nat) (accepted : Bool)
  | onDisconnect (i : Nat) (id : ID) (reason : SessionResult)
  | onDisconnectReturn (i : Nat)
  | onCall (call : C)

inductive Stage where
  | queued
  | connecting
  | declined
  | rejected (enqueued : Bool)
  | accepted
  | disconnecting
  | disconnected
  | discarded
  deriving DecidableEq

inductive Watcher where
  | absent
  | spawned
  | started
  | awaiting
  | resolved (result : SessionResult)
  | aborted (result : SessionResult)
  | done
  | panicked

inductive Closer where
  | absent
  | borrow
  | changed
  | close
  | done
  | cancelled
  deriving DecidableEq

inductive Body (ID SC : Type) where
  | socket (s : Socket)
  | session (a : SessionActor ID SC)

def Body.mapSocket {ID SC : Type} (f : Socket → Socket) : Body ID SC → Body ID SC
  | .socket s => .socket (f s)
  | .session a => .session { a with socket := f a.socket }

structure Conn (ID SC : Type) where
  body : Body ID SC
  early : Bool
  stage : Stage
  watcher : Watcher
  closer : Closer
  seen : Nat
  abort : Bool
  closes : Nat

def Conn.new {ID SC : Type} (socket : Socket) (early : Bool) : Conn ID SC where
  body := .socket socket
  early := early
  stage := .queued
  watcher := .absent
  closer := .absent
  seen := 0
  abort := false
  closes := 0

structure Disconnected (ID : Type) where
  conn : Nat
  id : ID
  result : SessionResult

structure ServerCall (C : Type) where
  call : C
  respondTo : Option Nat

inductive Reply where
  | waiting
  | ok
  | serverStopped
  deriving DecidableEq

structure Caller where
  early : Bool
  reply : Reply

inductive ServerPhase (C : Type) where
  | select
  | onConnect (i : Nat)
  | onDisconnect (i : Nat)
  | onCall (call : ServerCall C)
  | left
  | dropped

structure Server (ID C SC : Type) where
  conns : List (Conn ID SC)
  connections : Chan Nat
  disconnections : Chan (Disconnected ID)
  calls : Chan (ServerCall C)
  shutdowns : Chan Nat
  callers : List Caller
  activeSessions : Nat
  shuttingDown : Bool
  shutdownAcks : List Nat
  shutdownSignal : Watch Bool
  phase : ServerPhase C
  log : List (Callback ID C)

def awayFrame : CloseFrame := ⟨.away, "server shutting down"⟩

namespace Server

variable {ID C SC : Type}

def create : Server ID C SC where
  conns := []
  connections := .empty
  disconnections := .empty
  calls := .empty
  shutdowns := .empty
  callers := []
  activeSessions := 0
  shuttingDown := false
  shutdownAcks := []
  -- `watch::channel(false)`, whose first receiver is dropped at once
  shutdownSignal := ⟨false, 0, 0, true⟩
  phase := .select
  log := []

def isDropped (s : Server ID C SC) : Bool :=
  match s.phase with
  | .dropped => true
  | _ => false

def inLoop (s : Server ID C SC) : Bool :=
  match s.phase with
  | .left | .dropped => false
  | _ => true

def drained (s : Server ID C SC) : Bool := s.shuttingDown && s.activeSessions == 0

def selecting (s : Server ID C SC) : Bool :=
  match s.phase with
  | .select => !s.drained
  | _ => false

def setConn (s : Server ID C SC) (i : Nat) (c : Conn ID SC) : Server ID C SC := { s with conns := s.conns.set i c }

def withConn (s : Server ID C SC) (i : Nat) (f : Conn ID SC → Option (Server ID C SC)) : Option (Server ID C SC) :=
  match s.conns[i]? with
  | some c => f c
  | none => none

def withSession (s : Server ID C SC) (i : Nat) (f : Conn ID SC → SessionActor ID SC → Option (Server ID C SC)) :
    Option (Server ID C SC) :=
  s.withConn i fun c =>
    match c.body with
    | .session a => f c a
    | .socket _ => none

/-! ## The handle -/

def accept (s : Server ID C SC) (socket : Socket) : Server ID C SC :=
  if s.isDropped then s
  else { s with conns := s.conns ++ [.new socket s.inLoop], connections := s.connections.push s.conns.length }

def call (s : Server ID C SC) (call : C) (respondTo : Option Nat) : Server ID C SC :=
  { s with calls := s.calls.push ⟨call, respondTo⟩ }

def gracefulShutdown (s : Server ID C SC) : Server ID C SC :=
  if s.isDropped then { s with callers := s.callers ++ [⟨false, .serverStopped⟩] }
  else
    { s with
      callers := s.callers ++ [⟨s.inLoop, .waiting⟩]
      shutdowns := s.shutdowns.push s.callers.length }

-- the reply sender of a call is used, or dropped with the call
def respond (s : Server ID C SC) (i : Nat) : Server ID C SC :=
  match s.conns[i]? with
  | some c =>
    match c.body with
    | .session a =>
      match a.step .resume with
      | some resumed => s.setConn i { c with body := .session resumed }
      | none => s
    | .socket _ => s
  | none => s

def respondOpt (s : Server ID C SC) : Option Nat → Server ID C SC
  | some i => s.respond i
  | none => s

def resolve (callers : List Caller) (acks : List Nat) (reply : Reply) : List Caller :=
  callers.mapIdx fun n c => if n ∈ acks then { c with reply := reply } else c

/-! ## The branches of the select -/

def takeShutdown (s : Server ID C SC) (ack : Nat) : Server ID C SC :=
  if s.shuttingDown then { s with shutdownAcks := s.shutdownAcks ++ [ack] }
  else
    { s with
      shutdownAcks := s.shutdownAcks ++ [ack]
      shuttingDown := true
      shutdownSignal := s.shutdownSignal.send true }

def takeConnection (s : Server ID C SC) (i : Nat) (c : Conn ID SC) (socket : Socket) : Server ID C SC :=
  if s.shuttingDown then
    match socket.send (.new (.close (some awayFrame)) .own) with
    | (socket, ok) => s.setConn i { c with body := .socket socket.drop, stage := .rejected ok }
  else
    { s.setConn i { c with body := .socket socket.cloneSink, stage := .connecting } with
      phase := .onConnect i
      log := s.log ++ [.onConnect i] }

def onConnectOk (s : Server ID C SC) (i : Nat) (c : Conn ID SC) : Server ID C SC :=
  { s.setConn i { c with
      body := c.body.mapSocket (·.dropSink)
      stage := .accepted
      watcher := .spawned
      seen := s.shutdownSignal.version } with
    activeSessions := s.activeSessions + 1
    shutdownSignal := s.shutdownSignal.subscribe
    phase := .select
    log := s.log ++ [.onConnectReturn i true] }

-- `on_connect` gives its socket to `Session::create` or drops it, and keeps no `Sink`: a socket that no session was
-- created for is dropped when it returns
def onConnectErr (s : Server ID C SC) (i : Nat) (c : Conn ID SC) (frame : Option CloseFrame) : Server ID C SC :=
  let body : Body ID SC := match c.body with
    | .socket socket => .socket socket.drop
    | .session a => .session a
  let body := body.mapSocket fun socket => (socket.send (.new (.close frame) .own)).1.dropSink
  { s.setConn i { c with body := body, stage := .declined } with
    phase := .select
    log := s.log ++ [.onConnectReturn i false] }

def takeDisconnected (s : Server ID C SC) (d : Disconnected ID) (c : Conn ID SC) : Server ID C SC :=
  { s.setConn d.conn { c with stage := .disconnecting } with
    activeSessions := s.activeSessions - 1
    phase := .onDisconnect d.conn
    log := s.log ++ [.onDisconnect d.conn d.id d.result] }

def leave (s : Server ID C SC) : Server ID C SC :=
  { s with phase := .left, callers := resolve s.callers s.shutdownAcks .ok, shutdownAcks := [] }

def discard (s : Server ID C SC) (i : Nat) (c : Conn ID SC) : Conn ID SC :=
  if i ∈ s.connections.queue then { c with body := c.body.mapSocket (·.drop), stage := .discarded } else c

-- the actor's fields are dropped, and what is still queued with them
def dropFields (s : Server ID C SC) : Server ID C SC :=
  { s with
    phase := .dropped
    conns := s.conns.mapIdx s.discard
    connections := s.connections.clear
    disconnections := s.disconnections.clear
    calls := s.calls.clear
    shutdowns := s.shutdowns.clear
    callers := resolve s.callers s.shutdowns.queue .serverStopped
    shutdownSignal := s.shutdownSignal.dropSender }

def dropActor (s : Server ID C SC) : Server ID C SC :=
  s.calls.queue.foldl (fun s call => s.respondOpt call.respondTo) s.dropFields

/-! ## The watchers -/

def dropReceiver (s : Server ID C SC) : Server ID C SC := { s with shutdownSignal := s.shutdownSignal.dropReceiver }

def awaitClose (r : Option SessionResult) : SessionResult := r.getD (.error "session actor crashed")

def disconnected (s : Server ID C SC) (i : Nat) (id : ID) (result : SessionResult) : Server ID C SC :=
  if s.isDropped then s else { s with disconnections := s.disconnections.push ⟨i, id, result⟩ }

end Server

inductive ServerAct (ID C SC : Type) where
  | accept (socket : Socket)
  | call (call : C)
  | gracefulShutdown
  | takeShutdown
  | takeConnection
  | createSession (id : ID)
  | onConnectReturn (res : Except (Option CloseFrame) Unit)
  | takeDisconnected
  | onDisconnectReturn (res : Except Error Unit)
  | takeCall
  | respond
  | onCallReturn (res : Except Error Unit)
  | leave
  | dropActor
  | session (i : Nat) (a : SessionAct SC)
  | callWith (i : Nat) (call : C)
  | socket (i : Nat) (a : SocketAct)
  | spawnCloser (i : Nat)
  | takeIndicator (i : Nat)
  | awaitClose (i : Nat)
  | abortCloser (i : Nat)
  | disconnected (i : Nat)
  | borrow (i : Nat)
  | changed (i : Nat)
  | close (i : Nat)
  | cancel (i : Nat)

namespace Server

variable {ID C SC : Type}

def step (s : Server ID C SC) : ServerAct ID C SC → Option (Server ID C SC)
  | .accept socket => some (s.accept socket)
  | .call call => some (if s.isDropped then s else s.call call none)
  | .gracefulShutdown => some s.gracefulShutdown
  | .takeShutdown =>
    if s.selecting then
      match s.shutdowns.pop? with
      | some (ack, q) => some ({ s with shutdowns := q }.takeShutdown ack)
      | none => none
    else none
  | .takeConnection =>
    if s.selecting then
      match s.connections.pop? with
      | some (i, q) =>
        s.withConn i fun c =>
          match c.body with
          | .socket socket => some ({ s with connections := q }.takeConnection i c socket)
          | .session _ => none
      | none => none
    else none
  | .createSession id =>
    match s.phase with
    | .onConnect i =>
      s.withConn i fun c =>
        match c.body with
        | .socket socket => some (s.setConn i { c with body := .session (.create id socket) })
        | .session _ => none
    | _ => none
  | .onConnectReturn res =>
    match s.phase with
    | .onConnect i =>
      match res with
      | .ok () => s.withSession i fun c _ => some (s.onConnectOk i c)
      | .error frame => s.withConn i fun c => some (s.onConnectErr i c frame)
    | _ => none
  | .takeDisconnected =>
    if s.selecting then
      match s.disconnections.pop? with
      | some (d, q) => s.withConn d.conn fun c => some ({ s with disconnections := q }.takeDisconnected d c)
      | none => none
    else none
  | .onDisconnectReturn _ =>
    match s.phase with
    | .onDisconnect i =>
      s.withConn i fun c =>
        some { s.setConn i { c with stage := .disconnected } with
          phase := .select, log := s.log ++ [.onDisconnectReturn i] }
    | _ => none
  | .takeCall =>
    if s.selecting && !s.shuttingDown then
      match s.calls.pop? with
      | some (call, q) => some { s with calls := q, phase := .onCall call, log := s.log ++ [.onCall call.call] }
      | none => none
    else none
  | .respond =>
    match s.phase with
    | .onCall call => some { s.respondOpt call.respondTo with phase := .onCall { call with respondTo := none } }
    | _ => none
  -- `on_call` keeps no reply sender: one that it has not used is dropped when it returns
  | .onCallReturn _ =>
    match s.phase with
    | .onCall call => some { s.respondOpt call.respondTo with phase := .select }
    | _ => none
  | .leave =>
    match s.phase with
    | .select => if s.drained then some s.leave else none
    | _ => none
  | .dropActor =>
    match s.phase with
    | .left => some s.dropActor
    | _ => none
  | .session i a =>
    s.withSession i fun c session =>
      match a with
      | .callWith | .resume => none
      | a => (session.step a).map fun session => s.setConn i { c with body := .session session }
  | .callWith i call =>
    s.withSession i fun c session =>
      match session.step .callWith with
      | some waiting =>
        -- a closed channel hands the call back, and `call_with` returns `None`
        some (if s.isDropped then s else (s.setConn i { c with body := .session waiting }).call call (some i))
      | none => none
  | .socket i a =>
    s.withConn i fun c =>
      match c.body with
      | .socket socket => (socket.step a).map fun socket => s.setConn i { c with body := .socket socket }
      | .session _ => none
  | .spawnCloser i =>
    s.withConn i fun c =>
      match c.watcher with
      | .spawned => some (s.setConn i { c with watcher := .started, closer := .borrow })
      | _ => none
  | .takeIndicator i =>
    s.withSession i fun c a =>
      match c.watcher with
      | .started =>
        if a.indicator then
          some (s.setConn i { c with watcher := .awaiting, body := .session { a with indicator := false } })
        else some (s.setConn i { c with watcher := .panicked })
      | _ => none
  | .awaitClose i =>
    s.withSession i fun c a =>
      match c.watcher, a.result with
      | .awaiting, some r => some (s.setConn i { c with watcher := .resolved (Server.awaitClose r) })
      | _, _ => none
  | .abortCloser i =>
    s.withConn i fun c =>
      match c.watcher with
      | .resolved r => some (s.setConn i { c with watcher := .aborted r, abort := true })
      | _ => none
  | .disconnected i =>
    s.withSession i fun c a =>
      match c.watcher with
      | .aborted r => some ((s.setConn i { c with watcher := .done }).disconnected i a.id r)
      | _ => none
  | .borrow i =>
    s.withConn i fun c =>
      match c.closer with
      | .borrow => some (s.setConn i { c with closer := if s.shutdownSignal.value then .close else .changed })
      | _ => none
  | .changed i =>
    s.withConn i fun c =>
      match c.closer with
      | .changed =>
        match s.shutdownSignal.changed c.seen with
        | some (.ok version) => some (s.setConn i { c with closer := .borrow, seen := version })
        | some (.error ()) => some (s.setConn i { c with closer := .done }).dropReceiver
        | none => none
      | _ => none
  | .close i =>
    s.withSession i fun c a =>
      match c.closer with
      | .close =>
        let closes := if a.live then c.closes + 1 else c.closes
        some (s.setConn i { c with
          body := .session (a.close (some awayFrame)), closer := .done, closes := closes }).dropReceiver
      | _ => none
  | .cancel i =>
    s.withConn i fun c =>
      -- an aborted task stops where it waits, or before it has run at all
      match c.abort, c.closer with
      | true, .borrow | true, .changed => some (s.setConn i { c with closer := .cancelled }).dropReceiver
      | _, _ => none

end Server

end Ezsockets
