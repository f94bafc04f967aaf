import Ezsockets.Lts
import Ezsockets.Chan
import Ezsockets.Message
import Ezsockets.Socket
import Ezsockets.Server
import Ezsockets.SessionLemmas
import Ezsockets.Accounting
import Ezsockets.ServerStep
import Ezsockets.SocketLemmas
import Ezsockets.Disconnects
import Ezsockets.Callers
import Ezsockets.Shutdown
import Ezsockets.Broadcast
import Ezsockets.Rejection
import Ezsockets.Deadlock
import Ezsockets.SessionStream
import Ezsockets.Client
import Ezsockets.ClientStep
import Ezsockets.ClientStream
import Ezsockets.Blocks
import Ezsockets.ClientQueue
import Ezsockets.Reconnect
import Ezsockets.Owner
import Ezsockets.Relay
import Ezsockets.EndToEnd
import Ezsockets.Supervision
import Ezsockets.Signals
import Ezsockets.Ledger
import Ezsockets.Status
import Ezsockets.Pending
import Ezsockets.Teardown
import Ezsockets.DeadSink
import Ezsockets.LifeCycle
import Ezsockets.ClientClose
import Ezsockets.LastHandle
import Ezsockets.Timed
import Ezsockets.KeepAlive
import Ezsockets.Pacing
import Ezsockets.Responsive
import Ezsockets.SessionClose
import Ezsockets.Connect
import Ezsockets.BigEndian
import Ezsockets.Latency
import Ezsockets.MultiMap
import Ezsockets.Pieces
import Ezsockets.Http
import Ezsockets.Upgrade
import Ezsockets.ClientRequest
import Ezsockets.Acceptor
import Ezsockets.Completion
import Ezsockets.Requests
import Ezsockets.CallWith
import Ezsockets.Registry
import Ezsockets.Codec
import Ezsockets.Hosting
import Ezsockets.Upgrades
import Ezsockets.Attempts
import Ezsockets.Bodies
import Ezsockets.Endings
import Ezsockets.KeepsUp
import Ezsockets.WindDown
import Ezsockets.Handshake
import Ezsockets.RoundTrip
import Ezsockets.World
import Ezsockets.Closes
