import CkbP2P.Connector.Tables
import CkbP2P.Tentacle.ProtocolHandle

/-!
# The node

A node is one handler for the events of the service and one for each protocol, all with the
same shared state.  Each runs in a task of its own and takes its events from a queue of its
own; a callback that has the lock of the shared state runs by itself.

The service publishes the opening of a session and, later, its closing, each once.  When a
substream opens or closes, its protocol's queue gets an event.  Nothing orders the queues.
-/

namespace CkbP2P
namespace P2PNode

open Lib Tentacle Connector

/-- How far a session has come. -/
inductive Phase where
  | unopened
  | opened
  | closed
  deriving DecidableEq, Repr

structure Node where
  shared : SharedState
  /-- The queue of the service handler. -/
  events : List ServiceEvent
  /-- The tasks of the protocol handlers, and their queues. -/
  streams : ProtocolId → ServiceProtocolStream
  queues : ProtocolId → List ServiceProtocolEvent
  flags : Flags
  /-- What the service has published of a session. -/
  published : SessionId → Phase
  /-- What the service handler has handled of a session. -/
  handled : SessionId → Phase

namespace Node

def new : Node :=
  { shared := .new, events := [], streams := fun _ => .new, queues := fun _ => []
    flags := { shutdown := false, closed := fun _ => false }
    published := fun _ => .unopened, handled := fun _ => .unopened }

section Callbacks

variable (sha256 : Sha256) (contexts : SessionId → SessionContext)

/-- `handle_event` of the service handler.  The future that would disconnect a session from
the other side is dropped before it is polled, so nothing comes of it. -/
def handleEvent (n : Node) : ServiceEvent → Node
  | .sessionOpen session =>
    let n := { n with handled := Function.update n.handled session.id .opened }
    if session.ty = .inbound then n else { n with shared := n.shared.addSession sha256 session }
  | .sessionClose session =>
    { n with
      handled := Function.update n.handled session.id .closed
      shared := (n.shared.removeSession sha256 session.id).2 }
  | .listenClose _ | .listenStarted _ => n

/-- The callbacks `connected`, `disconnected` and `received` of a protocol handler. -/
def callback (protocolId : ProtocolId) (shared : SharedState) : Callback → SharedState
  | .connected id _ => shared.addProtocol (contextOf contexts id) protocolId
  | .disconnected id => shared.removeProtocol id protocolId
  | .received _ _ => shared

/-- The task of the service handler takes an event. -/
def runService (n : Node) : Node :=
  match n.events with
  | [] => n
  | event :: events => { n with events }.handleEvent sha256 event

/-- The task of a protocol handler takes an event. -/
def runProtocol (n : Node) (protocolId : ProtocolId) (later : Flags) : Node :=
  match n.queues protocolId with
  | [] => n
  | event :: queue =>
    let (stream, callbacks) := (n.streams protocolId).handleEvent n.flags later event
    { n with
      queues := Function.update n.queues protocolId queue
      streams := Function.update n.streams protocolId stream
      shared := callbacks.foldl (callback contexts protocolId) n.shared }

end Callbacks

end Node

/-- What can happen. -/
inductive Label where
  /-- The service publishes that a session is open. -/
  | openSession (id : SessionId)
  /-- The service publishes that a session is closed. -/
  | closeSession (id : SessionId)
  /-- A substream queues an event for the handler of its protocol. -/
  | queue (protocolId : ProtocolId) (event : ServiceProtocolEvent)
  /-- A session sets its flag. -/
  | setClosed (id : SessionId)
  | shutdown
  | service
  | protocol (protocolId : ProtocolId) (later : Flags)

/-- A step of the whole. -/
def Node.step (sha256 : Sha256) (contexts : SessionId → SessionContext) (n : Node) :
    Label → Node
  | .openSession id =>
    if n.published id = .unopened then
      { n with
        published := Function.update n.published id .opened
        events := n.events ++ [.sessionOpen (contextOf contexts id)] }
    else n
  | .closeSession id =>
    if n.published id = .opened then
      { n with
        published := Function.update n.published id .closed
        events := n.events ++ [.sessionClose (contextOf contexts id)] }
    else n
  | .queue protocolId event =>
    { n with queues := Function.update n.queues protocolId (n.queues protocolId ++ [event]) }
  | .setClosed id =>
    { n with flags := { n.flags with closed := Function.update n.flags.closed id true } }
  | .shutdown => { n with flags := { n.flags with shutdown := true } }
  | .service => n.runService sha256
  | .protocol protocolId later => n.runProtocol contexts protocolId later

end P2PNode
end CkbP2P
