import Mathlib.Data.List.AList
import CkbP2P.Tentacle.Types

/-!
# The inner service

The main loop of a service: it takes events of sessions, listeners and dials and tasks of
the user one by one, keeps the maps of sessions, listeners and dials, and tells its user
what has happened.

The hash function is a parameter.  Sending to the user and to sessions is recorded in
lists that no function reads.  Messages to sessions, notifications and future tasks touch
none of the maps and are left out.
-/

namespace CkbP2P
namespace Tentacle

open Lib

/-- The service. -/
structure InnerService where
  protocolConfigs : List ProtocolMeta
  sessions : AList fun _ : SessionId => SessionContext
  multiTransport : MultiTransport
  /-- The addresses of the listeners, without repetition. -/
  listens : List Multiaddr
  dialProtocols : AList fun _ : Multiaddr => TargetProtocol
  maxConnectionNumber : ℕ
  state : State
  nextSession : SessionId
  serviceProtoHandles : List ProtocolId
  sessionProtoHandles : List (SessionId × ProtocolId)
  /-- `service_context.listens()`. -/
  published : List Multiaddr
  /-- Protocol handles whose task has ended. -/
  ended : List (Option SessionId × ProtocolId)
  /-- The main loop has ended. -/
  shutdown : Bool
  /-- Sent to the user. -/
  handled : List ServiceEventAndError
  /-- Sent to sessions. -/
  commands : List (SessionId × SessionCommand)
  /-- The sessions started, with the protocols to open. -/
  started : List (SessionId × List String)
  /-- `decrease` was applied to `running 0`. -/
  underflow : Bool

namespace InnerService

/-- A service as it is built. -/
def new (protocolConfigs : List ProtocolMeta) (multiTransport : MultiTransport)
    (maxConnectionNumber : ℕ) (forever : Bool) : InnerService :=
  { protocolConfigs, sessions := ∅, multiTransport, listens := [], dialProtocols := ∅
    maxConnectionNumber, state := State.new forever, nextSession := 0, serviceProtoHandles := []
    sessionProtoHandles := [], published := [], ended := [], shutdown := false, handled := []
    commands := [], started := [], underflow := false }

/-- `handle_sender.send`. -/
def send (s : InnerService) (e : ServiceEventAndError) : InnerService :=
  { s with handled := s.handled ++ [e] }

/-- `state.increase()`. -/
def increase (s : InnerService) : InnerService := { s with state := s.state.increase }

/-- `state.decrease()`. -/
def decrease (s : InnerService) : InnerService :=
  { s with state := s.state.decrease, underflow := s.underflow || s.state == .running 0 }

/-- `dial_protocols.remove`. -/
def undial (s : InnerService) (address : Multiaddr) : InnerService :=
  { s with dialProtocols := s.dialProtocols.erase address }

/-! ### Sessions -/

/-- The loop of `generate_next_session`, of at most `n` rounds. -/
def nextLoop (sessions : AList fun _ : SessionId => SessionContext) : ℕ → SessionId → SessionId
  | 0, id => id
  | n + 1, id => if id + 1 ∈ sessions then nextLoop sessions n (id + 1) else id + 1

/-- `generate_next_session`.  A round more than there are sessions is enough. -/
def generateNextSession (s : InnerService) : InnerService :=
  { s with nextSession := nextLoop s.sessions (s.sessions.keys.length + 1) s.nextSession }

/-- `reached_max_connection_limit`. -/
def reachedMaxConnectionLimit (s : InnerService) : Bool :=
  let count := s.sessions.keys.length + s.state.intoInner.getD 0
  if count < 2 ^ 64 then decide (s.maxConnectionNumber < count) else false

/-- The protocols to open on a new outbound session. -/
def targetNames (s : InnerService) : TargetProtocol → List String
  | .all => s.protocolConfigs.map ProtocolMeta.name
  | .single id => (s.protocolConfigs.filter fun m => m.id == id).map ProtocolMeta.name
  | .filter f => (s.protocolConfigs.filter fun m => f m.id).map ProtocolMeta.name

/-- The end of `session_open`: the session gets an id and is started. -/
def insertSession (s : InnerService) (remotePubkey : Option PublicKey) (address : Multiaddr)
    (ty : SessionType) (target : TargetProtocol) : InnerService :=
  let s := s.generateNextSession
  let context : SessionContext := { id := s.nextSession, address, ty, remotePubkey }
  let handles := (s.protocolConfigs.filter ProtocolMeta.sessionHandle).map fun m =>
    (s.nextSession, m.id)
  let names := if ty.isOutbound then s.targetNames target else []
  { s with
    sessions := s.sessions.insert s.nextSession context
    sessionProtoHandles := s.sessionProtoHandles ++ handles
    started := s.started ++ [(s.nextSession, names)] }.send (.event (.sessionOpen context))

/-- The session with the same key and address, if there is one. -/
def findSession (s : InnerService) (key : PublicKey) (address : Multiaddr) :
    Option SessionContext :=
  (s.sessions.entries.map Sigma.snd).find? fun context =>
    decide (context.remotePubkey = some key) && decide (context.address = address)

/-- The report of a connection that exists already. -/
def repeatedConnection (id : SessionId) (address : Multiaddr) (ty : SessionType)
    (listenAddr : Option Multiaddr) (s : InnerService) : InnerService :=
  if ty.isOutbound then s.send (.error (.dialerError address (.repeatedConnection id)))
  else match listenAddr with
    | some listen => s.send (.error (.listenError listen (.repeatedConnection id)))
    | none => s

/-- `session_open`. -/
def sessionOpen (sha256 : Sha256) (s : InnerService) (remotePubkey : Option PublicKey)
    (address : Multiaddr) (ty : SessionType) (listenAddr : Option Multiaddr) : InnerService :=
  let target := (s.dialProtocols.lookup address).getD .all
  let s := s.undial address
  match remotePubkey with
  | none => s.insertSession none address ty target
  | some key =>
    match s.findSession key address with
    | some context => s.repeatedConnection context.id address ty listenAddr
    | none =>
      match extractPeerId address with
      | some peerId =>
        if key.peerId sha256 ≠ peerId then
          s.send (.error (.dialerError address .peerIdNotMatch))
        else s.insertSession (some key) address ty target
      | none =>
        s.insertSession (some key) (address.push (key.p2p sha256) (key.valid_p2p sha256)) ty target

/-- Send a command to a session, if it exists. -/
def command (s : InnerService) (id : SessionId) (c : SessionCommand) : InnerService :=
  if id ∈ s.sessions then { s with commands := s.commands ++ [(id, c)] } else s

/-- `session_close`: a request from outside goes to the session, which reports back. -/
def sessionClose (s : InnerService) (id : SessionId) : Source → InnerService
  | .external => s.command id .sessionClose
  | .internal =>
    let s := { s with sessionProtoHandles := s.sessionProtoHandles.filter fun h => h.1 ≠ id }
    match s.sessions.lookup id with
    | none => s
    | some context =>
      { s with sessions := s.sessions.erase id }.send (.event (.sessionClose context))

/-! ### Shutting down -/

/-- The task `Shutdown`. -/
def handleShutdown (s : InnerService) (quick : Bool) : InnerService :=
  let closed := s.listens.map fun address => ServiceEventAndError.event (.listenClose address)
  let s := { s with state := .preShutdown, listens := [], handled := s.handled ++ closed }
  let ids := s.sessions.keys
  if quick then
    ids.foldl (fun s id => s.sessionClose id .internal)
      { s with serviceProtoHandles := [], sessionProtoHandles := [] }
  else ids.foldl (fun s id => s.sessionClose id .external) s

/-! ### Listeners -/

/-- The handles that an update does not reach. -/
def unreachable (s : InnerService) : List (Option SessionId × ProtocolId) :=
  let handles : List (Option SessionId × ProtocolId) :=
    s.serviceProtoHandles.map (none, ·) ++ s.sessionProtoHandles.map fun h => (some h.1, h.2)
  handles.filter (· ∈ s.ended)

/-- `try_update_listens`: publish the listeners if their number has changed. -/
def tryUpdateListens (s : InnerService) : InnerService :=
  if s.listens.length = s.published.length then s
  else
    let gone := s.unreachable
    let errors := gone.map fun h => ServiceEventAndError.error (.protocolHandleError h.2 h.1)
    let s := { s with
      published := s.listens
      handled := s.handled ++ .update s.listens :: errors }
    if gone.isEmpty then s else s.handleShutdown false

/-- `listen_inner`. -/
def listenInner (s : InnerService) (address : Multiaddr) :
    InnerService × Except TransportErrorKind Unit :=
  match s.multiTransport.listen address with
  | .error e => (s, .error e)
  | .ok () => (s.increase, .ok ())

/-! ### Dials -/

/-- `dial_inner`: the dial is noted before the transport is asked. -/
def dialInner (s : InnerService) (address : Multiaddr) (target : TargetProtocol) :
    InnerService × Except TransportErrorKind Unit :=
  let s := { s with dialProtocols := s.dialProtocols.insert address target }
  match s.multiTransport.dial address with
  | .error e => (s, .error e)
  | .ok () => (s.increase, .ok ())

/-! ### Before the main loop -/

/-- The end of `Service::listen`, with the address the transport has bound. -/
def serviceListen (s : InnerService) (address : Multiaddr) : InnerService :=
  { s.send (.event (.listenStarted address)) with listens := s.listens.insert address }

/-- The end of `Service::dial`, after the transport has connected. -/
def serviceDial (s : InnerService) (address : Multiaddr) (target : TargetProtocol) :
    InnerService :=
  { s with dialProtocols := s.dialProtocols.insert address target }.increase

/-- What is asked of a service before its main loop runs. -/
inductive Preparation where
  | listen (address : Multiaddr)
  | dial (address : Multiaddr) (target : TargetProtocol)

def prepare (s : InnerService) : Preparation → InnerService
  | .listen address => s.serviceListen address
  | .dial address target => s.serviceDial address target

/-- `init_proto_handles`. -/
def initProtoHandles (s : InnerService) : InnerService :=
  { s with serviceProtoHandles :=
      (s.protocolConfigs.filter ProtocolMeta.serviceHandle).map ProtocolMeta.id }

/-! ### The main loop -/

/-- Tell the user about a session, if it exists. -/
def reportSession (s : InnerService) (id : SessionId) (e : SessionContext → ServiceError) :
    InnerService :=
  match s.sessions.lookup id with
  | none => s
  | some context => s.send (.error (e context))

/-- `handle_session_event`. -/
def handleSessionEvent (sha256 : Sha256) (s : InnerService) : SessionEvent → InnerService
  | .sessionClose id => s.sessionClose id .internal
  | .handshakeSuccess publicKey address ty listenAddress =>
    let s := if ty.isOutbound then s.decrease else s
    if s.reachedMaxConnectionLimit then s
    else s.sessionOpen sha256 publicKey address ty listenAddress
  | .handshakeError ty error address =>
    if ty.isOutbound then
      (s.decrease.undial address).send (.error (.dialerError address (.handshakeError error)))
    else s
  | .protocolSelectError id protoName => s.reportSession id (.protocolSelectError protoName)
  | .protocolError id protoId error => s.send (.error (.protocolError id protoId error))
  | .dialError address error =>
    (s.decrease.undial address).send (.error (.dialerError address (.transportError error)))
  | .listenError address error =>
    let s := s.send (.error (.listenError address (.transportError error)))
    if address ∈ s.listens then
      { s with listens := s.listens.erase address }.send (.event (.listenClose address))
    else s.decrease
  | .sessionTimeout id => s.reportSession id .sessionTimeout
  | .muxerError id error => s.reportSession id (.muxerError · error)
  | .listenStart listenAddress =>
    let s := s.send (.event (.listenStarted listenAddress))
    { s with listens := s.listens.insert listenAddress }.decrease.tryUpdateListens
  | .protocolHandleError protoId session =>
    (s.send (.error (.protocolHandleError protoId session))).handleShutdown false
  | .changeState id => s.reportSession id .sessionBlocked

/-- The protocols a target names. -/
def targetIds (s : InnerService) : TargetProtocol → List ProtocolId
  | .all => s.protocolConfigs.map ProtocolMeta.id
  | .single id => [id]
  | .filter f => (s.protocolConfigs.map ProtocolMeta.id).filter f

/-- `handle_service_task`. -/
def handleServiceTask (s : InnerService) : ServiceTask → InnerService
  | .dial address target =>
    if address ∈ s.dialProtocols then s
    else match s.dialInner address target with
      | (s, .error e) => s.send (.error (.dialerError address (.transportError e)))
      | (s, .ok ()) => s
  | .listen address =>
    if address ∈ s.listens then s
    else match s.listenInner address with
      | (s, .error e) => s.send (.error (.listenError address (.transportError e)))
      | (s, .ok ()) => s
  | .disconnect sessionId => s.sessionClose sessionId .external
  | .protocolOpen sessionId target =>
    (s.targetIds target).foldl (fun s id => s.command sessionId (.protocolOpen id)) s
  | .protocolClose sessionId protoId => s.command sessionId (.protocolClose protoId)
  | .shutdown quick => s.handleShutdown quick

/-- What the main loop waits for, and the end of the task of a protocol handle. -/
inductive Input where
  | event (e : SessionEvent)
  | task (t : ServiceTask)
  | handleEnded (handle : Option SessionId × ProtocolId)

/-- The main loop has nothing left to do. -/
def isDone (s : InnerService) : Bool :=
  s.listens.isEmpty && s.state.isShutdown && s.sessions.keys.isEmpty

/-- The head of the main loop, up to the point where it waits. -/
def head (s : InnerService) : InnerService :=
  if s.isDone then { s with shutdown := true } else s.tryUpdateListens

/-- `run`, up to the point where it waits for the first time. -/
def start (s : InnerService) (preparations : List Preparation) : InnerService :=
  (preparations.foldl prepare s).initProtoHandles.head

/-- One round of the main loop, from where it waits to where it waits again. -/
def step (sha256 : Sha256) (s : InnerService) : Input → InnerService
  | .event e => if s.shutdown then s else (s.handleSessionEvent sha256 e).head
  | .task t => if s.shutdown then s else (s.handleServiceTask t).head
  | .handleEnded handle => { s with ended := handle :: s.ended }

end InnerService

end Tentacle
end CkbP2P
