import CkbP2P.Secio.Identity

/-!
# Types of the service

The addresses, errors, events and tasks that pass between the service, its sessions and
its user, the counter of outstanding requests, and the part of the transports that
answers at once.

Errors of the operating system only pass through; nothing is kept of them but their kind.
-/

namespace CkbP2P
namespace Tentacle

abbrev SessionId := UInt64
abbrev ProtocolId := UInt64
abbrev StreamId := ℕ

/-- A reading of the clock, in nanoseconds. -/
abbrev Instant := ℕ

/-- A span of time, in nanoseconds. -/
abbrev Duration := ℕ

/-- `Duration::from_secs`. -/
def fromSecs (n : ℕ) : Duration := n * 1000000000

/-- `as_secs`. -/
def asSecs (d : Duration) : ℕ := d / 1000000000

/-- Which side has opened the connection. -/
inductive SessionType where
  | outbound
  | inbound
  deriving DecidableEq, Repr

def SessionType.isOutbound : SessionType → Bool
  | .outbound => true
  | .inbound => false

/-- The protocols to open on a session. -/
inductive TargetProtocol where
  | all
  | single (id : ProtocolId)
  | filter (f : ProtocolId → Bool)

/-! ### Outstanding requests -/

/-- The state of the service. -/
inductive State where
  /-- The number of requests whose result is outstanding, a `usize`. -/
  | running (num : ℕ)
  | forever
  | preShutdown
  deriving DecidableEq, Repr

namespace State

def new (forever : Bool) : State := if forever then .forever else .running 0

def isShutdown : State → Bool
  | .running num => num == 0
  | .preShutdown => true
  | .forever => false

/-- `increase`; the addition wraps. -/
def increase : State → State
  | .running num => .running (if num = 2 ^ 64 - 1 then 0 else num + 1)
  | s => s

/-- `decrease`; the subtraction wraps. -/
def decrease : State → State
  | .running num => .running (if num = 0 then 2 ^ 64 - 1 else num - 1)
  | s => s

def intoInner : State → Option ℕ
  | .running num => some num
  | _ => none

end State

/-! ### Transports -/

/-- The kinds of errors of the operating system that are told apart. -/
inductive ErrorKind where
  | brokenPipe
  | connectionAborted
  | connectionReset
  | notConnected
  | unexpectedEof
  | other (code : ℕ)
  deriving DecidableEq, Repr

/-- An error of the operating system. -/
structure IoError where
  kind : ErrorKind
  deriving DecidableEq, Repr

inductive TransportErrorKind where
  | io (e : IoError)
  | notSupported (address : Multiaddr)
  | dnsResolverError (address : Multiaddr) (e : IoError)
  | tlsError (message : String)
  deriving DecidableEq

inductive TransportType where
  | ws
  | wss
  | tcp
  | tls
  | memory
  deriving DecidableEq, Repr

/-- `find_type`. -/
def findType (addr : Multiaddr) : TransportType :=
  (addr.iter.findSome? fun
    | .ws => some .ws
    | .wss => some .wss
    | .tls _ => some .tls
    | .memory _ => some .memory
    | _ => none).getD .tcp

/-- The address `/ip4/127.0.0.1/tcp/1337`. -/
def loopback : Multiaddr :=
  ⟨[4, 127, 0, 0, 1, 6, 5, 57], [.ip4 127 0 0 1, .tcp 1337], by decide +kernel⟩

/-- The address `/ip4/127.0.0.1/tcp/1337/wss`. -/
def loopbackWss : Multiaddr := loopback.push .wss trivial

example : findType loopback = .tcp ∧ findType loopbackWss = .wss := by decide +kernel

/-- `parse_tls_domain_name`. -/
def parseTlsDomainName (addr : Multiaddr) : Option String :=
  addr.iter.findSome? fun
    | .tls s => some s
    | _ => none

/-- What the transports were built with: the features `ws` and `tls`, and whether there is
a TLS configuration. -/
structure MultiTransport where
  ws : Bool
  tls : Bool
  tlsConfig : Bool
  deriving DecidableEq, Repr

namespace MultiTransport

/-- The answer of the transports before they go to work; dialing and listening are decided
alike. -/
def answer (t : MultiTransport) (address : Multiaddr) : Except TransportErrorKind Unit :=
  match findType address with
  | .tcp | .memory => .ok ()
  | .ws => if t.ws then .ok () else .error (.notSupported address)
  | .wss => .error (.notSupported address)
  | .tls =>
    if t.tls then
      if t.tlsConfig then
        match parseTlsDomainName address with
        | some _ => .ok ()
        | none => .error (.notSupported address)
      else .error (.tlsError "tls config is not set")
    else .error (.notSupported address)

/-- `dial`. -/
def dial (t : MultiTransport) (address : Multiaddr) : Except TransportErrorKind Unit :=
  t.answer address

/-- `listen`. -/
def listen (t : MultiTransport) (address : Multiaddr) : Except TransportErrorKind Unit :=
  t.answer address

end MultiTransport

/-! ### Events and tasks -/

inductive HandshakeErrorKind where
  | timeout (message : String)
  | secioError (e : IoError)
  deriving DecidableEq, Repr

inductive DialerErrorKind where
  | peerIdNotMatch
  | repeatedConnection (id : SessionId)
  | handshakeError (e : HandshakeErrorKind)
  | transportError (e : TransportErrorKind)
  deriving DecidableEq

inductive ListenErrorKind where
  | repeatedConnection (id : SessionId)
  | transportError (e : TransportErrorKind)
  deriving DecidableEq

/-- What is known of a session. -/
structure SessionContext where
  id : SessionId
  address : Multiaddr
  ty : SessionType
  remotePubkey : Option PublicKey
  deriving DecidableEq

/-- A session that has been encrypted. -/
def secured : SessionContext := ⟨1, loopback, .inbound, some .generator⟩

inductive ServiceEvent where
  | sessionClose (context : SessionContext)
  | sessionOpen (context : SessionContext)
  | listenClose (address : Multiaddr)
  | listenStarted (address : Multiaddr)
  deriving DecidableEq

inductive ServiceError where
  | dialerError (address : Multiaddr) (error : DialerErrorKind)
  | listenError (address : Multiaddr) (error : ListenErrorKind)
  | protocolSelectError (protoName : Option String) (context : SessionContext)
  | protocolError (id : SessionId) (protoId : ProtocolId) (error : IoError)
  | sessionTimeout (context : SessionContext)
  | muxerError (context : SessionContext) (error : IoError)
  | protocolHandleError (protoId : ProtocolId) (session : Option SessionId)
  | sessionBlocked (context : SessionContext)
  deriving DecidableEq

/-- What the service tells its user. -/
inductive ServiceEventAndError where
  | event (e : ServiceEvent)
  | error (e : ServiceError)
  | update (listenAddrs : List Multiaddr)
  deriving DecidableEq

/-- What sessions, listeners and dials tell the service. -/
inductive SessionEvent where
  | sessionClose (id : SessionId)
  | handshakeSuccess (publicKey : Option PublicKey) (address : Multiaddr) (ty : SessionType)
      (listenAddress : Option Multiaddr)
  | handshakeError (ty : SessionType) (error : HandshakeErrorKind) (address : Multiaddr)
  | protocolSelectError (id : SessionId) (protoName : Option String)
  | protocolError (id : SessionId) (protoId : ProtocolId) (error : IoError)
  | dialError (address : Multiaddr) (error : TransportErrorKind)
  | listenError (address : Multiaddr) (error : TransportErrorKind)
  | sessionTimeout (id : SessionId)
  | muxerError (id : SessionId) (error : IoError)
  | listenStart (listenAddress : Multiaddr)
  | protocolHandleError (protoId : ProtocolId) (session : Option SessionId)
  | changeState (id : SessionId)
  deriving DecidableEq

/-- What the user asks of the service. -/
inductive ServiceTask where
  | dial (address : Multiaddr) (target : TargetProtocol)
  | listen (address : Multiaddr)
  | disconnect (sessionId : SessionId)
  | protocolOpen (sessionId : SessionId) (target : TargetProtocol)
  | protocolClose (sessionId : SessionId) (protoId : ProtocolId)
  | shutdown (quick : Bool)

/-- Who asks for a session to be closed. -/
inductive Source where
  | internal
  | external
  deriving DecidableEq, Repr

/-- What the service tells a session. -/
inductive SessionCommand where
  | sessionClose
  | protocolOpen (protoId : ProtocolId)
  | protocolClose (protoId : ProtocolId)
  deriving DecidableEq, Repr

/-- A protocol of the service, and whether it has handles at the two levels. -/
structure ProtocolMeta where
  id : ProtocolId
  name : String
  serviceHandle : Bool
  sessionHandle : Bool
  deriving DecidableEq, Repr

/-- A protocol with a handle at service level, for the examples. -/
def ProtocolMeta.ping (sessionHandle : Bool) : ProtocolMeta :=
  { id := 1, name := "/ping", serviceHandle := true, sessionHandle }

end Tentacle
end CkbP2P
