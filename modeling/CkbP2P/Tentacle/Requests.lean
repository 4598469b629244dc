import CkbP2P.Lib.Run
import CkbP2P.Tentacle.ServiceSpec

/-!
# Requests and their results

The service and the world around it: the dials and the listeners that have been asked for
and have no result yet, the listeners that run, and those that have died without the service
having heard of it.  The service hears of a dial or a listener only what the world has for
it; all other events come at any time.

The transports dial the address they are given and report it back, but a listener may be
bound to another address than the one it was asked for.
-/

namespace CkbP2P
namespace Tentacle

open Lib

/-! ### The books after a round -/

namespace InnerService

variable (sha256 : Sha256) {s : InnerService}

theorem books_step_event (hs : s.shutdown = false) (e : SessionEvent) :
    (s.step sha256 (.event e)).books = s.books.event (s.full e) e ∨
      (s.step sha256 (.event e)).books = (s.books.event (s.full e) e).close := by
  simp only [step, hs, Bool.false_eq_true, if_false]
  rcases books_head (s.handleSessionEvent sha256 e) with hhead | hhead <;>
    rcases books_handleSessionEvent sha256 s e with hevent | hevent <;> rw [hhead, hevent]
  · exact .inl rfl
  · exact .inr rfl
  · exact .inr rfl
  · exact .inr rfl

theorem books_step_task (hs : s.shutdown = false) (t : ServiceTask) :
    (s.step sha256 (.task t)).books = s.books.task s.multiTransport.accepts t ∨
      (s.step sha256 (.task t)).books = (s.books.task s.multiTransport.accepts t).close := by
  simp only [step, hs, Bool.false_eq_true, if_false]
  rw [← books_handleServiceTask]
  exact books_head _

end InnerService

/-! ### The world around the service -/

/-- The results of a dial. -/
inductive DialOutcome where
  | dialError (error : TransportErrorKind)
  | handshakeError (error : HandshakeErrorKind)
  | handshakeSuccess (publicKey : Option PublicKey)

/-- The event that tells the result of a dial. -/
def DialOutcome.event (address : Multiaddr) : DialOutcome → SessionEvent
  | .dialError error => .dialError address error
  | .handshakeError error => .handshakeError .outbound error address
  | .handshakeSuccess publicKey => .handshakeSuccess publicKey address .outbound none

/-- The events that are results of dials and listeners. -/
def isResult : SessionEvent → Bool
  | .handshakeSuccess _ _ ty _ | .handshakeError ty _ _ => ty.isOutbound
  | .dialError _ _ | .listenError _ _ | .listenStart _ => true
  | _ => false

/-- The service with its requests. -/
structure Requests where
  service : InnerService
  /-- The dials without a result. -/
  dials : List (Multiaddr × TargetProtocol)
  /-- The addresses to listen on, without a result. -/
  listening : List Multiaddr
  /-- The addresses of the listeners that run. -/
  running : List Multiaddr
  /-- The addresses of listeners that have failed, before the service hears of it. -/
  died : List Multiaddr

namespace Requests

/-- What can happen. -/
inductive Label where
  | task (t : ServiceTask)
  /-- An event that is not a result. -/
  | event (e : SessionEvent)
  | dialResult (address : Multiaddr) (outcome : DialOutcome)
  | listenStarted (requested bound : Multiaddr)
  | listenFailed (requested : Multiaddr) (error : TransportErrorKind)
  /-- A listener that runs fails. -/
  | listenerDied (address : Multiaddr)
  /-- The service hears that a listener has failed. -/
  | listenerError (address : Multiaddr) (error : TransportErrorKind)
  | handleEnded (handle : Option SessionId × ProtocolId)

/-- The dial a task makes. -/
def newDial (s : InnerService) : ServiceTask → List (Multiaddr × TargetProtocol)
  | .dial address target =>
    if address ∉ s.dialProtocols ∧ s.multiTransport.accepts address then [(address, target)] else []
  | _ => []

/-- The listener a task asks for. -/
def newListener (s : InnerService) : ServiceTask → List Multiaddr
  | .listen address =>
    if address ∉ s.listens ∧ s.multiTransport.accepts address then [address] else []
  | _ => []

def step (sha256 : Sha256) (r : Requests) (l : Label) : Requests :=
  if r.service.shutdown then r
  else match l with
    | .task t => { r with
        service := r.service.step sha256 (.task t)
        dials := r.dials ++ newDial r.service t
        listening := r.listening ++ newListener r.service t }
    | .event e => if isResult e then r else { r with service := r.service.step sha256 (.event e) }
    | .dialResult address outcome =>
      if address ∈ r.dials.map Prod.fst then { r with
        service := r.service.step sha256 (.event (outcome.event address))
        dials := r.dials.eraseP fun d => d.1 = address }
      else r
    | .listenStarted requested bound =>
      if requested ∈ r.listening then { r with
        service := r.service.step sha256 (.event (.listenStart bound))
        listening := r.listening.erase requested
        running := r.running ++ [bound] }
      else r
    | .listenFailed requested error =>
      if requested ∈ r.listening then { r with
        service := r.service.step sha256 (.event (.listenError requested error))
        listening := r.listening.erase requested }
      else r
    | .listenerDied address =>
      if address ∈ r.running then { r with
        running := r.running.erase address
        died := r.died ++ [address] }
      else r
    | .listenerError address error =>
      if address ∈ r.died then { r with
        service := r.service.step sha256 (.event (.listenError address error))
        died := r.died.erase address }
      else r
    | .handleEnded handle => { r with service := r.service.step sha256 (.handleEnded handle) }

/-- The dials made before the main loop. -/
def preparedDials : List InnerService.Preparation → List (Multiaddr × TargetProtocol)
  | [] => []
  | .dial address target :: preparations => (address, target) :: preparedDials preparations
  | .listen _ :: preparations => preparedDials preparations

/-- The listeners bound before the main loop. -/
def preparedListeners : List InnerService.Preparation → List Multiaddr
  | [] => []
  | .dial _ _ :: preparations => preparedListeners preparations
  | .listen address :: preparations => address :: preparedListeners preparations

/-- A service with what was asked for before its main loop. -/
def start (s : InnerService) (preparations : List InnerService.Preparation) : Requests :=
  { service := s.start preparations
    dials := preparedDials preparations
    listening := []
    running := preparedListeners preparations
    died := [] }

end Requests

end Tentacle
end CkbP2P
