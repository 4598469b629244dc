import CkbP2P.Tentacle.Substream

/-!
# The task of a protocol handler at service level

The events of all substreams of a protocol go to one handler, through one queue.  The task
of the handler keeps the sessions it has told the handler about, and turns events into
callbacks.  Before each event it tells the handler of the sessions that have been closed.
-/

namespace CkbP2P
namespace Tentacle

open Lib

/-- The flags the task of a handler reads. -/
structure Flags where
  shutdown : Bool
  /-- The session is closed. -/
  closed : SessionId → Bool

/-- The callbacks of a handler, as far as sessions are concerned. -/
inductive Callback where
  | connected (session : SessionId) (version : String)
  | disconnected (session : SessionId)
  | received (session : SessionId) (data : Bytes)
  deriving DecidableEq

/-- The task of a handler, by the sessions it has. -/
structure ServiceProtocolStream where
  sessions : List SessionId
  deriving DecidableEq

namespace ServiceProtocolStream

def new : ServiceProtocolStream := { sessions := [] }

/-- The sessions that have been closed are taken out. -/
def sweep (s : ServiceProtocolStream) (closed : SessionId → Bool) :
    ServiceProtocolStream × List Callback :=
  ({ sessions := s.sessions.filter fun id => !closed id },
    (s.sessions.filter closed).map .disconnected)

/-- The match of `handle_event`.  The flags may have changed since they were read. -/
def dispatch (s : ServiceProtocolStream) (flags : Flags) :
    ServiceProtocolEvent → ServiceProtocolStream × List Callback
  | .connected id version => ({ sessions := s.sessions.insert id }, [.connected id version])
  | .disconnected id =>
    if id ∈ s.sessions then
      ({ sessions := s.sessions.filter (· ≠ id) }, [.disconnected id])
    else (s, [])
  | .received id data =>
    if id ∈ s.sessions ∧ flags.closed id = false ∧ flags.shutdown = false then
      (s, [.received id data])
    else (s, [])

def isDisconnection : ServiceProtocolEvent → Bool
  | .disconnected _ => true
  | .connected _ _ | .received _ _ => false

/-- `handle_event`: after a shutdown, only disconnections are handled. -/
def handleEvent (s : ServiceProtocolStream) (flags later : Flags) (event : ServiceProtocolEvent) :
    ServiceProtocolStream × List Callback :=
  if flags.shutdown && !isDisconnection event then (s, [])
  else
    let (s, swept) := s.sweep flags.closed
    let (s, callbacks) := s.dispatch later event
    (s, swept ++ callbacks)

theorem connected_of_dispatch {s : ServiceProtocolStream} {flags : Flags}
    {event : ServiceProtocolEvent} {id : SessionId} {version : String}
    (h : .connected id version ∈ (s.dispatch flags event).2) : event = .connected id version := by
  cases event with
  | connected id' version' =>
    simp only [dispatch, List.mem_singleton, Callback.connected.injEq] at h
    rw [h.1, h.2]
  | received id' data =>
    simp only [dispatch] at h
    split at h <;> simp at h
  | disconnected id' =>
    simp only [dispatch] at h
    split at h <;> simp at h

/-- The handler is told of a connection by an event, and not after a shutdown. -/
theorem connected_of_handleEvent {s : ServiceProtocolStream} {flags later : Flags}
    {event : ServiceProtocolEvent} {id : SessionId} {version : String}
    (h : .connected id version ∈ (s.handleEvent flags later event).2) :
    event = .connected id version ∧ flags.shutdown = false := by
  unfold handleEvent at h
  split at h
  · simp at h
  case isFalse hrun =>
    have hevent : event = .connected id version := by
      rcases List.mem_append.mp h with hswept | hdispatch
      · simp [sweep] at hswept
      · exact connected_of_dispatch hdispatch
    subst hevent
    simpa [isDisconnection] using hrun

end ServiceProtocolStream

end Tentacle
end CkbP2P
