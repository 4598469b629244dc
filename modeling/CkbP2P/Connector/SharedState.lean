import CkbP2P.Lib.Grouping
import CkbP2P.Tentacle.Types

/-!
# The state shared by the handlers

The handlers of a node keep the sessions they know in a table, each with a mailbox for each
of its protocols, and a second table that lists the sessions of a peer.
-/

namespace CkbP2P
namespace Connector

open Lib Tentacle

/-- The queue of an unbounded channel, of which the table has both ends. -/
abbrev Mailbox := List Bytes

/-- A session and the mailboxes of its protocols. -/
abbrev NetworkInfo := SessionContext × AList fun _ : ProtocolId => Mailbox

inductive IdentifySessionBy where
  | sessionId (id : SessionId)
  | multiaddr (addr : Multiaddr)
  | peerId (peer : PeerId)

structure SharedState where
  sessionManager : AList fun _ : SessionId => NetworkInfo
  peersToSessions : AList fun _ : PeerId => List SessionId

/-- The peer at the other end. -/
def peerOf (sha256 : Sha256) (session : SessionContext) : Option PeerId :=
  session.remotePubkey.map (PublicKey.peerId sha256)

namespace SharedState

def new : SharedState := { sessionManager := ∅, peersToSessions := ∅ }

/-! ### Changes -/

/-- `add_session`. -/
def addSession (sha256 : Sha256) (s : SharedState) (session : SessionContext) : SharedState where
  sessionManager :=
    if session.id ∈ s.sessionManager then s.sessionManager
    else s.sessionManager.insert session.id (session, ∅)
  peersToSessions :=
    match session.remotePubkey with
    | some key => addTo s.peersToSessions (key.peerId sha256) session.id
    | none => s.peersToSessions

/-- `remove_session`. -/
def removeSession (sha256 : Sha256) (s : SharedState) (id : SessionId) :
    Option SessionContext × SharedState :=
  match s.sessionManager.lookup id with
  | none => (none, s)
  | some (session, _) =>
    (some session,
      { sessionManager := s.sessionManager.erase id
        peersToSessions :=
          match session.remotePubkey with
          | some key => removeFrom s.peersToSessions (key.peerId sha256) session.id
          | none => s.peersToSessions })

/-- `add_protocol`. -/
def addProtocol (s : SharedState) (session : SessionContext) (protocolId : ProtocolId) :
    SharedState :=
  let info := (s.sessionManager.lookup session.id).getD (session, ∅)
  { s with sessionManager :=
      s.sessionManager.insert session.id (info.1, info.2.insert protocolId []) }

/-- `remove_protocol`. -/
def removeProtocol (s : SharedState) (id : SessionId) (protocolId : ProtocolId) : SharedState :=
  match s.sessionManager.lookup id with
  | none => s
  | some info => { s with sessionManager :=
      s.sessionManager.insert id (info.1, info.2.erase protocolId) }

/-! ### Lookups -/

/-- `get_peer_sessions`. -/
def getPeerSessions (s : SharedState) (peer : PeerId) : List SessionContext :=
  (group s.peersToSessions peer).filterMap fun id => (s.sessionManager.lookup id).map Prod.fst

/-- `get_network_info`.  Of several sessions with an address, it is up to the order of the
table which one is found. -/
def getNetworkInfo (s : SharedState) : IdentifySessionBy → Option NetworkInfo
  | .multiaddr addr =>
    (s.sessionManager.entries.map Sigma.snd).find? fun info => info.1.address = addr
  | .sessionId id => s.sessionManager.lookup id
  | .peerId peer =>
    (s.getPeerSessions peer).head?.bind fun session => s.sessionManager.lookup session.id

/-- `get_session`. -/
def getSession (s : SharedState) (id : IdentifySessionBy) : Option SessionContext :=
  (s.getNetworkInfo id).map Prod.fst

/-- `get_opened_protocol_ids`. -/
def getOpenedProtocolIds (s : SharedState) (id : IdentifySessionBy) : Option (List ProtocolId) :=
  (s.getNetworkInfo id).map fun info => info.2.keys

/-- `get_sessions`. -/
def getSessions (s : SharedState) : List SessionContext :=
  s.sessionManager.entries.map fun e => e.2.1

/-- `get_session_ids`. -/
def getSessionIds (s : SharedState) : List SessionId :=
  s.sessionManager.entries.map fun e => e.2.1.id

theorem mem_getSessions {s : SharedState} {session : SessionContext} :
    session ∈ s.getSessions ↔ ∃ id info, s.sessionManager.lookup id = some info ∧
      info.1 = session := by
  simp only [getSessions, List.mem_map, Sigma.exists]
  constructor
  · rintro ⟨id, info, hmem, rfl⟩
    exact ⟨id, info, AList.mem_lookup_iff.mpr hmem, rfl⟩
  · rintro ⟨id, info, hlookup, rfl⟩
    exact ⟨id, info, AList.mem_lookup_iff.mp hlookup, rfl⟩

theorem mem_getSessionIds {s : SharedState} {id : SessionId} :
    id ∈ s.getSessionIds ↔ ∃ session ∈ s.getSessions, session.id = id := by
  simp only [getSessionIds, getSessions, List.mem_map]
  constructor
  · rintro ⟨e, he, rfl⟩
    exact ⟨e.2.1, ⟨e, he, rfl⟩, rfl⟩
  · rintro ⟨session, ⟨e, he, rfl⟩, rfl⟩
    exact ⟨e, he, rfl⟩

/-- A session that is found in one way or another is in the table. -/
theorem getSession_mem {s : SharedState} {id : IdentifySessionBy} {session : SessionContext}
    (h : s.getSession id = some session) : session ∈ s.getSessions := by
  rw [mem_getSessions]
  obtain ⟨info, hinfo, rfl⟩ := Option.map_eq_some_iff.mp h
  cases id with
  | sessionId id => exact ⟨id, info, hinfo, rfl⟩
  | multiaddr addr =>
    obtain ⟨⟨id, info'⟩, hmem, rfl⟩ := List.mem_map.mp (List.mem_of_find?_eq_some hinfo)
    exact ⟨id, info', AList.mem_lookup_iff.mpr hmem, rfl⟩
  | peerId peer =>
    obtain ⟨session, -, hlookup⟩ := Option.bind_eq_some_iff.mp hinfo
    exact ⟨session.id, info, hlookup, rfl⟩

end SharedState

end Connector
end CkbP2P
