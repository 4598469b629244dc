import CkbP2P.Lib.Entries
import CkbP2P.Connector.SharedState
import CkbP2P.Tentacle.ServiceSpec

/-!
# Looking a session up by the address that was dialed

`Connector::connect` dials an address and then waits until the shared state has a session
under that address.  The address of a session is what `session_open` stores: the dialed
address with the peer id of the remote key pushed, when it names no peer.  The lookup
compares addresses byte for byte.

The table is a hash map: what a lookup by address finds among several sessions depends on
its order.  `FoundUnder` therefore speaks of every order.
-/

namespace CkbP2P
namespace Connector

open Lib Tentacle PublicKey

/-! ### Waiting for a session -/

/-- Why `connect` fails. -/
inductive ConnectError where
  /-- The request to dial could not be sent. -/
  | dial
  | timeout (address : Multiaddr)
  deriving DecidableEq

namespace SharedState

/-- The condition `connect` waits for: enough protocols are open on the session under the
address. -/
def isConnected (s : SharedState) (expectedOpened : ℕ) (nodeAddr : Multiaddr) : Bool :=
  match s.getOpenedProtocolIds (.multiaddr nodeAddr) with
  | some openedProtocolIds => decide (expectedOpened ≤ openedProtocolIds.length)
  | none => false

end SharedState

/-- `connect`, where `dialed` says that the request was sent and `states` are the states
found in each round of the loop. -/
def connect (nodeAddr : Multiaddr) (dialed : Bool) (expectedOpened : ℕ)
    (states : List SharedState) : Except ConnectError Unit :=
  if !dialed then .error .dial
  else if states.any fun s => s.isConnected expectedOpened nodeAddr then .ok ()
  else .error (.timeout nodeAddr)

/-! ### Lookups in every order -/

namespace SharedState

variable {s : SharedState} {address : Multiaddr} {session : SessionContext}

/-- The lookup by `address` finds `session`, whatever the order of the table. -/
def FoundUnder (s : SharedState) (address : Multiaddr) (session : SessionContext) : Prop :=
  ∀ s' : SharedState, s'.sessionManager.entries.Perm s.sessionManager.entries →
    s'.getSession (.multiaddr address) = some session

theorem getSession_multiaddr (s : SharedState) (address : Multiaddr) :
    s.getSession (.multiaddr address) = s.getSessions.find? fun c => c.address = address := by
  simp only [getSession, getNetworkInfo, getSessions]
  induction s.sessionManager.entries with
  | nil => rfl
  | cons e entries ih =>
    simp only [List.map_cons, List.find?_cons]
    cases decide (e.2.1.address = address)
    · exact ih
    · rfl

/-- **What is found under an address whatever the order** is the only session there. -/
theorem foundUnder_iff : s.FoundUnder address session ↔
    session ∈ s.getSessions ∧ session.address = address ∧
      ∀ c ∈ s.getSessions, c.address = address → c = session := by
  constructor
  · intro h
    have hfound := h s (List.Perm.refl _)
    have hmem := getSession_mem hfound
    rw [getSession_multiaddr] at hfound
    refine ⟨hmem, by simpa using List.find?_some hfound, ?_⟩
    intro c hc haddress
    obtain ⟨e, he, rfl⟩ := List.mem_map.mp hc
    -- a table in which this session comes first
    obtain ⟨l₁, l₂, hl⟩ := List.append_of_mem he
    have hperm : (e :: (l₁ ++ l₂)).Perm s.sessionManager.entries := hl ▸ List.perm_middle.symm
    let first : SharedState :=
      { s with sessionManager := ⟨e :: (l₁ ++ l₂),
          (List.perm_nodupKeys hperm).mpr s.sessionManager.nodupKeys⟩ }
    have hfirst := h first hperm
    rw [getSession_multiaddr] at hfirst
    simpa [getSessions, first, haddress] using hfirst
  · rintro ⟨hmem, haddress, honly⟩ s' hperm
    have hsame : s'.getSessions.Perm s.getSessions := hperm.map _
    rw [getSession_multiaddr]
    cases hfind : s'.getSessions.find? fun c => c.address = address with
    | none =>
      have hno := List.find?_eq_none.mp hfind session (hsame.mem_iff.mpr hmem)
      simp [haddress] at hno
    | some c =>
      have hc := hsame.mem_iff.mp (List.mem_of_find?_eq_some hfind)
      rw [honly c hc (by simpa using List.find?_some hfind)]

/-- The sessions after one more has been added. -/
theorem mem_getSessions_addSession (sha256 : Sha256) {c : SessionContext} :
    c ∈ (s.addSession sha256 session).getSessions ↔
      c ∈ s.getSessions ∨ c = session ∧ session.id ∉ s.sessionManager := by
  simp only [mem_getSessions, addSession]
  split_ifs with hmem
  · simp [hmem]
  · constructor
    · rintro ⟨id, info, hlookup, rfl⟩
      rcases lookup_insert_eq_some_iff.mp hlookup with ⟨-, rfl⟩ | ⟨-, hlookup⟩
      · exact .inr ⟨rfl, hmem⟩
      · exact .inl ⟨id, info, hlookup, rfl⟩
    · rintro (⟨id, info, hlookup, rfl⟩ | ⟨rfl, -⟩)
      · have hid : id ≠ session.id := by
          rintro rfl
          exact hmem (mem_of_lookup_eq_some hlookup)
        exact ⟨id, info, by rw [AList.lookup_insert_ne hid, hlookup], rfl⟩
      · exact ⟨c.id, (c, ∅), AList.lookup_insert _, rfl⟩

end SharedState

/-! ### Dialed sessions -/

section Dialed

variable {sha256 : Sha256} {service : InnerService} {key : PublicKey} {address : Multiaddr}
  {session : SessionContext}

/-- A connection that exists already is not reported as open. -/
theorem handled_repeatedConnection_ne (id : SessionId) (s : InnerService) (ty : SessionType)
    (listenAddr : Option Multiaddr) :
    (s.repeatedConnection id address ty listenAddr).handled
      ≠ s.handled ++ [.event (.sessionOpen session)] := by
  unfold InnerService.repeatedConnection
  split_ifs
  · simp [InnerService.send]
  · cases listenAddr <;> simp [InnerService.send]

/-- The address of a session that is reported as open. -/
theorem address_of_sessionOpen {ty : SessionType} {listenAddr : Option Multiaddr}
    (hopen : (service.sessionOpen sha256 (some key) address ty listenAddr).handled
      = service.handled ++ [.event (.sessionOpen session)]) :
    session.address = if (extractPeerId address).isSome then address
      else address.push (key.p2p sha256) (key.valid_p2p sha256) := by
  unfold InnerService.sessionOpen at hopen
  dsimp only at hopen
  split at hopen
  · exact absurd hopen (handled_repeatedConnection_ne _ _ _ _)
  · split at hopen
    · next peerId hpeer =>
      split_ifs at hopen with hid
      · simp [InnerService.send, InnerService.undial] at hopen
      · simp only [InnerService.insertSession, InnerService.generateNextSession,
          InnerService.send, InnerService.undial, List.append_cancel_left_eq, List.cons.injEq,
          ServiceEventAndError.event.injEq, ServiceEvent.sessionOpen.injEq, and_true] at hopen
        rw [← hopen, hpeer]
        rfl
    · next hpeer =>
      simp only [InnerService.insertSession, InnerService.generateNextSession,
        InnerService.send, InnerService.undial, List.append_cancel_left_eq, List.cons.injEq,
        ServiceEventAndError.event.injEq, ServiceEvent.sessionOpen.injEq, and_true] at hopen
      rw [← hopen, hpeer]
      rfl

/-- Pushing the peer id makes another address. -/
theorem push_ne (address : Multiaddr) (key : PublicKey) :
    address.push (key.p2p sha256) (key.valid_p2p sha256) ≠ address := by
  intro h
  have hlen := congrArg (fun a => a.iter.length) h
  simp at hlen

/-- **Lookup by the dialed address.**  A dial of `address` has opened `session`, and the
shared state has taken note of it.  The session is then what is found under `address`, in
whatever order the table is, exactly when the address names a peer, no other session is
stored under it, and the id of the session does not stand for another one. -/
theorem foundUnder_addSession_iff (service : InnerService) (key : PublicKey)
    (state : SharedState)
    (hopen : (service.sessionOpen sha256 (some key) address .outbound none).handled
      = service.handled ++ [.event (.sessionOpen session)]) :
    (state.addSession sha256 session).FoundUnder address session ↔
      (extractPeerId address).isSome = true ∧
      (∀ c ∈ state.getSessions, c.address = address → c = session) ∧
      (session.id ∈ state.sessionManager → session ∈ state.getSessions) := by
  have hstored := address_of_sessionOpen hopen
  simp only [SharedState.foundUnder_iff, SharedState.mem_getSessions_addSession]
  constructor
  · rintro ⟨hmem, haddress, honly⟩
    refine ⟨?_, fun c hc => honly c (.inl hc), fun hid => ?_⟩
    · by_contra hpeer
      rw [if_neg hpeer, haddress] at hstored
      exact push_ne address key hstored.symm
    · exact hmem.resolve_right fun hnew => hnew.2 hid
  · rintro ⟨hpeer, honly, hid⟩
    rw [if_pos hpeer] at hstored
    refine ⟨?_, hstored, ?_⟩
    · by_cases hmem : session.id ∈ state.sessionManager
      · exact .inl (hid hmem)
      · exact .inr ⟨trivial, hmem⟩
    · rintro c (hc | ⟨rfl, -⟩) haddress
      · exact honly c hc haddress
      · rfl

end Dialed

/-- The address `/ip4/127.0.0.1/tcp/1337` with the peer id of the generator. -/
def loopbackGenerator : Multiaddr :=
  loopback.push (generator.p2p generatorSha256) (generator.valid_p2p generatorSha256)

/-- A service that has dialed an address. -/
def dialing (address : Multiaddr) : InnerService :=
  { InnerService.new [] ⟨false, false, false⟩ 65535 true with
    dialProtocols := (∅ : AList fun _ : Multiaddr => TargetProtocol).insert address .all }

/-- A dial of an address with the peer id. -/
theorem foundUnder_loopbackGenerator :
    (SharedState.new.addSession generatorSha256
      ⟨1, loopbackGenerator, .outbound, some generator⟩).FoundUnder loopbackGenerator
        ⟨1, loopbackGenerator, .outbound, some generator⟩ :=
  (foundUnder_addSession_iff (dialing loopbackGenerator) generator .new
    (by decide +kernel)).mpr ⟨by decide +kernel, by decide +kernel, by decide +kernel⟩

/-- **A dial of `/ip4/127.0.0.1/tcp/1337`** opens a session that is not found under this
address, and `connect` does not see it. -/
theorem foundUnder_loopback :
    let session : SessionContext := ⟨1, loopbackGenerator, .outbound, some generator⟩
    let state := SharedState.new.addSession generatorSha256 session
    ((dialing loopback).sessionOpen generatorSha256 (some generator) loopback .outbound
        none).handled = (dialing loopback).handled ++ [.event (.sessionOpen session)] ∧
      state.getSession (.sessionId 1) = some session ∧
      state.getSession (.multiaddr loopback) = none ∧
      connect loopback true 0 [state] = .error (.timeout loopback) := by
  decide +kernel

end Connector
end CkbP2P
