import CkbP2P.Lib.Entries
import CkbP2P.Lib.Run
import CkbP2P.Tentacle.ServiceSpec

/-!
# The sessions of a service

Two invariants of the table of sessions.  A session with an authenticated key is stored
under an address that names the peer with that key.  And there are at most as many sessions
as the limit allows, if each of them finds a free place: the limit is compared with the
number of sessions before the new one is added, and equality is let pass.
-/

namespace CkbP2P
namespace Tentacle
namespace InnerService

open Lib

variable {sha256 : Sha256} {s t : InnerService}

/-! ### Keys and addresses -/

/-- Every session with an authenticated key is stored under an address that names the peer
with that key: this is what `extract_peer_id` finds, and it is the first `/p2p` component
of the address. -/
def IdentityBound (sha256 : Sha256) (s : InnerService) : Prop :=
  ∀ id context key, s.sessions.lookup id = some context → context.remotePubkey = some key →
    extractPeerId context.address = some (key.peerId sha256) ∧
      firstP2p context.address = some (key.peerId sha256).inner

/-- Which peer an address names can be read off its first `/p2p` component. -/
theorem firstP2p_of_extractPeerId {address : Multiaddr} {peerId : PeerId}
    (h : extractPeerId address = some peerId) : firstP2p address = some peerId.inner := by
  rw [extractPeerId_eq, Option.map_eq_some_iff] at h
  obtain ⟨b, hb, rfl⟩ := h
  exact hb

/-- **The address `session_open` stores names the peer**, whichever peer the dialed or
accepted address names, if any. -/
theorem extractPeerId_admitted {key : PublicKey} {address stored : Multiaddr}
    (hstored : s.admitted sha256 (some key) address = some stored) :
    extractPeerId stored = some (key.peerId sha256) := by
  simp only [admitted] at hstored
  cases hfind : s.findSession key address with
  | some context => simp [hfind] at hstored
  | none =>
    simp only [hfind] at hstored
    cases hpeer : extractPeerId address with
    | none =>
      -- the peer id is pushed behind components that name nobody
      simp only [hpeer, Option.some_inj] at hstored
      rw [← hstored]
      exact extractPeerId_push sha256 key hpeer
    | some peerId =>
      -- the address is stored as it is, because the first peer id matches
      simp only [hpeer, Option.ite_none_right_eq_some, Option.some_inj] at hstored
      obtain ⟨hid, rfl⟩ := hstored
      rw [hpeer, hid]

theorem identityBound_step (input : Input) (h : s.IdentityBound sha256) :
    (s.step sha256 input).IdentityBound sha256 := by
  intro id context key hid hkey
  rcases s.step_sessions sha256 input with hold |
    ⟨publicKey, address, ty, listenAddress, stored, rfl, -, -, hstored, hsessions⟩
  · exact h id context key (hold id context hid) hkey
  · rw [hsessions] at hid
    rcases lookup_insert_eq_some_iff.mp hid with ⟨-, rfl⟩ | ⟨-, hold⟩
    · dsimp only at hkey
      subst hkey
      have hpeer := extractPeerId_admitted hstored
      exact ⟨hpeer, firstP2p_of_extractPeerId hpeer⟩
    · exact h id context key hold hkey

variable (protocolConfigs : List ProtocolMeta) (multiTransport : MultiTransport)
  (forever : Bool) (preparations : List Preparation)

/-- **Identity binding**: throughout every run of a service, every session with an
authenticated key is stored under an address of the peer with that key. -/
theorem identityBound_run (sha256 : Sha256) (maxConnectionNumber : ℕ) (inputs : List Input) :
    Throughout (step sha256) (IdentityBound sha256)
      ((new protocolConfigs multiTransport maxConnectionNumber forever).start preparations)
      inputs := by
  have hstart : ((new protocolConfigs multiTransport maxConnectionNumber forever).start
      preparations).IdentityBound sha256 := by
    intro id context key hid
    rw [sessions_start, AList.lookup_empty] at hid
    cases hid
  exact throughout_of_inv (fun s input => identityBound_step input) hstart inputs

/-! ### The limit -/

/-- There are at most `m` sessions. -/
def WithinLimit (m : ℕ) (s : InnerService) : Prop := s.sessions.keys.length ≤ m

/-- A connection that is stored as a session finds a free place: when its handshake is
handled, there are fewer than `m` sessions. -/
def FindsRoom (sha256 : Sha256) (m : ℕ) (s : InnerService) : Input → Prop
  | .event (.handshakeSuccess publicKey address ty listenAddress) =>
    s.shutdown = false → s.full (.handshakeSuccess publicKey address ty listenAddress) = false →
    (s.admitted sha256 publicKey address).isSome = true → s.sessions.keys.length < m
  | _ => True

theorem NoNewSession.length_le (h : NoNewSession s t) :
    t.sessions.keys.length ≤ s.sessions.keys.length := by
  refine (List.subperm_of_subset (AList.keys_nodup t.sessions) ?_).length_le
  intro id hid
  obtain ⟨context, hcontext⟩ := Option.isSome_iff_exists.mp
    (AList.lookup_isSome.mpr (AList.mem_keys.mp hid))
  rw [← AList.mem_keys, ← AList.lookup_isSome, h id context hcontext]
  rfl

theorem length_insert {sessions : AList fun _ : SessionId => SessionContext} {id : SessionId}
    (hid : id ∉ sessions) (context : SessionContext) :
    (sessions.insert id context).keys.length = sessions.keys.length + 1 := by
  rw [AList.keys_insert, List.length_cons,
    List.erase_of_not_mem (fun h => hid (AList.mem_keys.mp h))]

/-- **One step**: the limit is kept exactly when a connection that is stored finds a free
place. -/
theorem withinLimit_step_iff {m : ℕ} (hm : m < 2 ^ 64) (input : Input) (h : s.WithinLimit m) :
    (s.step sha256 input).WithinLimit m ↔ s.FindsRoom sha256 m input := by
  have hfresh := s.nextId_not_mem (lt_of_le_of_lt h hm)
  -- a handshake that is stored takes one place
  have hstores : ∀ publicKey address ty listenAddress stored, s.shutdown = false →
      s.full (.handshakeSuccess publicKey address ty listenAddress) = false →
      s.admitted sha256 publicKey address = some stored →
      (s.step sha256 (.event (.handshakeSuccess publicKey address ty
        listenAddress))).sessions.keys.length = s.sessions.keys.length + 1 := by
    intro publicKey address ty listenAddress stored hrun hfull hstored
    have hsessions := s.sessions_handshakeSuccess sha256 hfull
    rw [hstored] at hsessions
    simp only [step, hrun, Bool.false_eq_true, if_false]
    rw [sessions_head, hsessions, length_insert hfresh]
  constructor
  · intro hstep
    unfold FindsRoom
    split
    case h_2 => trivial
    case h_1 publicKey address ty listenAddress =>
      intro hrun hfull hadmitted
      obtain ⟨stored, hstored⟩ := Option.isSome_iff_exists.mp hadmitted
      have hlen := hstores publicKey address ty listenAddress stored hrun hfull hstored
      unfold WithinLimit at hstep
      omega
  · intro hroom
    rcases s.step_sessions sha256 input with hold |
      ⟨publicKey, address, ty, listenAddress, stored, rfl, hrun, hfull, hstored, -⟩
    · exact le_trans hold.length_le h
    · have hlen := hstores publicKey address ty listenAddress stored hrun hfull hstored
      have hlt := hroom hrun hfull (by rw [hstored]; rfl)
      unfold WithinLimit
      omega

/-- **The limit is kept throughout a run exactly when every connection that is stored finds
a free place.** -/
theorem withinLimit_iff_findsRoom (sha256 : Sha256) (maxConnectionNumber : UInt64)
    (inputs : List Input) :
    Throughout (step sha256) (WithinLimit maxConnectionNumber.toNat)
        ((new protocolConfigs multiTransport maxConnectionNumber.toNat forever).start preparations)
        inputs ↔
      Guarded (step sha256) (FindsRoom sha256 maxConnectionNumber.toNat)
        ((new protocolConfigs multiTransport maxConnectionNumber.toNat forever).start preparations)
        inputs := by
  have hstart : ((new protocolConfigs multiTransport maxConnectionNumber.toNat forever).start
      preparations).WithinLimit maxConnectionNumber.toNat := by
    unfold WithinLimit
    rw [sessions_start]
    exact Nat.zero_le _
  exact throughout_iff_guarded (I := fun _ => True) (fun _ _ _ => trivial)
    (fun s input _ h => withinLimit_step_iff maxConnectionNumber.toNat_lt input h) trivial hstart
    inputs

/-- Two connections come in, one after the other. -/
def twoInbound : List Input :=
  [.event (.handshakeSuccess none loopback .inbound (some loopbackWss)),
    .event (.handshakeSuccess none loopback .inbound (some loopbackWss))]

/-- **With a limit of one, a second connection is accepted**: one session is not more than
the limit, and then there are two. -/
theorem withinLimit_second :
    ¬ (runFrom (step generatorSha256) ((new [] ⟨false, false, false⟩ 1 true).start [])
      twoInbound).WithinLimit 1 := by
  have hkeys : (runFrom (step generatorSha256) ((new [] ⟨false, false, false⟩ 1 true).start [])
      twoInbound).sessions.keys.length = 2 := by decide +kernel
  unfold WithinLimit
  omega

end InnerService
end Tentacle
end CkbP2P
