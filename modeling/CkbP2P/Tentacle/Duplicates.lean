import CkbP2P.Lib.Entries
import CkbP2P.Lib.Run
import CkbP2P.Tentacle.ServiceSpec

/-!
# Duplicated connections

`session_open` closes a connection when a session with the same key and address exists.
It looks for the address of the connection, and stores the session under that address with
the peer id of the key pushed when the address names no peer.  A second connection under
the short address is therefore not recognised.
-/

namespace CkbP2P
namespace Tentacle
namespace InnerService

open Lib PublicKey

/-- No two sessions have the same key and the same address. -/
def NoDuplicates (s : InnerService) : Prop :=
  ∀ id₁ id₂ context₁ context₂ key,
    s.sessions.lookup id₁ = some context₁ → s.sessions.lookup id₂ = some context₂ →
    context₁.remotePubkey = some key → context₂.remotePubkey = some key →
    context₁.address = context₂.address → id₁ = id₂

/-- A connection below the limit whose address names no peer, and which the check lets
pass, is not stored under the address with the peer id pushed. -/
def Recognised (sha256 : Sha256) (s : InnerService) : Input → Prop
  | .event (.handshakeSuccess (some key) address ty listenAddress) =>
    s.shutdown = false → s.full (.handshakeSuccess (some key) address ty listenAddress) = false →
    s.findSession key address = none → extractPeerId address = none →
    s.findSession key (address.push (key.p2p sha256) (key.valid_p2p sha256)) = none
  | _ => True

instance (sha256 : Sha256) (s : InnerService) : DecidablePred (s.Recognised sha256) :=
  fun input => by
  unfold Recognised
  split <;> infer_instance

variable {sha256 : Sha256} {s t : InnerService}

theorem findSession_eq_none_iff {key : PublicKey} {address : Multiaddr} :
    s.findSession key address = none ↔
      ∀ id context, s.sessions.lookup id = some context → context.remotePubkey = some key →
        context.address ≠ address := by
  simp only [findSession, List.find?_eq_none, List.mem_map, Bool.and_eq_true, decide_eq_true_eq]
  constructor
  · rintro h id context hid hkey haddress
    exact h context ⟨⟨id, context⟩, AList.mem_lookup_iff.mp hid, rfl⟩ ⟨hkey, haddress⟩
  · rintro h _ ⟨⟨id, context⟩, hmem, rfl⟩ ⟨hkey, haddress⟩
    exact h id context (AList.mem_lookup_iff.mpr hmem) hkey haddress

/-! ### One step -/

theorem NoDuplicates.of_noNewSession (h : NoDuplicates s) (hst : NoNewSession s t) :
    NoDuplicates t :=
  fun id₁ id₂ context₁ context₂ key h₁ h₂ =>
    h id₁ id₂ context₁ context₂ key (hst id₁ context₁ h₁) (hst id₂ context₂ h₂)

/-- A session whose key and address are not in use may be added. -/
theorem NoDuplicates.insert (h : NoDuplicates s) {id : SessionId} {context : SessionContext}
    (hnew : ∀ key, context.remotePubkey = some key → s.findSession key context.address = none)
    (ht : t.sessions = s.sessions.insert id context) : NoDuplicates t := by
  -- Either session may be the new one; an old one differs from it by `hnew`.
  have hold : ∀ id' context', t.sessions.lookup id' = some context' →
      (id' = id ∧ context' = context) ∨ s.sessions.lookup id' = some context' := by
    intro id' context' hid
    rw [ht] at hid
    exact (lookup_insert_eq_some_iff.mp hid).imp_right And.right
  intro id₁ id₂ context₁ context₂ key h₁ h₂ hkey₁ hkey₂ haddress
  rcases hold id₁ context₁ h₁ with ⟨rfl, rfl⟩ | h₁'
  · rcases hold id₂ context₂ h₂ with ⟨rfl, -⟩ | h₂'
    · rfl
    · exact absurd haddress.symm
        (findSession_eq_none_iff.mp (hnew key hkey₁) id₂ context₂ h₂' hkey₂)
  · rcases hold id₂ context₂ h₂ with ⟨rfl, rfl⟩ | h₂'
    · exact absurd haddress (findSession_eq_none_iff.mp (hnew key hkey₂) id₁ context₁ h₁' hkey₁)
    · exact h id₁ id₂ context₁ context₂ key h₁' h₂' hkey₁ hkey₂ haddress

/-- A recognised connection is stored under an address that is not in use with its key. -/
theorem findSession_admitted {publicKey : Option PublicKey} {address stored : Multiaddr}
    {ty : SessionType} {listenAddress : Option Multiaddr} (hrun : s.shutdown = false)
    (hfull : s.full (.handshakeSuccess publicKey address ty listenAddress) = false)
    (hok : s.Recognised sha256 (.event (.handshakeSuccess publicKey address ty listenAddress)))
    (hstored : s.admitted sha256 publicKey address = some stored) (key : PublicKey)
    (hkey : publicKey = some key) : s.findSession key stored = none := by
  subst hkey
  simp only [admitted] at hstored
  cases hfind : s.findSession key address with
  | some context => simp [hfind] at hstored
  | none =>
    simp only [hfind] at hstored
    cases hpeer : extractPeerId address with
    | some peerId =>
      simp only [hpeer, Option.ite_none_right_eq_some, Option.some_inj] at hstored
      rw [← hstored.2, hfind]
    | none =>
      simp only [hpeer, Option.some_inj] at hstored
      rw [← hstored]
      exact hok hrun hfull hfind hpeer

/-- **A step with a recognised connection adds no duplicate.** -/
theorem noDuplicates_step (input : Input) (h : NoDuplicates s)
    (hok : s.Recognised sha256 input) : NoDuplicates (s.step sha256 input) := by
  rcases s.step_sessions sha256 input with hold |
    ⟨publicKey, address, ty, listenAddress, stored, rfl, hrun, hfull, hstored, hsessions⟩
  · exact h.of_noNewSession hold
  · refine h.insert ?_ hsessions
    intro key hkey
    exact findSession_admitted hrun hfull hok hstored key hkey

/-- **The condition is necessary**: a step with a connection that is not recognised adds a
duplicate, as long as there is a free session id. -/
theorem recognised_of_noDuplicates (input : Input) (hroom : s.sessions.keys.length < 2 ^ 64)
    (h : NoDuplicates (s.step sha256 input)) : s.Recognised sha256 input := by
  unfold Recognised
  split
  case h_2 => trivial
  case h_1 key address ty listenAddress =>
    intro hrun hfull hfind hpeer
    rw [findSession_eq_none_iff]
    intro id context hid hkey haddress
    have hstored : s.admitted sha256 (some key) address
        = some (address.push (key.p2p sha256) (key.valid_p2p sha256)) := by
      simp only [admitted, hfind, hpeer]
    have hsessions := s.sessions_handshakeSuccess sha256 hfull
    rw [hstored] at hsessions
    simp only [step, hrun, Bool.false_eq_true, if_false] at h
    -- The old session and the new one are the duplicate.
    have hfresh := s.nextId_not_mem hroom
    have hne : id ≠ s.nextId := by
      rintro rfl
      exact hfresh (mem_of_lookup_eq_some hid)
    refine hne (h id s.nextId context
      ⟨s.nextId, address.push (key.p2p sha256) (key.valid_p2p sha256), ty, some key⟩ key ?_ ?_ hkey
      rfl haddress)
    · rw [sessions_head, hsessions, AList.lookup_insert_ne hne, hid]
    · rw [sessions_head, hsessions, AList.lookup_insert]

/-! ### Runs -/

variable (protocolConfigs : List ProtocolMeta) (multiTransport : MultiTransport)
  (maxConnectionNumber : ℕ) (forever : Bool) (preparations : List Preparation)

/-- **No duplicates**: a run all of whose connections are recognised goes through states
without duplicates only, and no other run does, as long as there are free session ids. -/
theorem noDuplicates_run (sha256 : Sha256) (inputs : List Input) :
    let s := (new protocolConfigs multiTransport maxConnectionNumber forever).start preparations
    (Guarded (step sha256) (Recognised sha256) s inputs →
      Throughout (step sha256) NoDuplicates s inputs) ∧
    (Guarded (step sha256) (fun s _ => s.sessions.keys.length < 2 ^ 64) s inputs →
      (Throughout (step sha256) NoDuplicates s inputs ↔
        Guarded (step sha256) (Recognised sha256) s inputs)) := by
  intro s
  have hrun : Guarded (step sha256) (Recognised sha256) s inputs →
      Throughout (step sha256) NoDuplicates s inputs := by
    refine throughout_of_guarded (fun s input => noDuplicates_step input) ?_
    intro id₁ id₂ context₁ context₂ key h₁
    rw [sessions_start, AList.lookup_empty] at h₁
    exact absurd h₁ (by simp)
  exact ⟨hrun, fun hroom => ⟨guarded_of_throughout
    (fun s input hroom => recognised_of_noDuplicates input hroom) hroom, hrun⟩⟩

/-! ### Two dials -/

/-- A dial of an address without a peer id, and its success. -/
def dialLoopback : List Input :=
  [.task (.dial loopback .all), .event (.handshakeSuccess (some generator) loopback .outbound none)]

/-- A second dial after the first session has closed. -/
theorem noDuplicates_run_reconnect :
    let start := (new [] ⟨false, false, false⟩ 65535 true).start []
    let inputs := dialLoopback ++ .event (.sessionClose 1) :: dialLoopback
    Guarded (step generatorSha256) (Recognised generatorSha256) start inputs ∧
      Throughout (step generatorSha256) NoDuplicates start inputs ∧
      (runFrom (step generatorSha256) start inputs).sessions.keys = [2] :=
  ⟨by decide +kernel, (noDuplicates_run _ _ _ _ _ _ _).1 (by decide +kernel), by decide +kernel⟩

/-- **A second dial of the same address is not recognised**: the first session is stored
under the address with the peer id pushed, the check looks for the address without, and the
second session is stored beside the first. -/
theorem noDuplicates_redial :
    ¬ NoDuplicates (runFrom (step generatorSha256)
      ((new [] ⟨false, false, false⟩ 65535 true).start []) (dialLoopback ++ dialLoopback)) := by
  let stored := loopback.push (generator.p2p generatorSha256) (generator.valid_p2p generatorSha256)
  intro h
  have heq : (1 : SessionId) = 2 :=
    h 1 2 ⟨1, stored, .outbound, some generator⟩ ⟨2, stored, .outbound, some generator⟩ generator
      (by decide +kernel) (by decide +kernel) rfl rfl rfl
  exact absurd heq (by decide)

end InnerService
end Tentacle
end CkbP2P
