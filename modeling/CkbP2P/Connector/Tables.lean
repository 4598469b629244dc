import CkbP2P.Lib.Entries
import CkbP2P.Lib.Run
import CkbP2P.Connector.SharedState

/-!
# The two tables of the shared state

The second table should list, for each peer, the sessions of the first that lead to it.  Only
`addSession` and `removeSession` keep it up: `addSession` lists a session again that is
there already, and `addProtocol` makes sessions that are not listed.

Every session id is used with one context: the contexts are a function of the ids.
-/

namespace CkbP2P
namespace Connector

open Lib Tentacle

/-- The changes, by session ids. -/
inductive Op where
  | addSession (id : SessionId)
  | removeSession (id : SessionId)
  | addProtocol (id : SessionId) (protocolId : ProtocolId)
  | removeProtocol (id : SessionId) (protocolId : ProtocolId)
  deriving DecidableEq

/-- The one context an id is used with. -/
def contextOf (contexts : SessionId → SessionContext) (id : SessionId) : SessionContext :=
  { contexts id with id }

namespace SharedState

variable (sha256 : Sha256) (contexts : SessionId → SessionContext)

def step (s : SharedState) : Op → SharedState
  | .addSession id => s.addSession sha256 (contextOf contexts id)
  | .removeSession id => (s.removeSession sha256 id).2
  | .addProtocol id protocolId => s.addProtocol (contextOf contexts id) protocolId
  | .removeProtocol id protocolId => s.removeProtocol id protocolId

/-- The peer of a session in the first table. -/
def peerAt (s : SharedState) (id : SessionId) : Option PeerId :=
  (s.sessionManager.lookup id).bind fun info => peerOf sha256 info.1

/-- The two tables agree. -/
structure Agrees (s : SharedState) : Prop where
  /-- The list of a peer has the sessions that lead to it, each once, and is not empty. -/
  groups : Groups s.peersToSessions (s.peerAt sha256)
  /-- What is found by its id is found by its peer, and the other way round. -/
  found : ∀ peer session, s.getSession (.sessionId session.id) = some session ∧
    peerOf sha256 session = some peer ↔ session ∈ s.getPeerSessions peer

/-- The change keeps the second table up: a session is added when it is not there, a protocol
when its session is; unless the session has no key. -/
def Indexed (s : SharedState) : Op → Prop
  | .addSession id => (contexts id).remotePubkey = none ∨ id ∉ s.sessionManager
  | .addProtocol id _ => (contexts id).remotePubkey = none ∨ id ∈ s.sessionManager
  | _ => True

instance (s : SharedState) (op : Op) : Decidable (Indexed contexts s op) :=
  match op with
  | .addSession _ | .addProtocol _ _ => inferInstanceAs (Decidable (_ ∨ _))
  | .removeSession _ | .removeProtocol _ _ => inferInstanceAs (Decidable True)

/-- Every session is in the table with its context. -/
def Consistent (s : SharedState) : Prop :=
  ∀ id info, s.sessionManager.lookup id = some info → info.1 = contextOf contexts id

variable {sha256 contexts} {s : SharedState}

/-! ### The first table -/

theorem lookup_insert_eq {m : AList fun _ : SessionId => NetworkInfo} {id : SessionId}
    {info : NetworkInfo} (id' : SessionId) :
    (m.insert id info).lookup id' = if id' = id then some info else m.lookup id' := by
  split
  case isTrue h => rw [h, AList.lookup_insert]
  case isFalse h => exact AList.lookup_insert_ne h

theorem consistent_insert (h : s.Consistent contexts) {id : SessionId}
    {mailboxes : AList fun _ : ProtocolId => Mailbox}
    {peers : AList fun _ : PeerId => List SessionId} :
    Consistent contexts
      ⟨s.sessionManager.insert id (contextOf contexts id, mailboxes), peers⟩ := by
  intro id' info hinfo
  rw [lookup_insert_eq] at hinfo
  split at hinfo
  case isTrue heq => rw [← Option.some.inj hinfo, heq]
  case isFalse => exact h id' info hinfo

theorem consistent_addSession (h : s.Consistent contexts) (id : SessionId) :
    (s.addSession sha256 (contextOf contexts id)).Consistent contexts := by
  simp only [addSession]
  split
  · exact h
  · exact consistent_insert h

theorem consistent_removeSession (h : s.Consistent contexts) (id : SessionId) :
    (s.removeSession sha256 id).2.Consistent contexts := by
  simp only [removeSession]
  split
  · exact h
  · intro id' info hinfo
    exact h id' info (lookup_erase_eq_some_iff.mp hinfo).2

theorem consistent_addProtocol (h : s.Consistent contexts) (id : SessionId)
    (protocolId : ProtocolId) :
    (s.addProtocol (contextOf contexts id) protocolId).Consistent contexts := by
  have hinfo : ((s.sessionManager.lookup id).getD (contextOf contexts id, ∅)).1
      = contextOf contexts id := by
    cases hl : s.sessionManager.lookup id with
    | none => rfl
    | some info => exact h id info hl
  simp only [addProtocol]
  rw [show (contextOf contexts id).id = id from rfl, hinfo]
  exact consistent_insert h

theorem consistent_removeProtocol (h : s.Consistent contexts) (id : SessionId)
    (protocolId : ProtocolId) : (s.removeProtocol id protocolId).Consistent contexts := by
  simp only [removeProtocol]
  split
  · exact h
  case _ info hl =>
    rw [h id info hl]
    exact consistent_insert h

theorem consistent_step (h : s.Consistent contexts) (op : Op) :
    (s.step sha256 contexts op).Consistent contexts := by
  cases op with
  | addSession id => exact consistent_addSession h id
  | removeSession id => exact consistent_removeSession h id
  | addProtocol id protocolId => exact consistent_addProtocol h id protocolId
  | removeProtocol id protocolId => exact consistent_removeProtocol h id protocolId

/-- The peers after an entry is written. -/
theorem peerAt_insert (id : SessionId) (info : NetworkInfo)
    (peers : AList fun _ : PeerId => List SessionId) :
    peerAt sha256 ⟨s.sessionManager.insert id info, peers⟩
      = Function.update (s.peerAt sha256) id (peerOf sha256 info.1) := by
  funext id'
  rw [peerAt, lookup_insert_eq]
  by_cases h : id' = id
  · rw [if_pos h, h, Function.update_self, Option.bind_some]
  · rw [if_neg h, Function.update_of_ne h, peerAt]

theorem peerAt_erase (id : SessionId) (peers : AList fun _ : PeerId => List SessionId) :
    peerAt sha256 ⟨s.sessionManager.erase id, peers⟩
      = Function.update (s.peerAt sha256) id none := by
  funext id'
  rw [peerAt]
  by_cases h : id' = id
  · rw [h, AList.lookup_erase, Function.update_self, Option.bind_none]
  · rw [AList.lookup_erase_ne h, Function.update_of_ne h, peerAt]

theorem peerAt_of_notMem {id : SessionId} (hid : id ∉ s.sessionManager) :
    s.peerAt sha256 id = none := by
  rw [peerAt, AList.lookup_eq_none.mpr hid, Option.bind_none]

theorem peerAt_of_lookup (h : s.Consistent contexts) {id : SessionId} {info : NetworkInfo}
    (hl : s.sessionManager.lookup id = some info) :
    s.peerAt sha256 id = peerOf sha256 (contextOf contexts id) := by
  rw [peerAt, hl, Option.bind_some, h id info hl]

theorem exists_lookup {id : SessionId} (hid : id ∈ s.sessionManager) :
    ∃ info, s.sessionManager.lookup id = some info :=
  Option.isSome_iff_exists.mp (AList.lookup_isSome.mpr hid)

/-! ### The second table -/

/-- A session without a key has no peer. -/
theorem peerOf_of_none {id : SessionId} (hkey : (contexts id).remotePubkey = none) :
    peerOf sha256 (contextOf contexts id) = none := congrArg (Option.map _) hkey

theorem peerOf_of_some {id : SessionId} {key : PublicKey}
    (hkey : (contexts id).remotePubkey = some key) :
    peerOf sha256 (contextOf contexts id) = some (key.peerId sha256) :=
  congrArg (Option.map _) hkey

theorem groups_addSession_iff (h : s.Consistent contexts)
    (hg : Groups s.peersToSessions (s.peerAt sha256)) (id : SessionId) :
    Groups (s.addSession sha256 (contextOf contexts id)).peersToSessions
        ((s.addSession sha256 (contextOf contexts id)).peerAt sha256) ↔
      Indexed contexts s (.addSession id) := by
  have hid : (contextOf contexts id).id = id := rfl
  have hpubkey : (contextOf contexts id).remotePubkey = (contexts id).remotePubkey := rfl
  by_cases hmem : id ∈ s.sessionManager
  · obtain ⟨info, hl⟩ := exists_lookup hmem
    have hat : s.peerAt sha256 id = _ := peerAt_of_lookup h hl
    cases hkey : (contexts id).remotePubkey with
    | none => simpa [addSession, hid, hpubkey, hkey, hmem, Indexed] using hg
    | some key =>
      -- The session is listed a second time.
      rw [peerOf_of_some hkey] at hat
      simpa [addSession, hid, hpubkey, hkey, hmem, Indexed] using hg.not_addTo hat
  · have hat : s.peerAt sha256 id = none := peerAt_of_notMem hmem
    have hnew : ∀ peers,
        peerAt sha256 ⟨s.sessionManager.insert id (contextOf contexts id, ∅), peers⟩
        = _ := peerAt_insert id (contextOf contexts id, ∅)
    cases hkey : (contexts id).remotePubkey with
    | none =>
      simp only [peerOf_of_none hkey, ← hat, Function.update_eq_self] at hnew
      simpa [addSession, hid, hpubkey, hkey, hmem, Indexed, hnew] using hg
    | some key =>
      simp only [peerOf_of_some hkey] at hnew
      simpa [addSession, hid, hpubkey, hkey, hmem, Indexed, hnew] using hg.addTo hat

theorem groups_removeSession (h : s.Consistent contexts)
    (hg : Groups s.peersToSessions (s.peerAt sha256)) (id : SessionId) :
    Groups (s.removeSession sha256 id).2.peersToSessions
      ((s.removeSession sha256 id).2.peerAt sha256) := by
  unfold removeSession
  cases hl : s.sessionManager.lookup id with
  | none => exact hg
  | some info =>
    obtain ⟨session, mailboxes⟩ := info
    have hat : s.peerAt sha256 id = _ := peerAt_of_lookup h hl
    obtain rfl : session = contextOf contexts id := h id _ hl
    have hpubkey : (contextOf contexts id).remotePubkey = (contexts id).remotePubkey := rfl
    dsimp only
    rw [peerAt_erase, hpubkey]
    cases hkey : (contexts id).remotePubkey with
    | none =>
      rw [peerOf_of_none hkey] at hat
      rw [← hat, Function.update_eq_self]
      exact hg
    | some key =>
      rw [peerOf_of_some hkey] at hat
      exact hg.removeFrom hat

theorem groups_addProtocol_iff (h : s.Consistent contexts)
    (hg : Groups s.peersToSessions (s.peerAt sha256)) (id : SessionId) (protocolId : ProtocolId) :
    Groups (s.addProtocol (contextOf contexts id) protocolId).peersToSessions
        ((s.addProtocol (contextOf contexts id) protocolId).peerAt sha256) ↔
      Indexed contexts s (.addProtocol id protocolId) := by
  have hid : (contextOf contexts id).id = id := rfl
  unfold addProtocol
  dsimp only
  rw [peerAt_insert, hid]
  by_cases hmem : id ∈ s.sessionManager
  · obtain ⟨info, hl⟩ := exists_lookup hmem
    have hat : s.peerAt sha256 id = _ := peerAt_of_lookup h hl
    rw [hl, Option.getD_some, h id info hl, ← hat, Function.update_eq_self]
    exact ⟨fun _ => .inr hmem, fun _ => hg⟩
  · have hat : s.peerAt sha256 id = none := peerAt_of_notMem hmem
    rw [AList.lookup_eq_none.mpr hmem, Option.getD_none]
    cases hkey : (contexts id).remotePubkey with
    | none =>
      rw [peerOf_of_none hkey, ← hat, Function.update_eq_self]
      exact ⟨fun _ => .inl hkey, fun _ => hg⟩
    | some key =>
      -- The session is there and is not listed.
      rw [peerOf_of_some hkey]
      refine ⟨fun hg' => ?_, fun hindexed => ?_⟩
      · have hlisted := (hg'.mem (key.peerId sha256) id).mpr (Function.update_self ..)
        rw [hg.mem, hat] at hlisted
        cases hlisted
      · rcases hindexed with hnone | hmem'
        · rw [hkey] at hnone
          cases hnone
        · exact absurd hmem' hmem

theorem groups_removeProtocol (hg : Groups s.peersToSessions (s.peerAt sha256)) (id : SessionId)
    (protocolId : ProtocolId) :
    Groups (s.removeProtocol id protocolId).peersToSessions
      ((s.removeProtocol id protocolId).peerAt sha256) := by
  unfold removeProtocol
  cases hl : s.sessionManager.lookup id with
  | none => exact hg
  | some info =>
    have hat : peerOf sha256 info.1 = s.peerAt sha256 id := by rw [peerAt, hl, Option.bind_some]
    dsimp only
    rw [peerAt_insert, hat, Function.update_eq_self]
    exact hg

theorem groups_step_iff (h : s.Consistent contexts)
    (hg : Groups s.peersToSessions (s.peerAt sha256)) (op : Op) :
    Groups (s.step sha256 contexts op).peersToSessions
        ((s.step sha256 contexts op).peerAt sha256) ↔ Indexed contexts s op := by
  cases op with
  | addSession id => exact groups_addSession_iff h hg id
  | removeSession id => exact ⟨fun _ => trivial, fun _ => groups_removeSession h hg id⟩
  | addProtocol id protocolId => exact groups_addProtocol_iff h hg id protocolId
  | removeProtocol id protocolId => exact ⟨fun _ => trivial, fun _ => groups_removeProtocol hg id _⟩

/-! ### Lookups -/

/-- When the second table is the grouping of the first, the two lookups agree. -/
theorem agrees_of_groups (h : s.Consistent contexts)
    (hg : Groups s.peersToSessions (s.peerAt sha256)) : s.Agrees sha256 := by
  refine ⟨hg, fun peer session => ?_⟩
  simp only [getPeerSessions, List.mem_filterMap, getSession, getNetworkInfo]
  constructor
  · rintro ⟨hfound, hpeer⟩
    obtain ⟨info, hl, rfl⟩ := Option.map_eq_some_iff.mp hfound
    refine ⟨info.1.id, (hg.mem peer _).mpr ?_, hfound⟩
    rw [peerAt, hl, Option.bind_some, hpeer]
  · rintro ⟨id, hlisted, hfound⟩
    obtain ⟨info, hl, rfl⟩ := Option.map_eq_some_iff.mp hfound
    have hid : info.1.id = id := congrArg SessionContext.id (h id info hl)
    have hpeer := (hg.mem peer id).mp hlisted
    rw [peerAt, hl, Option.bind_some] at hpeer
    exact ⟨hid.symm ▸ hfound, hpeer⟩

theorem agrees_step_iff (h : s.Consistent contexts) (ha : s.Agrees sha256) (op : Op) :
    (s.step sha256 contexts op).Agrees sha256 ↔ Indexed contexts s op := by
  rw [← groups_step_iff h ha.groups op]
  exact ⟨fun ha' => ha'.groups, agrees_of_groups (consistent_step h op)⟩

theorem consistent_new (contexts : SessionId → SessionContext) : new.Consistent contexts :=
  fun _ _ h => by simp [new] at h

theorem agrees_new (contexts : SessionId → SessionContext) : new.Agrees sha256 :=
  agrees_of_groups (consistent_new contexts) groups_empty

/-- **The tables agree throughout a run if and only if every session is added when it is not
there and every protocol when its session is**, sessions without a key apart. -/
theorem agrees_iff_indexed (sha256 : Sha256) (contexts : SessionId → SessionContext)
    (ops : List Op) :
    Throughout (step sha256 contexts) (Agrees sha256) new ops ↔
      Guarded (step sha256 contexts) (Indexed contexts) new ops :=
  throughout_iff_guarded (I := Consistent contexts) (fun _ op h => consistent_step h op)
    (fun _ op h ha => agrees_step_iff h ha op) (consistent_new contexts)
    (agrees_new contexts) ops

/-- One peer, at the other end of every session. -/
def onePeer (id : SessionId) : SessionContext :=
  { id, address := loopback, ty := .outbound, remotePubkey := some .generator }

/-- **A protocol that is added before its session** makes a session that is not listed, and a
session that is added again is listed twice. -/
theorem agrees_connectedFirst :
    ¬ (runFrom (step generatorSha256 onePeer) new [.addProtocol 1 0]).Agrees generatorSha256 ∧
      ¬ (runFrom (step generatorSha256 onePeer) new [.addSession 1, .addSession 1]).Agrees
        generatorSha256 := by
  let peer := PublicKey.generator.peerId generatorSha256
  constructor
  · intro h
    have hlisted := (h.found peer (onePeer 1)).mp ⟨by decide +kernel, by decide +kernel⟩
    exact absurd hlisted (by decide +kernel)
  · intro h
    have hnodup := h.groups.nodup peer
    exact absurd hnodup (by decide +kernel)

end SharedState

end Connector
end CkbP2P
