import CkbP2P.Connector.Identify
import CkbP2P.Lib.Entries
import CkbP2P.Lib.Run
import CkbP2P.Multiaddr.SocketAddr
import CkbP2P.Tentacle.Types

/-!
# The identify protocol

Two peers that have opened the protocol tell each other where they listen and how they see
each other, once.  The handler keeps an entry for each session that has the protocol open,
marks it when a message has come, and goes through all entries once a second to report
sessions whose time is over.

What the handler asks of its environment — the storage of peers, which answers whether to go
on or to disconnect, and the context — is a list of calls it returns; the storage is a
parameter with a state of its own.  The clock is read where the source reads it.  A missing
entry makes the source panic.
-/

namespace CkbP2P
namespace Protocols

open Lib Tentacle

namespace Identify

def defaultTimeout : ℕ := 8

def maxAddrs : ℕ := 10

/-! ### Messages -/

structure IdentifyMessage where
  listenAddrs : List Multiaddr
  observedAddr : Multiaddr
  identify : Bytes
  deriving DecidableEq

/-- `encode`. -/
def IdentifyMessage.encode (m : IdentifyMessage) : Bytes :=
  Molecule.packTable [Molecule.packTable (m.listenAddrs.map fun a => Connector.packAddress a.bytes),
    Connector.packAddress m.observedAddr.bytes, Molecule.packVec m.identify]

/-- `decode`. -/
def IdentifyMessage.decode (data : Bytes) : Option IdentifyMessage :=
  match Molecule.splitTable 3 data with
  | some [listenAddrs, observedAddr, identify] => do
    let items ← Molecule.splitItems listenAddrs
    let identify ← Molecule.unpackVec identify
    let observedAddr ← Connector.unpackAddress observedAddr
    let listenAddrs ← items.mapM Connector.unpackAddress
    pure { listenAddrs, observedAddr, identify }
  | _ => none

/-- **A message survives the wire**, when its length is a number of four bytes. -/
theorem IdentifyMessage.survives_wire {m : IdentifyMessage} (h : m.encode.length < 2 ^ 32) :
    decode m.encode = some m := by
  have hfield : ∀ field ∈ [Molecule.packTable
        (m.listenAddrs.map fun a => Connector.packAddress a.bytes),
      Connector.packAddress m.observedAddr.bytes, Molecule.packVec m.identify],
      field.length < 2 ^ 32 := by
    intro field hmem
    exact (Molecule.length_lt_of_mem hmem).trans h
  have hlistens := hfield _ List.mem_cons_self
  have hobserved := hfield _ (List.mem_cons_of_mem _ List.mem_cons_self)
  have hidentify : m.identify.length < 2 ^ 32 := by
    have hlast := hfield _ (List.mem_cons_of_mem _ (List.mem_cons_of_mem _ List.mem_cons_self))
    rw [Molecule.length_packVec] at hlast
    omega
  have hsplit : Molecule.splitTable 3 m.encode = some _ := Molecule.splitTable_of_length rfl h
  have haddrs : (m.listenAddrs.map fun a => Connector.packAddress a.bytes).mapM
      Connector.unpackAddress = some m.listenAddrs := by
    have hitem : ∀ a ∈ m.listenAddrs, (Connector.packAddress a.bytes).length < 2 ^ 32 := by
      intro a ha
      exact (Molecule.length_lt_of_mem (List.mem_map_of_mem ha)).trans hlistens
    exact Molecule.mapM_map fun a ha => Connector.unpackAddress_packAddress (hitem a ha)
  rw [decode, hsplit]
  dsimp only
  rw [Molecule.splitItems_packTable hlistens, Molecule.unpackVec_packVec hidentify,
    Connector.unpackAddress_packAddress hobserved, Option.bind_eq_bind, Option.bind_some,
    haddrs]
  rfl

/-! ### The environment -/

inductive Misbehavior where
  | duplicateReceived
  | timeout
  | invalidData
  | tooManyAddresses (length : ℕ)
  deriving DecidableEq, Repr

inductive MisbehaveResult where
  | carryOn
  | disconnect
  deriving DecidableEq, Repr

/-- The storage of peers, whose state is in `κ`. -/
structure Callback (κ : Type) where
  receivedIdentify : κ → SessionId → Bytes → κ × MisbehaveResult
  identify : κ → κ × Bytes
  localListenAddrs : κ → κ × List Multiaddr
  addRemoteListenAddrs : κ → PeerId → List Multiaddr → κ
  addObservedAddr : κ → PeerId → Multiaddr → SessionType → κ × MisbehaveResult
  misbehave : κ → PeerId → Misbehavior → κ × MisbehaveResult

/-- A call of the handler, for a session. -/
inductive Call where
  | quickSendMessage (id : SessionId) (data : Bytes)
  | disconnect (id : SessionId)
  | receivedIdentify (id : SessionId) (identify : Bytes)
  | addRemoteListenAddrs (id : SessionId) (peer : PeerId) (addrs : List Multiaddr)
  | addObservedAddr (id : SessionId) (peer : PeerId) (addr : Multiaddr) (ty : SessionType)
  | misbehave (id : SessionId) (peer : PeerId) (kind : Misbehavior)
  deriving DecidableEq

/-- The call of `expect` that may fail. -/
inductive Panic where
  /-- `"RemoteInfo must exists"`. -/
  | remoteInfoMustExist
  deriving DecidableEq, Repr

/-! ### The handler -/

/-- The entry of a session. -/
structure RemoteInfo where
  peerId : PeerId
  session : SessionContext
  connectedAt : Instant
  timeout : Duration
  hasReceived : Bool
  deriving DecidableEq

structure IdentifyProtocol (κ : Type) where
  callback : κ
  remoteInfos : AList fun _ : SessionId => RemoteInfo
  secioEnabled : Bool
  globalIpOnly : Bool

/-- What a part of `received` does: the handler and its calls, and whether to go on. -/
abbrev Step (κ : Type) := Except Panic (IdentifyProtocol κ × List Call × MisbehaveResult)

variable {κ : Type}

namespace IdentifyProtocol

/-- `new`, with the answer of `global_ip_only`. -/
def new (callback : κ) (globalIpOnly : Bool) : IdentifyProtocol κ :=
  { callback, remoteInfos := ∅, secioEnabled := true, globalIpOnly }

/-- Whether an address may be told to others. -/
def isTold (p : IdentifyProtocol κ) (addr : Multiaddr) : Bool :=
  match multiaddrToSocketaddr addr with
  | some socketAddr => !p.globalIpOnly || isReachable socketAddr.ip
  | none => false

/-- The entry of a session, which must exist. -/
def withInfo {α : Type} (p : IdentifyProtocol κ) (id : SessionId)
    (f : RemoteInfo → Except Panic α) : Except Panic α :=
  match p.remoteInfos.lookup id with
  | none => .error .remoteInfoMustExist
  | some info => f info

/-- `misbehave` of the storage, with its answer. -/
def misbehave (cb : Callback κ) (p : IdentifyProtocol κ) (id : SessionId) (peer : PeerId)
    (kind : Misbehavior) : IdentifyProtocol κ × List Call × MisbehaveResult :=
  let (callback, result) := cb.misbehave p.callback peer kind
  ({ p with callback }, [.misbehave id peer kind], result)

/-- `check_duplicate`. -/
def checkDuplicate (cb : Callback κ) (id : SessionId) (p : IdentifyProtocol κ) : Step κ :=
  p.withInfo id fun info =>
    if info.hasReceived then .ok (p.misbehave cb id info.peerId .duplicateReceived)
    else
      let remoteInfos := p.remoteInfos.insert id { info with hasReceived := true }
      .ok ({ p with remoteInfos }, [], .carryOn)

/-- `received_identify` of the storage. -/
def receivedIdentify (cb : Callback κ) (id : SessionId) (identify : Bytes)
    (p : IdentifyProtocol κ) : Step κ :=
  let (callback, result) := cb.receivedIdentify p.callback id identify
  .ok ({ p with callback }, [.receivedIdentify id identify], result)

/-- `process_listens`. -/
def processListens (cb : Callback κ) (id : SessionId) (listens : List Multiaddr)
    (p : IdentifyProtocol κ) : Step κ :=
  p.withInfo id fun info =>
    if listens.length > maxAddrs then
      .ok (p.misbehave cb id info.peerId (.tooManyAddresses listens.length))
    else
      let reachableAddrs := listens.filter p.isTold
      let callback := cb.addRemoteListenAddrs p.callback info.peerId reachableAddrs
      .ok ({ p with callback }, [.addRemoteListenAddrs id info.peerId reachableAddrs], .carryOn)

/-- `process_observed`. -/
def processObserved (cb : Callback κ) (id : SessionId) (observed : Multiaddr)
    (p : IdentifyProtocol κ) : Step κ :=
  p.withInfo id fun info =>
    if p.isTold observed then
      let (callback, result) := cb.addObservedAddr p.callback info.peerId observed info.session.ty
      .ok ({ p with callback }, [.addObservedAddr id info.peerId observed info.session.ty], result)
    else .ok (p, [], .carryOn)

/-- The next part, unless the parts before have said to disconnect: the `||` of `received`. -/
def orElse (first : Step κ) (next : IdentifyProtocol κ → Step κ) : Step κ :=
  match first with
  | .error e => .error e
  | .ok (p, calls, .disconnect) => .ok (p, calls, .disconnect)
  | .ok (p, calls, .carryOn) =>
    match next p with
    | .error e => .error e
    | .ok (p, calls', result) => .ok (p, calls ++ calls', result)

/-- `context.disconnect`, if that was the answer. -/
def finish (id : SessionId) (step : Step κ) : Except Panic (IdentifyProtocol κ × List Call) :=
  match step with
  | .error e => .error e
  | .ok (p, calls, .disconnect) => .ok (p, calls ++ [.disconnect id])
  | .ok (p, calls, .carryOn) => .ok (p, calls)

/-- `received`. -/
def received (cb : Callback κ) (p : IdentifyProtocol κ) (id : SessionId) (data : Bytes) :
    Except Panic (IdentifyProtocol κ × List Call) :=
  if !p.secioEnabled then .ok (p, [])
  else
    match IdentifyMessage.decode data with
    | some message =>
      -- interrupt processing, to avoid pollution
      finish id (orElse (orElse (orElse (p.checkDuplicate cb id)
        (receivedIdentify cb id message.identify))
        (processListens cb id message.listenAddrs))
        (processObserved cb id message.observedAddr))
    | none =>
      p.withInfo id fun info => finish id (.ok (p.misbehave cb id info.peerId .invalidData))

/-- `connected`, which also says hello. -/
def connected (sha256 : Sha256) (cb : Callback κ) (p : IdentifyProtocol κ)
    (session : SessionContext) (now : Instant) : IdentifyProtocol κ × List Call :=
  match session.remotePubkey with
  | none => ({ p with secioEnabled := false }, [.disconnect session.id])
  | some key =>
    let remoteInfo : RemoteInfo :=
      { peerId := key.peerId sha256, session, connectedAt := now
        timeout := fromSecs defaultTimeout, hasReceived := false }
    let (callback, addrs) := cb.localListenAddrs p.callback
    let listenAddrs := (addrs.filter p.isTold).take maxAddrs
    let observedAddr := Multiaddr.collect
      (session.address.iter.filter fun | .p2p _ => false | _ => true)
      fun _ h => session.address.valid_of_mem (List.mem_of_mem_filter h)
    let (callback, identify) := cb.identify callback
    let data := IdentifyMessage.encode { listenAddrs, observedAddr, identify }
    ({ p with callback, remoteInfos := p.remoteInfos.insert session.id remoteInfo },
      [.quickSendMessage session.id data])

/-- `disconnected`. -/
def disconnected (p : IdentifyProtocol κ) (id : SessionId) :
    Except Panic (IdentifyProtocol κ × List Call) :=
  if p.secioEnabled then
    p.withInfo id fun _ => .ok ({ p with remoteInfos := p.remoteInfos.erase id }, [])
  else .ok (p, [])

/-- The report of a timeout, and what the answer leads to. -/
def reportTimeout (id : SessionId) (peer : PeerId) : MisbehaveResult → List Call
  | .disconnect => [.misbehave id peer .timeout, .disconnect id]
  | .carryOn => [.misbehave id peer .timeout]

/-- The loop of `notify`; the clock is read for each entry. -/
def notifyLoop (cb : Callback κ) (clock : SessionId → Instant) :
    κ → List (Sigma fun _ : SessionId => RemoteInfo) → κ × List Call
  | callback, [] => (callback, [])
  | callback, ⟨id, info⟩ :: infos =>
    if info.hasReceived && decide (info.connectedAt + info.timeout ≤ clock id) then
      let (callback, result) := cb.misbehave callback info.peerId .timeout
      let (callback, calls) := notifyLoop cb clock callback infos
      (callback, reportTimeout id info.peerId result ++ calls)
    else notifyLoop cb clock callback infos

/-- `notify`. -/
def notify (cb : Callback κ) (p : IdentifyProtocol κ) (clock : SessionId → Instant) :
    IdentifyProtocol κ × List Call :=
  if !p.secioEnabled then (p, [])
  else
    let (callback, calls) := notifyLoop cb clock p.callback p.remoteInfos.entries
    ({ p with callback }, calls)

end IdentifyProtocol

/-! ### Runs -/

/-- What the service tells the handler. -/
inductive Event where
  | connected (session : SessionContext) (now : Instant)
  | received (id : SessionId) (data : Bytes)
  | disconnected (id : SessionId)
  | notify (clock : SessionId → Instant)

/-- What has happened on a session since it connected. -/
structure Seen where
  connectedAt : Instant
  received : Bool
  deriving DecidableEq, Repr

/-- What has happened on the sessions that are connected. -/
abbrev History := SessionId → Option Seen

/-- The history after an event; only messages that can be decoded count. -/
def record (h : History) : Event → History
  | .connected session now => Function.update h session.id (some ⟨now, false⟩)
  | .received id data =>
    if (IdentifyMessage.decode data).isSome then
      Function.update h id ((h id).map fun seen => { seen with received := true })
    else h
  | .disconnected id => Function.update h id none
  | .notify _ => h

/-- A handler together with the history. -/
structure Watched (κ : Type) where
  protocol : IdentifyProtocol κ
  history : History

section Runs

variable (sha256 : Sha256) (cb : Callback κ)

/-- What the handler does with an event. -/
def handle (p : IdentifyProtocol κ) : Event → Except Panic (IdentifyProtocol κ × List Call)
  | .connected session now => .ok (p.connected sha256 cb session now)
  | .received id data => p.received cb id data
  | .disconnected id => p.disconnected id
  | .notify clock => .ok (p.notify cb clock)

/-- The state after an event; a handler that panics is left as it was. -/
def step (w : Watched κ) (e : Event) : Watched κ where
  protocol := match handle sha256 cb w.protocol e with
    | .ok (p, _) => p
    | .error _ => w.protocol
  history := record w.history e

/-- The calls of the handler for an event. -/
def calls (w : Watched κ) (e : Event) : List Call :=
  match handle sha256 cb w.protocol e with
  | .ok (_, calls) => calls
  | .error _ => []

/-- A handler before its first event. -/
def start (callback : κ) (globalIpOnly : Bool) : Watched κ :=
  ⟨.new callback globalIpOnly, fun _ => none⟩

/-- The order of events on a session, with encryption enabled: messages come and the
session goes while it is connected. -/
def Allowed (w : Watched κ) : Event → Prop
  | .connected session _ => session.remotePubkey.isSome
  | .received id _ => (w.history id).isSome
  | .disconnected id => (w.history id).isSome
  | .notify _ => True

/-- The time of a session is over. -/
def Elapsed (h : History) (clock : SessionId → Instant) (id : SessionId) : Prop :=
  ∃ seen, h id = some seen ∧ seen.connectedAt + fromSecs defaultTimeout ≤ clock id

/-- No message has come from a session. -/
def Silent (h : History) (id : SessionId) : Prop := ∃ seen, h id = some seen ∧ seen.received = false

/-- The calls report the timeout of a session. -/
def TimeoutReported (calls : List Call) (id : SessionId) : Prop :=
  ∃ peer, Call.misbehave id peer .timeout ∈ calls

/-- A sweep reports exactly the sessions whose time is over and that have sent nothing. -/
def ReportsSilent (w : Watched κ) : Event → Prop
  | .notify clock => ∀ id, TimeoutReported (calls sha256 cb w (.notify clock)) id ↔
      Elapsed w.history clock id ∧ Silent w.history id
  | _ => True

/-- At a sweep, no session's time is over. -/
def NoneElapsed (w : Watched κ) : Event → Prop
  | .notify clock => ∀ id, ¬ Elapsed w.history clock id
  | _ => True

end Runs

/-! ### What each function keeps -/

section Keeps

variable {infos : AList fun _ : SessionId => RemoteInfo}

/-- A handler with these entries, and encryption enabled. -/
structure Has (infos : AList fun _ : SessionId => RemoteInfo) (p : IdentifyProtocol κ) : Prop where
  infos : p.remoteInfos = infos
  secio : p.secioEnabled = true

/-- A part of `received` returns, with a handler that has these entries. -/
def Returns (infos : AList fun _ : SessionId => RemoteInfo) (s : Step κ) : Prop :=
  ∃ p calls result, s = .ok (p, calls, result) ∧ Has infos p

theorem Returns.orElse {first : Step κ} {next : IdentifyProtocol κ → Step κ}
    (h : Returns infos first) (hnext : ∀ p, Has infos p → Returns infos (next p)) :
    Returns infos (IdentifyProtocol.orElse first next) := by
  obtain ⟨p, calls, result, rfl, hp⟩ := h
  cases result with
  | disconnect => exact ⟨_, _, _, rfl, hp⟩
  | carryOn =>
    obtain ⟨p', calls', result, heq, hp'⟩ := hnext p hp
    unfold IdentifyProtocol.orElse
    dsimp only
    rw [heq]
    exact ⟨_, _, _, rfl, hp'⟩

theorem Returns.finish {step : Step κ} (h : Returns infos step) (id : SessionId) :
    ∃ p calls, IdentifyProtocol.finish id step = .ok (p, calls) ∧ Has infos p := by
  obtain ⟨p, calls, result, rfl, hp⟩ := h
  cases result with
  | disconnect => exact ⟨_, _, rfl, hp⟩
  | carryOn => exact ⟨_, _, rfl, hp⟩

namespace IdentifyProtocol

theorem withInfo_of_lookup {α : Type} {p : IdentifyProtocol κ} {id : SessionId} {info : RemoteInfo}
    (h : Has infos p) (hlookup : infos.lookup id = some info) (f : RemoteInfo → Except Panic α) :
    p.withInfo id f = f info := by
  unfold withInfo
  rw [h.infos, hlookup]

variable (cb : Callback κ) (id : SessionId) {p : IdentifyProtocol κ} {info : RemoteInfo}

theorem returns_misbehave (h : Has infos p) (peer : PeerId) (kind : Misbehavior) :
    Returns infos (.ok (p.misbehave cb id peer kind)) :=
  ⟨_, _, _, rfl, h.infos, h.secio⟩

theorem returns_receivedIdentify (identify : Bytes) (h : Has infos p) :
    Returns infos (receivedIdentify cb id identify p) :=
  ⟨_, _, _, rfl, h.infos, h.secio⟩

variable {id}

theorem returns_processListens (hlookup : infos.lookup id = some info) (listens : List Multiaddr)
    (h : Has infos p) : Returns infos (processListens cb id listens p) := by
  unfold processListens
  rw [withInfo_of_lookup h hlookup]
  split_ifs
  · exact returns_misbehave cb id h _ _
  · exact ⟨_, _, _, rfl, h.infos, h.secio⟩

theorem returns_processObserved (hlookup : infos.lookup id = some info) (observed : Multiaddr)
    (h : Has infos p) : Returns infos (processObserved cb id observed p) := by
  unfold processObserved
  rw [withInfo_of_lookup h hlookup]
  split_ifs
  · exact ⟨_, _, _, rfl, h.infos, h.secio⟩
  · exact ⟨_, _, _, rfl, h⟩

/-- The entries after `check_duplicate`: the session is marked. -/
theorem returns_checkDuplicate (h : Has infos p) (hlookup : infos.lookup id = some info) :
    ∃ infos', Returns infos' (p.checkDuplicate cb id) ∧
      ∀ id', infos'.lookup id'
        = if id' = id then some { info with hasReceived := true } else infos.lookup id' := by
  unfold checkDuplicate
  rw [withInfo_of_lookup h hlookup]
  split_ifs with hreceived
  · -- it was marked before
    refine ⟨infos, returns_misbehave cb id h _ _, ?_⟩
    intro id'
    split_ifs with hid
    · rw [hid, hlookup, ← hreceived]
    · rfl
  · refine ⟨infos.insert id { info with hasReceived := true }, ?_, ?_⟩
    · refine ⟨_, _, _, rfl, ?_, h.secio⟩
      dsimp only
      rw [h.infos]
    · intro id'
      split_ifs with hid
      · rw [hid, AList.lookup_insert]
      · rw [AList.lookup_insert_ne hid]

/-- **A message is processed without a panic**, and marks the session if it can be decoded. -/
theorem received_eq (h : Has infos p) (hlookup : infos.lookup id = some info) (data : Bytes) :
    ∃ p' calls infos', p.received cb id data = .ok (p', calls) ∧ Has infos' p' ∧
      ∀ id', infos'.lookup id' = if id' = id ∧ (IdentifyMessage.decode data).isSome then
        some { info with hasReceived := true } else infos.lookup id' := by
  unfold received
  rw [h.secio]
  cases hdecode : IdentifyMessage.decode data with
  | none =>
    obtain ⟨p', calls, heq, hp'⟩ := (returns_misbehave cb id h info.peerId .invalidData).finish id
    refine ⟨p', calls, infos, ?_, hp', ?_⟩
    · rw [← heq]
      exact withInfo_of_lookup h hlookup _
    · intro id'
      simp
  | some message =>
    obtain ⟨infos', hfirst, hlookup'⟩ := returns_checkDuplicate cb h hlookup
    have hself : infos'.lookup id = some { info with hasReceived := true } := by
      rw [hlookup', if_pos rfl]
    -- the other parts leave the entries as they are
    have hall := ((hfirst.orElse fun _ => returns_receivedIdentify cb id message.identify).orElse
      fun _ => returns_processListens cb hself message.listenAddrs).orElse
      fun _ => returns_processObserved cb hself message.observedAddr
    obtain ⟨p', calls, heq, hp'⟩ := hall.finish id
    refine ⟨p', calls, infos', heq, hp', ?_⟩
    intro id'
    simp [hlookup']

/-- A session that connects has an entry. -/
theorem has_connected (sha256 : Sha256) {session : SessionContext} {key : PublicKey}
    (h : Has infos p) (hkey : session.remotePubkey = some key) (now : Instant) :
    Has (infos.insert session.id
        { peerId := key.peerId sha256, session, connectedAt := now
          timeout := fromSecs defaultTimeout, hasReceived := false })
      (p.connected sha256 cb session now).1 := by
  unfold connected
  rw [hkey]
  refine ⟨?_, h.secio⟩
  dsimp only
  rw [h.infos]

theorem has_notify (h : Has infos p) (clock : SessionId → Instant) :
    Has infos (p.notify cb clock).1 := by
  unfold notify
  rw [if_neg (by simp [h.secio])]
  exact ⟨h.infos, h.secio⟩

theorem mem_reportTimeout_iff {id' : SessionId} {peer peer' : PeerId} (result : MisbehaveResult) :
    Call.misbehave id peer .timeout ∈ reportTimeout id' peer' result ↔ id = id' ∧ peer = peer' := by
  cases result <;> simp [reportTimeout]

/-- The sessions the loop of `notify` reports. -/
theorem mem_notifyLoop_iff (clock : SessionId → Instant) (peer : PeerId) :
    ∀ (infos : List (Sigma fun _ : SessionId => RemoteInfo)) (callback : κ),
      Call.misbehave id peer .timeout ∈ (notifyLoop cb clock callback infos).2 ↔
        ∃ info, (⟨id, info⟩ : Sigma fun _ : SessionId => RemoteInfo) ∈ infos ∧
          info.peerId = peer ∧ info.hasReceived = true ∧
          info.connectedAt + info.timeout ≤ clock id := by
  intro infos
  induction infos with
  | nil =>
    intro callback
    simp [notifyLoop]
  | cons entry infos ih =>
    obtain ⟨id', info'⟩ := entry
    intro callback
    rw [notifyLoop]
    split_ifs with hover
    · rw [Bool.and_eq_true, decide_eq_true_eq] at hover
      dsimp only
      rw [List.mem_append, mem_reportTimeout_iff, ih]
      constructor
      · rintro (⟨rfl, rfl⟩ | ⟨info, hmem, hrest⟩)
        · exact ⟨info', List.mem_cons_self, rfl, hover⟩
        · exact ⟨info, List.mem_cons_of_mem _ hmem, hrest⟩
      · rintro ⟨info, hmem, rfl, hrest⟩
        rcases List.mem_cons.mp hmem with heq | hmem
        · cases heq
          exact .inl ⟨rfl, rfl⟩
        · exact .inr ⟨info, hmem, rfl, hrest⟩
    · rw [ih]
      constructor
      · rintro ⟨info, hmem, hrest⟩
        exact ⟨info, List.mem_cons_of_mem _ hmem, hrest⟩
      · rintro ⟨info, hmem, hpeer, hreceived, hclock⟩
        rcases List.mem_cons.mp hmem with heq | hmem
        · cases heq
          exact absurd (by simp [hreceived, hclock]) hover
        · exact ⟨info, hmem, hpeer, hreceived, hclock⟩

end IdentifyProtocol

end Keeps

/-! ### The entries and the history -/

section Inv

variable (sha256 : Sha256) (cb : Callback κ)

/-- What an entry says of the history of its session. -/
def RemoteInfo.seen (info : RemoteInfo) : Seen := ⟨info.connectedAt, info.hasReceived⟩

/-- **The entries tell the history**, and all of them have the same timeout. -/
structure Inv (w : Watched κ) : Prop where
  secio : w.protocol.secioEnabled = true
  seen : ∀ id, (w.protocol.remoteInfos.lookup id).map RemoteInfo.seen = w.history id
  timeout : ∀ id info, w.protocol.remoteInfos.lookup id = some info →
    info.timeout = fromSecs defaultTimeout

variable {w : Watched κ}

theorem inv_start (callback : κ) (globalIpOnly : Bool) : Inv (start callback globalIpOnly) where
  secio := rfl
  seen _ := rfl
  timeout _ _ h := by cases h

/-- A session that is connected has an entry. -/
theorem Inv.exists_lookup (h : Inv w) {id : SessionId} (hid : (w.history id).isSome) :
    ∃ info, w.protocol.remoteInfos.lookup id = some info := by
  rw [← h.seen id, Option.isSome_map] at hid
  exact Option.isSome_iff_exists.mp hid

theorem inv_connected (h : Inv w) {session : SessionContext}
    (hkey : session.remotePubkey.isSome) (now : Instant) :
    Inv ⟨(w.protocol.connected sha256 cb session now).1,
      record w.history (.connected session now)⟩ := by
  obtain ⟨key, hkey⟩ := Option.isSome_iff_exists.mp hkey
  have hp := IdentifyProtocol.has_connected cb sha256 ⟨rfl, h.secio⟩ hkey now
  refine ⟨hp.secio, ?_, ?_⟩
  · intro id
    dsimp only [record]
    rw [hp.infos]
    rcases eq_or_ne id session.id with rfl | hne
    · rw [AList.lookup_insert, Function.update_self]
      rfl
    · rw [AList.lookup_insert_ne hne, Function.update_of_ne hne, h.seen]
  · intro id info hinfo
    rw [hp.infos] at hinfo
    rcases lookup_insert_eq_some_iff.mp hinfo with ⟨rfl, rfl⟩ | ⟨-, hinfo⟩
    · rfl
    · exact h.timeout id info hinfo

theorem inv_received (h : Inv w) {id : SessionId} (hid : (w.history id).isSome) (data : Bytes) :
    ∃ p calls, w.protocol.received cb id data = .ok (p, calls) ∧
      Inv ⟨p, record w.history (.received id data)⟩ := by
  obtain ⟨info, hinfo⟩ := h.exists_lookup hid
  obtain ⟨p, calls, infos, heq, hp, hlookup⟩ :=
    IdentifyProtocol.received_eq cb ⟨rfl, h.secio⟩ hinfo data
  refine ⟨p, calls, heq, hp.secio, ?_, ?_⟩
  · intro id'
    dsimp only [record]
    rw [hp.infos, hlookup]
    cases (IdentifyMessage.decode data).isSome with
    | false => simp [h.seen]
    | true =>
      rcases eq_or_ne id' id with rfl | hne
      · simp [← h.seen, hinfo, RemoteInfo.seen]
      · simp [hne, h.seen]
  · intro id' info' hinfo'
    rw [hp.infos, hlookup] at hinfo'
    split_ifs at hinfo' with hid'
    · rw [← Option.some.inj hinfo']
      exact h.timeout id info hinfo
    · exact h.timeout id' info' hinfo'

theorem inv_disconnected (h : Inv w) {id : SessionId} (hid : (w.history id).isSome) :
    ∃ p calls, w.protocol.disconnected id = .ok (p, calls) ∧
      Inv ⟨p, record w.history (.disconnected id)⟩ := by
  obtain ⟨info, hinfo⟩ := h.exists_lookup hid
  refine ⟨{ w.protocol with remoteInfos := w.protocol.remoteInfos.erase id }, [], ?_, h.secio,
    ?_, ?_⟩
  · unfold IdentifyProtocol.disconnected
    rw [if_pos h.secio, IdentifyProtocol.withInfo_of_lookup ⟨rfl, h.secio⟩ hinfo]
  · intro id'
    dsimp only [record]
    rcases eq_or_ne id' id with rfl | hne
    · rw [AList.lookup_erase, Function.update_self]
      rfl
    · rw [AList.lookup_erase_ne hne, Function.update_of_ne hne, h.seen]
  · intro id' info' hinfo'
    exact h.timeout id' info' (lookup_erase_eq_some_iff.mp hinfo').2

theorem inv_notify (h : Inv w) (clock : SessionId → Instant) :
    Inv ⟨(w.protocol.notify cb clock).1, record w.history (.notify clock)⟩ := by
  have hp := IdentifyProtocol.has_notify cb ⟨rfl, h.secio⟩ clock
  refine ⟨hp.secio, ?_, ?_⟩
  · intro id
    rw [hp.infos]
    exact h.seen id
  · intro id info hinfo
    rw [hp.infos] at hinfo
    exact h.timeout id info hinfo

/-- **The handler never panics**, and the entries after an event. -/
theorem handle_eq (h : Inv w) {e : Event} (he : Allowed w e) :
    ∃ p calls, handle sha256 cb w.protocol e = .ok (p, calls) ∧ Inv ⟨p, record w.history e⟩ := by
  cases e with
  | connected session now => exact ⟨_, _, rfl, inv_connected sha256 cb h he now⟩
  | received id data => exact inv_received cb h he data
  | disconnected id => exact inv_disconnected h he
  | notify clock => exact ⟨_, _, rfl, inv_notify cb h clock⟩

theorem inv_step (h : Inv w) {e : Event} (he : Allowed w e) : Inv (step sha256 cb w e) := by
  obtain ⟨p, calls, heq, hinv⟩ := handle_eq sha256 cb h he
  unfold step
  rw [heq]
  exact hinv

/-- **The sessions a sweep reports**: those whose time is over and that have sent a message. -/
theorem timeout_reported_iff (h : Inv w) (clock : SessionId → Instant) (id : SessionId) :
    TimeoutReported (calls sha256 cb w (.notify clock)) id ↔
      Elapsed w.history clock id ∧ ¬ Silent w.history id := by
  have hcalls : calls sha256 cb w (.notify clock)
      = (IdentifyProtocol.notifyLoop cb clock w.protocol.callback
          w.protocol.remoteInfos.entries).2 := by
    unfold calls handle IdentifyProtocol.notify
    rw [h.secio]
    rfl
  unfold TimeoutReported Elapsed Silent
  rw [hcalls, ← h.seen id]
  constructor
  · rintro ⟨peer, hmem⟩
    obtain ⟨info, hentry, -, hreceived, hclock⟩ :=
      (IdentifyProtocol.mem_notifyLoop_iff cb clock peer _ _).mp hmem
    have hlookup := AList.mem_lookup_iff.mpr hentry
    rw [Option.mem_def] at hlookup
    rw [h.timeout id info hlookup] at hclock
    simp [hlookup, RemoteInfo.seen, hreceived, hclock]
  · rintro ⟨⟨seen, hseen, hclock⟩, hsilent⟩
    obtain ⟨info, hlookup, rfl⟩ := Option.map_eq_some_iff.mp hseen
    have hreceived : info.hasReceived = true := by
      simpa [hlookup, RemoteInfo.seen] using hsilent
    refine ⟨info.peerId, (IdentifyProtocol.mem_notifyLoop_iff cb clock _ _ _).mpr
      ⟨info, AList.mem_lookup_iff.mp hlookup, rfl, hreceived, ?_⟩⟩
    rw [h.timeout id info hlookup]
    exact hclock

/-- At one sweep: those it should report are reported when there is nothing to report. -/
theorem reportsSilent_iff (h : Inv w) (e : Event) :
    ReportsSilent sha256 cb w e ↔ NoneElapsed w e := by
  cases e with
  | notify clock =>
    unfold ReportsSilent NoneElapsed
    refine forall_congr' fun id => ?_
    rw [timeout_reported_iff sha256 cb h]
    tauto
  | _ => exact Iff.rfl

/-- No event of an allowed run makes the handler panic. -/
theorem identify_never_panics (callback : κ) (globalIpOnly : Bool) (events : List Event)
    (h : Guarded (step sha256 cb) Allowed (start callback globalIpOnly) events) :
    Guarded (step sha256 cb) (fun w e => ∃ r, handle sha256 cb w.protocol e = .ok r)
      (start callback globalIpOnly) events := by
  refine guarded_of_inv (I := Inv) (fun w e hw he => inv_step sha256 cb hw he) ?_
    (inv_start callback globalIpOnly) h
  intro w e hw he
  obtain ⟨p, calls, heq, -⟩ := handle_eq sha256 cb hw he
  exact ⟨_, heq⟩

/-- **When the sweeps report the silent sessions.**  In every run, for any number of sessions
and any answers of the storage, each sweep reports the timeout of exactly those sessions whose
time is over and from which no message has come, if and only if there is no session whose time
is over at any sweep. -/
theorem identify_timeout_iff (callback : κ) (globalIpOnly : Bool) (events : List Event)
    (h : Guarded (step sha256 cb) Allowed (start callback globalIpOnly) events) :
    Guarded (step sha256 cb) (ReportsSilent sha256 cb) (start callback globalIpOnly) events ↔
      Guarded (step sha256 cb) NoneElapsed (start callback globalIpOnly) events :=
  guarded_congr (I := Inv) (fun _ _ hw he => inv_step sha256 cb hw he)
    (fun _ e hw _ => reportsSilent_iff sha256 cb hw e) (inv_start callback globalIpOnly) h

end Inv

/-! ### A session that sends its message, and one that does not -/

/-- A storage that knows nothing and lets everything pass. -/
def quietStore : Callback Unit where
  receivedIdentify _ _ _ := ((), .carryOn)
  identify _ := ((), [])
  localListenAddrs _ := ((), [])
  addRemoteListenAddrs _ _ _ := ()
  addObservedAddr _ _ _ _ := ((), .carryOn)
  misbehave _ _ _ := ((), .carryOn)

/-- The message of a peer without listening addresses. -/
def hello : Bytes := IdentifyMessage.encode ⟨[], loopback, []⟩

/-- The message of a peer with two listening addresses. -/
def introduction : IdentifyMessage where
  listenAddrs := [loopback, loopbackWss]
  observedAddr := loopback
  identify := "/ckb/92b197aa".toUTF8.toList

theorem hello_survives_wire :
    IdentifyMessage.decode introduction.encode = some introduction :=
  IdentifyMessage.survives_wire (by decide +kernel)

/-- A session that sends its message twice, and goes. -/
theorem identify_never_panics_hello :
    Guarded (step generatorSha256 quietStore)
      (fun w e => ∃ r, handle generatorSha256 quietStore w.protocol e = .ok r) (start () true)
      [.connected secured 0, .received 1 hello, .received 1 hello, .disconnected 1] :=
  identify_never_panics generatorSha256 quietStore () true _ ⟨rfl, rfl, rfl, rfl, trivial⟩

/-- A session that sends its message, and a sweep a second after it connected. -/
theorem identify_timeout_early :
    Guarded (step generatorSha256 quietStore) (ReportsSilent generatorSha256 quietStore)
      (start () true)
      [.connected secured 0, .received 1 hello, .notify fun _ => fromSecs 1] := by
  have hallowed : Guarded (step generatorSha256 quietStore) Allowed (start () true)
      [.connected secured 0, .received 1 hello, .notify fun _ => fromSecs 1] :=
    ⟨rfl, rfl, trivial, trivial⟩
  refine (identify_timeout_iff generatorSha256 quietStore () true _ hallowed).mpr
    ⟨trivial, trivial, ?_, trivial⟩
  rintro id ⟨seen, -, hclock⟩
  have hearly : fromSecs defaultTimeout ≤ fromSecs 1 := le_trans (Nat.le_add_left _ _) hclock
  exact absurd hearly (by decide)

/-- **The wrong session is reported.**  Nine seconds after it connected, a session that has
sent its message is reported, and one that has sent nothing is not. -/
theorem timeout_inverted :
    let sent := runFrom (step generatorSha256 quietStore) (start () true)
      [.connected secured 0, .received 1 hello]
    let silent := runFrom (step generatorSha256 quietStore) (start () true) [.connected secured 0]
    let sweep := Event.notify fun _ => fromSecs 9
    sent.history 1 = some ⟨0, true⟩ ∧
    calls generatorSha256 quietStore sent sweep
      = [.misbehave 1 (PublicKey.generator.peerId generatorSha256) .timeout] ∧
    silent.history 1 = some ⟨0, false⟩ ∧ calls generatorSha256 quietStore silent sweep = [] := by
  decide +kernel

end Identify
end Protocols
end CkbP2P
