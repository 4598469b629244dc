import CkbP2P.Lib.Entries
import CkbP2P.Lib.Run
import CkbP2P.Multiaddr.SocketAddr
import CkbP2P.Protocols.DiscoveryMessage
import CkbP2P.Tentacle.Types

/-!
# The discovery protocol

A peer that has opened a connection asks the other side for nodes, once, and gets a selection of
the addresses that are known there.  Later, each side announces to some of its sessions the
addresses of others, and does so again once a day.  Whoever receives nodes checks that they are
not too many.

The storage of addresses and the filters for the addresses a peer knows are parameters, each
with a state of its own.  What is drawn at random comes with the event.  A call that has been
made stays made when the handler panics later in the same event.

The limit for an answer is the greater of the number that was asked for and the number that is
accepted, where it should be the smaller.
-/

namespace CkbP2P
namespace Protocols
namespace Discovery

open Lib Tentacle

def announceThreshold : ℕ := 10

/-- The maximum number of new addresses to accumulate before announcing. -/
def maxAddrToSend : ℕ := 1000

/-- The maximum number of addresses in one item. -/
def maxAddrs : ℕ := 3

/-- Every 24 hours send announce nodes message. -/
def announceInterval : Duration := fromSecs (3600 * 24)

def version : UInt32 := 0

/-! ### The environment -/

inductive Misbehavior where
  | duplicateGetNodes
  | duplicateFirstNodes
  | tooManyItems (announce : Bool) (length : ℕ)
  | tooManyAddresses (length : ℕ)
  | invalidData
  deriving DecidableEq, Repr

inductive MisbehaveResult where
  | disconnect
  | carryOn
  deriving DecidableEq, Repr

def MisbehaveResult.isDisconnect : MisbehaveResult → Bool
  | .disconnect => true
  | .carryOn => false

/-- The storage of addresses, whose state is in `μ`. -/
structure AddressManager (μ : Type) where
  isValidAddr : μ → Multiaddr → Bool
  addNewAddr : μ → SessionId → Multiaddr → μ
  addNewAddrs : μ → SessionId → List Multiaddr → μ
  misbehave : μ → SessionId → Misbehavior → μ × MisbehaveResult
  getRandom : μ → ℕ → μ × List Multiaddr

/-- The filters for known addresses, whose state is in `φ`.  They may forget, and they may take
an address for another. -/
structure Filters (φ : Type) where
  insert : φ → Multiaddr → φ
  contains : φ → Multiaddr → Bool

def Filters.extend {φ : Type} (filters : Filters φ) (known : φ) (keys : List Multiaddr) : φ :=
  keys.foldl filters.insert known

/-- What is drawn at random during an event. -/
structure Rng where
  /-- The order of the keys after they are shuffled for the `i`-th time. -/
  shuffle : ℕ → List SessionId → List SessionId
  chooseMultiple : List Multiaddr → ℕ → List Multiaddr
  shuffle_perm : ∀ i keys, (shuffle i keys).Perm keys
  chooseMultiple_subperm : ∀ items amount, (chooseMultiple items amount).Subperm items
  length_chooseMultiple : ∀ items amount,
    (chooseMultiple items amount).length = min amount items.length

/-- A call of the handler. -/
inductive Call where
  | sendMessage (id : SessionId) (data : Bytes)
  | disconnect (id : SessionId)
  | misbehave (id : SessionId) (kind : Misbehavior)
  deriving DecidableEq, Repr

/-- The call of `expect` that may fail. -/
inductive Panic where
  /-- `"encode must be success"`. -/
  | encodeMustBeSuccess
  deriving DecidableEq, Repr

/-! ### The check of the receiver -/

/-- The check of the number of items. -/
def verifyLength (nodes : Nodes) : Option Misbehavior :=
  if nodes.announce then
    if nodes.items.length > announceThreshold then
      some (.tooManyItems nodes.announce nodes.items.length)
    else none
  else if nodes.items.length > maxAddrToSend then
    some (.tooManyItems nodes.announce nodes.items.length)
  else none

/-- `verify_nodes_message`. -/
def verifyNodesMessage (nodes : Nodes) : Option Misbehavior :=
  match verifyLength nodes with
  | some misbehavior => some misbehavior
  | none =>
    (nodes.items.find? fun item => item.addresses.length > maxAddrs).map fun item =>
      .tooManyAddresses item.addresses.length

/-! ### Sessions -/

inductive RemoteAddress where
  /-- Inbound init remote address. -/
  | init (addr : Multiaddr)
  /-- Outbound init remote address or inbound listen address. -/
  | listen (addr : Multiaddr)
  deriving DecidableEq

namespace RemoteAddress

/-- `to_inner`. -/
def toInner : RemoteAddress → Multiaddr
  | .init addr => addr
  | .listen addr => addr

/-- A component of the address, with another port. -/
def withPort (port : UInt16) : Protocol → Protocol
  | .tcp _ => .tcp port
  | value => value

theorem valid_withPort {p : Protocol} (h : p.Valid) (port : UInt16) : (withPort port p).Valid := by
  cases p with
  | tcp _ => trivial
  | _ => exact h

/-- `update_port`. -/
def updatePort (port : UInt16) : RemoteAddress → RemoteAddress
  | .init addr => .listen (Multiaddr.collect (addr.iter.map (withPort port)) (by
      intro p hp
      obtain ⟨q, hq, rfl⟩ := List.mem_map.mp hp
      exact valid_withPort (addr.valid_of_mem hq) port))
  | .listen addr => .listen addr

end RemoteAddress

structure SessionState (φ : Type) where
  addrKnown : φ
  remoteAddr : RemoteAddress
  lastAnnounce : Option Instant
  announceMultiaddrs : List Multiaddr
  receivedGetNodes : Bool
  receivedNodes : Bool

/-- Addresses as nodes with one address each. -/
def toNodes (announce : Bool) (addrs : List Multiaddr) : Nodes :=
  ⟨announce, addrs.map fun addr => ⟨[addr]⟩⟩

variable {μ φ : Type}

namespace SessionState

/-- `new`, with an empty filter.  The side that has opened the connection asks for nodes. -/
def new (filters : Filters φ) (session : SessionContext) (listens : List Multiaddr)
    (addrKnown : φ) : List Call × Except Panic (SessionState φ) :=
  let state (addrKnown : φ) (remoteAddr : RemoteAddress) : SessionState φ :=
    { addrKnown, remoteAddr, lastAnnounce := none, announceMultiaddrs := []
      receivedGetNodes := false, receivedNodes := false }
  if session.ty.isOutbound then
    let port := ((listens.filterMap multiaddrToSocketaddr).map SocketAddr.port).head?
    match encode (.getNodes version (UInt32.ofNat maxAddrToSend) port) with
    | none => ([], .error .encodeMustBeSuccess)
    | some msg =>
      ([.sendMessage session.id msg],
        .ok (state (filters.insert addrKnown session.address) (.listen session.address)))
  else ([], .ok (state addrKnown (.init session.address)))

/-- `check_timer`. -/
def checkTimer (state : SessionState φ) (now : Instant) (interval : Duration) :
    SessionState φ × Option Multiaddr :=
  if (state.lastAnnounce.map fun time => decide (now - time > interval)).getD true then
    ({ state with lastAnnounce := some now },
      match state.remoteAddr with
      | .listen addr => some addr
      | .init _ => none)
  else (state, none)

/-- `send_messages`. -/
def sendMessages (state : SessionState φ) (id : SessionId) :
    SessionState φ × Except Panic (List Call) :=
  if state.announceMultiaddrs.isEmpty then (state, .ok [])
  else
    ({ state with announceMultiaddrs := [] },
      match encode (.nodes (toNodes true state.announceMultiaddrs)) with
      | none => .error .encodeMustBeSuccess
      | some msg => .ok [.sendMessage id msg])

/-- Change client random outbound port to client listen port, if there is one. -/
def listensOn (filters : Filters φ) (state : SessionState φ) : Option UInt16 → SessionState φ
  | some port =>
    let remoteAddr := state.remoteAddr.updatePort port
    { state with remoteAddr, addrKnown := filters.insert state.addrKnown remoteAddr.toInner }
  | none => state

@[simp] theorem announceMultiaddrs_listensOn (filters : Filters φ) (state : SessionState φ)
    (listenPort : Option UInt16) :
    (state.listensOn filters listenPort).announceMultiaddrs = state.announceMultiaddrs := by
  cases listenPort <;> rfl

end SessionState

/-! ### The handler -/

structure DiscoveryProtocol (μ φ : Type) where
  sessions : AList fun _ : SessionId => SessionState φ
  dynamicQueryCycle : Option Duration
  addrMgr : μ

/-- The calls of a function, and the handler after it. -/
abbrev Outcome (μ φ : Type) := List Call × Except Panic (DiscoveryProtocol μ φ)

/-- The selection that is sent to a peer that has asked for `count` nodes. -/
def selected (rng : Rng) (items : List Multiaddr) (count : UInt32) : List Multiaddr :=
  let limit := max maxAddrToSend count.toNat
  if items.length > limit then rng.chooseMultiple items limit else items

/-- The answer to a peer that has asked for `count` nodes. -/
def reply (rng : Rng) (items : List Multiaddr) (count : UInt32) : Nodes :=
  toNodes false (selected rng items count)

namespace DiscoveryProtocol

variable (mgr : AddressManager μ) (filters : Filters φ)

/-- `new`. -/
def new (addrMgr : μ) (queryCycle : Option Duration) : DiscoveryProtocol μ φ :=
  { sessions := ∅, dynamicQueryCycle := queryCycle, addrMgr }

/-- `connected`, with an empty filter. -/
def connected (p : DiscoveryProtocol μ φ) (session : SessionContext) (listens : List Multiaddr)
    (addrKnown : φ) : Outcome μ φ :=
  match SessionState.new filters session listens addrKnown with
  | (calls, .ok state) => (calls, .ok { p with sessions := p.sessions.insert session.id state })
  | (calls, .error e) => (calls, .error e)

/-- `disconnected`. -/
def disconnected (p : DiscoveryProtocol μ φ) (id : SessionId) : DiscoveryProtocol μ φ :=
  { p with sessions := p.sessions.erase id }

/-- The closure `check` of `received`: the answer says whether the session is disconnected. -/
def check (addrMgr : μ) (id : SessionId) (behavior : Misbehavior) : μ × List Call × Bool :=
  let (addrMgr, result) := mgr.misbehave addrMgr id behavior
  if result.isDisconnect then (addrMgr, [.misbehave id behavior, .disconnect id], true)
  else (addrMgr, [.misbehave id behavior], false)

/-- The check of a request against the one before. -/
def checkGetNodes (p : DiscoveryProtocol μ φ) (id : SessionId) (state : SessionState φ) :
    μ × List Call × Bool :=
  if state.receivedGetNodes then check mgr p.addrMgr id .duplicateGetNodes
  else (p.addrMgr, [], false)

/-- `received` with a request. -/
def receivedGetNodes (p : DiscoveryProtocol μ φ) (id : SessionId) (count : UInt32)
    (listenPort : Option UInt16) (rng : Rng) : Outcome μ φ :=
  match p.sessions.lookup id with
  | none => ([], .ok p)
  | some state =>
    match p.checkGetNodes mgr id state with
    | (addrMgr, calls, true) => (calls, .ok { p with addrMgr })
    | (addrMgr, calls, false) =>
      -- must get the item first, otherwise it is possible to load the address of peer listen
      let (addrMgr, items) := mgr.getRandom addrMgr 2500
      let state := state.listensOn filters listenPort
      let addrMgr := match listenPort, state.remoteAddr with
        | some _, .listen addr => mgr.addNewAddr addrMgr id addr
        | _, _ => addrMgr
      let state := { state with
        receivedGetNodes := true
        addrKnown := filters.extend state.addrKnown (selected rng items count) }
      match encode (.nodes (reply rng items count)) with
      | none => (calls, .error .encodeMustBeSuccess)
      | some msg =>
        (calls ++ [.sendMessage id msg],
          .ok { p with addrMgr, sessions := p.sessions.insert id state })

/-- `received` with nodes that have passed the check, or whose sender may go on. -/
def acceptNodes (p : DiscoveryProtocol μ φ) (id : SessionId) (nodes : Nodes) :
    List Call × DiscoveryProtocol μ φ :=
  match p.sessions.lookup id with
  | none => ([], p)
  | some state =>
    if !nodes.announce && state.receivedNodes then
      let (addrMgr, calls, _) := check mgr p.addrMgr id .duplicateFirstNodes
      (calls, { p with addrMgr })
    else
      let addrs := nodes.items.flatMap Node.addresses
      -- non-announce nodes can only receive once
      let state := { state with
        addrKnown := filters.extend state.addrKnown addrs
        receivedNodes := state.receivedNodes || !nodes.announce }
      ([], { p with
        sessions := p.sessions.insert id state
        addrMgr := mgr.addNewAddrs p.addrMgr id addrs })

/-- `received` with nodes. -/
def receivedNodes (p : DiscoveryProtocol μ φ) (id : SessionId) (nodes : Nodes) :
    List Call × DiscoveryProtocol μ φ :=
  match verifyNodesMessage nodes with
  | none => p.acceptNodes mgr filters id nodes
  | some misbehavior =>
    match check mgr p.addrMgr id misbehavior with
    | (addrMgr, calls, true) => (calls, { p with addrMgr })
    | (addrMgr, calls, false) =>
      let (calls', p) := { p with addrMgr }.acceptNodes mgr filters id nodes
      (calls ++ calls', p)

/-- `received`. -/
def received (p : DiscoveryProtocol μ φ) (id : SessionId) (data : Bytes) (rng : Rng) :
    Outcome μ φ :=
  match decode data with
  | some (.getNodes _ count listenPort) => p.receivedGetNodes mgr filters id count listenPort rng
  | some (.nodes nodes) =>
    let (calls, p) := p.receivedNodes mgr filters id nodes
    (calls, .ok p)
  | none =>
    let (addrMgr, calls, _) := check mgr p.addrMgr id .invalidData
    (calls, .ok { p with addrMgr })

/-- The announcements the loop of `notify` over the sessions sends. -/
def sendAll : List (Sigma fun _ : SessionId => SessionState φ) → List Call × Except Panic Unit
  | [] => ([], .ok ())
  | ⟨id, state⟩ :: entries =>
    match (state.sendMessages id).2 with
    | .error e => ([], .error e)
    | .ok calls =>
      let (calls', result) := sendAll entries
      (calls ++ calls', result)

/-- What the loop of `notify` makes of a session, and the address it may announce. -/
def swept (now : Instant) (interval : Duration) (id : SessionId) (state : SessionState φ) :
    SessionState φ × Option Multiaddr :=
  (state.sendMessages id).1.checkTimer now interval

/-- An address is to be announced to a session, unless it is known there. -/
def announceTo (addr : Multiaddr) (sessions : AList fun _ : SessionId => SessionState φ)
    (key : SessionId) : AList fun _ : SessionId => SessionState φ :=
  match sessions.lookup key with
  | none => sessions
  | some value =>
    if value.announceMultiaddrs.length < 10 && !filters.contains value.addrKnown addr then
      sessions.insert key { value with
        announceMultiaddrs := value.announceMultiaddrs ++ [addr]
        addrKnown := filters.insert value.addrKnown addr }
    else sessions

/-- The loop of `notify` over the addresses to announce, the `i`-th of which is next. -/
def announceLoop (rng : Rng) : ℕ → List SessionId → List Multiaddr →
    (AList fun _ : SessionId => SessionState φ) → AList fun _ : SessionId => SessionState φ
  | _, _, [], sessions => sessions
  | i, keys, addr :: announceList, sessions =>
    let keys := rng.shuffle i keys
    announceLoop rng (i + 1) keys announceList
      ((keys.take 3).foldl (announceTo filters addr) sessions)

/-- `notify`. -/
def notify (p : DiscoveryProtocol μ φ) (now : Instant) (rng : Rng) : Outcome μ φ :=
  let interval := p.dynamicQueryCycle.getD announceInterval
  match sendAll p.sessions.entries with
  | (calls, .error e) => (calls, .error e)
  | (calls, .ok ()) =>
    let announceList := p.sessions.entries.filterMap fun e =>
      (swept now interval e.1 e.2).2.filter (mgr.isValidAddr p.addrMgr)
    let sessions := mapValues (fun id state => (swept now interval id state).1) p.sessions
    (calls, .ok { p with
      sessions := announceLoop filters rng 0 sessions.keys announceList sessions })

end DiscoveryProtocol

/-! ### Runs -/

/-- An event of the service, with what is drawn at random. -/
inductive Event (φ : Type) where
  | connected (session : SessionContext) (listens : List Multiaddr) (addrKnown : φ)
  | disconnected (id : SessionId)
  | received (id : SessionId) (data : Bytes) (rng : Rng)
  | notify (now : Instant) (rng : Rng)

/-- The number of nodes that are asked for. -/
def Event.requested : Event φ → Option ℕ
  | .received _ data _ =>
    match decode data with
    | some (.getNodes _ count _) => some count.toNat
    | _ => none
  | _ => none

section Runs

variable (mgr : AddressManager μ) (filters : Filters φ)

/-- What the handler does with an event. -/
def handle (p : DiscoveryProtocol μ φ) : Event φ → Outcome μ φ
  | .connected session listens addrKnown => p.connected filters session listens addrKnown
  | .disconnected id => ([], .ok (p.disconnected id))
  | .received id data rng => p.received mgr filters id data rng
  | .notify now rng => p.notify mgr filters now rng

/-- The calls of the handler for an event; there are none after a panic. -/
def calls (s : Except Panic (DiscoveryProtocol μ φ)) (e : Event φ) : List Call :=
  match s with
  | .ok p => (handle mgr filters p e).1
  | .error _ => []

/-- The handler after an event. -/
def step (s : Except Panic (DiscoveryProtocol μ φ)) (e : Event φ) :
    Except Panic (DiscoveryProtocol μ φ) :=
  match s with
  | .ok p => (handle mgr filters p e).2
  | .error panic => .error panic

/-- **Sender and receiver agree**: the nodes that are sent are accepted, and there are no more
of them than were asked for. -/
structure Agrees (s : Except Panic (DiscoveryProtocol μ φ)) (e : Event φ) : Prop where
  accepted : ∀ id data nodes, Call.sendMessage id data ∈ calls mgr filters s e →
    decode data = some (.nodes nodes) → verifyNodesMessage nodes = none
  counted : ∀ id data nodes count, Call.sendMessage id data ∈ calls mgr filters s e →
    decode data = some (.nodes nodes) → e.requested = some count → nodes.items.length ≤ count

/-- The addresses the storage offers for a request of a session. -/
def DiscoveryProtocol.offered (p : DiscoveryProtocol μ φ) (id : SessionId) : List Multiaddr :=
  match p.sessions.lookup id with
  | some state => (mgr.getRandom (p.checkGetNodes mgr id state).1 2500).2
  | none => []

/-- A request is answered: the session is known, it asks for the first time or may ask again, and
the addresses can be encoded. -/
def DiscoveryProtocol.Answers (p : DiscoveryProtocol μ φ) (id : SessionId) (count : UInt32)
    (rng : Rng) : Prop :=
  ∃ state, p.sessions.lookup id = some state ∧
    (state.receivedGetNodes = false ∨
      (check mgr p.addrMgr id .duplicateGetNodes).2.2 = false) ∧
    ∃ msg, encode (.nodes (reply rng (p.offered mgr id) count)) = some msg

/-- A request that is answered is for the number that is accepted, or the storage offers no more
addresses than are asked for and accepted. -/
def Fits (s : Except Panic (DiscoveryProtocol μ φ)) : Event φ → Prop
  | .received id data rng => ∀ p v count port, s = .ok p →
    decode data = some (.getNodes v count port) → p.Answers mgr id count rng →
    count.toNat = maxAddrToSend ∨ (p.offered mgr id).length ≤ min maxAddrToSend count.toNat
  | _ => True

end Runs

/-! ### What is accepted -/

/-- Nodes with one address each are only refused when there are too many of them. -/
theorem verifyNodesMessage_toNodes (announce : Bool) (addrs : List Multiaddr) :
    verifyNodesMessage (toNodes announce addrs) = none ↔
      addrs.length ≤ if announce then announceThreshold else maxAddrToSend := by
  have hfind : (toNodes announce addrs).items.find? (fun item => item.addresses.length > maxAddrs)
      = none := by
    rw [List.find?_eq_none]
    intro item hitem
    obtain ⟨addr, -, rfl⟩ := List.mem_map.mp hitem
    simp [maxAddrs]
  have hlength : (toNodes announce addrs).items.length = addrs.length := List.length_map _
  have hverify : verifyNodesMessage (toNodes announce addrs)
      = verifyLength (toNodes announce addrs) := by
    unfold verifyNodesMessage
    rw [hfind]
    cases verifyLength (toNodes announce addrs) <;> rfl
  rw [hverify, verifyLength, hlength]
  cases announce <;> simp [toNodes]

theorem length_selected (rng : Rng) (items : List Multiaddr) (count : UInt32) :
    (selected rng items count).length = min (max maxAddrToSend count.toNat) items.length := by
  unfold selected
  dsimp only
  split_ifs with hmore
  · exact rng.length_chooseMultiple _ _
  · omega

/-- **When an answer is good.** -/
theorem reply_ok_iff (rng : Rng) (items : List Multiaddr) (count : UInt32) :
    verifyNodesMessage (reply rng items count) = none ∧
        (reply rng items count).items.length ≤ count.toNat ↔
      count.toNat = maxAddrToSend ∨ items.length ≤ min maxAddrToSend count.toNat := by
  have hlength : (reply rng items count).items.length = (selected rng items count).length :=
    List.length_map _
  rw [hlength, reply, verifyNodesMessage_toNodes, length_selected, maxAddrToSend]
  simp only [Bool.false_eq_true, if_false]
  omega

/-! ### What is sent -/

namespace DiscoveryProtocol

variable {mgr : AddressManager μ} {filters : Filters φ} {p : DiscoveryProtocol μ φ}
  {id id' : SessionId} {data : Bytes}

theorem sendMessage_notMem_check (addrMgr : μ) (behavior : Misbehavior) :
    Call.sendMessage id' data ∉ (check mgr addrMgr id behavior).2.1 := by
  unfold check
  dsimp only
  split_ifs <;> simp

theorem sendMessage_notMem_checkGetNodes (state : SessionState φ) :
    Call.sendMessage id' data ∉ (p.checkGetNodes mgr id state).2.1 := by
  unfold checkGetNodes
  split_ifs
  · exact sendMessage_notMem_check _ _
  · simp

/-- A session that connects has nothing to announce, and is at most sent a request. -/
theorem new_eq (filters : Filters φ) (session : SessionContext) (listens : List Multiaddr)
    (addrKnown : φ) :
    ∃ calls state, SessionState.new filters session listens addrKnown = (calls, .ok state) ∧
      state.announceMultiaddrs = [] ∧ ∀ id data, Call.sendMessage id data ∈ calls →
        ∃ count port, decode data = some (.getNodes version count port) := by
  unfold SessionState.new
  dsimp only
  split_ifs
  · obtain ⟨msg, hencode⟩ := encode_getNodes version (UInt32.ofNat maxAddrToSend)
      ((listens.filterMap multiaddrToSocketaddr).map SocketAddr.port).head?
    rw [hencode]
    refine ⟨_, _, rfl, rfl, ?_⟩
    intro id data hmem
    obtain ⟨-, rfl⟩ := Call.sendMessage.inj (List.mem_singleton.mp hmem)
    exact ⟨_, _, decode_of_encode hencode⟩
  · exact ⟨_, _, rfl, rfl, nofun⟩

theorem decode_of_mem_connected {session : SessionContext} {listens : List Multiaddr}
    {addrKnown : φ}
    (h : Call.sendMessage id data ∈ (p.connected filters session listens addrKnown).1) :
    ∃ count port, decode data = some (.getNodes version count port) := by
  obtain ⟨calls, state, hnew, -, hsent⟩ := new_eq filters session listens addrKnown
  unfold connected at h
  rw [hnew] at h
  exact hsent id data h

theorem checkGetNodes_eq_false_iff {state : SessionState φ} :
    (p.checkGetNodes mgr id state).2.2 = false ↔ state.receivedGetNodes = false ∨
      (check mgr p.addrMgr id .duplicateGetNodes).2.2 = false := by
  unfold checkGetNodes
  cases state.receivedGetNodes <;> simp

/-- What is sent for a request is the answer. -/
theorem mem_receivedGetNodes_iff {count : UInt32} {listenPort : Option UInt16} {rng : Rng} :
    Call.sendMessage id' data ∈ (p.receivedGetNodes mgr filters id count listenPort rng).1 ↔
      id' = id ∧ p.Answers mgr id count rng ∧
        encode (.nodes (reply rng (p.offered mgr id) count)) = some data := by
  unfold receivedGetNodes Answers offered
  cases hlookup : p.sessions.lookup id with
  | none => simp
  | some state =>
    have hcheck : Call.sendMessage id' data ∉ (p.checkGetNodes mgr id state).2.1 :=
      sendMessage_notMem_checkGetNodes state
    simp only [Option.some_inj, exists_eq_left', ← checkGetNodes_eq_false_iff]
    generalize p.checkGetNodes mgr id state = checked at hcheck ⊢
    obtain ⟨addrMgr, calls, cut⟩ := checked
    cases cut with
    | true => simpa using hcheck
    | false =>
      dsimp only at hcheck ⊢
      cases hencode : encode (.nodes (reply rng (mgr.getRandom addrMgr 2500).2 count)) with
      | none => simpa using hcheck
      | some msg => simp [hcheck, eq_comm (a := data)]

/-- Nothing is sent for nodes. -/
theorem sendMessage_notMem_acceptNodes (nodes : Nodes) :
    Call.sendMessage id' data ∉ (p.acceptNodes mgr filters id nodes).1 := by
  unfold acceptNodes
  cases p.sessions.lookup id with
  | none => simp
  | some state =>
    dsimp only
    split_ifs
    · exact sendMessage_notMem_check _ _
    · simp

theorem sendMessage_notMem_receivedNodes (nodes : Nodes) :
    Call.sendMessage id' data ∉ (p.receivedNodes mgr filters id nodes).1 := by
  unfold receivedNodes
  cases verifyNodesMessage nodes with
  | none => exact sendMessage_notMem_acceptNodes nodes
  | some misbehavior =>
    have hcheck : Call.sendMessage id' data ∉ (check mgr p.addrMgr id misbehavior).2.1 :=
      sendMessage_notMem_check _ _
    dsimp only
    generalize check mgr p.addrMgr id misbehavior = checked at hcheck ⊢
    obtain ⟨addrMgr, calls, cut⟩ := checked
    cases cut with
    | true => exact hcheck
    | false =>
      intro h
      rcases List.mem_append.mp h with h | h
      · exact hcheck h
      · exact sendMessage_notMem_acceptNodes nodes h

/-- What is sent at a notification is what a session has to announce. -/
theorem encode_of_mem_sendAll {entries : List (Sigma fun _ : SessionId => SessionState φ)}
    (h : Call.sendMessage id data ∈ (sendAll entries).1) :
    ∃ e ∈ entries, encode (.nodes (toNodes true e.2.announceMultiaddrs)) = some data := by
  induction entries with
  | nil => cases h
  | cons e entries ih =>
    obtain ⟨id', state⟩ := e
    rw [sendAll] at h
    unfold SessionState.sendMessages at h
    split at h
    · cases h
    · next calls hsend =>
      rcases List.mem_append.mp h with h | h
      · split_ifs at hsend
        · cases hsend
          cases h
        · dsimp only at hsend
          split at hsend
          · cases hsend
          · next msg hencode =>
            cases hsend
            obtain ⟨-, rfl⟩ := Call.sendMessage.inj (List.mem_singleton.mp h)
            exact ⟨⟨id', state⟩, List.mem_cons_self, hencode⟩
      · obtain ⟨e, he, hencode⟩ := ih h
        exact ⟨e, List.mem_cons_of_mem _ he, hencode⟩

theorem calls_notify (now : Instant) (rng : Rng) :
    (p.notify mgr filters now rng).1 = (sendAll p.sessions.entries).1 := by
  unfold notify
  dsimp only
  split
  · next calls e hsend => rw [hsend]
  · next calls hsend => rw [hsend]

end DiscoveryProtocol

/-! ### What is to be announced -/

section Inv

variable {mgr : AddressManager μ} {filters : Filters φ}

/-- No session has more to announce than is accepted. -/
def Bounded (sessions : AList fun _ : SessionId => SessionState φ) : Prop :=
  ∀ id state, sessions.lookup id = some state → state.announceMultiaddrs.length ≤ announceThreshold

variable {sessions : AList fun _ : SessionId => SessionState φ}

theorem Bounded.insert (h : Bounded sessions) (id : SessionId) {state : SessionState φ}
    (hstate : state.announceMultiaddrs.length ≤ announceThreshold) :
    Bounded (sessions.insert id state) := by
  intro id' state' hlookup
  rcases lookup_insert_eq_some_iff.mp hlookup with ⟨rfl, rfl⟩ | ⟨-, hlookup⟩
  · exact hstate
  · exact h id' state' hlookup

theorem Bounded.erase (h : Bounded sessions) (id : SessionId) : Bounded (sessions.erase id) := by
  intro id' state hlookup
  exact h id' state (lookup_erase_eq_some_iff.mp hlookup).2

/-- One more address, only if there are fewer than ten. -/
theorem Bounded.announceTo (h : Bounded sessions) (addr : Multiaddr) (key : SessionId) :
    Bounded (DiscoveryProtocol.announceTo filters addr sessions key) := by
  unfold DiscoveryProtocol.announceTo
  cases sessions.lookup key with
  | none => exact h
  | some value =>
    dsimp only
    split_ifs with hfew
    · refine h.insert key ?_
      have hten : value.announceMultiaddrs.length < 10 := by
        simp only [Bool.and_eq_true, decide_eq_true_eq] at hfew
        exact hfew.1
      rw [List.length_append, announceThreshold, List.length_singleton]
      omega
    · exact h

theorem Bounded.foldl_announceTo (h : Bounded sessions) (addr : Multiaddr) (keys : List SessionId) :
    Bounded (keys.foldl (DiscoveryProtocol.announceTo filters addr) sessions) := by
  induction keys generalizing sessions with
  | nil => exact h
  | cons key keys ih => exact ih (h.announceTo addr key)

theorem Bounded.announceLoop (h : Bounded sessions) (rng : Rng) (i : ℕ) (keys : List SessionId)
    (announceList : List Multiaddr) :
    Bounded (DiscoveryProtocol.announceLoop filters rng i keys announceList sessions) := by
  induction announceList generalizing i keys sessions with
  | nil => exact h
  | cons addr announceList ih => exact ih (h.foldl_announceTo addr _) _ _

/-- A session has nothing more to announce than before. -/
theorem length_swept (now : Instant) (interval : Duration) (id : SessionId)
    (state : SessionState φ) :
    (DiscoveryProtocol.swept now interval id state).1.announceMultiaddrs.length
      ≤ state.announceMultiaddrs.length := by
  unfold DiscoveryProtocol.swept SessionState.checkTimer SessionState.sendMessages
  split_ifs <;> simp

theorem Bounded.swept (h : Bounded sessions) (now : Instant) (interval : Duration) :
    Bounded (mapValues (fun id state => (DiscoveryProtocol.swept now interval id state).1)
      sessions) := by
  intro id state hlookup
  rw [lookup_mapValues] at hlookup
  obtain ⟨state', hstate, rfl⟩ := Option.map_eq_some_iff.mp hlookup
  exact (length_swept now interval id state').trans (h id state' hstate)

/-- The handler, as long as it has not panicked, has no session with too much to announce. -/
def Inv (s : Except Panic (DiscoveryProtocol μ φ)) : Prop := ∀ p, s = .ok p → Bounded p.sessions

variable {p : DiscoveryProtocol μ φ}

theorem inv_new (addrMgr : μ) (queryCycle : Option Duration) :
    Inv (.ok (.new addrMgr queryCycle : DiscoveryProtocol μ φ)) := by
  rintro p ⟨⟩ id state hlookup
  cases hlookup

theorem inv_connected (h : Bounded p.sessions) (session : SessionContext)
    (listens : List Multiaddr) (addrKnown : φ) :
    Inv (p.connected filters session listens addrKnown).2 := by
  obtain ⟨calls, state, hnew, hnone, -⟩ :=
    DiscoveryProtocol.new_eq filters session listens addrKnown
  unfold DiscoveryProtocol.connected
  rw [hnew]
  rintro p' ⟨⟩
  refine h.insert session.id ?_
  rw [hnone]
  exact Nat.zero_le _

theorem inv_receivedGetNodes (h : Bounded p.sessions) (id : SessionId) (count : UInt32)
    (listenPort : Option UInt16) (rng : Rng) :
    Inv (p.receivedGetNodes mgr filters id count listenPort rng).2 := by
  unfold DiscoveryProtocol.receivedGetNodes
  cases hlookup : p.sessions.lookup id with
  | none =>
    rintro p' ⟨⟩
    exact h
  | some state =>
    have hstate := h id state hlookup
    rw [← state.announceMultiaddrs_listensOn filters listenPort] at hstate
    dsimp only
    obtain ⟨addrMgr, calls, cut⟩ := p.checkGetNodes mgr id state
    cases cut with
    | true =>
      rintro p' ⟨⟩
      exact h
    | false =>
      dsimp only
      intro p' hp'
      split at hp'
      · cases hp'
      · cases hp'
        exact h.insert id hstate

theorem bounded_acceptNodes (h : Bounded p.sessions) (id : SessionId) (nodes : Nodes) :
    Bounded (p.acceptNodes mgr filters id nodes).2.sessions := by
  unfold DiscoveryProtocol.acceptNodes
  cases hlookup : p.sessions.lookup id with
  | none => exact h
  | some state =>
    dsimp only
    split_ifs
    · exact h
    · exact h.insert id (h id state hlookup)

theorem bounded_receivedNodes (h : Bounded p.sessions) (id : SessionId) (nodes : Nodes) :
    Bounded (p.receivedNodes mgr filters id nodes).2.sessions := by
  unfold DiscoveryProtocol.receivedNodes
  cases verifyNodesMessage nodes with
  | none => exact bounded_acceptNodes h id nodes
  | some misbehavior =>
    dsimp only
    obtain ⟨addrMgr, calls, cut⟩ := DiscoveryProtocol.check mgr p.addrMgr id misbehavior
    cases cut with
    | true => exact h
    | false => exact bounded_acceptNodes (p := { p with addrMgr }) h id nodes

theorem inv_notify (h : Bounded p.sessions) (now : Instant) (rng : Rng) :
    Inv (p.notify mgr filters now rng).2 := by
  unfold DiscoveryProtocol.notify
  dsimp only
  intro p' hp'
  split at hp'
  · cases hp'
  · cases hp'
    exact (h.swept now _).announceLoop rng 0 _ _

theorem inv_step {s : Except Panic (DiscoveryProtocol μ φ)} (h : Inv s) (e : Event φ) :
    Inv (step mgr filters s e) := by
  cases s with
  | error panic => exact h
  | ok p =>
    have hp := h p rfl
    cases e with
    | connected session listens addrKnown => exact inv_connected hp session listens addrKnown
    | disconnected id =>
      rintro p' ⟨⟩
      exact hp.erase id
    | received id data rng =>
      change Inv (p.received mgr filters id data rng).2
      unfold DiscoveryProtocol.received
      split
      · exact inv_receivedGetNodes hp id _ _ rng
      · rintro p' ⟨⟩
        exact bounded_receivedNodes hp id _
      · rintro p' ⟨⟩
        exact hp
    | notify now rng => exact inv_notify hp now rng

/-! ### Sender and receiver -/

theorem requested_eq_some_iff {e : Event φ} {count : ℕ} :
    e.requested = some count ↔ ∃ id data rng v n port, e = .received id data rng ∧
      decode data = some (.getNodes v n port) ∧ n.toNat = count := by
  constructor
  · intro he
    cases e with
    | received id data rng =>
      dsimp only [Event.requested] at he
      split at he
      · next v n port hdecode =>
        exact ⟨id, data, rng, v, n, port, rfl, hdecode, Option.some.inj he⟩
      · cases he
    | _ => cases he
  · rintro ⟨id, data, rng, v, n, port, rfl, hdecode, rfl⟩
    dsimp only [Event.requested]
    rw [hdecode]

/-- Nodes that are sent without a request are accepted. -/
theorem accepted_of_requested_eq_none (h : Bounded p.sessions) {e : Event φ}
    (he : e.requested = none) {id : SessionId} {data : Bytes} {nodes : Nodes}
    (hmem : Call.sendMessage id data ∈ (handle mgr filters p e).1)
    (hnodes : decode data = some (.nodes nodes)) : verifyNodesMessage nodes = none := by
  cases e with
  | connected session listens addrKnown =>
    obtain ⟨count, port, hdecode⟩ := DiscoveryProtocol.decode_of_mem_connected hmem
    rw [hdecode] at hnodes
    cases hnodes
  | disconnected id => cases hmem
  | received id data rng =>
    change Call.sendMessage _ _ ∈ (p.received mgr filters id data rng).1 at hmem
    unfold DiscoveryProtocol.received at hmem
    split at hmem
    · next v n port hdecode =>
      rw [requested_eq_some_iff.mpr ⟨id, data, rng, v, n, port, rfl, hdecode, rfl⟩] at he
      cases he
    · exact absurd hmem (DiscoveryProtocol.sendMessage_notMem_receivedNodes _)
    · exact absurd hmem (DiscoveryProtocol.sendMessage_notMem_check _ _)
  | notify now rng =>
    change Call.sendMessage _ _ ∈ (p.notify mgr filters now rng).1 at hmem
    rw [DiscoveryProtocol.calls_notify] at hmem
    obtain ⟨⟨id', state⟩, hentry, hencode⟩ := DiscoveryProtocol.encode_of_mem_sendAll hmem
    rw [decode_of_encode hencode] at hnodes
    cases hnodes
    exact (verifyNodesMessage_toNodes true _).mpr (h id' state (AList.mem_lookup_iff.mpr hentry))

/-- What is sent for a request is the answer. -/
theorem sent_of_requested {id id' : SessionId} {data msg : Bytes} {rng : Rng} {v n : UInt32}
    {port : Option UInt16} (hdecode : decode data = some (.getNodes v n port))
    (hmem : Call.sendMessage id' msg ∈ (handle mgr filters p (.received id data rng)).1) :
    p.Answers mgr id n rng ∧ decode msg = some (.nodes (reply rng (p.offered mgr id) n)) := by
  change Call.sendMessage _ _ ∈ (p.received mgr filters id data rng).1 at hmem
  unfold DiscoveryProtocol.received at hmem
  rw [hdecode] at hmem
  obtain ⟨-, hanswers, hencode⟩ := DiscoveryProtocol.mem_receivedGetNodes_iff.mp hmem
  exact ⟨hanswers, decode_of_encode hencode⟩

/-- At one event. -/
theorem agrees_iff {s : Except Panic (DiscoveryProtocol μ φ)} (h : Inv s) (e : Event φ) :
    Agrees mgr filters s e ↔ Fits mgr s e := by
  constructor
  · intro hagrees
    cases e with
    | received id data rng =>
      rintro p v n port rfl hdecode hanswers
      obtain ⟨msg, hencode⟩ : ∃ msg, encode (.nodes (reply rng (p.offered mgr id) n)) = some msg :=
        hanswers.choose_spec.2.2
      have hmem : Call.sendMessage id msg ∈ calls mgr filters (.ok p) (.received id data rng) := by
        change _ ∈ (p.received mgr filters id data rng).1
        rw [DiscoveryProtocol.received, hdecode]
        exact DiscoveryProtocol.mem_receivedGetNodes_iff.mpr ⟨rfl, hanswers, hencode⟩
      have hcount : Event.requested (φ := φ) (.received id data rng) = some n.toNat :=
        requested_eq_some_iff.mpr ⟨id, data, rng, v, n, port, rfl, hdecode, rfl⟩
      have hmsg := decode_of_encode hencode
      exact (reply_ok_iff rng (p.offered mgr id) n).mp
        ⟨hagrees.accepted id msg _ hmem hmsg, hagrees.counted id msg _ _ hmem hmsg hcount⟩
    | connected | disconnected | notify => trivial
  · intro hfits
    cases s with
    | error panic =>
      constructor
      · rintro _ _ _ ⟨⟩
      · rintro _ _ _ _ ⟨⟩
    | ok p =>
      cases hcount : e.requested with
      | none =>
        constructor
        · intro peer msg nodes hmem hnodes
          exact accepted_of_requested_eq_none (h p rfl) hcount hmem hnodes
        · intro peer msg nodes count hmem hnodes hcount'
          rw [hcount] at hcount'
          cases hcount'
      | some count =>
        obtain ⟨id, data, rng, v, n, port, rfl, hdecode, rfl⟩ := requested_eq_some_iff.mp hcount
        -- the answer is the only message
        have hreply : ∀ peer msg nodes,
            Call.sendMessage peer msg ∈ calls mgr filters (.ok p) (.received id data rng) →
            decode msg = some (.nodes nodes) →
            verifyNodesMessage nodes = none ∧ nodes.items.length ≤ n.toNat := by
          intro peer msg nodes hmem hnodes
          obtain ⟨hanswers, hmsg⟩ := sent_of_requested hdecode hmem
          rw [hmsg] at hnodes
          cases hnodes
          exact (reply_ok_iff rng (p.offered mgr id) n).mpr (hfits p v n port rfl hdecode hanswers)
        constructor
        · intro peer msg nodes hmem hnodes
          exact (hreply peer msg nodes hmem hnodes).1
        · intro peer msg nodes count hmem hnodes hcount'
          rw [hcount] at hcount'
          cases hcount'
          exact (hreply peer msg nodes hmem hnodes).2

/-- **When sender and receiver agree.**  In every run, for every storage of addresses and every
filter, all the nodes that are sent are accepted by the receiver and no answer has more nodes
than were asked for, if and only if for each request that is answered, either the number that is
asked for is the number that is accepted, or the storage offers no more addresses than are asked
for and accepted. -/
theorem discovery_agrees_iff (mgr : AddressManager μ) (filters : Filters φ) (addrMgr : μ)
    (queryCycle : Option Duration) (events : List (Event φ)) :
    Guarded (step mgr filters) (Agrees mgr filters) (.ok (.new addrMgr queryCycle)) events ↔
      Guarded (step mgr filters) (Fits mgr) (.ok (.new addrMgr queryCycle)) events :=
  guarded_congr (I := Inv) (fun _ e hs _ => inv_step hs e) (fun _ e hs _ => agrees_iff hs e)
    (inv_new addrMgr queryCycle) (guarded_of_forall_mem (fun _ _ => trivial) _)

end Inv

/-! ### Requests that do not fit -/

/-- A storage with fixed addresses, which lets everything pass. -/
def fixedStore (addrs : List Multiaddr) : AddressManager Unit where
  isValidAddr _ _ := true
  addNewAddr _ _ _ := ()
  addNewAddrs _ _ _ := ()
  misbehave _ _ _ := ((), .carryOn)
  getRandom _ _ := ((), addrs)

/-- A filter that remembers everything. -/
def exactFilters : Filters (List Multiaddr) where
  insert known addr := addr :: known
  contains known addr := addr ∈ known

/-- The first ones are drawn, and the order stays. -/
def firstRng : Rng where
  shuffle _ keys := keys
  chooseMultiple items amount := items.take amount
  shuffle_perm _ keys := List.Perm.refl keys
  chooseMultiple_subperm items amount := (List.take_sublist amount items).subperm
  length_chooseMultiple _ _ := List.length_take

/-- A request. -/
def getNodes (count : UInt32) : Bytes := (encode (.getNodes version count none)).getD []

/-- **A request for one node is answered with two, and one for two thousand with more than the
receiver accepts.** -/
theorem reply_too_long :
    calls (fixedStore [loopback, loopbackWss]) exactFilters
        (runFrom (step (fixedStore [loopback, loopbackWss]) exactFilters) (.ok (.new () none))
          [.connected secured [] []])
        (.received 1 (getNodes 1) firstRng)
      = [.sendMessage 1
          ((encode (.nodes (toNodes false [loopback, loopbackWss]))).getD [])] ∧
    verifyNodesMessage (reply firstRng (List.replicate 1001 loopback) 2000)
      = some (.tooManyItems false 1001) := by
  decide +kernel

end Discovery
end Protocols
end CkbP2P
