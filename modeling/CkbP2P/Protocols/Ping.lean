import CkbP2P.Lib.Entries
import CkbP2P.Lib.Molecule
import CkbP2P.Lib.Run
import CkbP2P.Tentacle.Types

/-!
# The ping protocol

A peer is sent a ping with a number in it from time to time, and is to send the number back
in a pong.  The handler keeps a status for each session: whether a ping is on its way, when
the last one was sent and its number.  A pong that nobody waits for gets its session
disconnected; a ping that is not answered in time is reported.

Whether a ping is on its way is read in three places and cleared in one, but set in none.

The calls of the handler are returned as a list, in order.  The clock is read where the source
reads it.
-/

namespace CkbP2P
namespace Protocols
namespace Ping

open Lib Tentacle

def sendPingToken : UInt64 := 0

def checkTimeoutToken : UInt64 := 1

/-! ### Messages -/

inductive PingPayload where
  | ping (nonce : UInt32)
  | pong (nonce : UInt32)
  deriving DecidableEq, Repr

/-- A message whose union has the given item: a table with the number. -/
def buildMessage (item : ℕ) (nonce : UInt32) : Bytes :=
  Molecule.packMessage item (Molecule.packTable [Molecule.packNumber nonce.toNat])

/-- `build_ping`. -/
def buildPing (nonce : UInt32) : Bytes := buildMessage 0 nonce

/-- `build_pong`. -/
def buildPong (nonce : UInt32) : Bytes := buildMessage 1 nonce

/-- The number of a ping or pong. -/
def unpackNonce (slice : Bytes) : Option UInt32 :=
  match Molecule.splitTable 1 slice with
  | some [nonce] => Molecule.unpackU32 nonce
  | _ => none

/-- The item of the union, by its number in the schema. -/
def PingPayload.ofItem : ℕ → UInt32 → Option PingPayload
  | 0, nonce => some (.ping nonce)
  | 1, nonce => some (.pong nonce)
  | _, _ => none

/-- `decode`. -/
def decode (data : Bytes) : Option PingPayload := do
  let (item, value) ← Molecule.unpackMessage data
  let nonce ← unpackNonce value
  PingPayload.ofItem item nonce

theorem unpackNonce_packTable (nonce : UInt32) :
    unpackNonce (Molecule.packTable [Molecule.packNumber nonce.toNat]) = some nonce := by
  have hsplit : Molecule.splitTable 1 (Molecule.packTable [Molecule.packNumber nonce.toNat])
      = some [Molecule.packNumber nonce.toNat] :=
    Molecule.splitTable_of_length rfl (by rw [Molecule.length_packTable]; simp)
  unfold unpackNonce
  rw [hsplit]
  exact Molecule.unpackU32_packNumber nonce

/-- What a message is decoded to. -/
theorem decode_buildMessage {item : ℕ} (hitem : item < 2 ^ 32) (nonce : UInt32) :
    decode (buildMessage item nonce) = PingPayload.ofItem item nonce := by
  have hsize : (buildMessage item nonce).length < 2 ^ 32 := by
    rw [buildMessage, Molecule.length_packMessage, Molecule.length_packTable]
    simp
  unfold decode
  rw [buildMessage, Molecule.unpackMessage_packMessage hitem hsize]
  simp [unpackNonce_packTable]

/-- **A ping survives the wire.** -/
theorem decode_buildPing (nonce : UInt32) : decode (buildPing nonce) = some (.ping nonce) :=
  decode_buildMessage (by decide) nonce

/-! ### The handler -/

/-- What the handler does to its environment: calls of its callback and of the context. -/
inductive Call where
  | sendMessage (id : SessionId) (data : Bytes)
  | filterBroadcast (peers : List SessionId) (data : Bytes)
  | disconnect (id : SessionId)
  | receivedPing (id : SessionId)
  | receivedPong (id : SessionId) (time : Duration)
  | timeout (id : SessionId)
  | unexpectedError (id : SessionId)
  deriving DecidableEq, Repr

inductive Panic where
  | unknownToken (token : UInt64)
  deriving DecidableEq, Repr

structure PingStatus where
  /-- Are we currently pinging this peer? -/
  processing : Bool
  lastPing : Instant
  nonce : UInt32
  deriving DecidableEq, Repr

structure PingHandler where
  interval : Duration
  timeout : Duration
  connectedSessionIds : AList fun _ : SessionId => PingStatus
  unixEpoch : Instant

/-- `nonce`. -/
def nonce (t unixEpoch : Instant) : UInt32 := UInt32.ofNat (asSecs (t - unixEpoch))

namespace PingHandler

/-- `new`. -/
def new (interval timeout : Duration) (unixEpoch : Instant) : PingHandler :=
  { interval, timeout, connectedSessionIds := ∅, unixEpoch }

/-- `connected`. -/
def connected (h : PingHandler) (session : SessionContext) (now : Instant) :
    PingHandler × List Call :=
  match session.remotePubkey with
  | some _ =>
    match h.connectedSessionIds.lookup session.id with
    | some _ => (h, [])
    | none =>
      let status := { lastPing := now, processing := false, nonce := 0 }
      ({ h with connectedSessionIds := h.connectedSessionIds.insert session.id status }, [])
  | none => (h, [.disconnect session.id])

/-- `disconnected`. -/
def disconnected (h : PingHandler) (id : SessionId) : PingHandler :=
  { h with connectedSessionIds := h.connectedSessionIds.erase id }

/-- The pong of a session. -/
def receivedPong (h : PingHandler) (id : SessionId) (nonce : UInt32) (now : Instant) :
    PingHandler × List Call :=
  match h.connectedSessionIds.lookup id with
  | some status =>
    if (true, nonce) = (status.processing, status.nonce) then
      ({ h with connectedSessionIds :=
          h.connectedSessionIds.insert id { status with processing := false } },
        [.receivedPong id (now - status.lastPing)])
    else (h, [.disconnect id])
  | none => (h, [.disconnect id])

/-- `received`. -/
def received (h : PingHandler) (id : SessionId) (data : Bytes) (now : Instant) :
    PingHandler × List Call :=
  match decode data with
  | none => (h, [.unexpectedError id])
  | some (.ping nonce) => (h, [.sendMessage id (buildPong nonce), .receivedPing id])
  | some (.pong nonce) => h.receivedPong id nonce now

/-- A status after a ping, unless one is on its way. -/
def pinged (now : Instant) (sendNonce : UInt32) (ps : PingStatus) : PingStatus :=
  if ps.processing then ps else { ps with lastPing := now, nonce := sendNonce }

/-- The sessions that are sent a ping. -/
def peers (h : PingHandler) : List SessionId :=
  (h.connectedSessionIds.entries.filter fun e => !e.2.processing).map Sigma.fst

/-- `notify` with the token to send pings. -/
def sendPing (h : PingHandler) (now : Instant) : PingHandler × List Call :=
  let sendNonce := nonce now h.unixEpoch
  ({ h with connectedSessionIds :=
      mapValues (fun _ => pinged now sendNonce) h.connectedSessionIds },
    if h.peers.isEmpty then [] else [.filterBroadcast h.peers (buildPing sendNonce)])

/-- `notify` with the token to look for pings that are not answered. -/
def checkTimeout (h : PingHandler) (clock : SessionId → Instant) : List Call :=
  (h.connectedSessionIds.entries.filter fun e =>
    e.2.processing && decide (clock e.1 - e.2.lastPing ≥ h.timeout)).map fun e => .timeout e.1

/-- `notify`. -/
def notify (h : PingHandler) (token : UInt64) (now : Instant) (clock : SessionId → Instant) :
    Except Panic (PingHandler × List Call) :=
  if token = sendPingToken then .ok (h.sendPing now)
  else if token = checkTimeoutToken then .ok (h, h.checkTimeout clock)
  else .error (.unknownToken token)

end PingHandler

/-! ### Runs -/

/-- An event of the service, with the readings of the clock.  The clock is read for each session
that is checked. -/
inductive Event where
  | connected (session : SessionContext) (now : Instant)
  | disconnected (id : SessionId)
  | received (id : SessionId) (data : Bytes) (now : Instant)
  | notify (token : UInt64) (now : Instant) (clock : SessionId → Instant)

/-- The session that sends a pong, and the number of the pong. -/
def Event.answer : Event → Option (SessionId × UInt32)
  | .received id data _ =>
    match decode data with
    | some (.pong nonce) => some (id, nonce)
    | _ => none
  | _ => none

/-- A ping on its way. -/
structure Sent where
  nonce : UInt32
  time : Instant
  deriving DecidableEq, Repr

/-- The number of the ping that a call sends to a session. -/
def Call.ping (id : SessionId) : Call → Option UInt32
  | .filterBroadcast peers data =>
    match decode data with
    | some (.ping nonce) => if id ∈ peers then some nonce else none
    | _ => none
  | _ => none

/-- The number of the ping that is sent to a session. -/
def pingTo (id : SessionId) (calls : List Call) : Option UInt32 := calls.findSome? (Call.ping id)

/-- For each session the first ping that has not been answered. -/
abbrev Pending := SessionId → Option Sent

/-- An answer clears the ping with its number. -/
def cleared (pending : Pending) : Option (SessionId × UInt32) → Pending
  | some (id, n) =>
    if (pending id).map Sent.nonce = some n then Function.update pending id none else pending
  | none => pending

/-- The pings that have not been answered after an event, with the calls of the handler. -/
def record (pending : Pending) (calls : List Call) : Event → Pending
  | .connected _ _ => pending
  | .disconnected id => Function.update pending id none
  | .received id data now => cleared pending (Event.received id data now).answer
  | .notify _ now _ => fun id => (pending id).or ((pingTo id calls).map fun n => ⟨n, now⟩)

/-- A handler together with the pings that have not been answered. -/
structure Watched where
  handler : PingHandler
  pending : Pending

/-- What the handler does with an event. -/
def handle (h : PingHandler) : Event → Except Panic (PingHandler × List Call)
  | .connected session now => .ok (h.connected session now)
  | .disconnected id => .ok (h.disconnected id, [])
  | .received id data now => .ok (h.received id data now)
  | .notify token now clock => h.notify token now clock

/-- The calls of the handler for an event. -/
def calls (w : Watched) (e : Event) : List Call :=
  match handle w.handler e with
  | .ok (_, calls) => calls
  | .error _ => []

/-- The state after an event; a handler that panics is left as it was. -/
def step (w : Watched) (e : Event) : Watched where
  handler := match handle w.handler e with
    | .ok (h, _) => h
    | .error _ => w.handler
  pending := record w.pending (calls w e) e

/-- A handler before its first event. -/
def start (interval timeout : Duration) (unixEpoch : Instant) : Watched :=
  ⟨.new interval timeout unixEpoch, fun _ => none⟩

/-- Honest peers: a pong answers the ping on its way, and there is none on its way to a session
that is sent one.  The handler is notified with its own tokens. -/
structure Honest (w : Watched) (e : Event) : Prop where
  answer : ∀ id n, e.answer = some (id, n) → (w.pending id).map Sent.nonce = some n
  before : ∀ id, (pingTo id (calls w e)).isSome → w.pending id = none
  token : ∀ token now clock, e = .notify token now clock →
    token = sendPingToken ∨ token = checkTimeoutToken

/-- The call tells of a pong of the session. -/
def Call.isPong (id : SessionId) : Call → Bool
  | .receivedPong id' _ => id' == id
  | _ => false

/-- The peers are served well: only a session without a public key is disconnected, when it
connects, and there is one call for each answer. -/
structure Served (w : Watched) (e : Event) : Prop where
  kept : ∀ id, Call.disconnect id ∈ calls w e →
    ∃ session now, e = .connected session now ∧ session.id = id ∧ session.remotePubkey = none
  told : ∀ id, (calls w e).countP (Call.isPong id)
    = if e.answer.map Prod.fst = some id then 1 else 0

/-- A ping has not been answered in time. -/
def Overdue (w : Watched) (clock : SessionId → Instant) (id : SessionId) : Prop :=
  ∃ sent, w.pending id = some sent ∧ w.handler.timeout ≤ clock id - sent.time

/-- At a check, every ping that has not been answered in time is reported. -/
def ReportsOverdue (w : Watched) : Event → Prop
  | .notify token now clock => token = checkTimeoutToken →
      ∀ id, Overdue w clock id → Call.timeout id ∈ calls w (.notify token now clock)
  | _ => True

/-- At a check, no ping is unanswered for too long. -/
def NoneOverdue (w : Watched) : Event → Prop
  | .notify token _ clock => token = checkTimeoutToken → ∀ id, ¬ Overdue w clock id
  | _ => True

/-! ### No ping is ever on its way -/

namespace PingHandler

variable {h : PingHandler}

/-- **No status says that a ping is on its way.** -/
def Idle (h : PingHandler) : Prop :=
  ∀ id status, h.connectedSessionIds.lookup id = some status → status.processing = false

theorem idle_new (interval timeout : Duration) (unixEpoch : Instant) :
    (new interval timeout unixEpoch).Idle := by
  intro id status hlookup
  cases hlookup

theorem Idle.connected (hidle : h.Idle) (session : SessionContext) (now : Instant) :
    (h.connected session now).1.Idle := by
  unfold PingHandler.connected
  cases session.remotePubkey with
  | none => exact hidle
  | some key =>
    cases hsession : h.connectedSessionIds.lookup session.id with
    | some status => exact hidle
    | none =>
      intro id status hlookup
      rcases lookup_insert_eq_some_iff.mp hlookup with ⟨rfl, rfl⟩ | ⟨-, hlookup⟩
      · rfl
      · exact hidle id status hlookup

theorem Idle.disconnected (hidle : h.Idle) (id : SessionId) : (h.disconnected id).Idle := by
  intro id' status hlookup
  exact hidle id' status (lookup_erase_eq_some_iff.mp hlookup).2

/-- Every pong gets its session disconnected. -/
theorem Idle.receivedPong (hidle : h.Idle) (id : SessionId) (n : UInt32) (now : Instant) :
    h.receivedPong id n now = (h, [.disconnect id]) := by
  unfold PingHandler.receivedPong
  cases hlookup : h.connectedSessionIds.lookup id with
  | none => rfl
  | some status =>
    dsimp only
    rw [if_neg]
    intro hmatch
    simp [hidle id status hlookup] at hmatch

theorem Idle.received (hidle : h.Idle) (id : SessionId) (data : Bytes) (now : Instant) :
    (h.received id data now).1 = h := by
  unfold PingHandler.received
  cases decode data with
  | none => rfl
  | some payload =>
    cases payload with
    | ping n => rfl
    | pong n =>
      dsimp only
      rw [hidle.receivedPong]

theorem pinged_of_idle {ps : PingStatus} (hidle : ps.processing = false) (now : Instant)
    (n : UInt32) : pinged now n ps = { ps with lastPing := now, nonce := n } := by
  unfold pinged
  rw [hidle]
  rfl

theorem Idle.sendPing (hidle : h.Idle) (now : Instant) : (h.sendPing now).1.Idle := by
  intro id status hlookup
  unfold PingHandler.sendPing at hlookup
  dsimp only at hlookup
  rw [lookup_mapValues] at hlookup
  obtain ⟨ps, hps, rfl⟩ := Option.map_eq_some_iff.mp hlookup
  rw [pinged_of_idle (hidle id ps hps)]
  exact hidle id ps hps

/-- Every session is sent a ping. -/
theorem Idle.mem_peers_iff (hidle : h.Idle) (id : SessionId) :
    id ∈ h.peers ↔ ∃ status, h.connectedSessionIds.lookup id = some status := by
  unfold peers
  rw [List.mem_map]
  constructor
  · rintro ⟨⟨id', status⟩, hmem, rfl⟩
    exact ⟨status, AList.mem_lookup_iff.mpr (List.mem_filter.mp hmem).1⟩
  · rintro ⟨status, hlookup⟩
    have hentry := AList.mem_lookup_iff.mp hlookup
    exact ⟨⟨id, status⟩, List.mem_filter.mpr ⟨hentry, by simp [hidle id status hlookup]⟩, rfl⟩

/-- No ping is reported. -/
theorem Idle.checkTimeout (hidle : h.Idle) (clock : SessionId → Instant) :
    h.checkTimeout clock = [] := by
  unfold PingHandler.checkTimeout
  rw [List.map_eq_nil_iff, List.filter_eq_nil_iff]
  rintro ⟨id, status⟩ hentry
  simp [hidle id status (AList.mem_lookup_iff.mpr hentry)]

end PingHandler

section Inv

variable {w : Watched}

/-- The handler after an event has no ping on its way. -/
theorem idle_step (hidle : w.handler.Idle) (e : Event) : (step w e).handler.Idle := by
  cases e with
  | connected session now => exact hidle.connected session now
  | disconnected id => exact hidle.disconnected id
  | received id data now =>
    change (w.handler.received id data now).1.Idle
    rw [hidle.received]
    exact hidle
  | notify token now clock =>
    unfold step handle PingHandler.notify
    dsimp only
    split_ifs
    · exact hidle.sendPing now
    · exact hidle
    · exact hidle

theorem answer_eq_some_iff {e : Event} {id : SessionId} {n : UInt32} :
    e.answer = some (id, n) ↔
      ∃ data now, e = .received id data now ∧ decode data = some (.pong n) := by
  constructor
  · intro he
    cases e with
    | received id' data now =>
      dsimp only [Event.answer] at he
      split at he
      · next n' hdecode =>
        obtain ⟨rfl, rfl⟩ := Prod.mk.inj (Option.some.inj he)
        exact ⟨data, now, rfl, hdecode⟩
      · cases he
    | _ => cases he
  · rintro ⟨data, now, rfl, hdecode⟩
    dsimp only [Event.answer]
    rw [hdecode]

/-- **A pong gets its session disconnected.** -/
theorem calls_of_answer (hidle : w.handler.Idle) {e : Event} {id : SessionId} {n : UInt32}
    (he : e.answer = some (id, n)) : calls w e = [.disconnect id] := by
  obtain ⟨data, now, rfl, hdecode⟩ := answer_eq_some_iff.mp he
  change (w.handler.received id data now).2 = [.disconnect id]
  unfold PingHandler.received
  rw [hdecode]
  dsimp only
  rw [hidle.receivedPong]

/-- What is sent when pings are due. -/
theorem pingTo_sendPing (h : PingHandler) (now : Instant) (id : SessionId) :
    pingTo id (h.sendPing now).2
      = if id ∈ h.peers then some (nonce now h.unixEpoch) else none := by
  unfold PingHandler.sendPing pingTo
  dsimp only
  split_ifs with hempty hmem hmem
  · rw [List.isEmpty_iff.mp hempty] at hmem
    cases hmem
  · rfl
  · simp [Call.ping, decode_buildPing, hmem]
  · simp [Call.ping, decode_buildPing, hmem]

/-- The call neither disconnects a session nor tells of a pong. -/
def Call.isPlain : Call → Bool
  | .disconnect _ => false
  | .receivedPong _ _ => false
  | _ => true

theorem served_of_plain {e : Event} (he : e.answer = none)
    (hplain : ∀ call ∈ calls w e, call.isPlain) : Served w e := by
  refine ⟨?_, ?_⟩
  · intro id hmem
    cases hplain _ hmem
  · intro id
    rw [he, Option.map_none, if_neg (by simp), List.countP_eq_zero]
    intro call hmem hpong
    cases call with
    | receivedPong id' time => cases hplain _ hmem
    | _ => cases hpong

theorem PingHandler.plain_sendPing (h : PingHandler) (now : Instant) :
    ∀ call ∈ (h.sendPing now).2, call.isPlain := by
  intro call hmem
  unfold PingHandler.sendPing at hmem
  dsimp only at hmem
  split_ifs at hmem
  · cases hmem
  · rw [List.mem_singleton.mp hmem]
    rfl

theorem served_connected (session : SessionContext) (now : Instant) :
    Served w (.connected session now) := by
  have hcalls : calls w (.connected session now) = (w.handler.connected session now).2 := rfl
  cases hkey : session.remotePubkey with
  | none =>
    have hdisconnect : calls w (.connected session now) = [.disconnect session.id] := by
      simp [hcalls, PingHandler.connected, hkey]
    refine ⟨?_, ?_⟩
    · intro id hmem
      obtain rfl : id = session.id := by simpa [hdisconnect] using hmem
      exact ⟨session, now, rfl, rfl, hkey⟩
    · intro id
      simp [hdisconnect, Event.answer, Call.isPong]
  | some key =>
    refine served_of_plain rfl ?_
    intro call hmem
    rw [hcalls] at hmem
    unfold PingHandler.connected at hmem
    rw [hkey] at hmem
    cases hlookup : w.handler.connectedSessionIds.lookup session.id <;> simp [hlookup] at hmem

theorem served_received {id : SessionId} {data : Bytes} {now : Instant}
    (he : (Event.received id data now).answer = none) : Served w (.received id data now) := by
  refine served_of_plain he ?_
  intro call hmem
  change call ∈ (w.handler.received id data now).2 at hmem
  unfold PingHandler.received at hmem
  cases hdecode : decode data with
  | none =>
    obtain rfl : call = .unexpectedError id := by simpa [hdecode] using hmem
    rfl
  | some payload =>
    cases payload with
    | ping n =>
      rw [hdecode] at hmem
      rcases List.mem_pair.mp hmem with rfl | rfl
      · rfl
      · rfl
    | pong n =>
      rw [answer_eq_some_iff.mpr ⟨data, now, rfl, hdecode⟩] at he
      cases he

theorem served_notify (hidle : w.handler.Idle) (token : UInt64) (now : Instant)
    (clock : SessionId → Instant) : Served w (.notify token now clock) := by
  refine served_of_plain rfl ?_
  intro call hmem
  unfold calls handle PingHandler.notify at hmem
  dsimp only at hmem
  split_ifs at hmem
  · exact w.handler.plain_sendPing now call hmem
  · rw [hidle.checkTimeout] at hmem
    cases hmem
  · cases hmem

/-- An event that is not an answer is served well. -/
theorem served_of_answer_eq_none (hidle : w.handler.Idle) {e : Event} (he : e.answer = none) :
    Served w e := by
  cases e with
  | connected session now => exact served_connected session now
  | disconnected id => exact served_of_plain rfl nofun
  | received id data now => exact served_received he
  | notify token now clock => exact served_notify hidle token now clock

/-- **Which events are served well**: those that are not answers. -/
theorem served_iff (hidle : w.handler.Idle) (e : Event) : Served w e ↔ e.answer = none := by
  refine ⟨?_, served_of_answer_eq_none hidle⟩
  intro hserved
  by_contra hanswer
  obtain ⟨⟨id, n⟩, he⟩ := Option.ne_none_iff_exists'.mp hanswer
  have hmem : Call.disconnect id ∈ calls w e := by
    rw [calls_of_answer hidle he]
    exact List.mem_singleton.mpr rfl
  obtain ⟨session, now, rfl, -⟩ := hserved.kept id hmem
  cases he

/-- At one check: what should be reported is reported when there is nothing to report. -/
theorem reportsOverdue_iff (hidle : w.handler.Idle) (e : Event) :
    ReportsOverdue w e ↔ NoneOverdue w e := by
  cases e with
  | notify token now clock =>
    refine forall_congr' fun htoken => forall_congr' fun id => ?_
    have hcalls : calls w (.notify token now clock) = w.handler.checkTimeout clock := by
      subst htoken
      rfl
    rw [hcalls, hidle.checkTimeout]
    simp
  | _ => exact Iff.rfl

/-! ### The pings that have not been answered -/

/-- **The statuses remember the pings that have not been answered.** -/
structure Inv (w : Watched) : Prop where
  idle : w.handler.Idle
  sent : ∀ id sent, w.pending id = some sent →
    ∃ status, w.handler.connectedSessionIds.lookup id = some status ∧
      status.nonce = sent.nonce ∧ status.lastPing = sent.time

theorem inv_start (interval timeout : Duration) (unixEpoch : Instant) :
    Inv (start interval timeout unixEpoch) where
  idle := PingHandler.idle_new interval timeout unixEpoch
  sent _ _ hsent := by cases hsent

theorem lookup_connected (h : PingHandler) (session : SessionContext) (now : Instant)
    {id : SessionId} {status : PingStatus}
    (hlookup : h.connectedSessionIds.lookup id = some status) :
    (h.connected session now).1.connectedSessionIds.lookup id = some status := by
  unfold PingHandler.connected
  cases session.remotePubkey with
  | none => exact hlookup
  | some key =>
    cases hsession : h.connectedSessionIds.lookup session.id with
    | some _ => exact hlookup
    | none =>
      have hne : id ≠ session.id := by
        rintro rfl
        rw [hsession] at hlookup
        cases hlookup
      exact (AList.lookup_insert_ne hne).trans hlookup

/-- Pings on their way after an answer were on their way before. -/
theorem pending_of_cleared {pending : Pending} {answer : Option (SessionId × UInt32)}
    {id : SessionId} {sent : Sent} (h : cleared pending answer id = some sent) :
    pending id = some sent := by
  cases answer with
  | none => exact h
  | some p =>
    obtain ⟨id', n⟩ := p
    unfold cleared at h
    dsimp only at h
    split_ifs at h
    · rcases eq_or_ne id id' with rfl | hne
      · rw [Function.update_self] at h
        cases h
      · rwa [Function.update_of_ne hne] at h
    · exact h

/-- When pings are due and none is on its way, the statuses remember what is sent. -/
theorem inv_sendPing (h : Inv w) (now : Instant)
    (hbefore : ∀ id, (pingTo id (w.handler.sendPing now).2).isSome → w.pending id = none) :
    Inv ⟨(w.handler.sendPing now).1, fun id => (w.pending id).or
      ((pingTo id (w.handler.sendPing now).2).map fun n => ⟨n, now⟩)⟩ := by
  refine ⟨h.idle.sendPing now, ?_⟩
  intro id sent hsent
  have hping := pingTo_sendPing w.handler now id
  by_cases hmem : id ∈ w.handler.peers
  · rw [if_pos hmem] at hping
    obtain ⟨status, hlookup⟩ := (h.idle.mem_peers_iff id).mp hmem
    have hnone : w.pending id = none := hbefore id (by rw [hping]; rfl)
    dsimp only at hsent
    rw [hping, hnone] at hsent
    obtain rfl : (⟨nonce now w.handler.unixEpoch, now⟩ : Sent) = sent := Option.some.inj hsent
    refine ⟨{ status with lastPing := now, nonce := nonce now w.handler.unixEpoch }, ?_, rfl, rfl⟩
    unfold PingHandler.sendPing
    dsimp only
    rw [lookup_mapValues, hlookup, Option.map_some,
      PingHandler.pinged_of_idle (h.idle id status hlookup)]
  · -- a session with a ping on its way is sent one, so there is none
    rw [if_neg hmem] at hping
    dsimp only at hsent
    rw [hping, Option.map_none, Option.or_none] at hsent
    obtain ⟨status, hlookup, -⟩ := h.sent id sent hsent
    exact absurd ((h.idle.mem_peers_iff id).mpr ⟨status, hlookup⟩) hmem

theorem inv_step (h : Inv w) {e : Event} (he : Honest w e) : Inv (step w e) := by
  refine ⟨idle_step h.idle e, ?_⟩
  cases e with
  | connected session now =>
    intro id sent hsent
    obtain ⟨status, hlookup, hstatus⟩ := h.sent id sent hsent
    exact ⟨status, lookup_connected w.handler session now hlookup, hstatus⟩
  | disconnected id =>
    intro id' sent hsent
    change Function.update w.pending id none id' = some sent at hsent
    rcases eq_or_ne id' id with rfl | hne
    · rw [Function.update_self] at hsent
      cases hsent
    · rw [Function.update_of_ne hne] at hsent
      obtain ⟨status, hlookup, hstatus⟩ := h.sent id' sent hsent
      exact ⟨status, (AList.lookup_erase_ne hne).trans hlookup, hstatus⟩
  | received id data now =>
    intro id' sent hsent
    obtain ⟨status, hlookup, hstatus⟩ := h.sent id' sent (pending_of_cleared hsent)
    refine ⟨status, ?_, hstatus⟩
    change (w.handler.received id data now).1.connectedSessionIds.lookup id' = some status
    rw [h.idle.received]
    exact hlookup
  | notify token now clock =>
    rcases he.token token now clock rfl with rfl | rfl
    · exact (inv_sendPing h now he.before).sent
    · intro id sent hsent
      have hcalls : calls w (.notify checkTimeoutToken now clock) = [] :=
        h.idle.checkTimeout clock
      change (w.pending id).or
        ((pingTo id (calls w (.notify checkTimeoutToken now clock))).map fun n => ⟨n, now⟩)
          = some sent at hsent
      rw [hcalls] at hsent
      exact h.sent id sent (by simpa [pingTo] using hsent)

/-- **The pong of an honest peer is the one that is waited for**: its number is that of the
status, and the time of the status is that of its ping.  Only the flag is missing. -/
theorem answer_matches (h : Inv w) {e : Event} (he : Honest w e) {id : SessionId} {n : UInt32}
    (hanswer : e.answer = some (id, n)) :
    ∃ sent status, w.pending id = some sent ∧
      w.handler.connectedSessionIds.lookup id = some status ∧
      status.nonce = n ∧ status.lastPing = sent.time ∧ status.processing = false := by
  obtain ⟨sent, hsent, hnonce⟩ := Option.map_eq_some_iff.mp (he.answer id n hanswer)
  obtain ⟨status, hlookup, hstatus, htime⟩ := h.sent id sent hsent
  exact ⟨sent, status, hsent, hlookup, hstatus.trans hnonce, htime, h.idle id status hlookup⟩

/-- In every honest run, every answer is the one that is waited for. -/
theorem answers_match (interval timeout : Duration) (unixEpoch : Instant) (events : List Event)
    (h : Guarded step Honest (start interval timeout unixEpoch) events) :
    Guarded step (fun w e => ∀ id n, e.answer = some (id, n) →
      ∃ status, w.handler.connectedSessionIds.lookup id = some status ∧ status.nonce = n)
      (start interval timeout unixEpoch) events := by
  refine guarded_of_inv (I := Inv) (fun w e hw he => inv_step hw he) ?_
    (inv_start interval timeout unixEpoch) h
  intro w e hw he id n hanswer
  obtain ⟨-, status, -, hlookup, hnonce, -⟩ := answer_matches hw he hanswer
  exact ⟨status, hlookup, hnonce⟩

/-- **When the peers are served well.**  In every run with honest peers, for any number of
sessions, only sessions without a public key are disconnected and there is one call for each
answer, if and only if no answer ever comes.  In every run, each check reports all the pings
that have not been answered in time, if and only if there are none at any check. -/
theorem ping_honest_iff (interval timeout : Duration) (unixEpoch : Instant)
    (events : List Event) :
    (Guarded step Honest (start interval timeout unixEpoch) events →
      (Guarded step Served (start interval timeout unixEpoch) events ↔
        Guarded step (fun _ e => e.answer = none) (start interval timeout unixEpoch) events)) ∧
    (Guarded step ReportsOverdue (start interval timeout unixEpoch) events ↔
      Guarded step NoneOverdue (start interval timeout unixEpoch) events) := by
  have hidle := PingHandler.idle_new interval timeout unixEpoch
  constructor
  · intro h
    exact guarded_congr (I := fun w => w.handler.Idle) (fun w e hw _ => idle_step hw e)
      (fun w e hw _ => served_iff hw e) hidle h
  · exact guarded_congr (I := fun w => w.handler.Idle) (fun w e hw _ => idle_step hw e)
      (fun w e hw _ => reportsOverdue_iff hw e) hidle
      (guarded_of_forall_mem (fun _ _ => trivial) _)

/-! ### A peer that answers, and one that does not -/

/-- A session that connects, and a ping ten seconds later. -/
def pingedSession : List Event :=
  [.connected secured 0, .notify sendPingToken (fromSecs 10) fun _ => fromSecs 10]

/-- The peer answers the ping. -/
theorem answers_match_pong :
    Guarded step (fun w e => ∀ id n, e.answer = some (id, n) →
      ∃ status, w.handler.connectedSessionIds.lookup id = some status ∧ status.nonce = n)
      (start (fromSecs 10) (fromSecs 20) 0)
      (pingedSession ++ [.received 1 (buildPong 10) (fromSecs 11)]) := by
  refine answers_match (fromSecs 10) (fromSecs 20) 0 _
    ⟨⟨?_, fun _ _ => rfl, ?_⟩, ⟨?_, fun _ _ => rfl, ?_⟩, ⟨?_, ?_, ?_⟩, trivial⟩
  · rintro id n ⟨⟩
  · rintro token now clock ⟨⟩
  · rintro id n ⟨⟩
  · rintro token now clock ⟨⟩
    exact .inl rfl
  · intro id n h
    have hpong : (Event.received 1 (buildPong 10) (fromSecs 11)).answer = some (1, 10) := by
      decide +kernel
    obtain ⟨rfl, rfl⟩ : 1 = id ∧ 10 = n := by
      simpa only [Option.some.injEq, Prod.mk.injEq] using hpong.symm.trans h
    decide +kernel
  · have hcalls : calls (runFrom step (start (fromSecs 10) (fromSecs 20) 0) pingedSession)
        (.received 1 (buildPong 10) (fromSecs 11)) = [.disconnect 1] := by decide +kernel
    intro id hping
    exact absurd (hcalls ▸ hping) (by simp [pingTo, Call.ping])
  · rintro token now clock ⟨⟩

/-- A ping that is not answered for now, with a check in time. -/
theorem ping_served_early :
    let events := pingedSession ++ [.notify checkTimeoutToken (fromSecs 20) fun _ => fromSecs 20]
    Guarded step Served (start (fromSecs 10) (fromSecs 20) 0) events ∧
      Guarded step ReportsOverdue (start (fromSecs 10) (fromSecs 20) 0) events := by
  intro events
  have hhonest : Guarded step Honest (start (fromSecs 10) (fromSecs 20) 0) events := by
    refine ⟨⟨?_, ?_, ?_⟩, ⟨?_, ?_, ?_⟩, ⟨?_, ?_, ?_⟩, trivial⟩
    · rintro id n ⟨⟩
    · intro id _
      rfl
    · rintro token now clock ⟨⟩
    · rintro id n ⟨⟩
    · intro id _
      rfl
    · rintro token now clock ⟨⟩
      exact .inl rfl
    · rintro id n ⟨⟩
    · rintro id ⟨⟩
    · rintro token now clock ⟨⟩
      exact .inr rfl
  have hiff := ping_honest_iff (fromSecs 10) (fromSecs 20) 0 events
  refine ⟨(hiff.1 hhonest).mpr ⟨rfl, rfl, rfl, trivial⟩,
    hiff.2.mpr ⟨trivial, ?_, ?_, trivial⟩⟩
  · intro htoken
    exact absurd htoken (by decide)
  · rintro - id ⟨sent, hsent, hover⟩
    obtain ⟨n, -, rfl⟩ : ∃ n, _ ∧ (⟨n, fromSecs 10⟩ : Sent) = sent :=
      Option.map_eq_some_iff.mp hsent
    change fromSecs 20 ≤ fromSecs 20 - fromSecs 10 at hover
    exact absurd hover (by decide)

/-- **An honest peer is disconnected, and a silent one is not reported.**  A ping with number
ten is on its way: the pong with that number gets the session disconnected, and thirty seconds
later, ten more than allowed, nothing is reported. -/
theorem pong_disconnects :
    let w := runFrom step (start (fromSecs 10) (fromSecs 20) 0) pingedSession
    w.pending 1 = some ⟨10, fromSecs 10⟩ ∧
    calls w (.received 1 (buildPong 10) (fromSecs 11)) = [.disconnect 1] ∧
    w.handler.timeout = fromSecs 20 ∧
    calls w (.notify checkTimeoutToken (fromSecs 40) fun _ => fromSecs 40) = [] := by
  decide +kernel

end Inv

end Ping
end Protocols
end CkbP2P
