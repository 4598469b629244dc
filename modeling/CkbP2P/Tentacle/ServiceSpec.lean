import CkbP2P.Tentacle.Service

/-!
# What the service's functions change

The invariants of the service are about its sessions and about its books: the dials, the
listeners and the counter of outstanding requests.  This module says once, for each
function, what it does to the two.  On the books the service is a small machine of its
own, which `books_handleSessionEvent` and `books_handleServiceTask` show the functions of
the service to follow.  The sessions are kept in a roster, together with what the user was told
about them; a session leaves it and is reported at the same time, and so it enters it.
-/

namespace CkbP2P
namespace Tentacle

open Lib

/-! ### Books -/

/-- The dials, the listeners and the counter of outstanding requests. -/
structure Books where
  dialProtocols : AList fun _ : Multiaddr => TargetProtocol
  listens : List Multiaddr
  state : State
  underflow : Bool

namespace Books

def increase (b : Books) : Books := { b with state := b.state.increase }

def decrease (b : Books) : Books :=
  { b with state := b.state.decrease, underflow := b.underflow || b.state == .running 0 }

/-- A dial is noted. -/
def dialed (b : Books) (address : Multiaddr) (target : TargetProtocol) : Books :=
  { b with dialProtocols := b.dialProtocols.insert address target }

/-- A dial has its result. -/
def undial (b : Books) (address : Multiaddr) : Books :=
  { b with dialProtocols := b.dialProtocols.erase address }

/-- Shutting down. -/
def close (b : Books) : Books := { b with state := .preShutdown, listens := [] }

/-- An event, where `full` says that a new connection would be above the limit. -/
def event (full : Bool) (b : Books) : SessionEvent → Books
  | .handshakeSuccess _ address ty _ =>
    let b := if ty.isOutbound then b.decrease else b
    if full then b else b.undial address
  | .handshakeError ty _ address => if ty.isOutbound then b.decrease.undial address else b
  | .dialError address _ => b.decrease.undial address
  | .listenError address _ =>
    if address ∈ b.listens then { b with listens := b.listens.erase address } else b.decrease
  | .listenStart address => { b with listens := b.listens.insert address }.decrease
  | .protocolHandleError _ _ => b.close
  | _ => b

/-- A task, where `accepts` says whether the transports accept an address. -/
def task (accepts : Multiaddr → Bool) (b : Books) : ServiceTask → Books
  | .dial address target =>
    if address ∈ b.dialProtocols then b
    else if accepts address then (b.dialed address target).increase else b.dialed address target
  | .listen address =>
    if address ∈ b.listens then b else if accepts address then b.increase else b
  | .shutdown _ => b.close
  | _ => b

end Books

/-! ### The roster -/

/-- What the user is told about a session: that it is open, or that it is closed. -/
def newsOf : ServiceEventAndError → Option (SessionId × Bool)
  | .event (.sessionOpen context) => some (context.id, true)
  | .event (.sessionClose context) => some (context.id, false)
  | _ => none

/-- The sessions, how their ids are given out, and what the user was told about them. -/
structure Roster where
  sessions : AList fun _ : SessionId => SessionContext
  nextSession : SessionId
  /-- The ids given out so far. -/
  opened : List SessionId
  news : List (SessionId × Bool)

namespace Roster

/-- Nothing has happened. -/
def empty : Roster := { sessions := ∅, nextSession := 0, opened := [], news := [] }

/-- The id a new session gets. -/
def nextId (r : Roster) : SessionId :=
  InnerService.nextLoop r.sessions (r.sessions.keys.length + 1) r.nextSession

/-- A session is opened and reported. -/
def insert (r : Roster) (context : SessionContext) : Roster :=
  { sessions := r.sessions.insert r.nextId context
    nextSession := r.nextId
    opened := r.opened ++ [r.nextId]
    news := r.news ++ [(context.id, true)] }

/-- A session is closed and reported. -/
def erase (r : Roster) (id : SessionId) (context : SessionContext) : Roster :=
  { r with sessions := r.sessions.erase id, news := r.news ++ [(context.id, false)] }

/-- A session that is there is closed and reported. -/
inductive Close (r : Roster) : Roster → Prop
  | mk {id : SessionId} {context : SessionContext} (h : r.sessions.lookup id = some context) :
    Close r (r.erase id context)

/-- Some sessions are closed and reported. -/
abbrev Closes : Roster → Roster → Prop := Relation.ReflTransGen Close

theorem Closes.of_eq {r r' : Roster} (h : r' = r) : Closes r r' := h ▸ .refl

end Roster

/-- Whether the transports accept an address. -/
def MultiTransport.accepts (t : MultiTransport) (address : Multiaddr) : Bool :=
  (t.answer address).toBool

namespace InnerService

variable (sha256 : Sha256) (s : InnerService)

/-- The books of a service. -/
def books : Books :=
  { dialProtocols := s.dialProtocols, listens := s.listens, state := s.state
    underflow := s.underflow }

/-- The roster of a service. -/
def roster : Roster :=
  { sessions := s.sessions, nextSession := s.nextSession, opened := s.started.map Prod.fst
    news := s.handled.filterMap newsOf }

@[simp] theorem books_send (e : ServiceEventAndError) : (s.send e).books = s.books := rfl

@[simp] theorem books_increase : s.increase.books = s.books.increase := rfl

@[simp] theorem books_decrease : s.decrease.books = s.books.decrease := rfl

@[simp] theorem books_command (id : SessionId) (c : SessionCommand) :
    (s.command id c).books = s.books := by
  unfold command
  split <;> rfl

@[simp] theorem books_sessionClose (id : SessionId) (source : Source) :
    (s.sessionClose id source).books = s.books := by
  cases source with
  | external => exact books_command s id _
  | internal =>
    simp only [sessionClose]
    split <;> rfl

@[simp] theorem books_foldl_sessionClose (source : Source) (ids : List SessionId) :
    (ids.foldl (fun s id => s.sessionClose id source) s).books = s.books := by
  induction ids generalizing s with
  | nil => rfl
  | cons id ids ih => rw [List.foldl_cons, ih, books_sessionClose]

theorem books_handleShutdown (quick : Bool) : (s.handleShutdown quick).books = s.books.close := by
  cases quick <;> exact books_foldl_sessionClose ..

/-- A changed number of listeners is published, and a handle that is gone is noticed
then. -/
theorem books_tryUpdateListens :
    s.tryUpdateListens.books = s.books ∨ s.tryUpdateListens.books = s.books.close := by
  unfold tryUpdateListens
  split
  · exact .inl rfl
  · dsimp only
    split
    · exact .inl rfl
    · rw [books_handleShutdown]
      exact .inr rfl

theorem books_head : s.head.books = s.books ∨ s.head.books = s.books.close := by
  unfold head
  split
  · exact .inl rfl
  · exact books_tryUpdateListens s

@[simp] theorem books_insertSession (remotePubkey : Option PublicKey) (address : Multiaddr)
    (ty : SessionType) (target : TargetProtocol) :
    (s.insertSession remotePubkey address ty target).books = s.books := rfl

@[simp] theorem books_repeatedConnection (id : SessionId) (address : Multiaddr)
    (ty : SessionType) (listenAddr : Option Multiaddr) :
    (s.repeatedConnection id address ty listenAddr).books = s.books := by
  unfold repeatedConnection
  split
  · rfl
  · split <;> rfl

/-- What is sent to the user is no news about a session, unless it is. -/
theorem roster_send {e : ServiceEventAndError} (he : newsOf e = none) :
    (s.send e).roster = s.roster := by
  simp [roster, send, he]

@[simp] theorem roster_repeatedConnection (id : SessionId) (address : Multiaddr)
    (ty : SessionType) (listenAddr : Option Multiaddr) :
    (s.repeatedConnection id address ty listenAddr).roster = s.roster := by
  unfold repeatedConnection
  split
  · exact roster_send s rfl
  · split
    · exact roster_send s rfl
    · rfl

/-- The address `session_open` stores a connection under, if it stores it. -/
def admitted (remotePubkey : Option PublicKey) (address : Multiaddr) : Option Multiaddr :=
  match remotePubkey with
  | none => some address
  | some key =>
    match s.findSession key address with
    | some _ => none
    | none =>
      match extractPeerId address with
      | some peerId => if key.peerId sha256 = peerId then some address else none
      | none => some (address.push (key.p2p sha256) (key.valid_p2p sha256))

/-- **What `session_open` does**: whatever it decides, the dial has its result, and the
rest is a new session or a report. -/
theorem sessionOpen_cases (remotePubkey : Option PublicKey) (address : Multiaddr)
    (ty : SessionType) (listenAddr : Option Multiaddr) :
    (∃ stored target, s.admitted sha256 remotePubkey address = some stored ∧
      s.sessionOpen sha256 remotePubkey address ty listenAddr
        = (s.undial address).insertSession remotePubkey stored ty target) ∨
    (s.admitted sha256 remotePubkey address = none ∧
      (s.sessionOpen sha256 remotePubkey address ty listenAddr).books = s.books.undial address ∧
      (s.sessionOpen sha256 remotePubkey address ty listenAddr).roster = s.roster) := by
  cases remotePubkey with
  | none => exact .inl ⟨address, _, rfl, rfl⟩
  | some key =>
    have hfind : (s.undial address).findSession = s.findSession := rfl
    simp only [sessionOpen, admitted, hfind]
    cases s.findSession key address with
    | some context =>
      simp only [books_repeatedConnection, roster_repeatedConnection]
      exact .inr ⟨trivial, rfl, rfl⟩
    | none =>
      cases extractPeerId address with
      | none => exact .inl ⟨_, _, rfl, rfl⟩
      | some peerId =>
        by_cases hid : key.peerId sha256 = peerId
        · simp only [hid, ne_eq, not_true_eq_false, if_true, if_false]
          exact .inl ⟨_, _, rfl, rfl⟩
        · simp only [hid, ne_eq, not_false_eq_true, if_true, if_false]
          exact .inr ⟨trivial, rfl, roster_send _ rfl⟩

theorem books_sessionOpen (remotePubkey : Option PublicKey) (address : Multiaddr)
    (ty : SessionType) (listenAddr : Option Multiaddr) :
    (s.sessionOpen sha256 remotePubkey address ty listenAddr).books = s.books.undial address := by
  rcases s.sessionOpen_cases sha256 remotePubkey address ty listenAddr with
    ⟨stored, target, -, h⟩ | ⟨-, h, -⟩
  · rw [h]
    rfl
  · exact h

@[simp] theorem books_reportSession (id : SessionId) (e : SessionContext → ServiceError) :
    (s.reportSession id e).books = s.books := by
  unfold reportSession
  split <;> rfl

/-- The service as it counts its connections after an event: an outbound connection no
longer counts as outstanding. -/
def counted (ty : SessionType) : InnerService := if ty.isOutbound then s.decrease else s

/-- Whether an event finds the service above its connection limit. -/
def full : SessionEvent → Bool
  | .handshakeSuccess _ _ ty _ => (s.counted ty).reachedMaxConnectionLimit
  | _ => false

/-- **The events follow the machine of the books.**  Publishing new listeners may notice a
handle that is gone. -/
theorem books_handleSessionEvent (e : SessionEvent) :
    (s.handleSessionEvent sha256 e).books = s.books.event (s.full e) e ∨
      (s.handleSessionEvent sha256 e).books = (s.books.event (s.full e) e).close := by
  cases e with
  | sessionClose id => exact .inl (books_sessionClose ..)
  | handshakeSuccess publicKey address ty listenAddress =>
    left
    have hcount : (s.counted ty).books = if ty.isOutbound then s.books.decrease else s.books := by
      cases ty <;> rfl
    simp only [handleSessionEvent, Books.event, full, ← hcount]
    change (if (s.counted ty).reachedMaxConnectionLimit = true then _ else _ : InnerService).books
      = _
    split
    · rfl
    · exact books_sessionOpen ..
  | handshakeError ty error address => cases ty <;> exact .inl rfl
  | protocolSelectError id protoName => exact .inl (books_reportSession ..)
  | protocolError id protoId error => exact .inl rfl
  | dialError address error => exact .inl rfl
  | listenError address error =>
    left
    change (if address ∈ s.listens then _ else _ : InnerService).books = if address ∈ s.listens
      then _ else _
    split <;> rfl
  | sessionTimeout id => exact .inl (books_reportSession ..)
  | muxerError id error => exact .inl (books_reportSession ..)
  | listenStart listenAddress => exact books_tryUpdateListens _
  | protocolHandleError protoId session => exact .inl (books_handleShutdown ..)
  | changeState id => exact .inl (books_reportSession ..)

theorem books_dialInner (address : Multiaddr) (target : TargetProtocol) :
    (s.dialInner address target).1.books =
      if s.multiTransport.accepts address then (s.books.dialed address target).increase
      else s.books.dialed address target := by
  cases h : s.multiTransport.answer address <;>
    simp only [dialInner, MultiTransport.dial, MultiTransport.accepts, h] <;> rfl

theorem books_listenInner (address : Multiaddr) :
    (s.listenInner address).1.books =
      if s.multiTransport.accepts address then s.books.increase else s.books := by
  cases h : s.multiTransport.answer address <;>
    simp only [listenInner, MultiTransport.listen, MultiTransport.accepts, h] <;> rfl

/-- **The tasks follow the machine of the books.** -/
theorem books_handleServiceTask (t : ServiceTask) :
    (s.handleServiceTask t).books = s.books.task s.multiTransport.accepts t := by
  cases t with
  | dial address target =>
    simp only [handleServiceTask, Books.task]
    change (if address ∈ s.dialProtocols then _ else _ : InnerService).books =
      if address ∈ s.dialProtocols then _ else _
    split
    · rfl
    · rw [← books_dialInner]
      split <;> simp [*]
  | listen address =>
    simp only [handleServiceTask, Books.task]
    change (if address ∈ s.listens then _ else _ : InnerService).books =
      if address ∈ s.listens then _ else _
    split
    · rfl
    · rw [← books_listenInner]
      split <;> simp [*]
  | disconnect sessionId => exact books_sessionClose ..
  | protocolOpen sessionId target =>
    have h : ∀ (ids : List ProtocolId) (s : InnerService),
        (ids.foldl (fun s id => s.command sessionId (.protocolOpen id)) s).books = s.books := by
      intro ids
      induction ids with
      | nil => exact fun _ => rfl
      | cons id ids ih => intro s; rw [List.foldl_cons, ih, books_command]
    exact h _ s
  | protocolClose sessionId protoId => exact books_command ..
  | shutdown quick => exact books_handleShutdown ..

/-! ### Sessions -/

theorem roster_counted (ty : SessionType) : (s.counted ty).roster = s.roster := by
  cases ty <;> rfl

theorem roster_command (id : SessionId) (c : SessionCommand) :
    (s.command id c).roster = s.roster := by
  unfold command
  split <;> rfl

theorem roster_reportSession (id : SessionId) {e : SessionContext → ServiceError} :
    (s.reportSession id e).roster = s.roster := by
  unfold reportSession
  split
  · rfl
  · exact roster_send s rfl

/-- What closes sessions in every round closes sessions. -/
theorem closes_foldl {α : Type} {f : InnerService → α → InnerService}
    (hf : ∀ (s : InnerService) (a : α), s.roster.Closes (f s a).roster) (as : List α) :
    s.roster.Closes (as.foldl f s).roster := by
  induction as generalizing s with
  | nil => exact .refl
  | cons a as ih => exact (hf s a).trans (ih (f s a))

theorem closes_sessionClose (id : SessionId) (source : Source) :
    s.roster.Closes (s.sessionClose id source).roster := by
  cases source with
  | external => exact .of_eq (roster_command ..)
  | internal =>
    simp only [sessionClose]
    split
    · exact .refl
    · next context h =>
      have hroster : ({ s with
          sessionProtoHandles := s.sessionProtoHandles.filter fun h => h.1 ≠ id
          sessions := s.sessions.erase id }.send (.event (.sessionClose context))).roster
          = s.roster.erase id context := by
        simp [roster, send, newsOf, Roster.erase]
      rw [hroster]
      exact .single ⟨h⟩

/-- Messages that are no news about sessions. -/
theorem filterMap_newsOf_map {α : Type} {f : α → ServiceEventAndError}
    (hf : ∀ a, newsOf (f a) = none) (as : List α) : (as.map f).filterMap newsOf = [] := by
  rw [List.filterMap_map, List.filterMap_eq_nil_iff]
  exact fun a _ => hf a

/-- A service that is shutting down has told its user about its listeners. -/
theorem roster_listenClose (state : State) (serviceProtoHandles : List ProtocolId)
    (sessionProtoHandles : List (SessionId × ProtocolId)) : { s with
    state, serviceProtoHandles, sessionProtoHandles
    listens := []
    handled := s.handled ++
      s.listens.map fun address => ServiceEventAndError.event (.listenClose address) }.roster
      = s.roster := by
  simp only [roster, List.filterMap_append]
  rw [filterMap_newsOf_map (fun _ => rfl), List.append_nil]

theorem closes_handleShutdown (quick : Bool) : s.roster.Closes (s.handleShutdown quick).roster := by
  cases quick with
  | false =>
    rw [← s.roster_listenClose .preShutdown s.serviceProtoHandles s.sessionProtoHandles]
    exact closes_foldl _ (fun s id => closes_sessionClose s id _) _
  | true =>
    rw [← s.roster_listenClose .preShutdown [] []]
    exact closes_foldl _ (fun s id => closes_sessionClose s id _) _

/-- A shutdown that is not quick leaves the sessions to report back. -/
theorem roster_handleShutdown : (s.handleShutdown false).roster = s.roster := by
  have h : ∀ (ids : List SessionId) (s : InnerService),
      (ids.foldl (fun s id => s.sessionClose id .external) s).roster = s.roster := by
    intro ids
    induction ids with
    | nil => exact fun _ => rfl
    | cons id ids ih =>
      intro s
      rw [List.foldl_cons, ih]
      exact roster_command ..
  exact (h _ _).trans (s.roster_listenClose ..)

theorem roster_tryUpdateListens : s.tryUpdateListens.roster = s.roster := by
  have hupdate : { s with
      published := s.listens
      handled := s.handled ++ ServiceEventAndError.update s.listens :: s.unreachable.map
        fun h : Option SessionId × ProtocolId => .error (.protocolHandleError h.2 h.1) }.roster
      = s.roster := by
    simp only [roster, List.filterMap_append]
    rw [List.filterMap_cons_none rfl, filterMap_newsOf_map (fun _ => rfl), List.append_nil]
  unfold tryUpdateListens
  split
  · rfl
  · dsimp only
    split
    · exact hupdate
    · exact (roster_handleShutdown _).trans hupdate

theorem roster_head : s.head.roster = s.roster := by
  unfold head
  split
  · rfl
  · exact roster_tryUpdateListens s

theorem sessions_head : s.head.sessions = s.sessions := congrArg Roster.sessions s.roster_head

/-- **A task closes sessions, if it does anything to them.** -/
theorem closes_handleServiceTask (t : ServiceTask) :
    s.roster.Closes (s.handleServiceTask t).roster := by
  cases t with
  | dial address target =>
    simp only [handleServiceTask, dialInner]
    split
    · exact .refl
    · cases s.multiTransport.dial address with
      | error e => exact .of_eq (roster_send _ rfl)
      | ok _ => exact .refl
  | listen address =>
    simp only [handleServiceTask, listenInner]
    split
    · exact .refl
    · cases s.multiTransport.listen address with
      | error e => exact .of_eq (roster_send _ rfl)
      | ok _ => exact .refl
  | disconnect sessionId => exact closes_sessionClose s sessionId _
  | protocolOpen sessionId target =>
    exact closes_foldl _ (fun s id => .of_eq (roster_command ..)) _
  | protocolClose sessionId protoId => exact .of_eq (roster_command ..)
  | shutdown quick => exact closes_handleShutdown s quick

/-- Every session after the step was there before it. -/
def NoNewSession (s t : InnerService) : Prop :=
  ∀ id context, t.sessions.lookup id = some context → s.sessions.lookup id = some context

/-- Closing sessions adds none. -/
theorem NoNewSession.of_closes {s t : InnerService} (h : s.roster.Closes t.roster) :
    NoNewSession s t := by
  have hclose : ∀ r r' : Roster, r.Closes r' → ∀ id context,
      r'.sessions.lookup id = some context → r.sessions.lookup id = some context := by
    intro r r' h
    induction h with
    | refl => exact fun _ _ hid => hid
    | tail _ hlast ih =>
      obtain @⟨closed, _, -⟩ := hlast
      intro id context hid
      refine ih id context ?_
      by_cases heq : id = closed
      · rw [heq, Roster.erase, AList.lookup_erase] at hid
        cases hid
      · rwa [Roster.erase, AList.lookup_erase_ne heq] at hid
  exact hclose _ _ h

/-- The id a new session gets. -/
def nextId : SessionId := s.roster.nextId

/-- A loop that ends on the id of a session has met the ids of sessions only. -/
theorem nextLoop_mem {sessions : AList fun _ : SessionId => SessionContext} {n : ℕ}
    {id : SessionId} (hn : n ≠ 0) (h : nextLoop sessions n id ∈ sessions) :
    ∀ i < n, id + 1 + UInt64.ofNat i ∈ sessions := by
  induction n generalizing id with
  | zero => exact absurd rfl hn
  | succ n ih =>
    rw [nextLoop] at h
    split at h
    case isFalse hnot => exact absurd h hnot
    case isTrue hmem =>
      intro i hi
      cases i with
      | zero => simpa using hmem
      | succ i =>
        have hnext : id + 1 + UInt64.ofNat (i + 1) = id + 1 + 1 + UInt64.ofNat i := by
          rw [UInt64.ofNat_add, UInt64.add_comm (UInt64.ofNat i), ← UInt64.add_assoc]
          rfl
        rw [hnext]
        exact ih (by omega) h i (by omega)

/-- **A new session never takes the id of a live one**: one of the ids tried is free, as
long as there is a free id at all. -/
theorem nextId_not_mem (hroom : s.sessions.keys.length < 2 ^ 64) : s.nextId ∉ s.sessions := by
  intro hmem
  have htried := nextLoop_mem (Nat.succ_ne_zero _) hmem
  let tried := (List.range (s.sessions.keys.length + 1)).map fun i =>
    s.nextSession + 1 + UInt64.ofNat i
  have hnodup : tried.Nodup := by
    refine List.Nodup.map_on ?_ List.nodup_range
    intro i hi j hj hij
    rw [List.mem_range] at hi hj
    have hij' := congrArg UInt64.toNat ((UInt64.add_right_inj _).mp hij)
    rwa [UInt64.toNat_ofNat', UInt64.toNat_ofNat', Nat.mod_eq_of_lt (by omega),
      Nat.mod_eq_of_lt (by omega)] at hij'
  have hsub : tried ⊆ s.sessions.keys := by
    intro id hid
    obtain ⟨i, hi, rfl⟩ := List.mem_map.mp hid
    exact AList.mem_keys.mp (htried i (List.mem_range.mp hi))
  have hlength := (List.subperm_of_subset hnodup hsub).length_le
  simp only [tried, List.length_map, List.length_range] at hlength
  omega

/-- What a successful handshake does to the roster, below the limit. -/
theorem roster_handshakeSuccess {publicKey : Option PublicKey} {address : Multiaddr}
    {ty : SessionType} {listenAddress : Option Multiaddr}
    (hfull : s.full (.handshakeSuccess publicKey address ty listenAddress) = false) :
    (s.handleSessionEvent sha256 (.handshakeSuccess publicKey address ty listenAddress)).roster
      = match s.admitted sha256 publicKey address with
        | some stored => s.roster.insert ⟨s.nextId, stored, ty, publicKey⟩
        | none => s.roster := by
  have hdef : s.handleSessionEvent sha256 (.handshakeSuccess publicKey address ty listenAddress)
      = if s.full (.handshakeSuccess publicKey address ty listenAddress) then s.counted ty
        else (s.counted ty).sessionOpen sha256 publicKey address ty listenAddress := rfl
  have hadmitted : (s.counted ty).admitted sha256 = s.admitted sha256 := by cases ty <;> rfl
  rw [hdef, hfull, if_neg Bool.false_ne_true]
  rcases (s.counted ty).sessionOpen_cases sha256 publicKey address ty listenAddress with
    ⟨stored, target, hstored, h⟩ | ⟨hnone, -, h⟩
  · have hinsert : ∀ t : InnerService, (t.insertSession publicKey stored ty target).roster
        = t.roster.insert ⟨t.nextId, stored, ty, publicKey⟩ := by
      intro t
      simp [insertSession, roster, Roster.insert, send, newsOf, generateNextSession, nextId,
        Roster.nextId]
    rw [← hadmitted, hstored, h, hinsert]
    cases ty <;> rfl
  · rw [← hadmitted, hnone, h, roster_counted]

theorem sessions_handshakeSuccess {publicKey : Option PublicKey} {address : Multiaddr}
    {ty : SessionType} {listenAddress : Option Multiaddr}
    (hfull : s.full (.handshakeSuccess publicKey address ty listenAddress) = false) :
    (s.handleSessionEvent sha256 (.handshakeSuccess publicKey address ty listenAddress)).sessions
      = match s.admitted sha256 publicKey address with
        | some stored => s.sessions.insert s.nextId ⟨s.nextId, stored, ty, publicKey⟩
        | none => s.sessions := by
  have h := congrArg Roster.sessions (s.roster_handshakeSuccess sha256 hfull)
  cases hstored : s.admitted sha256 publicKey address <;> rw [hstored] at h <;> exact h

/-- **Only a successful handshake adds a session**, below the limit and when `session_open`
admits it. -/
theorem roster_handleSessionEvent (e : SessionEvent) :
    s.roster.Closes (s.handleSessionEvent sha256 e).roster ∨
    ∃ publicKey address ty listenAddress stored,
      e = .handshakeSuccess publicKey address ty listenAddress ∧ s.full e = false ∧
      s.admitted sha256 publicKey address = some stored ∧
      (s.handleSessionEvent sha256 e).roster
        = s.roster.insert ⟨s.nextId, stored, ty, publicKey⟩ := by
  cases e with
  | sessionClose id => exact .inl (closes_sessionClose s id _)
  | handshakeSuccess publicKey address ty listenAddress =>
    cases hfull : s.full (.handshakeSuccess publicKey address ty listenAddress) with
    | true =>
      refine .inl (.of_eq (Eq.trans ?_ (roster_counted s ty)))
      exact congrArg roster (if_pos hfull)
    | false =>
      have h := s.roster_handshakeSuccess sha256 hfull
      cases hstored : s.admitted sha256 publicKey address with
      | none => exact .inl (.of_eq (by rw [h, hstored]))
      | some stored =>
        exact .inr ⟨publicKey, address, ty, listenAddress, stored, rfl, rfl, hstored, by
          rw [h, hstored]⟩
  | handshakeError ty error address =>
    cases ty with
    | inbound => exact .inl .refl
    | outbound => exact .inl (.of_eq (roster_send _ rfl))
  | protocolSelectError id protoName => exact .inl (.of_eq (roster_reportSession ..))
  | protocolError id protoId error => exact .inl (.of_eq (roster_send _ rfl))
  | dialError address error => exact .inl (.of_eq (roster_send _ rfl))
  | listenError address error =>
    left
    simp only [handleSessionEvent]
    have hsend : (s.send (.error (.listenError address (.transportError error)))).roster
        = s.roster := roster_send s rfl
    split
    · rw [roster_send _ rfl]
      exact .of_eq hsend
    · exact .of_eq hsend
  | sessionTimeout id => exact .inl (.of_eq (roster_reportSession ..))
  | muxerError id error => exact .inl (.of_eq (roster_reportSession ..))
  | listenStart listenAddress =>
    have hsend : (s.send (.event (.listenStarted listenAddress))).roster = s.roster :=
      roster_send s rfl
    exact .inl (.of_eq ((roster_tryUpdateListens _).trans hsend))
  | protocolHandleError protoId session =>
    have hsend : (s.send (.error (.protocolHandleError protoId session))).roster = s.roster :=
      roster_send s rfl
    exact .inl (.of_eq ((roster_handleShutdown _).trans hsend))
  | changeState id => exact .inl (.of_eq (roster_reportSession ..))

/-- **What a step does to the roster**: sessions are closed, or one is opened for a successful
handshake, in a running service below its limit, and when `session_open` admits it. -/
theorem step_roster (input : Input) :
    s.roster.Closes (s.step sha256 input).roster ∨
    ∃ publicKey address ty listenAddress stored,
      input = .event (.handshakeSuccess publicKey address ty listenAddress) ∧
      s.shutdown = false ∧
      s.full (.handshakeSuccess publicKey address ty listenAddress) = false ∧
      s.admitted sha256 publicKey address = some stored ∧
      (s.step sha256 input).roster = s.roster.insert ⟨s.nextId, stored, ty, publicKey⟩ := by
  cases input with
  | handleEnded handle => exact .inl .refl
  | task t =>
    left
    simp only [step]
    split
    · exact .refl
    · rw [roster_head]
      exact closes_handleServiceTask s t
  | event e =>
    simp only [step]
    split
    case isTrue => exact .inl .refl
    case isFalse hrun =>
      rw [roster_head]
      rcases s.roster_handleSessionEvent sha256 e with hold |
        ⟨publicKey, address, ty, listenAddress, stored, rfl, hfull, hstored, hroster⟩
      · exact .inl hold
      · exact .inr ⟨publicKey, address, ty, listenAddress, stored, rfl, by simpa using hrun, hfull,
          hstored, hroster⟩

/-- A step adds a session only for a successful handshake, in a running service below
its limit, and when `session_open` admits it. -/
theorem step_sessions (input : Input) :
    NoNewSession s (s.step sha256 input) ∨
    ∃ publicKey address ty listenAddress stored,
      input = .event (.handshakeSuccess publicKey address ty listenAddress) ∧
      s.shutdown = false ∧
      s.full (.handshakeSuccess publicKey address ty listenAddress) = false ∧
      s.admitted sha256 publicKey address = some stored ∧
      (s.step sha256 input).sessions
        = s.sessions.insert s.nextId ⟨s.nextId, stored, ty, publicKey⟩ := by
  rcases s.step_roster sha256 input with hold |
    ⟨publicKey, address, ty, listenAddress, stored, hinput, hrun, hfull, hstored, hroster⟩
  · exact .inl (.of_closes hold)
  · exact .inr ⟨publicKey, address, ty, listenAddress, stored, hinput, hrun, hfull, hstored,
      congrArg Roster.sessions hroster⟩

/-- A service starts with nothing on its roster. -/
theorem roster_start (protocolConfigs : List ProtocolMeta) (multiTransport : MultiTransport)
    (maxConnectionNumber : ℕ) (forever : Bool) (preparations : List Preparation) :
    ((new protocolConfigs multiTransport maxConnectionNumber forever).start preparations).roster
      = .empty := by
  have h : ∀ s : InnerService, (preparations.foldl prepare s).roster = s.roster := by
    induction preparations with
    | nil => exact fun _ => rfl
    | cons p ps ih =>
      intro s
      rw [List.foldl_cons, ih]
      cases p with
      | listen address => exact roster_send s rfl
      | dial address target => rfl
  exact (roster_head _).trans (h _)

theorem sessions_start (protocolConfigs : List ProtocolMeta) (multiTransport : MultiTransport)
    (maxConnectionNumber : ℕ) (forever : Bool) (preparations : List Preparation) :
    ((new protocolConfigs multiTransport maxConnectionNumber forever).start preparations).sessions
      = ∅ := congrArg Roster.sessions (roster_start ..)

end InnerService
end Tentacle
end CkbP2P
