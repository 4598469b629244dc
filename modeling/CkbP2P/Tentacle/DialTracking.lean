import CkbP2P.Lib.Entries
import CkbP2P.Tentacle.Requests

/-!
# The dials the service keeps

The service keeps the dials without a result in `dialProtocols`, and ignores a request to
dial an address that is there.  An entry is made before the transports are asked, so one
stays behind when they refuse; one stays behind when the connection is made above the limit;
and an entry goes with any connection that comes from the same address.
-/

namespace CkbP2P
namespace Tentacle

open Lib

namespace Requests

/-- The entries are the dials without a result, and a request to dial an address without one
is not ignored. -/
structure Tracked (r : Requests) : Prop where
  lists : Lists r.service.dialProtocols r.dials
  answered : ∀ address target, address ∉ r.dials.map Prod.fst →
    r.service.handleServiceTask (.dial address target) ≠ r.service

/-- A dial is accepted; a dial that succeeds is handled below the limit; and a connection from
the other side that is handled below the limit does not come from an address that is being
dialed. -/
def Settles (r : Requests) (l : Label) : Prop :=
  r.service.shutdown = true ∨ match l with
    | .task (.dial address _) =>
      address ∈ r.service.dialProtocols ∨ r.service.multiTransport.accepts address = true
    | .dialResult address (.handshakeSuccess publicKey) =>
      address ∈ r.dials.map Prod.fst →
        r.service.full (.handshakeSuccess publicKey address .outbound none) = false
    | .event (.handshakeSuccess publicKey address .inbound listenAddress) =>
      r.service.full (.handshakeSuccess publicKey address .inbound listenAddress) = true ∨
        address ∉ r.service.dialProtocols
    | _ => True

variable (sha256 : Sha256) {r : Requests}

/-! ### The entries after a round -/

theorem dialProtocols_step_event (hs : r.service.shutdown = false) (e : SessionEvent) :
    (r.service.step sha256 (.event e)).dialProtocols
      = (r.service.books.event (r.service.full e) e).dialProtocols := by
  rcases InnerService.books_step_event sha256 hs e with h | h <;>
    exact congrArg Books.dialProtocols h

theorem dialProtocols_step_task (hs : r.service.shutdown = false) (t : ServiceTask) :
    (r.service.step sha256 (.task t)).dialProtocols
      = (r.service.books.task r.service.multiTransport.accepts t).dialProtocols := by
  rcases InnerService.books_step_task sha256 hs t with h | h <;>
    exact congrArg Books.dialProtocols h

/-- The events that are not about dials leave them alone. -/
theorem dialProtocols_event {b : Books} {full : Bool} {e : SessionEvent} (he : isResult e = false) :
    (b.event full e).dialProtocols = match e with
      | .handshakeSuccess _ address _ _ =>
        if full then b.dialProtocols else b.dialProtocols.erase address
      | _ => b.dialProtocols := by
  cases e with
  | handshakeSuccess publicKey address ty listenAddress =>
    cases ty with
    | outbound => cases he
    | inbound => cases full <;> rfl
  | handshakeError ty error address =>
    cases ty with
    | outbound => cases he
    | inbound => rfl
  | dialError address error => cases he
  | listenError address error => cases he
  | listenStart listenAddress => cases he
  | _ => rfl

/-- When the entries are the dials, a request for another address changes them. -/
theorem answered_of_lists (h : Lists r.service.dialProtocols r.dials) (address : Multiaddr)
    (target : TargetProtocol) (ha : address ∉ r.dials.map Prod.fst) :
    r.service.handleServiceTask (.dial address target) ≠ r.service := by
  intro heq
  have hnot : address ∉ r.service.books.dialProtocols := fun hmem =>
      ha ((h.mem_iff address).mp hmem)
  have hbooks := r.service.books_handleServiceTask (.dial address target)
  rw [heq] at hbooks
  have hdials := congrArg Books.dialProtocols hbooks
  apply hnot
  rw [hdials, Books.task, if_neg hnot]
  split <;> exact (AList.mem_insert _).mpr (.inl rfl)

theorem tracked_iff_lists : r.Tracked ↔ Lists r.service.dialProtocols r.dials :=
  ⟨Tracked.lists, fun h => ⟨h, answered_of_lists h⟩⟩

/-! ### Steps -/

variable (h : Lists r.service.dialProtocols r.dials) (hs : r.service.shutdown = false)
include h hs

theorem lists_dial_iff (address : Multiaddr) (target : TargetProtocol) :
    Lists (r.service.step sha256 (.task (.dial address target))).dialProtocols
        (r.dials ++ newDial r.service (.dial address target)) ↔
      address ∈ r.service.dialProtocols ∨ r.service.multiTransport.accepts address = true := by
  rw [dialProtocols_step_task sha256 hs, Books.task, newDial]
  by_cases hmem : address ∈ r.service.dialProtocols
  · have hbooks : address ∈ r.service.books.dialProtocols := hmem
    rw [if_pos hbooks, if_neg (fun h => h.1 hmem), List.append_nil]
    exact ⟨fun _ => .inl hmem, fun _ => h⟩
  · have hbooks : address ∉ r.service.books.dialProtocols := hmem
    rw [if_neg hbooks]
    cases haccepts : r.service.multiTransport.accepts address with
    | true =>
      rw [if_pos rfl, if_pos ⟨hmem, rfl⟩]
      exact ⟨fun _ => .inr rfl, fun _ => h.insert hmem⟩
    | false =>
      -- The entry is there and the dial is not.
      rw [if_neg (by decide), if_neg (by simp), List.append_nil]
      refine ⟨fun h' => absurd h' (h.not_insert hmem), ?_⟩
      rintro (hmem' | hfalse)
      · exact absurd hmem' hmem
      · cases hfalse

/-- An event that is no result takes the entry of its address, if it is a connection below
the limit. -/
theorem lists_event_iff {e : SessionEvent} (he : isResult e = false) :
    Lists (r.service.step sha256 (.event e)).dialProtocols r.dials ↔ r.Settles (.event e) := by
  rw [dialProtocols_step_event sha256 hs, dialProtocols_event he]
  cases e with
  | handshakeSuccess publicKey address ty listenAddress =>
    cases ty with
    | outbound => cases he
    | inbound =>
      simp only [Settles, hs, Bool.false_eq_true, false_or]
      cases hfull : r.service.full (.handshakeSuccess publicKey address .inbound listenAddress) with
      | true => exact ⟨fun _ => .inl rfl, fun _ => h⟩
      | false =>
        by_cases hmem : address ∈ r.service.dialProtocols
        · refine ⟨fun h' => absurd h' (h.not_erase hmem), ?_⟩
          rintro (hfalse | hnot)
          · cases hfalse
          · exact absurd hmem hnot
        · exact ⟨fun _ => .inr hmem, fun _ => h.erase_of_notMem hmem⟩
  | _ => exact ⟨fun _ => .inr trivial, fun _ => h⟩

/-- A result takes the entry of its dial, unless the connection is above the limit. -/
theorem lists_dialResult_iff {address : Multiaddr} (outcome : DialOutcome)
    (ha : address ∈ r.dials.map Prod.fst) :
    Lists (r.service.step sha256 (.event (outcome.event address))).dialProtocols
        (r.dials.eraseP fun d => d.1 = address) ↔ r.Settles (.dialResult address outcome) := by
  rw [dialProtocols_step_event sha256 hs]
  cases outcome with
  | dialError error => exact ⟨fun _ => .inr trivial, fun _ => h.erase address⟩
  | handshakeError error => exact ⟨fun _ => .inr trivial, fun _ => h.erase address⟩
  | handshakeSuccess publicKey =>
    have hevent : ∀ full, (r.service.books.event full
        (.handshakeSuccess publicKey address .outbound none)).dialProtocols = if full then
        r.service.dialProtocols else r.service.dialProtocols.erase address := by
      intro full
      cases full <;> rfl
    rw [DialOutcome.event, hevent]
    simp only [Settles, hs, Bool.false_eq_true, false_or]
    cases hfull : r.service.full (.handshakeSuccess publicKey address .outbound none) with
    | true =>
      have hmem := (h.mem_iff address).mpr ha
      refine ⟨fun h' => absurd h' (h.not_eraseP hmem), fun hfalse => ?_⟩
      cases hfalse ha
    | false => exact ⟨fun _ _ => rfl, fun _ => h.erase address⟩

/-- A listener that fails or starts does not touch the dials. -/
theorem lists_listener {e : SessionEvent}
    (he : (∃ address error, e = .listenError address error) ∨ ∃ address, e = .listenStart address) :
    Lists (r.service.step sha256 (.event e)).dialProtocols r.dials := by
  rw [dialProtocols_step_event sha256 hs]
  rcases he with ⟨address, error, rfl⟩ | ⟨address, rfl⟩
  · rw [Books.event]
    split <;> exact h
  · exact h

/-- The other tasks do not touch the dials. -/
theorem lists_task {t : ServiceTask} (ht : ∀ address target, t ≠ .dial address target) :
    Lists (r.service.step sha256 (.task t)).dialProtocols (r.dials ++ newDial r.service t) := by
  rw [dialProtocols_step_task sha256 hs]
  cases t with
  | dial address target => exact absurd rfl (ht address target)
  | listen address =>
    rw [show newDial r.service (.listen address) = [] from rfl, List.append_nil, Books.task]
    split
    · exact h
    · split <;> exact h
  | _ =>
    change Lists _ (r.dials ++ [])
    rw [List.append_nil]
    exact h

omit h hs

theorem tracked_step_iff (ht : r.Tracked) (l : Label) :
    (r.step sha256 l).Tracked ↔ r.Settles l := by
  have h := ht.lists
  cases hs : r.service.shutdown with
  | true =>
    unfold step
    rw [if_pos hs]
    exact ⟨fun _ => .inl hs, fun _ => ht⟩
  | false =>
    rw [tracked_iff_lists]
    unfold step
    rw [hs, if_neg (by decide)]
    cases l with
    | task t =>
      cases t with
      | dial address target =>
        refine (lists_dial_iff sha256 h hs address target).trans ?_
        simp [Settles, hs]
      | _ => exact ⟨fun _ => .inr trivial, fun _ => lists_task sha256 h hs (by simp)⟩
    | event e =>
      dsimp only
      cases he : isResult e with
      | false => exact lists_event_iff sha256 h hs he
      | true =>
        -- results reach the service with the label of their request only
        refine ⟨fun _ => .inr ?_, fun _ => h⟩
        cases e with
        | handshakeSuccess publicKey address ty listenAddress =>
          cases ty with
          | outbound => trivial
          | inbound => cases he
        | _ => trivial
    | dialResult address outcome =>
      dsimp only
      by_cases ha : address ∈ r.dials.map Prod.fst
      · rw [if_pos ha]
        exact lists_dialResult_iff sha256 h hs outcome ha
      · -- nobody has dialed the address
        rw [if_neg ha]
        refine ⟨fun _ => .inr ?_, fun _ => h⟩
        cases outcome with
        | handshakeSuccess publicKey => exact fun hmem => absurd hmem ha
        | _ => trivial
    | listenStarted requested bound =>
      refine ⟨fun _ => .inr trivial, fun _ => ?_⟩
      dsimp only
      split
      · exact lists_listener sha256 h hs (.inr ⟨bound, rfl⟩)
      · exact h
    | listenFailed requested error =>
      refine ⟨fun _ => .inr trivial, fun _ => ?_⟩
      dsimp only
      split
      · exact lists_listener sha256 h hs (.inl ⟨requested, error, rfl⟩)
      · exact h
    | listenerDied address =>
      refine ⟨fun _ => .inr trivial, fun _ => ?_⟩
      dsimp only
      split <;> exact h
    | listenerError address error =>
      refine ⟨fun _ => .inr trivial, fun _ => ?_⟩
      dsimp only
      split
      · exact lists_listener sha256 h hs (.inl ⟨address, error, rfl⟩)
      · exact h
    | handleEnded handle => exact ⟨fun _ => .inr trivial, fun _ => h⟩

/-! ### Runs -/

/-- A service that was told to listen before its main loop. -/
theorem tracked_start (protocolConfigs : List ProtocolMeta) (multiTransport : MultiTransport)
    (maxConnectionNumber : ℕ) (forever : Bool) (addresses : List Multiaddr) :
    (start (.new protocolConfigs multiTransport maxConnectionNumber forever)
      (addresses.map .listen)).Tracked := by
  rw [tracked_iff_lists]
  have hdials : preparedDials (addresses.map .listen) = [] := by
    induction addresses with
    | nil => rfl
    | cons address addresses ih => exact ih
  have hbooks : ∀ s : InnerService, s.dialProtocols = ∅ →
      ((addresses.map .listen).foldl InnerService.prepare s).dialProtocols = ∅ := by
    induction addresses with
    | nil => exact fun _ h => h
    | cons address addresses ih =>
      intro s h
      exact ih (by simpa [preparedDials] using hdials) _ h
  have hhead : ∀ s : InnerService, s.head.dialProtocols = s.dialProtocols := by
    intro s
    rcases s.books_head with h | h <;> exact congrArg Books.dialProtocols h
  change Lists (InnerService.head _).dialProtocols (preparedDials _)
  rw [hhead, hdials]
  change Lists ((addresses.map .listen).foldl InnerService.prepare _).dialProtocols []
  rw [hbooks _ rfl]
  exact lists_empty

/-- **The entries are the dials without a result throughout a run if and only if every dial
is accepted, every dial that succeeds is handled below the limit, and no connection that is
handled below the limit comes from an address that is being dialed.** -/
theorem tracked_iff_settles (sha256 : Sha256) (protocolConfigs : List ProtocolMeta)
    (multiTransport : MultiTransport) (maxConnectionNumber : ℕ) (forever : Bool)
    (addresses : List Multiaddr) (labels : List Label) :
    Throughout (step sha256) Tracked
        (start (.new protocolConfigs multiTransport maxConnectionNumber forever)
          (addresses.map .listen)) labels ↔
      Guarded (step sha256) Settles
        (start (.new protocolConfigs multiTransport maxConnectionNumber forever)
          (addresses.map .listen)) labels := by
  have hstart := tracked_start protocolConfigs multiTransport maxConnectionNumber forever addresses
  exact throughout_iff_guarded (I := fun _ => True) (P := Tracked) (fun _ _ _ => trivial)
    (fun _ l _ ht => tracked_step_iff sha256 ht l) trivial hstart labels

/-- A request to dial an address that has an entry does nothing. -/
theorem dial_ignored {s : InnerService} {address : Multiaddr} {target : TargetProtocol}
    (h : address ∈ s.dialProtocols) : s.handleServiceTask (.dial address target) = s := by
  rw [InnerService.handleServiceTask, if_pos h]

/-- A service without features that runs until it is told to stop. -/
def plain : Requests := start (.new [] ⟨false, false, false⟩ 65535 true) []

/-- **A dial that is refused leaves its entry**, and the next request to dial the address is
ignored. -/
theorem tracked_refused :
    let refused := runFrom (step generatorSha256) plain [.task (.dial loopbackWss .all)]
    ¬ refused.Tracked ∧ refused.dials.map Prod.fst = [] ∧
      refused.service.dialProtocols.keys = [loopbackWss] ∧
      refused.service.handleServiceTask (.dial loopbackWss .all) = refused.service := by
  intro refused
  have hdials : refused.dials.map Prod.fst = [] := by decide +kernel
  have hkeys : refused.service.dialProtocols.keys = [loopbackWss] := by decide +kernel
  have hmem : loopbackWss ∈ refused.service.dialProtocols := by
    rw [AList.mem_keys, hkeys]
    exact List.mem_singleton_self _
  refine ⟨fun h => ?_, hdials, hkeys, dial_ignored hmem⟩
  have hlisted := (h.lists.mem_iff loopbackWss).mp hmem
  rw [hdials] at hlisted
  cases hlisted

end Requests

end Tentacle
end CkbP2P
