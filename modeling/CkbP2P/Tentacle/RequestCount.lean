import CkbP2P.Tentacle.Requests

/-!
# The count of outstanding requests

A service that is not to run forever counts the requests that have no result yet, and ends
when there are none, no listeners and no sessions.  A listener that could not start has to be
counted off, and a listener that ran and has failed has not; the service tells the two apart
by whether the address is among those it listens on.
-/

namespace CkbP2P
namespace Tentacle

open Lib

/-! ### The books -/

namespace Books

/-- Unless the service shuts down, it counts `n` requests, has never counted below zero, and
listens on the addresses `running`. -/
def Counts (n : ℕ) (running : List Multiaddr) (b : Books) : Prop :=
  b.state = .preShutdown ∨
    b.state = .running n ∧ b.underflow = false ∧ ∀ address ∈ running, address ∈ b.listens

instance (n : ℕ) (running : List Multiaddr) (b : Books) : Decidable (b.Counts n running) :=
  inferInstanceAs (Decidable (_ ∨ _ ∧ _ ∧ ∀ _ ∈ running, _))

variable {n : ℕ} {running : List Multiaddr} {b : Books}

theorem counts_close : b.close.Counts n running := .inl rfl

theorem Counts.increase (h : b.Counts n running) (hn : n + 1 < 2 ^ 64) :
    b.increase.Counts (n + 1) running := by
  rcases h with h | ⟨hstate, hunderflow, hlistens⟩
  · refine .inl ?_
    rw [Books.increase, h]
    rfl
  · refine .inr ⟨?_, hunderflow, hlistens⟩
    rw [Books.increase, hstate]
    exact congrArg State.running (if_neg (by omega))

/-- A result is counted off when one is outstanding. -/
theorem Counts.decrease (h : b.Counts (n + 1) running) : b.decrease.Counts n running := by
  rcases h with h | ⟨hstate, hunderflow, hlistens⟩
  · refine .inl ?_
    rw [Books.decrease, h]
    rfl
  · refine .inr ⟨?_, ?_, hlistens⟩
    · rw [Books.decrease, hstate]
      rfl
    · rw [Books.decrease, hstate, hunderflow]
      rfl

/-- A listener starts. -/
theorem Counts.listen (h : b.Counts n running) (address : Multiaddr) :
    Counts n (running ++ [address]) { b with listens := b.listens.insert address } := by
  rcases h with h | ⟨hstate, hunderflow, hlistens⟩
  · exact .inl h
  · refine .inr ⟨hstate, hunderflow, fun address' hmem => ?_⟩
    rw [List.mem_append, List.mem_singleton] at hmem
    rcases hmem with hmem | rfl
    · exact List.mem_insert_of_mem (hlistens address' hmem)
    · exact List.mem_insert_self

/-- A listener that runs fails. -/
theorem Counts.sublist {running' : List Multiaddr} (h : b.Counts n running)
    (hsub : running' ⊆ running) : b.Counts n running' := by
  rcases h with h | ⟨hstate, hunderflow, hlistens⟩
  · exact .inl h
  · exact .inr ⟨hstate, hunderflow, fun address hmem => hlistens address (hsub hmem)⟩

/-- An address on which no listener runs is given up. -/
theorem Counts.unlisten (h : b.Counts n running) {address : Multiaddr}
    (ha : address ∉ running) :
    Counts n running { b with listens := b.listens.erase address } := by
  rcases h with h | ⟨hstate, hunderflow, hlistens⟩
  · exact .inl h
  · refine .inr ⟨hstate, hunderflow, fun address' hmem => ?_⟩
    have hne : address' ≠ address := by
      rintro rfl
      exact ha hmem
    exact (List.mem_erase_of_ne hne).mpr (hlistens address' hmem)

/-- An event that is no result is not counted. -/
theorem Counts.event (h : b.Counts n running) {e : SessionEvent} (he : isResult e = false)
    (full : Bool) : (b.event full e).Counts n running := by
  cases e with
  | handshakeSuccess publicKey address ty listenAddress =>
    cases ty with
    | outbound => cases he
    | inbound => cases full <;> exact h
  | handshakeError ty error address =>
    cases ty with
    | outbound => cases he
    | inbound => exact h
  | dialError address error => cases he
  | listenError address error => cases he
  | listenStart listenAddress => cases he
  | protocolHandleError protoId session => exact counts_close
  | _ => exact h

/-- The result of a dial is counted off. -/
theorem Counts.dialResult (h : b.Counts (n + 1) running) (address : Multiaddr)
    (outcome : DialOutcome) (full : Bool) :
    (b.event full (outcome.event address)).Counts n running := by
  cases outcome with
  | dialError error => exact h.decrease
  | handshakeError error => exact h.decrease
  | handshakeSuccess publicKey => cases full <;> exact h.decrease

end Books

/-! ### Steps -/

namespace Requests

/-- Unless the service shuts down, its counter is the number of requests without a result, has
never gone below zero, and no listener that runs has lost its address. -/
def Counted (r : Requests) : Prop :=
  r.service.books.Counts (r.dials.length + r.listening.length) r.running

instance (r : Requests) : Decidable r.Counted :=
  inferInstanceAs (Decidable (Books.Counts _ _ _))

/-- The counter has room; a listener that cannot start was not to listen on an address that is
listened on already; and a listener that has failed was the one that listened on its
address. -/
def Attributable (r : Requests) : Label → Prop
  | .task _ => r.dials.length + r.listening.length + 1 < 2 ^ 64
  | .listenFailed requested _ => requested ∈ r.listening → requested ∉ r.service.listens
  | .listenerError address _ =>
    address ∈ r.died → address ∈ r.service.listens ∧ address ∉ r.running
  | _ => True

instance (r : Requests) : ∀ l, Decidable (r.Attributable l)
  | .task _ => inferInstanceAs (Decidable (_ < _))
  | .listenFailed _ _ | .listenerError _ _ => inferInstanceAs (Decidable (_ → _))
  | .event _ | .dialResult _ _ | .listenStarted _ _ | .listenerDied _ | .handleEnded _ =>
    inferInstanceAs (Decidable True)

variable (sha256 : Sha256) {r : Requests} {n : ℕ} {running : List Multiaddr}

/-- The head of the loop may shut down, after which nothing is counted. -/
theorem counts_step_event (hs : r.service.shutdown = false) {e : SessionEvent}
    (h : ∀ full, (r.service.books.event full e).Counts n running) :
    (r.service.step sha256 (.event e)).books.Counts n running := by
  rcases InnerService.books_step_event sha256 hs e with heq | heq <;> rw [heq]
  · exact h _
  · exact Books.counts_close

theorem counts_step_task (hs : r.service.shutdown = false) {t : ServiceTask}
    (h : (r.service.books.task r.service.multiTransport.accepts t).Counts n running) :
    (r.service.step sha256 (.task t)).books.Counts n running := by
  rcases InnerService.books_step_task sha256 hs t with heq | heq <;> rw [heq]
  · exact h
  · exact Books.counts_close

/-- A request that is accepted is counted. -/
theorem counts_task (h : r.Counted) (hroom : r.dials.length + r.listening.length + 1 < 2 ^ 64)
    (t : ServiceTask) :
    (r.service.books.task r.service.multiTransport.accepts t).Counts
      ((r.dials ++ newDial r.service t).length + (r.listening ++ newListener r.service t).length)
      r.running := by
  unfold Counted at h
  cases t with
  | dial address target =>
    rw [show newListener r.service (.dial address target) = [] from rfl, List.append_nil,
      Books.task, newDial]
    by_cases hmem : address ∈ r.service.dialProtocols
    · have hbooks : address ∈ r.service.books.dialProtocols := hmem
      rw [if_pos hbooks, if_neg (fun hnot => hnot.1 hmem), List.append_nil]
      exact h
    · have hbooks : address ∉ r.service.books.dialProtocols := hmem
      rw [if_neg hbooks]
      cases r.service.multiTransport.accepts address with
      | true =>
        rw [if_pos rfl, if_pos ⟨hmem, rfl⟩, List.length_append, List.length_singleton,
          Nat.add_right_comm]
        exact Books.Counts.increase h hroom
      | false =>
        rw [if_neg Bool.false_ne_true, if_neg (fun hnot => Bool.false_ne_true hnot.2),
          List.append_nil]
        exact h
  | listen address =>
    rw [show newDial r.service (.listen address) = [] from rfl, List.append_nil, Books.task,
      newListener]
    by_cases hmem : address ∈ r.service.listens
    · have hbooks : address ∈ r.service.books.listens := hmem
      rw [if_pos hbooks, if_neg (fun hnot => hnot.1 hmem), List.append_nil]
      exact h
    · have hbooks : address ∉ r.service.books.listens := hmem
      rw [if_neg hbooks]
      cases r.service.multiTransport.accepts address with
      | true =>
        rw [if_pos rfl, if_pos ⟨hmem, rfl⟩, List.length_append, List.length_singleton,
          ← Nat.add_assoc]
        exact h.increase hroom
      | false =>
        rw [if_neg Bool.false_ne_true, if_neg (fun hnot => Bool.false_ne_true hnot.2),
          List.append_nil]
        exact h
  | shutdown quick => exact Books.counts_close
  | _ =>
    change Books.Counts ((r.dials ++ []).length + (r.listening ++ []).length) _ _
    rw [List.append_nil, List.append_nil]
    exact h

theorem counted_step (h : r.Counted) (l : Label) (hok : r.Attributable l) :
    (r.step sha256 l).Counted := by
  cases hs : r.service.shutdown with
  | true =>
    unfold step
    rwa [if_pos hs]
  | false =>
    unfold step
    rw [hs, if_neg Bool.false_ne_true]
    cases l with
    | task t => exact counts_step_task sha256 hs (counts_task h hok t)
    | event e =>
      dsimp only
      split
      · exact h
      case isFalse he =>
        exact counts_step_event sha256 hs (h.event (Bool.eq_false_iff.mpr he))
    | dialResult address outcome =>
      dsimp only
      split
      case isFalse => exact h
      case isTrue hmem =>
        -- The dial with the address is one of those counted.
        obtain ⟨d, hd, hda⟩ := List.mem_map.mp hmem
        have hlength : (r.dials.eraseP fun d => d.1 = address).length + 1 = r.dials.length := by
          have hpos := List.length_pos_of_mem hd
          rw [List.length_eraseP_of_mem hd (by simpa using hda)]
          omega
        have hcounts := h
        rw [Counted, ← hlength, Nat.add_right_comm] at hcounts
        exact counts_step_event sha256 hs (hcounts.dialResult address outcome)
    | listenStarted requested bound =>
      dsimp only
      split
      case isFalse => exact h
      case isTrue hmem =>
        have hcounts := h
        rw [Counted, ← List.length_erase_add_one hmem, ← Nat.add_assoc] at hcounts
        exact counts_step_event sha256 hs fun _ => (hcounts.listen bound).decrease
    | listenFailed requested error =>
      dsimp only
      split
      case isFalse => exact h
      case isTrue hmem =>
        -- the address is not listened on, so that the error is taken for a failed start
        have hcounts := h
        rw [Counted, ← List.length_erase_add_one hmem, ← Nat.add_assoc] at hcounts
        refine counts_step_event sha256 hs fun _ => ?_
        have hnot : requested ∉ r.service.books.listens := hok hmem
        rw [Books.event, if_neg hnot]
        exact hcounts.decrease
    | listenerDied address =>
      dsimp only
      split
      case isFalse => exact h
      case isTrue => exact Books.Counts.sublist h List.erase_subset
    | listenerError address error =>
      dsimp only
      split
      case isFalse => exact h
      case isTrue hmem =>
        -- the address is listened on, so that the error is taken for the end of the listener
        obtain ⟨hlistens, hrunning⟩ := hok hmem
        refine counts_step_event sha256 hs fun _ => ?_
        have hbooks : address ∈ r.service.books.listens := hlistens
        rw [Books.event, if_pos hbooks]
        exact Books.Counts.unlisten h hrunning
    | handleEnded handle => exact h

/-! ### Runs -/

/-- What was asked for before the main loop is counted. -/
theorem counts_prepare (preparations : List InnerService.Preparation) {s : InnerService} {n : ℕ}
    {running : List Multiaddr} (h : s.books.Counts n running)
    (hroom : n + (preparedDials preparations).length < 2 ^ 64) :
    (preparations.foldl InnerService.prepare s).books.Counts
      (n + (preparedDials preparations).length) (running ++ preparedListeners preparations) := by
  induction preparations generalizing s n running with
  | nil => rwa [preparedListeners, List.append_nil]
  | cons preparation preparations ih =>
    cases preparation with
    | dial address target =>
      rw [preparedDials, List.length_cons] at hroom ⊢
      have hnext : (s.serviceDial address target).books.Counts (n + 1) running :=
        Books.Counts.increase (b := s.books.dialed address target) h (by omega)
      have hsum : n + ((preparedDials preparations).length + 1)
          = n + 1 + (preparedDials preparations).length := by omega
      rw [hsum] at hroom ⊢
      exact ih hnext hroom
    | listen address =>
      have hnext : (s.serviceListen address).books.Counts n (running ++ [address]) :=
        h.listen address
      have hrest := ih hnext hroom
      rwa [List.append_assoc] at hrest

theorem counted_start (protocolConfigs : List ProtocolMeta) (multiTransport : MultiTransport)
    (maxConnectionNumber : ℕ) (preparations : List InnerService.Preparation)
    (hroom : (preparedDials preparations).length < 2 ^ 64) :
    (start (.new protocolConfigs multiTransport maxConnectionNumber false)
    preparations).Counted := by
  let s := InnerService.new protocolConfigs multiTransport maxConnectionNumber false
  have hnew : s.books.Counts 0 [] := .inr ⟨rfl, rfl, fun _ hmem => absurd hmem List.not_mem_nil⟩
  have hprepared := counts_prepare preparations hnew (by rwa [Nat.zero_add])
  rw [Nat.zero_add, List.nil_append] at hprepared
  let t := (preparations.foldl InnerService.prepare s).initProtoHandles
  change t.head.books.Counts ((preparedDials preparations).length + 0)
    (preparedListeners preparations)
  rcases t.books_head with heq | heq <;> rw [heq]
  · exact hprepared
  · exact Books.counts_close

/-- **When the errors of listeners are told apart rightly, a service that is not to run forever
counts its requests**: until it shuts down, its counter is the number of requests without a
result, has never gone below zero, and no listener that runs has lost its address. -/
theorem counted_run (sha256 : Sha256) (protocolConfigs : List ProtocolMeta)
    (multiTransport : MultiTransport) (maxConnectionNumber : ℕ)
    (preparations : List InnerService.Preparation) (labels : List Label)
    (hroom : (preparedDials preparations).length < 2 ^ 64)
    (hok : Guarded (step sha256) Attributable
      (start (.new protocolConfigs multiTransport maxConnectionNumber false) preparations) labels) :
    Throughout (step sha256) Counted
      (start (.new protocolConfigs multiTransport maxConnectionNumber false) preparations)
      labels := by
  have hstart := counted_start protocolConfigs multiTransport maxConnectionNumber preparations hroom
  exact throughout_of_guarded (P := Counted) (fun _ l h => counted_step sha256 h l) hstart hok

/-- A service with one dial that has no result. -/
def dialing : Requests := start (.new [] ⟨false, false, false⟩ 65535 false) [.dial loopback .all]

/-- The error of a listener. -/
def inUse : TransportErrorKind := .io ⟨.other 0⟩

/-- A listener starts, and fails later. -/
theorem counted_run_listener :
    Throughout (step generatorSha256) Counted dialing
      [.task (.listen loopback), .listenStarted loopback loopback, .listenerDied loopback,
        .listenerError loopback inUse] :=
  counted_run _ _ _ _ _ _ (by decide) (by decide +kernel)

/-- Two requests to listen on one address, of which the first is met and the second is not. -/
def listenTwice : Requests :=
  runFrom (step generatorSha256) dialing
    [.task (.listen loopback), .task (.listen loopback), .listenStarted loopback loopback,
      .listenFailed loopback inUse]

/-- Two listeners on one address fail. -/
def failTwice : Requests :=
  runFrom (step generatorSha256) dialing
    [.task (.listen loopback), .task (.listen loopback), .listenStarted loopback loopback,
      .listenStarted loopback loopback, .dialResult loopback (.handshakeSuccess none),
      .listenerDied loopback, .listenerError loopback inUse, .listenerDied loopback,
      .listenerError loopback inUse]

/-- **A request that fails after another for the same address was met is not counted off**, and
takes the address of the listener that runs; and when two listeners on one address fail, the
counter goes below zero. -/
theorem counted_twice :
    (¬ listenTwice.Counted ∧ listenTwice.service.state = .running 2 ∧ listenTwice.dials.length = 1 ∧
      listenTwice.listening = [] ∧ listenTwice.running = [loopback] ∧
      listenTwice.service.listens = []) ∧
    ¬ failTwice.Counted ∧ failTwice.service.underflow = true ∧
      failTwice.service.state = .running (2 ^ 64 - 1) ∧
      failTwice.dials.length + failTwice.listening.length = 0 := by
  decide +kernel

end Requests

end Tentacle
end CkbP2P
